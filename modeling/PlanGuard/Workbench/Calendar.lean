import PlanGuard.Time

/-!
# Moments in words

The ways in which `touch` can be told a moment: as digits of a calendar date,
as a date with dashes, as seconds since 1970, or as a distance from now.  All
are read in UTC and give nanoseconds since 1970.
-/

namespace PlanGuard.Workbench.Calendar

def billion : Int := 1000000000

def days (year month day : Nat) : Int :=
  let year : Int := if month ≤ 2 then year - 1 else year
  let era := year.fdiv 400
  let yearOfEra := year - era * 400
  let shifted : Int := if month ≤ 2 then month + 9 else month - 3
  let dayOfYear := (153 * shifted + 2) / 5 + day - 1
  let dayOfEra := yearOfEra * 365 + yearOfEra / 4 - yearOfEra / 100 + dayOfYear
  era * 146097 + dayOfEra - 719468

def moment (year month day hour minute second : Nat) : Int :=
  (days year month day * 86400 + hour * 3600 + minute * 60 + second) * billion

def pair? : List Char → Option (Nat × List Char)
  | high :: low :: rest =>
      if high.isDigit && low.isDigit then
        some ((high.toNat - 48) * 10 + (low.toNat - 48), rest)
      else none
  | _ => none

def pairs? : (count : Nat) → List Char → Option (List Nat × List Char)
  | 0, letters => some ([], letters)
  | count + 1, letters => do
      let (first, letters) ← pair? letters
      let (more, letters) ← pairs? count letters
      pure (first :: more, letters)

/-- A stamp such as `200001010000` or `01010000.30`, in the year it is now. -/
def stamp? (now : Int) (text : String) : Option Int := do
  let (body, second) ←
    match text.splitOn "." with
    | [body] => some (body, 0)
    | [body, seconds] =>
        match pair? seconds.toList with
        | some (second, []) => some (body, second)
        | _ => none
    | _ => none
  let (numbers, _) ← pairs? (body.length / 2) body.toList
  let thisYear := (Timestamp.Date.ofDays (now.fdiv (86400 * billion))).year.toNat
  match numbers with
  | [century, year, month, day, hour, minute] =>
      pure (moment (century * 100 + year) month day hour minute second)
  | [year, month, day, hour, minute] =>
      let year := if year < 69 then 2000 + year else 1900 + year
      pure (moment year month day hour minute second)
  | [month, day, hour, minute] =>
      pure (moment thisYear month day hour minute second)
  | _ => none

def unit? (word : String) : Option Nat :=
  let word := if word.endsWith "s" then String.ofList word.toList.dropLast else word
  [("sec", 1), ("second", 1), ("min", 60), ("minute", 60), ("hour", 3600),
    ("day", 86400), ("week", 604800)].lookup word

def numbers? (separator text : String) : Option (List Nat) :=
  (text.splitOn separator).mapM String.toNat?

/-- A moment in words, such as `2 hours ago`, `@0` or `2000-01-01 00:00`. -/
def words? (now : Int) (text : String) : Option Int :=
  match (text.splitOn " ").filter (· != "") with
  | ["now"] => some now
  | [count, unit, "ago"] => do
      let count ← count.toInt?
      let unit ← unit? unit
      pure (now - count * unit * billion)
  | ["yesterday"] => some (now - 86400 * billion)
  | [count, unit] => do
      match numbers? "-" count, numbers? ":" unit with
      | some [year, month, day], some [hour, minute] =>
          pure (moment year month day hour minute 0)
      | some [year, month, day], some [hour, minute, second] =>
          pure (moment year month day hour minute second)
      | _, _ =>
          let count ←
            (if count.startsWith "+" then (count.drop 1).toString else count).toInt?
          let unit ← unit? unit
          pure (now + count * unit * billion)
  | [word] =>
      if word.startsWith "@" then do
        let seconds ← (word.drop 1).toInt?
        pure (seconds * billion)
      else
        match numbers? "-" word with
        | some [year, month, day] => some (moment year month day 0 0 0)
        | _ => none
  | _ => none

end PlanGuard.Workbench.Calendar
