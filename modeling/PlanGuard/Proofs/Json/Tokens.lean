import Mathlib.Tactic.SplitIfs
import PlanGuard.Json.Document
import PlanGuard.Json.Reading

/-!
# Strings, numbers and blanks as they are read

What is written of a text is read as that text, character by character.  The reader
passes over blanks where a value, a key or the end of a container may come, and goes on
from there as if they were not written.
-/

namespace PlanGuard.Json

/-! ## Texts -/

namespace Quoted

def feed (quoted : Quoted) : List Char → Option Quoted
  | [] => some quoted
  | c :: rest =>
      match quoted.step c with
      | .more next => next.feed rest
      | .complete _ | .bad _ => none

theorem feed_append (quoted : Quoted) (first second : List Char) :
    quoted.feed (first ++ second) = (quoted.feed first).bind (·.feed second) := by
  induction first generalizing quoted with
  | nil => rfl
  | cons c rest ih =>
      rw [List.cons_append, feed, feed]
      cases quoted.step c with
      | more next => exact ih next
      | complete => rfl
      | bad => rfl

/-- The string of which these characters were read, in reverse. -/
def holding (read : List Char) : Quoted := { read }

theorem hexValue_hexDigit {n : Nat} (small : n < 16) : hexValue (hexDigit n) = some n := by
  have every : ∀ digit : Fin 16, hexValue (hexDigit digit) = some digit.val := by decide
  exact every ⟨n, small⟩

theorem utf8Size_hexDigit {n : Nat} (small : n < 16) : (hexDigit n).utf8Size = 1 := by
  have every : ∀ digit : Fin 16, (hexDigit digit).utf8Size = 1 := by decide
  exact every ⟨n, small⟩

theorem feed_plain {c : Char} (quote : c ≠ '"') (backslash : c ≠ '\\')
    (large : ¬c.toNat < 32) (read : List Char) :
    (holding read).feed [c] = some (holding (c :: read)) := by
  simp [feed, step, stepPlain, holding, settle, push, quote, backslash, large]

theorem feed_escaped {c meaning : Char} (named : escaped? c = some meaning)
    (letter : c ≠ 'u') (read : List Char) :
    (holding read).feed ['\\', c] = some (holding (meaning :: read)) := by
  simp [feed, step, stepPlain, stepEscaped, holding, settle, push, named, letter]

theorem pushUnit_small {n : Nat} (small : n < 32) (read : List Char) (escape : Escape) :
    pushUnit { read, escape } n = holding (Char.ofNat n :: read) := by
  have below : ¬0xD800 ≤ n := by omega
  have above : ¬0xDC00 ≤ n := by omega
  simp [pushUnit, below, above, push, holding]

section Digits

variable {n : Nat} (digit : n < 16) (bytes value : Nat) (read rest : List Char)
include digit

theorem feed_hexDigit (early : bytes + 1 < 4) :
    ({ read, escape := .hex bytes (some value) } : Quoted).feed (hexDigit n :: rest) =
      ({ read, escape := .hex (bytes + 1) (some (value * 16 + n)) } : Quoted).feed rest := by
  simp only [feed, step, stepHex, hexValue_hexDigit digit, utf8Size_hexDigit digit,
    Option.bind_some, Option.map_some, early, if_true]

/-- The fourth digit completes the number. -/
theorem feed_lastDigit (small : value * 16 + n < 32) :
    ({ read, escape := .hex 3 (some value) } : Quoted).feed (hexDigit n :: rest) =
      (holding (Char.ofNat (value * 16 + n) :: read)).feed rest := by
  have late : ¬3 + 1 < 4 := by decide
  simp only [feed, step, stepHex, hexValue_hexDigit digit, utf8Size_hexDigit digit,
    Option.bind_some, Option.map_some, late, if_false, pushUnit_small small]

end Digits

theorem feed_unit {c : Char} (small : c.toNat < 32) (read : List Char) :
    (holding read).feed
      ['\\', 'u', '0', '0', hexDigit (c.toNat / 16), hexDigit (c.toNat % 16)] =
        some (holding (c :: read)) := by
  have high : c.toNat / 16 < 16 := by omega
  have low : c.toNat % 16 < 16 := by omega
  have number : c.toNat / 16 * 16 + c.toNat % 16 = c.toNat := by omega
  have begun (rest : List Char) : (holding read).feed ('\\' :: 'u' :: '0' :: '0' :: rest) =
      ({ read, escape := .hex 2 (some 0) } : Quoted).feed rest := rfl
  rw [begun, feed_hexDigit high 2 0 read _ (by decide), Nat.zero_mul, Nat.zero_add,
    feed_lastDigit low _ read _ (by omega), number, Char.ofNat_toNat]
  rfl

theorem feed_escape (c : Char) (read : List Char) :
    (holding read).feed (Json.escape c) = some (holding (c :: read)) := by
  unfold Json.escape
  split_ifs with quote backslash newLine carriage tab backspace formFeed control
  · rw [quote]; exact feed_escaped rfl (by decide) read
  · rw [backslash]; exact feed_escaped rfl (by decide) read
  · rw [newLine]; exact feed_escaped rfl (by decide) read
  · rw [carriage]; exact feed_escaped rfl (by decide) read
  · rw [tab]; exact feed_escaped rfl (by decide) read
  · rw [backspace]; exact feed_escaped rfl (by decide) read
  · rw [formFeed]; exact feed_escaped rfl (by decide) read
  · exact feed_unit control read
  · exact feed_plain quote backslash control read

theorem feed_escapes (characters read : List Char) :
    (holding read).feed (characters.flatMap Json.escape) =
      some (holding (characters.reverse ++ read)) := by
  induction characters generalizing read with
  | nil => rfl
  | cons c rest ih =>
      rw [List.flatMap_cons, feed_append, feed_escape, Option.bind_some, ih,
        List.reverse_cons, List.append_assoc]
      rfl

end Quoted

namespace Reader

section Strings

variable (wrap : Quoted → Mode) (frames : List Frame)

/-- The reader goes over characters inside a string as the string does. -/
theorem foldl_feed
    (moves : ∀ quoted next c, quoted.step c = .more next →
      step ⟨wrap quoted, frames⟩ c = ⟨wrap next, frames⟩)
    {quoted next : Quoted} {characters : List Char}
    (fed : quoted.feed characters = some next) :
    characters.foldl step ⟨wrap quoted, frames⟩ = ⟨wrap next, frames⟩ := by
  induction characters generalizing quoted with
  | nil =>
      obtain rfl := Option.some.inj fed
      rfl
  | cons c rest ih =>
      rw [Quoted.feed] at fed
      cases stepped : quoted.step c with
      | more between =>
          rw [stepped] at fed
          rw [List.foldl_cons, moves quoted between c stepped]
          exact ih fed
      | complete => rw [stepped] at fed; cases fed
      | bad => rw [stepped] at fed; cases fed

theorem foldl_escapes
    (moves : ∀ quoted next c, quoted.step c = .more next →
      step ⟨wrap quoted, frames⟩ c = ⟨wrap next, frames⟩)
    (value : String) :
    (value.toList.flatMap escape).foldl step ⟨wrap (Quoted.holding []), frames⟩ =
      ⟨wrap (Quoted.holding value.toList.reverse), frames⟩ := by
  refine foldl_feed wrap frames moves ?_
  rw [Quoted.feed_escapes, List.append_nil]

end Strings

theorem step_quote_holding (value : String) :
    (Quoted.holding value.toList.reverse).step '"' = .complete (some value) := by
  have whole : (Quoted.holding value.toList.reverse).step '"' =
      .complete (some (String.ofList value.toList.reverse.reverse)) := rfl
  rw [whole, List.reverse_reverse, String.ofList_toList]

theorem foldl_text (value : String) (frames : List Frame) :
    (value.toList.flatMap escape ++ ['"']).foldl step ⟨.text {}, frames⟩ =
      ⟨.afterValue (.text (some value)), frames⟩ := by
  have inside := foldl_escapes .text frames
    (fun quoted next c stepped => by simp only [step, stepText, stepped]) value
  have start : Quoted.holding [] = {} := rfl
  rw [start] at inside
  rw [List.foldl_append, inside]
  simp only [List.foldl_cons, List.foldl_nil, step, stepText, step_quote_holding]

theorem foldl_keyText (name : String) (done : List (Option String × Node))
    (key : Option String) (frames : List Frame) :
    (name.toList.flatMap escape ++ ['"']).foldl step
        ⟨.keyText {}, .members done key :: frames⟩ =
      ⟨.colon, .members done (some name) :: frames⟩ := by
  have inside := foldl_escapes .keyText (.members done key :: frames)
    (fun quoted next c stepped => by simp only [step, stepKeyText, stepped]) name
  have start : Quoted.holding [] = {} := rfl
  rw [start] at inside
  rw [List.foldl_append, inside]
  simp only [List.foldl_cons, List.foldl_nil, step, stepKeyText, step_quote_holding, setKey]

end Reader

/-! ## Numbers -/

namespace NumberPart

def first? (c : Char) : Option NumberPart :=
  if c = '-' then some .minus
  else if c = '0' then some .zero
  else if c.isDigit then some .whole
  else none

def after? (part : NumberPart) : List Char → Option NumberPart
  | [] => some part
  | c :: rest => (part.next c).bind (·.after? rest)

end NumberPart

def IsNumeral (literal : String) : Prop :=
  ∃ c rest part last, literal.toList = c :: rest ∧ NumberPart.first? c = some part ∧
    part.after? rest = some last ∧ last.isComplete = true

namespace Reader

theorem foldl_number {part last : NumberPart} {rest : List Char}
    (ends : part.after? rest = some last) (literal : List Char) (frames : List Frame) :
    rest.foldl step ⟨.number part literal, frames⟩ =
      ⟨.number last (rest.reverse ++ literal), frames⟩ := by
  induction rest generalizing part literal with
  | nil =>
      obtain rfl := Option.some.inj ends
      rfl
  | cons c rest ih =>
      obtain ⟨between, moved, ends⟩ := Option.bind_eq_some_iff.mp ends
      have stepped : step ⟨.number part literal, frames⟩ c =
          ⟨.number between (c :: literal), frames⟩ := by
        simp only [step, stepNumber, moved]
      rw [List.foldl_cons, stepped, ih ends, List.reverse_cons, List.append_assoc]
      rfl

/-! ## Values among blanks -/

inductive Awaits (frames : List Frame) : Reader → Prop where
  | value : Awaits frames ⟨.value, frames⟩
  | firstItem : Awaits frames ⟨.firstItem, frames⟩

/-- A value was read, or a number that may be one. -/
inductive Holds (frames : List Frame) : Node → Reader → Prop where
  | value (node : Node) : Holds frames node ⟨.afterValue node, frames⟩
  | number {part : NumberPart} {literal : List Char} (complete : part.isComplete = true) :
      Holds frames (.number literal.reverse) ⟨.number part literal, frames⟩

inductive AwaitsKey (frames : List Frame) : Reader → Prop where
  | key : AwaitsKey frames ⟨.key, frames⟩
  | firstKey : AwaitsKey frames ⟨.firstKey, frames⟩

section Blanks

variable {frames : List Frame} {reader : Reader} {blanks : List Char}

theorem isSpace_cases {c : Char} (blank : isSpace c = true) :
    c = ' ' ∨ c = '\n' ∨ c = '\t' ∨ c = '\r' := by
  simpa [isSpace, or_assoc] using blank

theorem Awaits.step_blank (awaits : Awaits frames reader) {c : Char}
    (blank : isSpace c = true) : Awaits frames (reader.step c) := by
  rcases isSpace_cases blank with rfl | rfl | rfl | rfl <;> cases awaits <;> constructor

theorem AwaitsKey.step_blank (awaits : AwaitsKey frames reader) {c : Char}
    (blank : isSpace c = true) : AwaitsKey frames (reader.step c) := by
  rcases isSpace_cases blank with rfl | rfl | rfl | rfl <;> cases awaits <;> constructor

/-- No number goes on with a blank, a comma or a closing bracket. -/
def isEnd (c : Char) : Bool :=
  isSpace c || c = ',' || c = ']' || c = '\x7d'

theorem step_number {part : NumberPart} (complete : part.isComplete = true) {c : Char}
    (ends : isEnd c = true) (literal : List Char) :
    step ⟨.number part literal, frames⟩ c =
      stepAfterValue ⟨.number part literal, frames⟩ (.number literal.reverse) c := by
  have which : c = ' ' ∨ c = '\n' ∨ c = '\t' ∨ c = '\r' ∨ c = ',' ∨ c = ']' ∨ c = '\x7d' := by
    simpa [isEnd, isSpace, or_assoc] using ends
  -- A number that is not complete is ruled out; any other refuses the character.
  rcases which with rfl | rfl | rfl | rfl | rfl | rfl | rfl <;>
    cases part <;> first | rfl | cases complete

theorem Holds.step_blank {node : Node} (holds : Holds frames node reader) {c : Char}
    (blank : isSpace c = true) : Holds frames node (reader.step c) := by
  cases holds with
  | value => rcases isSpace_cases blank with rfl | rfl | rfl | rfl <;> constructor
  | number complete =>
      rw [step_number complete (by simp [isEnd, blank])]
      rcases isSpace_cases blank with rfl | rfl | rfl | rfl <;> exact .value _

theorem foldl_blanks {holds : Reader → Prop}
    (kept : ∀ {reader}, holds reader → ∀ {c}, isSpace c = true → holds (step reader c))
    (blank : ∀ c ∈ blanks, isSpace c = true) (first : holds reader) :
    holds (blanks.foldl step reader) := by
  induction blanks generalizing reader with
  | nil => exact first
  | cons c rest ih =>
      rw [List.forall_mem_cons] at blank
      exact ih blank.2 (kept first blank.1)

end Blanks

section Delimiters

variable {reader : Reader} {node : Node} {done : List Node} {outer : List Frame}
  {members : List (Option String × Node)} {key : Option String}

theorem Holds.step_comma (holds : Holds (.items done :: outer) node reader) :
    reader.step ',' = ⟨.value, .items (node :: done) :: outer⟩ := by
  cases holds with
  | value => rfl
  | number complete => rw [step_number complete rfl]; rfl

theorem Holds.step_bracket (holds : Holds (.items done :: outer) node reader) :
    reader.step ']' = ⟨.afterValue (.array (node :: done).reverse .closed), outer⟩ := by
  cases holds with
  | value => rfl
  | number complete => rw [step_number complete rfl]; rfl

theorem Holds.step_member_comma (holds : Holds (.members members key :: outer) node reader) :
    reader.step ',' = ⟨.key, .members ((key, node) :: members) none :: outer⟩ := by
  cases holds with
  | value => rfl
  | number complete => rw [step_number complete rfl]; rfl

theorem Holds.step_brace (holds : Holds (.members members key :: outer) node reader) :
    reader.step '\x7d' =
      ⟨.afterValue (.object ((key, node) :: members).reverse .closed), outer⟩ := by
  cases holds with
  | value => rfl
  | number complete => rw [step_number complete rfl]; rfl

theorem Holds.finish (holds : Holds [] node reader) : reader.finish = (node, none) := by
  cases holds with
  | value => rfl
  | number complete => simp only [Reader.finish, complete, if_true]

end Delimiters

section Starts

variable {frames : List Frame} {reader : Reader}

theorem isSpace_digit {c : Char} (digit : c.isDigit = true) : isSpace c = false := by
  cases blank : isSpace c with
  | false => rfl
  | true => rcases isSpace_cases blank with rfl | rfl | rfl | rfl <;> cases digit

theorem startValue_digit {c : Char} (digit : c.isDigit = true) (positive : c ≠ '0')
    (mode : Mode) : startValue ⟨mode, frames⟩ c = ⟨.number .whole [c], frames⟩ := by
  have apart (other : Char) (another : other.isDigit = false) : c ≠ other := by
    rintro rfl
    rw [digit] at another
    cases another
  simp only [startValue, isSpace_digit digit, apart '"' rfl, apart '[' rfl, apart '\x7b' rfl,
    apart 'n' rfl, apart 't' rfl, apart 'f' rfl, apart '-' rfl, positive, digit, if_true,
    if_false, Bool.false_eq_true]

theorem Awaits.step_first (awaits : Awaits frames reader) {c : Char} {part : NumberPart}
    (first : NumberPart.first? c = some part) :
    reader.step c = ⟨.number part [c], frames⟩ := by
  unfold NumberPart.first? at first
  split_ifs at first with minus zero digit
  · obtain rfl := minus
    obtain rfl := Option.some.inj first
    cases awaits <;> rfl
  · obtain rfl := zero
    obtain rfl := Option.some.inj first
    cases awaits <;> rfl
  · obtain rfl := Option.some.inj first
    have unclosed : c ≠ ']' := by
      rintro rfl
      cases digit
    cases awaits with
    | value =>
        simp only [step, stepValue, unclosed, decide_false, Bool.false_and, Bool.false_eq_true,
          if_false, startValue_digit digit zero]
    | firstItem =>
        simp only [step, stepFirstItem, unclosed, isSpace_digit digit, Bool.false_eq_true,
          if_false, startValue_digit digit zero]

theorem Awaits.foldl_quote (awaits : Awaits frames reader) (value : String) :
    (quote value).foldl step reader = ⟨.afterValue (.text (some value)), frames⟩ := by
  have opened : reader.step '"' = ⟨.text {}, frames⟩ := by cases awaits <;> rfl
  rw [quote, List.foldl_cons, opened, foldl_text]

theorem Awaits.foldl_null (awaits : Awaits frames reader) :
    (write .null).foldl step reader = ⟨.afterValue .null, frames⟩ := by
  cases awaits <;> rfl

theorem Awaits.foldl_bool (awaits : Awaits frames reader) (value : Bool) :
    (write (.bool value)).foldl step reader = ⟨.afterValue (.bool value), frames⟩ := by
  cases value <;> cases awaits <;> rfl

theorem Awaits.foldl_numeral (awaits : Awaits frames reader) {literal : String}
    (numeral : IsNumeral literal) :
    Holds frames (.number literal.toList) (literal.toList.foldl step reader) := by
  obtain ⟨c, rest, part, last, spelled, first, ends, complete⟩ := numeral
  have reached : Holds frames (.number (rest.reverse ++ [c]).reverse)
      ⟨.number last (rest.reverse ++ [c]), frames⟩ := .number complete
  rw [List.reverse_append, List.reverse_reverse] at reached
  rw [spelled, List.foldl_cons, awaits.step_first first, foldl_number ends]
  exact reached

/-- A key and its colon are read, and a value must come. -/
theorem AwaitsKey.foldl_key {done : List (Option String × Node)} {key : Option String}
    (awaits : AwaitsKey (.members done key :: frames) reader) (name : String) :
    (quote name ++ [':']).foldl step reader =
      ⟨.value, .members done (some name) :: frames⟩ := by
  have opened : reader.step '"' = ⟨.keyText {}, .members done key :: frames⟩ := by
    cases awaits <;> rfl
  rw [quote, List.cons_append, List.foldl_cons, opened, List.foldl_append, foldl_keyText]
  rfl

end Starts

end Reader

end PlanGuard.Json
