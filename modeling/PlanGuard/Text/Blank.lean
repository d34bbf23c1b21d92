/-!
# Blank characters

The characters that carry no ink, and what is left of a text without them.
The set is the `White_Space` property of Unicode, so a no-break space is blank
and a zero-width space is not.
-/

namespace PlanGuard.Text

/-- The characters of Unicode's `White_Space` property. -/
def isBlank (c : Char) : Bool :=
  let n := c.toNat
  (9 ≤ n && n ≤ 13) || n == 0x20 || n == 0x85 || n == 0xA0 || n == 0x1680 ||
    (0x2000 ≤ n && n ≤ 0x200A) || n == 0x2028 || n == 0x2029 ||
    n == 0x202F || n == 0x205F || n == 0x3000

/-- A text is blank when it is empty or holds blank characters only. -/
def allBlank (text : String) : Bool :=
  text.toList.all isBlank

/-- The word being collected, kept in reverse; an empty one is no word. -/
def finishWord : List Char → List String
  | [] => []
  | letters => [String.ofList letters.reverse]

/-- The words of `text`, where `current` holds the letters of the current one. -/
def wordsFrom (current : List Char) : List Char → List String
  | [] => finishWord current
  | c :: rest =>
      if isBlank c then finishWord current ++ wordsFrom [] rest
      else wordsFrom (c :: current) rest

def words (text : String) : List String :=
  wordsFrom [] text.toList

end PlanGuard.Text
