import PlanGuard.Text.Blank
import PlanGuard.Unicode.Folding
import PlanGuard.Unicode.Property

/-!
# Flags of patterns

Flags change how the pattern after them is read.  They are set for the rest of
a group, or for the group that they open, and every group restores them at its
end.
-/

namespace PlanGuard.Pattern

open Text (Ranges)

structure Flags where
  /-- `i`: letters match in either case. -/
  caseless : Bool := false
  /-- `m`: the anchors match at lines. -/
  multiLine : Bool := false
  /-- `s`: the dot matches line ends as well. -/
  dotAll : Bool := false
  /-- `R`: a carriage return ends lines as well. -/
  crlf : Bool := false
  /-- `x`: blanks and comments are passed over. -/
  spaced : Bool := false
  /-- `u`: sets are of Unicode, not of ASCII. -/
  unicode : Bool := true
  deriving DecidableEq

namespace Flags

def set (flags : Flags) (letter : Char) (value : Bool) : Option Flags :=
  match letter with
  | 'i' => some { flags with caseless := value }
  | 'm' => some { flags with multiLine := value }
  | 's' => some { flags with dotAll := value }
  | 'R' => some { flags with crlf := value }
  | 'x' => some { flags with spaced := value }
  | 'u' => some { flags with unicode := value }
  | 'U' => some flags
  | _ => none

/--
Sets the flags of a list of letters.  Each letter, and the minus after which
flags are taken away, may stand once, and the minus not at the end.
-/
def setAll (value : Bool) (seen : List Char) : List Char → Flags → Option Flags
  | [], flags => some flags
  | letter :: rest, flags =>
      if seen.contains letter then none
      else if letter = '-' then
        if rest.isEmpty then none else setAll false (letter :: seen) rest flags
      else (flags.set letter value).bind (setAll value (letter :: seen) rest)

def skipComment : List Char → List Char
  | [] => []
  | c :: rest => if c = '\n' then rest else skipComment rest

/-- What is left after the blanks and comments in front, `fuel` at most. -/
def skipBlanks : (fuel : Nat) → List Char → List Char
  | 0, letters => letters
  | _ + 1, [] => []
  | fuel + 1, c :: rest =>
      if Text.isBlank c then skipBlanks fuel rest
      else if c = '#' then skipBlanks fuel (skipComment rest)
      else c :: rest

/-- Passes over blanks and comments where they have no meaning. -/
def skip (flags : Flags) (letters : List Char) : List Char :=
  if flags.spaced then skipBlanks letters.length letters else letters

def fold (flags : Flags) (ranges : Ranges) : Ranges :=
  if !flags.caseless then ranges
  else if flags.unicode then Unicode.foldCase ranges
  else Unicode.foldAsciiCase ranges

/-- What is not in a set; without Unicode, of the values of a byte. -/
def outside (flags : Flags) (ranges : Ranges) : Ranges :=
  let outer := Ranges.complement ranges
  if flags.unicode then outer else Ranges.inter outer [(0, 255)]

def isAscii (ranges : Ranges) : Bool :=
  ranges.all fun range => range.2 < 128

/--
Completes a set: closes it under a change of case, then negates it.  Without
Unicode, only sets within ASCII are allowed.
-/
def complete (flags : Flags) (negated : Bool) (ranges : Ranges) : Option Ranges :=
  let folded := flags.fold ranges
  let final := if negated then flags.outside folded else folded
  if flags.unicode || isAscii final then some final else none

end Flags

end PlanGuard.Pattern
