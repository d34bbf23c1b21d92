import PlanGuard.Pattern.Brackets
import PlanGuard.Pattern.Size

/-!
# Reading patterns

A pattern is read from left to right.  The reader keeps the groups that are
open, each with the alternatives and pieces read so far; a repetition takes the
last piece, a bar starts a new alternative, and a closing parenthesis makes a
piece of the group.  Anything that has no meaning makes the pattern invalid.
-/

namespace PlanGuard.Pattern

/-- A part of a pattern, with how deeply it nests. -/
structure Piece where
  expr : Expr
  depth : Nat := 0
  /-- Flags stand among the pieces but cannot be repeated. -/
  repeatable : Bool := true

namespace Piece

/-- Pieces put together by `combine`; more than one are a level of nesting. -/
def together (combine : List Expr → Expr) (pieces : List Piece) : Piece :=
  let depth := pieces.foldl (fun depth piece => max depth piece.depth) 0
  { expr := combine (pieces.map (·.expr))
    depth := if pieces.length < 2 then depth else depth + 1 }

end Piece

structure Level where
  /-- The pieces of the current alternative, newest first. -/
  pieces : List Piece := []
  /-- The alternatives before it, newest first. -/
  alternatives : List Piece := []
  capturing : Bool := false
  /-- The flags to restore at its end. -/
  restored : Flags := {}

namespace Level

def push (level : Level) (piece : Piece) : Level :=
  { level with pieces := piece :: level.pieces }

def split (level : Level) : Level :=
  { level with
    pieces := []
    alternatives :=
      Piece.together Expr.sequence level.pieces.reverse :: level.alternatives }

def body (level : Level) : Piece :=
  Piece.together Expr.choice level.split.alternatives.reverse

def close (level : Level) : Piece :=
  let body := level.body
  { expr := if level.capturing then .group body.expr else body.expr
    depth := body.depth + 1 }

def repeatLast (level : Level) (least : Nat) (most : Option Nat) : Option Level :=
  match level.pieces with
  | [] => none
  | last :: pieces =>
      if last.repeatable then
        some { level with
          pieces :=
            { expr := .loop last.expr least most, depth := last.depth + 1 } :: pieces }
      else none

end Level

structure Reader where
  flags : Flags := {}
  level : Level := {}
  /-- The groups around the one being read, innermost first. -/
  outer : List Level := []
  /-- The names of groups so far. -/
  names : List (List Char) := []

namespace Reader

/-- The reader after a step, and the characters that are left. -/
abbrev Next := Option (Reader × List Char)

def push (reader : Reader) (expr : Expr) (depth : Nat) : Reader :=
  { reader with level := reader.level.push { expr, depth } }

/-- Passes over the mark for a repetition that takes as little as it can. -/
def skipLazy : List Char → List Char
  | '?' :: rest => rest
  | letters => letters

def repetition (reader : Reader) (least : Nat) (most : Option Nat)
    (letters : List Char) : Next :=
  (reader.level.repeatLast least most).map fun level =>
    ({ reader with level }, skipLazy letters)

/-- A decimal number with blanks around it, and what follows it. -/
def decimal (flags : Flags) : (fuel : Nat) → (digits : List Char) → List Char →
    List Char × List Char
  | fuel + 1, digits, c :: rest =>
      if c.isDigit then decimal flags fuel (c :: digits) (flags.skip rest)
      else (digits.reverse, c :: rest)
  | _, digits, letters => (digits.reverse, letters)

/-- One more than the greatest count of a repetition. -/
def countBound : Nat := 4294967296

/-- A count, `none` inside if it is missing; too large a count is refused. -/
def count (flags : Flags) (letters : List Char) :
    Option (Option Nat × List Char) :=
  let letters := letters.dropWhile Text.isBlank
  let (digits, rest) := decimal flags letters.length [] letters
  let rest := rest.dropWhile Text.isBlank
  if digits.isEmpty then some (none, rest)
  else
    let n := digits.foldl (fun n c => n * 10 + (c.toNat - 48)) 0
    if n < countBound then some (some n, rest) else none

/-- A counted repetition, after its opening brace. -/
def counted (reader : Reader) (letters : List Char) : Next := do
  let (least, rest) ← count reader.flags (reader.flags.skip letters)
  let finish (least : Nat) (most : Option Nat) (rest : List Char) : Next :=
    reader.repetition least most (reader.flags.skip rest)
  match least, rest with
  | some n, '\x7d' :: rest => finish n (some n) rest
  | some n, ',' :: rest =>
      match reader.flags.skip rest with
      | '\x7d' :: rest => finish n none rest
      | letters =>
          let (most, rest) ← count reader.flags letters
          match most, rest with
          | some m, '\x7d' :: rest => if n ≤ m then finish n (some m) rest else none
          | _, _ => none
  | _, _ => none

/-- A character of the name of a group. -/
def isNameLetter (first : Bool) (c : Char) : Bool :=
  if first then c == '_' || Text.Ranges.member Unicode.alphabetic c.toNat
  else
    c == '_' || c == '.' || c == '[' || c == ']' ||
      Text.Ranges.member Unicode.alphanumeric c.toNat

/-- The name of a group up to its closing angle. -/
def groupName (first : Bool) : List Char → Option (List Char × List Char)
  | [] => none
  | c :: rest =>
      if c = '>' then some ([], rest)
      else if isNameLetter first c then
        (groupName false rest).map fun (name, rest) => (c :: name, rest)
      else none

def openGroup (reader : Reader) (capturing : Bool) (flags : Flags) : Reader :=
  { reader with
    flags
    level := { capturing, restored := reader.flags }
    outer := reader.level :: reader.outer }

def openNamed (reader : Reader) (letters : List Char) : Next :=
  (groupName true letters).bind fun (name, rest) =>
    if name.isEmpty || reader.names.contains name then none
    else
      some ({ reader.openGroup true reader.flags with names := name :: reader.names },
        rest)

/-- What follows an opening parenthesis and a question mark: flags. -/
def openFlagged (reader : Reader) (letters : List Char) : Next :=
  let items := letters.takeWhile fun c => c != ':' && c != ')'
  match letters.drop items.length with
  | end' :: rest =>
      (Flags.setAll true [] items reader.flags).bind fun flags =>
        if end' = ':' then some (reader.openGroup false flags, rest)
        else if items.isEmpty then none
        else
          let piece : Piece := { expr := .empty, repeatable := false }
          some ({ reader with flags, level := reader.level.push piece }, rest)
  | [] => none

def group (reader : Reader) (letters : List Char) : Next :=
  match reader.flags.skip letters with
  | '?' :: '=' :: _ | '?' :: '!' :: _ => none
  | '?' :: '<' :: '=' :: _ | '?' :: '<' :: '!' :: _ => none
  | '?' :: 'P' :: '<' :: rest => reader.openNamed rest
  | '?' :: '<' :: rest => reader.openNamed rest
  | '?' :: rest => reader.openFlagged rest
  | letters => some (reader.openGroup true reader.flags, letters)

def closeGroup (reader : Reader) : Option Reader :=
  match reader.outer with
  | [] => none
  | parent :: outer =>
      some { reader with
        flags := reader.level.restored
        level := parent.push reader.level.close
        outer }

/-- A character for itself, or in either case. -/
def characterSet (flags : Flags) (c : Char) : Text.Ranges :=
  flags.fold (singleton c.toNat)

/-- An atom outside a set; without Unicode there are no bytes beyond ASCII. -/
def atom (reader : Reader) (atom : Atom) : Option Reader :=
  match atom with
  | .character c byte =>
      if byte && !reader.flags.unicode && 128 ≤ c.toNat then none
      else some (reader.push (.set (characterSet reader.flags c)) 0)
  | .set ranges => some (reader.push (.set ranges) 0)
  | .look condition => some (reader.push (.look condition) 0)

def dot (flags : Flags) : Option Text.Ranges :=
  if !flags.unicode then none
  else if flags.dotAll then some (Text.Ranges.complement [])
  else if flags.crlf then some (Text.Ranges.complement [(10, 10), (13, 13)])
  else some (Text.Ranges.complement [(10, 10)])

def lineStart (flags : Flags) : Look :=
  if flags.multiLine then .lineStart flags.crlf else .textStart

def lineEnd (flags : Flags) : Look :=
  if flags.multiLine then .lineEnd flags.crlf else .textEnd

/-- Reads what begins with the character `c`. -/
def step (reader : Reader) (c : Char) (rest : List Char) : Next :=
  match c with
  | '(' => reader.group rest
  | ')' => reader.closeGroup.map fun reader => (reader, rest)
  | '|' => some ({ reader with level := reader.level.split }, rest)
  | '[' =>
      (Brackets.set reader.flags rest).map fun (set, rest) =>
        (reader.push (.set set.ranges) set.depth, rest)
  | '?' => reader.repetition 0 (some 1) rest
  | '*' => reader.repetition 0 none rest
  | '+' => reader.repetition 1 none rest
  | '\x7b' => reader.counted rest
  | '\\' =>
      (Escape.read reader.flags rest).bind fun (atom, rest) =>
        (reader.atom atom).map fun reader => (reader, rest)
  | '.' => (dot reader.flags).map fun ranges => (reader.push (.set ranges) 0, rest)
  | '^' => some (reader.push (.look (lineStart reader.flags)) 0, rest)
  | '$' => some (reader.push (.look (lineEnd reader.flags)) 0, rest)
  | _ => (reader.atom (.character c false)).map fun reader => (reader, rest)

def run : (fuel : Nat) → Reader → List Char → Option Reader
  | 0, _, _ => none
  | fuel + 1, reader, letters =>
      match reader.flags.skip letters with
      | [] => some reader
      | c :: rest =>
          (reader.step c rest).bind fun (reader, rest) => run fuel reader rest

end Reader

/-- The greatest depth of nesting in a pattern. -/
def maxDepth : Nat := 250

/-- The expression that a pattern stands for, if it is valid. -/
def parse (source : String) : Option Expr := do
  let letters := source.toList
  let reader ← Reader.run (letters.length + 1) {} letters
  if reader.outer.isEmpty then
    let whole := reader.level.body
    if whole.depth ≤ maxDepth && whole.expr.size ≤ maxSize then some whole.expr
    else none
  else none

end PlanGuard.Pattern
