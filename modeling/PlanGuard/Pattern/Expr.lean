import PlanGuard.Text.Ranges

/-!
# Pattern expressions

What a pattern says once it has been read: sets of characters, conditions on a
place in the text, and the ways to put expressions together.  How a pattern is
written, and the flags that it is written with, leave no trace here.
-/

namespace PlanGuard.Pattern

/-- A condition on whether the characters around a place belong to words. -/
inductive WordEdge where
  | boundary
  | noBoundary
  | start
  | finish
  /-- What comes before is no word. -/
  | startHalf
  /-- What comes after is no word. -/
  | finishHalf
  deriving DecidableEq

/-- The condition, by whether a word is before the place and after it. -/
def WordEdge.holds : WordEdge → (before after : Bool) → Bool
  | .boundary, before, after => before != after
  | .noBoundary, before, after => before == after
  | .start, before, after => !before && after
  | .finish, before, after => before && !after
  | .startHalf, before, _ => !before
  | .finishHalf, _, after => !after

inductive Look where
  | textStart
  | textEnd
  /-- The start of a line; `crlf` if a carriage return ends lines as well. -/
  | lineStart (crlf : Bool)
  | lineEnd (crlf : Bool)
  /-- An edge of words; `unicode` if words are not of ASCII alone. -/
  | word (edge : WordEdge) (unicode : Bool)
  deriving DecidableEq

inductive Expr where
  /-- Matches between any two characters. -/
  | empty
  /-- Matches one character of a set. -/
  | set (ranges : Text.Ranges)
  | look (look : Look)
  | seq (first second : Expr)
  | alt (first second : Expr)
  /-- Matches `least` to `most` times, without end if `most` is absent. -/
  | loop (body : Expr) (least : Nat) (most : Option Nat)
  /-- Matches what its body does, which is remembered. -/
  | group (body : Expr)

namespace Expr

/-- The expression can match nothing but the empty text. -/
def isVoid : Expr → Bool
  | .empty | .look _ => true
  | .set _ => false
  | .seq first second | .alt first second => first.isVoid && second.isVoid
  | .loop body _ most => body.isVoid || most == some 0
  | .group body => body.isVoid

def sequence : List Expr → Expr
  | [] => .empty
  | [last] => last
  | first :: second :: rest => .seq first (sequence (second :: rest))

def choice : List Expr → Expr
  | [] => .empty
  | [last] => last
  | first :: second :: rest => .alt first (choice (second :: rest))

end Expr

end PlanGuard.Pattern
