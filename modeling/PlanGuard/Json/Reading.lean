/-!
# Reading JSON text

A reader walks the text once, character by character, and never gives up: it
returns what could be read as a tree of nodes in which each place that could
not be read says why.  Whoever takes values out of the tree walks it in the
order of the text, and so meets the first fault first, whether it is one of
notation or one of type.

A fault can depend on what the reader of a value wants from it.  A value that
is passed over unread may hold lone surrogates, and a number that breaks off is
a fault of notation there; a value that is kept is held to more.
-/

namespace PlanGuard.Json

inductive Fault where
  /-- The text is not JSON. -/
  | malformed
  /-- The text ends too early. -/
  | endOfText
  /-- The value is JSON, but not of the kind that is wanted. -/
  | mismatch
  deriving DecidableEq

/-- Where reading stopped: the fault for a value kept, and for one passed over. -/
structure Stop where
  kept : Fault
  passed : Fault
  deriving DecidableEq

namespace Stop

def both (fault : Fault) : Stop := ⟨fault, fault⟩

def malformed : Stop := both .malformed

def endOfText : Stop := both .endOfText

end Stop

/-- How the text of an array or object goes on after its last element. -/
inductive Closing where
  | closed
  /-- Neither a comma nor the end follows the last element. -/
  | afterItem (stop : Stop)
  /-- A comma follows the last element, but no other element. -/
  | afterComma (stop : Stop)
  deriving DecidableEq

/--
A value as it was read.  The content of a string is `none` if it holds a lone
surrogate, which is allowed only where the string is passed over.
-/
inductive Node where
  | null
  | bool (value : Bool)
  | number (literal : List Char)
  | text (content : Option String)
  | array (items : List Node) (closing : Closing)
  | object (members : List (Option String × Node)) (closing : Closing)
  | broken (stop : Stop)

/-- The open containers around the reader, with what they hold in reverse. -/
inductive Frame where
  | items (done : List Node)
  | members (done : List (Option String × Node)) (key : Option String)

/-- What a container becomes when its last element is `node`. -/
def Frame.endWith (node : Node) (closing : Closing) : Frame → Node
  | .items done => .array (node :: done).reverse closing
  | .members done key => .object ((key, node) :: done).reverse closing

/-- The whole tree when reading stops inside the value `node`. -/
def Node.under (stop : Stop) : Node → List Frame → Node
  | node, [] => node
  | node, frame :: outer =>
      (frame.endWith node (.afterItem stop)).under stop outer

/-- Where the reader is inside a string. -/
inductive Escape where
  | plain
  | escaped
  /-- After `\u`: the bytes read, and the value while they are all digits. -/
  | hex (bytes : Nat) (value : Option Nat)

structure Quoted where
  read : List Char := []
  escape : Escape := .plain
  high : Option Nat := none
  lone : Bool := false

namespace Quoted

def push (quoted : Quoted) (c : Char) : Quoted :=
  { quoted with read := c :: quoted.read, escape := .plain }

/-- The waiting leading surrogate turns out to be alone. -/
def settle (quoted : Quoted) : Quoted :=
  { quoted with high := none, lone := quoted.lone || quoted.high.isSome }

def hexValue (c : Char) : Option Nat :=
  let n := c.toNat
  if 48 ≤ n && n ≤ 57 then some (n - 48)
  else if 65 ≤ n && n ≤ 70 then some (n - 55)
  else if 97 ≤ n && n ≤ 102 then some (n - 87)
  else none

/-- A complete `\u` escape with its value. -/
def pushUnit (quoted : Quoted) (n : Nat) : Quoted :=
  match quoted.high with
  | some high =>
      if 0xDC00 ≤ n && n ≤ 0xDFFF then
        { quoted.push (Char.ofNat ((high - 0xD800) * 1024 + (n - 0xDC00) + 0x10000))
          with high := none }
      else { quoted.settle with escape := .plain }
  | none =>
      if 0xD800 ≤ n && n ≤ 0xDBFF then
        { quoted with high := some n, escape := .plain }
      else if 0xDC00 ≤ n && n ≤ 0xDFFF then
        { quoted with lone := true, escape := .plain }
      else quoted.push (Char.ofNat n)

/-- The character that a one-letter escape stands for. -/
def escaped? (c : Char) : Option Char :=
  if c = '"' then some '"'
  else if c = '\\' then some '\\'
  else if c = '/' then some '/'
  else if c = 'b' then some '\x08'
  else if c = 'f' then some '\x0c'
  else if c = 'n' then some '\n'
  else if c = 'r' then some '\r'
  else if c = 't' then some '\t'
  else none

inductive Step where
  | more (quoted : Quoted)
  | complete (content : Option String)
  | bad (lone : Bool)

def content (quoted : Quoted) : Option String :=
  if quoted.lone then none else some (String.ofList quoted.read.reverse)

def stepPlain (quoted : Quoted) (c : Char) : Step :=
  if c = '\\' then .more { quoted with escape := .escaped }
  else
    let settled := quoted.settle
    if c = '"' then .complete settled.content
    else if c.toNat < 32 then .bad settled.lone
    else .more (settled.push c)

def stepEscaped (quoted : Quoted) (c : Char) : Step :=
  if c = 'u' then .more { quoted with escape := .hex 0 (some 0) }
  else
    let settled := quoted.settle
    match escaped? c with
    | some meaning => .more (settled.push meaning)
    | none => .bad settled.lone

/-- The four places of a `\u` escape are counted in bytes. -/
def stepHex (quoted : Quoted) (bytes : Nat) (value : Option Nat) (c : Char) :
    Step :=
  let bytes := bytes + c.utf8Size
  let value := value.bind fun n => (hexValue c).map (n * 16 + ·)
  if bytes < 4 then .more { quoted with escape := .hex bytes value }
  else
    match value with
    | some n => .more (quoted.pushUnit n)
    | none => .bad quoted.lone

def step (quoted : Quoted) (c : Char) : Step :=
  match quoted.escape with
  | .plain => quoted.stepPlain c
  | .escaped => quoted.stepEscaped c
  | .hex bytes value => quoted.stepHex bytes value c

end Quoted

inductive NumberPart where
  | minus
  | zero
  | whole
  | point
  | fraction
  | exponentMark
  | exponentSign
  | exponent

namespace NumberPart

def isComplete : NumberPart → Bool
  | .zero | .whole | .fraction | .exponent => true
  | .minus | .point | .exponentMark | .exponentSign => false

/-- A digit here is an error even though the number is complete. -/
def refusesDigit : NumberPart → Bool
  | .zero => true
  | _ => false

/-- How the number goes on; `none` if this character is no part of it. -/
def next (part : NumberPart) (c : Char) : Option NumberPart :=
  let digit := c.isDigit
  match part with
  | .minus => if c = '0' then some .zero else if digit then some .whole else none
  | .zero =>
      if c = '.' then some .point
      else if c = 'e' || c = 'E' then some .exponentMark
      else none
  | .whole =>
      if digit then some .whole
      else if c = '.' then some .point
      else if c = 'e' || c = 'E' then some .exponentMark
      else none
  | .point => if digit then some .fraction else none
  | .fraction =>
      if digit then some .fraction
      else if c = 'e' || c = 'E' then some .exponentMark
      else none
  | .exponentMark =>
      if c = '+' || c = '-' then some .exponentSign
      else if digit then some .exponent
      else none
  | .exponentSign => if digit then some .exponent else none
  | .exponent => if digit then some .exponent else none

end NumberPart

inductive Mode where
  /-- A value must come. -/
  | value
  /-- Just after `[`: a value or `]`. -/
  | firstItem
  /-- Just after the opening brace: a key or the closing one. -/
  | firstKey
  /-- After a comma in an object: a key. -/
  | key
  /-- After a key: a colon. -/
  | colon
  /-- After a value. -/
  | afterValue (node : Node)
  | word (rest : List Char) (node : Node)
  | number (part : NumberPart) (literal : List Char)
  | text (quoted : Quoted)
  | keyText (quoted : Quoted)
  /-- Reading has stopped; the tree is final. -/
  | stopped (node : Node) (trailing : Option Fault)

structure Reader where
  mode : Mode := .value
  frames : List Frame := []

namespace Reader

def isSpace (c : Char) : Bool :=
  c = ' ' || c = '\n' || c = '\t' || c = '\r'

/-- Reading stops where a value should stand. -/
def breakValue (reader : Reader) (stop : Stop) : Reader :=
  { reader with
    mode := .stopped ((Node.broken stop).under stop reader.frames) none }

/-- Reading stops between the elements of the innermost container. -/
def breakContainer (reader : Reader) (closing : Stop → Closing) (stop : Stop) :
    Reader :=
  match reader.frames with
  | [] => reader.breakValue stop
  | .items done :: outer =>
      { reader with
        mode := .stopped
          ((Node.array done.reverse (closing stop)).under stop outer) none }
  | .members done _ :: outer =>
      { reader with
        mode := .stopped
          ((Node.object done.reverse (closing stop)).under stop outer) none }

def startValue (reader : Reader) (c : Char) : Reader :=
  if isSpace c then { reader with mode := .value }
  else if c = '"' then { reader with mode := .text {} }
  else if c = '[' then
    { mode := .firstItem, frames := .items [] :: reader.frames }
  else if c = '\x7b' then
    { mode := .firstKey, frames := .members [] none :: reader.frames }
  else if c = 'n' then { reader with mode := .word ['u', 'l', 'l'] .null }
  else if c = 't' then { reader with mode := .word ['r', 'u', 'e'] (.bool true) }
  else if c = 'f' then
    { reader with mode := .word ['a', 'l', 's', 'e'] (.bool false) }
  else if c = '-' then { reader with mode := .number .minus [c] }
  else if c = '0' then { reader with mode := .number .zero [c] }
  else if c.isDigit then { reader with mode := .number .whole [c] }
  else reader.breakValue .malformed

def closeContainer (reader : Reader) : Reader :=
  match reader.frames with
  | [] => reader
  | .items done :: outer =>
      { mode := .afterValue (.array done.reverse .closed), frames := outer }
  | .members done _ :: outer =>
      { mode := .afterValue (.object done.reverse .closed), frames := outer }

/-- The innermost container takes in a value that is complete. -/
def takeIn (reader : Reader) (node : Node) : Reader :=
  match reader.frames with
  | [] => reader
  | .items done :: outer => { reader with frames := .items (node :: done) :: outer }
  | .members done key :: outer =>
      { reader with frames := .members ((key, node) :: done) none :: outer }

def stepAfterValue (reader : Reader) (node : Node) (c : Char) : Reader :=
  if isSpace c then { reader with mode := .afterValue node }
  else
    match reader.frames with
    | [] => { reader with mode := .stopped node (some .malformed) }
    | .items _ :: _ =>
        let inside := reader.takeIn node
        if c = ',' then { inside with mode := .value }
        else if c = ']' then inside.closeContainer
        else inside.breakContainer .afterItem .malformed
    | .members _ _ :: _ =>
        let inside := reader.takeIn node
        if c = ',' then { inside with mode := .key }
        else if c = '\x7d' then inside.closeContainer
        else inside.breakContainer .afterItem .malformed

/-- Whether a comma has just been read in an array. -/
def afterCommaInArray (reader : Reader) : Bool :=
  match reader.frames with
  | .items (_ :: _) :: _ => true
  | _ => false

def stepValue (reader : Reader) (c : Char) : Reader :=
  if c = ']' && reader.afterCommaInArray then
    reader.breakContainer .afterComma .malformed
  else reader.startValue c

def stepFirstItem (reader : Reader) (c : Char) : Reader :=
  if isSpace c then reader
  else if c = ']' then reader.closeContainer
  else reader.startValue c

def stepKey (reader : Reader) (c : Char) : Reader :=
  if isSpace c then reader
  else if c = '"' then { reader with mode := .keyText {} }
  else reader.breakContainer .afterComma .malformed

def stepFirstKey (reader : Reader) (c : Char) : Reader :=
  if isSpace c then reader
  else if c = '\x7d' then reader.closeContainer
  else if c = '"' then { reader with mode := .keyText {} }
  else reader.breakContainer .afterItem .malformed

def stepColon (reader : Reader) (c : Char) : Reader :=
  if isSpace c then reader
  else if c = ':' then { reader with mode := .value }
  else reader.breakValue .malformed

def setKey (reader : Reader) (key : Option String) : Reader :=
  match reader.frames with
  | .members done _ :: outer =>
      { mode := .colon, frames := .members done key :: outer }
  | _ => { reader with mode := .colon }

/-- The stop in a string: a lone surrogate met before it comes first. -/
def textStop (lone : Bool) (fault : Fault) : Stop :=
  if lone then ⟨.malformed, fault⟩ else .both fault

def stepText (reader : Reader) (quoted : Quoted) (c : Char) : Reader :=
  match quoted.step c with
  | .more quoted => { reader with mode := .text quoted }
  | .complete content => { reader with mode := .afterValue (.text content) }
  | .bad lone => reader.breakValue (textStop lone .malformed)

def stepKeyText (reader : Reader) (quoted : Quoted) (c : Char) : Reader :=
  match quoted.step c with
  | .more quoted => { reader with mode := .keyText quoted }
  | .complete content => reader.setKey content
  | .bad lone => reader.breakContainer .afterItem (textStop lone .malformed)

def stepNumber (reader : Reader) (part : NumberPart) (literal : List Char)
    (c : Char) : Reader :=
  match part.next c with
  | some part => { reader with mode := .number part (c :: literal) }
  | none =>
      if part.isComplete && !(part.refusesDigit && c.isDigit) then
        reader.stepAfterValue (.number literal.reverse) c
      else reader.breakValue .malformed

def stepWord (reader : Reader) (rest : List Char) (node : Node) (c : Char) :
    Reader :=
  match rest with
  | [] => reader.stepAfterValue node c
  | wanted :: rest =>
      if c = wanted then
        if rest.isEmpty then { reader with mode := .afterValue node }
        else { reader with mode := .word rest node }
      else reader.breakValue .malformed

def step (reader : Reader) (c : Char) : Reader :=
  match reader.mode with
  | .value => reader.stepValue c
  | .firstItem => reader.stepFirstItem c
  | .firstKey => reader.stepFirstKey c
  | .key => reader.stepKey c
  | .colon => reader.stepColon c
  | .afterValue node => reader.stepAfterValue node c
  | .word rest node => reader.stepWord rest node c
  | .number part literal => reader.stepNumber part literal c
  | .text quoted => reader.stepText quoted c
  | .keyText quoted => reader.stepKeyText quoted c
  | .stopped _ _ => reader

/-- What the end of the text does to the reader: the tree, if there is more. -/
def finish (reader : Reader) : Node × Option Fault :=
  let stopped (reader : Reader) : Node × Option Fault :=
    match reader.mode with
    | .stopped node trailing => (node, trailing)
    | _ => (.broken .endOfText, none)
  match reader.mode with
  | .stopped node trailing => (node, trailing)
  | .value =>
      if reader.afterCommaInArray then
        stopped (reader.breakContainer .afterComma .endOfText)
      else stopped (reader.breakValue .endOfText)
  | .firstItem | .firstKey =>
      stopped (reader.breakContainer .afterItem .endOfText)
  | .key => stopped (reader.breakContainer .afterComma .endOfText)
  | .colon | .word _ _ => stopped (reader.breakValue .endOfText)
  | .afterValue node =>
      match reader.frames with
      | [] => (node, none)
      | _ :: _ =>
          stopped ((reader.takeIn node).breakContainer .afterItem .endOfText)
  | .number part literal =>
      if part.isComplete then
        match reader.frames with
        | [] => (.number literal.reverse, none)
        | _ :: _ =>
            stopped ((reader.takeIn (.number literal.reverse)).breakContainer
              .afterItem .endOfText)
      else stopped (reader.breakValue ⟨.endOfText, .malformed⟩)
  | .text quoted => stopped (reader.breakValue (textStop quoted.lone .endOfText))
  | .keyText quoted =>
      stopped (reader.breakContainer .afterItem (textStop quoted.lone .endOfText))

end Reader

/-- A text as it was read, and the fault in what follows its value, if any. -/
structure Reading where
  root : Node
  trailing : Option Fault

def read (text : String) : Reading :=
  let (root, trailing) := (text.toList.foldl Reader.step {}).finish
  { root, trailing }

end PlanGuard.Json
