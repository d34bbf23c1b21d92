/-!
# Reading bytes as UTF-8

Commands print bytes, and people read text.  `decode` turns any byte sequence
into text: well-formed UTF-8 reads as itself, and each longest piece that could
have begun a character but does not finish one reads as a single replacement
character.  `clip` cuts a text to a number of bytes without splitting a
character.
-/

namespace PlanGuard.Text.Utf8

/-- Stands for bytes that are not UTF-8. -/
def replacement : Char := '\uFFFD'

/--
Where the reader stands: between characters, or inside one, with the number of
continuation bytes still owed, the bounds on the next byte and the value so far.
-/
inductive Cursor where
  | between
  | inside (owed : Nat) (low high : UInt8) (value : Nat)

/-- How a byte begins a character; `none` for a byte that begins none. -/
def begin (b : UInt8) : Option (Cursor × List Char) :=
  if b < 0x80 then some (.between, [Char.ofNat b.toNat])
  else if b < 0xC2 then none
  else if b < 0xE0 then some (.inside 1 0x80 0xBF (b.toNat - 0xC0), [])
  else if b == 0xE0 then some (.inside 2 0xA0 0xBF 0, [])
  else if b == 0xED then some (.inside 2 0x80 0x9F 0xD, [])
  else if b < 0xF0 then some (.inside 2 0x80 0xBF (b.toNat - 0xE0), [])
  else if b == 0xF0 then some (.inside 3 0x90 0xBF 0, [])
  else if b < 0xF4 then some (.inside 3 0x80 0xBF (b.toNat - 0xF0), [])
  else if b == 0xF4 then some (.inside 3 0x80 0x8F 4, [])
  else none

def fresh (b : UInt8) : Cursor × List Char :=
  (begin b).getD (.between, [replacement])

/-- One byte; the characters it completes come with the new position. -/
def step : Cursor → UInt8 → Cursor × List Char
  | .between, b => fresh b
  | .inside owed low high value, b =>
      if low ≤ b && b ≤ high then
        let value := value * 64 + (b.toNat - 0x80)
        if owed ≤ 1 then (.between, [Char.ofNat value])
        else (.inside (owed - 1) 0x80 0xBF value, [])
      else
        let (cursor, read) := fresh b
        (cursor, replacement :: read)

/-- What an unfinished character at the end of the bytes reads as. -/
def finish : Cursor → List Char
  | .between => []
  | .inside .. => [replacement]

structure Reader where
  cursor : Cursor := .between
  text : String := ""

namespace Reader

def feed (reader : Reader) (b : UInt8) : Reader :=
  let (cursor, read) := step reader.cursor b
  { cursor, text := read.foldl String.push reader.text }

def close (reader : Reader) : String :=
  (finish reader.cursor).foldl String.push reader.text

end Reader

def decode (bytes : List UInt8) : String :=
  (bytes.foldl Reader.feed {}).close

def encode (text : String) : List UInt8 :=
  text.toByteArray.data.toList

/--
The last place between two characters that is at most so many bytes from the front,
searched for from there towards the front; `none` if the search leaves the text.
-/
def lastBoundary? (text : String) : (place : Nat) → Option text.Pos
  | 0 => if valid : (String.Pos.Raw.mk 0).IsValid text then some ⟨_, valid⟩ else none
  | place + 1 =>
      if valid : (String.Pos.Raw.mk (place + 1)).IsValid text then some ⟨_, valid⟩
      else lastBoundary? text place

/-- The longest beginning of `text` that is at most `room` bytes of UTF-8. -/
def clip (room : Nat) (text : String) : String :=
  if text.utf8ByteSize ≤ room then text
  else
    match lastBoundary? text room with
    | some stop => (text.sliceTo stop).copy
    | none => ""

end PlanGuard.Text.Utf8
