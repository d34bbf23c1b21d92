import PlanGuard.Text.Ranges
import PlanGuard.Text.Utf8

/-!
# Formatted text

The notation of `printf`: text with escapes, and directives that each take one
argument.  The format is used again as long as it takes arguments and some are
left.
-/

namespace PlanGuard.Workbench.Format

/-- The digit of a base up to sixteen that a character stands for. -/
def digit? (base : Nat) (c : Char) : Option Nat :=
  if c.isAlphanum && (c.isDigit || c.toLower ≤ 'f') then
    let value := Text.Ranges.hexDigit c.toLower
    if value < base then some value else none
  else none

def digits (base : Nat) : (most value : Nat) → List Char → Nat × List Char
  | 0, value, letters => (value, letters)
  | _ + 1, value, [] => (value, [])
  | most + 1, value, c :: rest =>
      match digit? base c with
      | some digit => digits base most (value * base + digit) rest
      | none => (value, c :: rest)

/-- The characters that letters stand for after a backslash. -/
def controls : List (Char × UInt8) :=
  [('a', 7), ('b', 8), ('f', 12), ('n', 10), ('r', 13), ('t', 9), ('v', 11),
    ('\\', 92), ('"', 34)]

/--
What stands after a backslash, as bytes.  An octal number has three digits at
most; `zeroFirst` allows a zero before them.
-/
def escape (zeroFirst : Bool) : List Char → List UInt8 × List Char
  | [] => ([92], [])
  | c :: rest =>
      match controls.lookup c with
      | some byte => ([byte], rest)
      | none =>
          if c = 'x' && (rest.head?.bind (digit? 16)).isSome then
            let (value, rest) := digits 16 2 0 rest
            ([UInt8.ofNat value], rest)
          else if (digit? 8 c).isSome then
            let (value, rest) :=
              if zeroFirst && c = '0' then digits 8 3 0 rest
              else digits 8 3 0 (c :: rest)
            ([UInt8.ofNat value], rest)
          else (92 :: Text.Utf8.encode (String.singleton c), rest)

/-- A text in which escapes are read; one of them can end all output. -/
def unescape : (fuel : Nat) → List Char → List UInt8 × Bool
  | 0, _ => ([], false)
  | _ + 1, [] => ([], false)
  | _ + 1, '\\' :: 'c' :: _ => ([], true)
  | fuel + 1, '\\' :: rest =>
      let (bytes, rest) := escape true rest
      let (more, ends) := unescape fuel rest
      (bytes ++ more, ends)
  | fuel + 1, c :: rest =>
      let (more, ends) := unescape fuel rest
      (Text.Utf8.encode (String.singleton c) ++ more, ends)

/-- What a directive asks for beside its kind. -/
structure Shape where
  left : Bool := false
  zeros : Bool := false
  sign : Bool := false
  width : Nat := 0
  precision : Option Nat := none

def flags (shape : Shape) : List Char → Shape × List Char
  | '-' :: rest => flags { shape with left := true } rest
  | '0' :: rest => flags { shape with zeros := true } rest
  | '+' :: rest => flags { shape with sign := true } rest
  | ' ' :: rest => flags shape rest
  | '#' :: rest => flags shape rest
  | letters => (shape, letters)

/-- Fills bytes up to the width. -/
def Shape.fill (shape : Shape) (bytes : List UInt8) : List UInt8 :=
  let blanks := List.replicate (shape.width - bytes.length) 32
  if shape.left then bytes ++ blanks else blanks ++ bytes

/-- A number in digits, with its sign, filled up to the width. -/
def Shape.number (shape : Shape) (base : Nat) (upper : Bool) (value : Int) :
    List UInt8 :=
  let digits := Nat.toDigits base value.natAbs
  let digits := if upper then digits.map Char.toUpper else digits
  let sign : List Char :=
    if value < 0 then ['-'] else if shape.sign then ['+'] else []
  let least :=
    match shape.precision with
    | some precision => precision
    | none =>
        if shape.zeros && !shape.left then shape.width - sign.length else 0
  let zeros : List UInt8 := List.replicate (least - digits.length) 48
  shape.fill (Text.Utf8.encode (String.ofList sign) ++ zeros ++
    Text.Utf8.encode (String.ofList digits))

def number (argument : String) : Int × Bool :=
  let natural (letters : List Char) : Nat × Bool :=
    let (value, rest) :=
      match letters with
      | '0' :: 'x' :: rest => digits 16 rest.length 0 rest
      | '0' :: rest => digits 8 rest.length 0 rest
      | letters => digits 10 letters.length 0 letters
    (value, rest.isEmpty)
  match argument.toList with
  | [] => (0, true)
  | '-' :: rest => let (value, whole) := natural rest; (-(value : Int), whole)
  | '+' :: rest => let (value, whole) := natural rest; (value, whole)
  | ['\'', c] => (c.toNat, true)
  | ['"', c] => (c.toNat, true)
  | letters => let (value, whole) := natural letters; (value, whole)

structure Progress where
  /-- The pieces of output, newest first. -/
  pieces : List (List UInt8) := []
  arguments : List String
  /-- Every argument was of the kind that its directive asks for. -/
  clean : Bool := true
  /-- The output ends here. -/
  ended : Bool := false

namespace Progress

def add (progress : Progress) (bytes : List UInt8) : Progress :=
  { progress with pieces := bytes :: progress.pieces }

def take (progress : Progress) : String × Progress :=
  (progress.arguments.headD "",
    { progress with arguments := progress.arguments.tail })

def addNumber (progress : Progress) (shape : Shape) (base : Nat) (upper : Bool) :
    Progress :=
  let (argument, progress) := progress.take
  let (value, clean) := number argument
  { progress.add (shape.number base upper value) with
    clean := progress.clean && clean }

def directive (progress : Progress) (shape : Shape) (kind : Char) : Progress :=
  let cut (bytes : List UInt8) : List UInt8 :=
    match shape.precision with
    | some precision => bytes.take precision
    | none => bytes
  match kind with
  | '%' => progress.add [37]
  | 's' =>
      let (argument, progress) := progress.take
      progress.add (shape.fill (cut (Text.Utf8.encode argument)))
  | 'c' =>
      let (argument, progress) := progress.take
      progress.add (shape.fill ((Text.Utf8.encode argument).take 1))
  | 'b' =>
      let (argument, progress) := progress.take
      let (bytes, ended) := unescape (argument.length + 1) argument.toList
      { progress.add (shape.fill (cut bytes)) with ended }
  | 'd' | 'i' | 'u' => progress.addNumber shape 10 false
  | 'o' => progress.addNumber shape 8 false
  | 'x' => progress.addNumber shape 16 false
  | 'X' => progress.addNumber shape 16 true
  | _ => { progress with clean := false, ended := true }

/-- A width or precision: digits, or an argument for a star. -/
def measure (progress : Progress) : List Char → Nat × Progress × List Char
  | '*' :: rest =>
      let (argument, progress) := progress.take
      ((number argument).1.toNat, progress, rest)
  | letters =>
      let (value, rest) := digits 10 letters.length 0 letters
      (value, progress, rest)

/-- Goes through a format once. -/
def pass : (fuel : Nat) → List Char → Progress → Progress
  | 0, _, progress => progress
  | _ + 1, [], progress => progress
  | _ + 1, '\\' :: 'c' :: _, progress => { progress with ended := true }
  | fuel + 1, '\\' :: rest, progress =>
      let (bytes, rest) := escape false rest
      pass fuel rest (progress.add bytes)
  | fuel + 1, '%' :: rest, progress =>
      let (shape, rest) := flags {} rest
      let (width, progress, rest) := progress.measure rest
      let (precision, progress, rest) :=
        match rest with
        | '.' :: rest =>
            let (value, progress, rest) := progress.measure rest
            (some value, progress, rest)
        | rest => (none, progress, rest)
      match rest with
      | [] => progress.add [37]
      | kind :: rest =>
          let progress := progress.directive { shape with width, precision } kind
          if progress.ended then progress else pass fuel rest progress
  | fuel + 1, c :: rest, progress =>
      pass fuel rest (progress.add (Text.Utf8.encode (String.singleton c)))

/-- Goes through a format as long as that takes arguments and some are left. -/
def passes (format : List Char) : (fuel : Nat) → Progress → Progress
  | 0, progress => progress
  | fuel + 1, progress =>
      let next := pass (format.length + 1) format progress
      if next.ended || next.arguments.isEmpty ||
          next.arguments.length = progress.arguments.length then next
      else passes format fuel next

end Progress

def print (format : String) (arguments : List String) : List UInt8 × Bool :=
  let done := Progress.passes format.toList (arguments.length + 1) { arguments }
  (done.pieces.reverse.flatten, done.clean)

end PlanGuard.Workbench.Format
