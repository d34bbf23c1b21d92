import PlanGuard.Workbench.Calendar
import PlanGuard.Workbench.Format
import PlanGuard.Workbench.Session

/-!
# Programs of the workbench

The small programs that every system has, as far as plans make use of them.
Each takes its arguments and returns its exit status; where it fails, it says so
in the words that such programs use.
-/

namespace PlanGuard.Workbench

abbrev Program := List String → Act Nat

namespace Programs

open Act

/-- Leading arguments that are made of these letters after a dash. -/
def flagLetters (known : List Char) : List String → List Char × List String
  | [] => ([], [])
  | argument :: rest =>
      if argument = "--" then ([], rest)
      else
        match argument.toList with
        | '-' :: letter :: letters =>
            if (letter :: letters).all known.contains then
              let (more, rest) := flagLetters known rest
              (letter :: letters ++ more, rest)
            else ([], argument :: rest)
        | _ => ([], argument :: rest)

/-- Arguments with single blanks between them, escapes read if asked for. -/
def joined (escapes : Bool) (arguments : List String) : List UInt8 × Bool :=
  let text := " ".intercalate arguments
  if escapes then Format.unescape (text.length + 1) text.toList
  else (Text.Utf8.encode text, false)

def echo : Program := fun arguments => do
  let (flags, words) :=
    match arguments with
    | "--" :: _ => ([], arguments)
    | _ => flagLetters ['n', 'e', 'E'] arguments
  let escapes := (flags.filter (· != 'n')).getLast? == some 'e'
  let (bytes, ended) := joined escapes words
  emit (← shell).stdout
    (if ended || flags.contains 'n' then bytes else bytes ++ [10])
  pure 0

/-- `echo` as shells have it built in, which always reads escapes. -/
def echoBuiltIn : Program := fun arguments => do
  let (quiet, words) :=
    match arguments with
    | "-n" :: rest => (true, rest)
    | _ => (false, arguments)
  let (bytes, ended) := joined true words
  emit (← shell).stdout (if ended || quiet then bytes else bytes ++ [10])
  pure 0

def printf : Program := fun arguments =>
  match arguments with
  | "--" :: format :: rest | format :: rest => do
      let (bytes, clean) := Format.print format rest
      emit (← shell).stdout bytes
      if clean then pure 0
      else
        complain s!"printf: expected a numeric value in the arguments of {format}"
        pure 1
  | [] => do
      complain "printf: missing operand"
      pure 1

def contentOf (path : String) : Act (Except SystemError (List UInt8)) := do
  if path = "-" then return .ok (← takeInput)
  match ← place path with
  | .error error => pure (.error error)
  | .ok place => pure ((← get).files.read place)

def eachInput (name : String) (paths : List String)
    (use : String → List UInt8 → Act Unit) : Act Nat := do
  let mut status := 0
  for path in (if paths.isEmpty then ["-"] else paths) do
    match ← contentOf path with
    | .ok content => use path content
    | .error error =>
        complain s!"{name}: {path}: {error.words}"
        status := 1
  pure status

def cat : Program := fun arguments => do
  let (_, paths) := flagLetters ['u'] arguments
  eachInput "cat" paths fun _ content => do emit (← shell).stdout content

/-- The bytes up to the end of the line numbered `count`. -/
def firstLines (count : Nat) (content : List UInt8) : List UInt8 :=
  go count [] content
where
  go : (left : Nat) → (read : List UInt8) → List UInt8 → List UInt8
    | 0, read, _ | _, read, [] => read.reverse
    | left + 1, read, byte :: rest =>
        go (if byte = 10 then left else left + 1) (byte :: read) rest

/-- A count of bytes or lines from the arguments, and what is left of these. -/
def headCount : (fuel : Nat) → (bytes : Bool) → (count : Nat) → List String →
    Bool × Nat × List String
  | 0, bytes, count, rest => (bytes, count, rest)
  | fuel + 1, bytes, count, argument :: rest =>
      let attached := (argument.drop 2).toString
      if argument = "-n" || argument = "-c" then
        headCount fuel (argument == "-c") ((rest.headD "").toNat?.getD count) rest.tail
      else if argument.startsWith "-n" || argument.startsWith "-c" then
        headCount fuel (argument.startsWith "-c") (attached.toNat?.getD count) rest
      else
        match argument.toList with
        | '-' :: digits@(_ :: _) =>
            headCount fuel false ((String.ofList digits).toNat?.getD count) rest
        | _ => (bytes, count, argument :: rest)
  | _ + 1, bytes, count, [] => (bytes, count, [])

def head : Program := fun arguments => do
  let (bytes, count, paths) := headCount arguments.length false 10 arguments
  if paths = ["/dev/zero"] then
    emit (← shell).stdout (List.replicate count 0)
    return 0
  eachInput "head" paths fun _ content => do
    emit (← shell).stdout
      (if bytes then content.take count else firstLines count content)

def wc : Program := fun arguments => do
  let (flags, paths) := flagLetters ['l', 'w', 'c'] arguments
  let all := flags.isEmpty
  eachInput "wc" paths fun path content => do
    let step (state : Nat × Bool) (byte : UInt8) : Nat × Bool :=
      if byte = 32 || byte = 9 || byte = 10 || byte = 13 then (state.1, false)
      else (if state.2 then state.1 else state.1 + 1, true)
    let counts :=
      (if all || flags.contains 'l' then [content.count 10] else []) ++
        (if all || flags.contains 'w' then [(content.foldl step (0, false)).1]
          else []) ++
        (if all || flags.contains 'c' then [content.length] else [])
    let numbers := " ".intercalate (counts.map toString)
    say (numbers ++ (if path = "-" then "" else " " ++ path) ++ "\n")

def sequence (first step last : Int) : List Int :=
  if (0 < step && last < first) || (step < 0 && first < last) then []
  else
    let count := (last - first).natAbs / step.natAbs + 1
    (List.range count).map fun (index : Nat) => first + step * index

def seq : Program := fun arguments => do
  let print (first step last : Int) : Act Nat := do
    if step = 0 then
      complain "seq: invalid Zero increment value: '0'"
      return 1
    say (String.join ((sequence first step last).map fun n => s!"{n}\n"))
    pure 0
  match arguments.mapM String.toInt? with
  | some [last] => print 1 1 last
  | some [first, last] => print first 1 last
  | some [first, step, last] => print first step last
  | _ =>
      complain "seq: invalid arguments"
      pure 1

/-- A span such as `0.5` or `2m`, in nanoseconds. -/
def span? (text : String) : Option Nat := do
  let (number, unit) :=
    match text.toList.reverse with
    | 's' :: rest => (rest.reverse, 1)
    | 'm' :: rest => (rest.reverse, 60)
    | 'h' :: rest => (rest.reverse, 3600)
    | 'd' :: rest => (rest.reverse, 86400)
    | letters => (letters.reverse, 1)
  let natural (letters : List Char) : Option Nat :=
    if letters.all Char.isDigit then (String.ofList ('0' :: letters)).toNat?
    else none
  let whole := number.takeWhile (· != '.')
  let fraction := (number.dropWhile (· != '.')).drop 1
  if whole.isEmpty && fraction.isEmpty then none
  else
    let places := (fraction ++ List.replicate 9 '0').take 9
    pure (((← natural whole) * 1000000000 + (← natural places)) * unit)

def sleep : Program := fun arguments => do
  if arguments.isEmpty then
    complain "sleep: missing operand"
    return 1
  if arguments.contains "infinity" || arguments.contains "inf" then exhaust
  match arguments.mapM span? with
  | some spans => wait (spans.foldl (· + ·) 0); pure 0
  | none =>
      let given := " ".intercalate arguments
      complain s!"sleep: invalid time interval '{given}'"
      pure 1

def sorted (names : List String) : List String :=
  names.mergeSort fun first second => !(second < first)

def ls : Program := fun arguments => do
  let (flags, paths) := flagLetters ['a', 'A', 'd', '1'] arguments
  let listed (names : List String) : Act Unit :=
    say (String.join ((sorted names).map (· ++ "\n")))
  let shown (entries : List (String × FileTree)) : List String :=
    (if flags.contains 'a' then [".", ".."] else []) ++
      (entries.map (·.1)).filter fun name =>
        flags.contains 'a' || flags.contains 'A' || !name.startsWith "."
  let paths := if paths.isEmpty then ["."] else paths
  let mut status := 0
  let mut files : List String := []
  let mut directories : List (String × List String) := []
  for path in paths do
    match ← find path with
    | .error error =>
        complain s!"ls: cannot access '{path}': {error.words}"
        status := 2
    | .ok (.directory _ entries) =>
        if flags.contains 'd' then files := path :: files
        else directories := (path, shown entries) :: directories
    | .ok _ => files := path :: files
  listed files
  let mut blank := !files.isEmpty
  let ordered := directories.mergeSort fun first second => !(second.1 < first.1)
  for (path, names) in ordered do
    if paths.length > 1 then
      say ((if blank then "\n" else "") ++ path ++ ":\n")
    listed names
    blank := true
  pure status

def pwd : Program := fun _ => do
  say (FileTree.pathOf (← shell).directory ++ "\n")
  pure 0

/-- Options of `touch`: the moment to set, and whether nothing is made. -/
def touchOptions (now : Int) : (fuel : Nat) → (moment : Option Int) →
    (only : Bool) → List String → Option (Option Int × Bool × List String)
  | 0, moment, only, rest => some (moment, only, rest)
  | fuel + 1, _, only, "-t" :: stamp :: rest =>
      (Calendar.stamp? now stamp).bind fun found =>
        touchOptions now fuel (some found) only rest
  | fuel + 1, _, only, "-d" :: words :: rest =>
      (Calendar.words? now words).bind fun found =>
        touchOptions now fuel (some found) only rest
  | fuel + 1, moment, _, "-c" :: rest => touchOptions now fuel moment true rest
  | fuel + 1, moment, only, "-m" :: rest => touchOptions now fuel moment only rest
  | fuel + 1, moment, only, "-a" :: rest => touchOptions now fuel moment only rest
  | _ + 1, moment, only, rest => some (moment, only, rest)

def changedAt (moment : Int) : FileTree → FileTree
  | .file stamp content => .file { stamp with modified := some moment } content
  | .directory stamp entries =>
      .directory { stamp with modified := some moment } entries
  | tree => tree

/-- Does something with the place of each path and says what is refused. -/
def eachPlace (paths : List String) (complaint : String → String)
    (change : Int → List String → FileTree → Except SystemError FileTree) :
    Act Nat := do
  let mut status := 0
  for path in paths do
    let refused ← do
      match ← place path with
      | .error error => pure (some error)
      | .ok place => changeFiles fun now files => change now place files
    if let some error := refused then
      complain s!"{complaint path}: {error.words}"
      status := 1
  pure status

def touch : Program := fun arguments => do
  match touchOptions (← now) arguments.length none false arguments with
  | none =>
      complain "touch: invalid date format"
      pure 1
  | some (moment, only, paths) =>
      eachPlace paths (fun path => s!"touch: cannot touch '{path}'")
        fun now place files =>
          let moment := moment.getD now
          match files.find place with
          | .ok _ => files.modify (fun tree => .ok (changedAt moment tree)) place
          | .error .noEntry =>
              if only then .ok files
              else files.put now place (.file { modified := some moment } [])
          | .error error => .error error

def rm : Program := fun arguments =>
  let (flags, paths) := flagLetters ['r', 'R', 'f', 'd'] arguments
  let recursive := flags.contains 'r' || flags.contains 'R'
  eachPlace paths (fun path => s!"rm: cannot remove '{path}'")
    fun now place files =>
      match files.find place with
      | .ok (.directory _ _) =>
          if recursive then files.erase now place else .error .isDirectory
      | .ok _ => files.erase now place
      | .error error => if flags.contains 'f' then .ok files else .error error

def makeAll (complaint : String → String) (mode : Nat) (paths : List String) :
    Act Nat := do
  let mut status := 0
  for path in paths do
    let place := FileTree.lexical (← shell).directory path
    let refused ← changeFiles fun now files =>
      files.makeDirectories now mode [] place
    if let some error := refused then
      complain s!"{complaint path}: {error.words}"
      status := 1
  pure status

def mkdir : Program := fun arguments =>
  let (mode, arguments) :=
    match arguments with
    | "-m" :: mode :: rest =>
        ((Format.digits 8 mode.length 0 mode.toList).1, rest)
    | _ => (0o755, arguments)
  let (flags, paths) := flagLetters ['p'] arguments
  let complaint (path : String) : String :=
    s!"mkdir: cannot create directory '{path}'"
  if flags.contains 'p' then makeAll complaint mode paths
  else eachPlace paths complaint fun now place files =>
    files.makeDirectory now mode place

def rmdir : Program := fun arguments =>
  eachPlace arguments (fun path => s!"rmdir: failed to remove '{path}'")
    fun now place files =>
      match files.find place with
      | .ok (.directory _ []) => files.erase now place
      | .ok (.directory _ _) => .error .notEmpty
      | .ok _ => .error .notDirectory
      | .error error => .error error

def chmod : Program := fun arguments =>
  match arguments with
  | mode :: paths =>
      eachPlace paths (fun path => s!"chmod: cannot access '{path}'")
        fun _ place files =>
          files.modify (fun tree =>
            let mode :=
              if mode = "+x" || mode = "a+x" then tree.stamp.mode ||| 0o111
              else (Format.digits 8 mode.length 0 mode.toList).1
            .ok (tree.withMode mode)) place
  | [] => do
      complain "chmod: missing operand"
      pure 1

/-- Puts what is at a path at another one, and takes it away if it is to move. -/
def transfer (moves : Bool) : Program := fun arguments => do
  let name := if moves then "mv" else "cp"
  let (flags, paths) := flagLetters ['r', 'R', 'f', 'p', 'a'] arguments
  match paths with
  | [source, target] =>
      let session ← get
      let here := session.shell.directory
      let files := session.files
      let last := ((FileTree.steps source).getLast?).getD ""
      let refused ← changeFiles fun now _ => do
        let old ← files.resolve here source
        let tree ← files.find old
        if tree.isDirectory && !moves && flags.isEmpty then throw .isDirectory
        let named ← files.resolve here target
        let new :=
          match files.find named with
          | .ok (.directory _ _) => named ++ [last]
          | _ => named
        let tree := if moves then tree else changedAt now tree
        let files ← if moves then files.erase now old else pure files
        files.put now new tree
      match refused with
      | none => pure 0
      | some error =>
          complain s!"{name}: cannot stat '{source}': {error.words}"
          pure 1
  | _ =>
      complain s!"{name}: missing file operand"
      pure 1

def unaryTest (name operand : String) : Act (Option Bool) := do
  let tree := (← find operand).toOption
  match name with
  | "-n" => pure (some (operand != ""))
  | "-z" => pure (some (operand == ""))
  | "-e" => pure (some tree.isSome)
  | "-d" => pure (some (tree.any FileTree.isDirectory))
  | "-f" =>
      pure (some (tree.any fun tree =>
        match tree with
        | .file _ _ | .program _ => true
        | _ => false))
  | "-s" =>
      pure (some (tree.any fun tree =>
        match tree with
        | .file _ content => !content.isEmpty
        | .directory _ _ | .program _ => true
        | .device _ => false))
  | "-r" | "-w" => pure (some tree.isSome)
  | "-x" => pure (some (tree.any FileTree.isExecutable))
  | "-t" => pure (some false)
  | _ => pure none

def binaryTest (name first second : String) : Option Bool :=
  let compared (compare : Int → Int → Bool) : Option Bool := do
    pure (compare (← first.toInt?) (← second.toInt?))
  match name with
  | "=" | "==" => some (first == second)
  | "!=" => some (first != second)
  | "-eq" => compared fun a b => a == b
  | "-ne" => compared fun a b => a != b
  | "-lt" => compared fun a b => a < b
  | "-le" => compared fun a b => a ≤ b
  | "-gt" => compared fun a b => b < a
  | "-ge" => compared fun a b => b ≤ a
  | _ => none

/-- What a condition comes to; `none` if it is not one. -/
def condition : (fuel : Nat) → List String → Act (Option Bool)
  | 0, _ => pure none
  | _ + 1, [] => pure (some false)
  | _ + 1, [word] => pure (some (word != ""))
  | fuel + 1, "!" :: rest => do
      match rest with
      | [name, second] =>
          if let some value := binaryTest name "!" second then return some value
      | _ => pure ()
      return (← condition fuel rest).map not
  | _ + 1, [name, operand] => unaryTest name operand
  | fuel + 1, words => do
      match splitAt "-o" words with
      | some (before, after) =>
          let first ← condition fuel before
          let second ← condition fuel after
          pure do pure ((← first) || (← second))
      | none =>
          match splitAt "-a" words with
          | some (before, after) =>
              let first ← condition fuel before
              let second ← condition fuel after
              pure do pure ((← first) && (← second))
          | none =>
              match words with
              | [first, name, second] => pure (binaryTest name first second)
              | _ => pure none
where
  splitAt (word : String) (words : List String) :
      Option (List String × List String) :=
    let before := words.takeWhile (· != word)
    if before.length = words.length || before.isEmpty then none
    else some (before, words.drop (before.length + 1))

def test : Program := fun arguments => do
  match ← condition (arguments.length + 1) arguments with
  | some true => pure 0
  | some false => pure 1
  | none =>
      complain "test: unexpected operator"
      pure 2

/-- `test` under the name that wants a closing bracket. -/
def bracket : Program := fun arguments =>
  if arguments.getLast? = some "]" then test arguments.dropLast
  else do
    complain "[: missing ]"
    pure 2

/-- The signals that can be sent by name. -/
def signals : List (String × Nat) :=
  [("HUP", 1), ("INT", 2), ("QUIT", 3), ("ILL", 4), ("TRAP", 5), ("ABRT", 6),
    ("BUS", 7), ("FPE", 8), ("KILL", 9), ("USR1", 10), ("SEGV", 11),
    ("USR2", 12), ("PIPE", 13), ("ALRM", 14), ("TERM", 15), ("CHLD", 17),
    ("CONT", 18), ("STOP", 19), ("TSTP", 20), ("URG", 23), ("WINCH", 28)]

def signal? (name : String) : Option Nat :=
  match name.toNat? with
  | some number => some number
  | none =>
      let name := name.toUpper
      signals.lookup
        (if name.startsWith "SIG" then (name.drop 3).toString else name)

/-- The signal to be sent, and to whom. -/
def killTarget : List String → Option Nat × List String
  | "-s" :: name :: rest => (signal? name, rest)
  | argument :: rest =>
      match argument.toList with
      | '-' :: name@(_ :: _) => (signal? (String.ofList name), rest)
      | _ => (some 15, argument :: rest)
  | [] => (none, [])

/-- The process that reads the output is stopped, or goes on. -/
def hold (stops : Bool) : Act Unit :=
  modify fun session =>
    { session with holds := (session.moment, stops) :: session.holds }

/-- A process gets a signal: most end it, some do nothing, some stop it. -/
def receive (signal : Nat) : Act Nat := do
  if [0, 17, 18, 23, 28].contains signal then return 0
  if signal != 9 && (← shell).ignored.contains signal then return 0
  if [19, 20].contains signal then exhaust
  throw (.signal signal)

def kill : Program := fun arguments => do
  let (signal, targets) := killTarget arguments
  let targets := targets.filter (· != "--")
  match signal, targets with
  | some signal, target :: _ =>
      if target.toNat? = some (← shell).pid || target = "0" then receive signal
      else if target.toNat? = some watcher && (signal = 18 || signal = 19) then
        hold (signal = 19)
        pure 0
      else
        complain s!"kill: ({target}): No such process"
        pure 1
  | _, _ =>
      complain "kill: invalid arguments"
      pure 1

/-- Endless output, of which only a pipe takes some. -/
def yes : Program := fun arguments => do
  let line := (if arguments.isEmpty then "y" else " ".intercalate arguments) ++ "\n"
  match (← shell).stdout with
  | .pipe _ => say (String.join (List.replicate 10000 line)); throw (.signal 13)
  | _ => exhaust

def table : List (String × Program) :=
  [("[", bracket), ("cat", cat), ("chmod", chmod), ("cp", transfer false),
    ("echo", echo), ("false", fun _ => pure 1), ("head", head), ("kill", kill),
    ("ls", ls), ("mkdir", mkdir), ("mv", transfer true), ("printf", printf),
    ("pwd", pwd), ("rm", rm), ("rmdir", rmdir), ("seq", seq), ("sleep", sleep),
    ("test", test), ("touch", touch), ("true", fun _ => pure 0), ("wc", wc),
    ("yes", yes)]

end Programs

end PlanGuard.Workbench
