import PlanGuard.Workbench.Image
import PlanGuard.Workbench.Programs
import PlanGuard.Workbench.Shell.Arithmetic
import PlanGuard.Workbench.Shell.Fields
import PlanGuard.Workbench.Shell.Script

/-!
# Running scripts and programs

A shell carries a script out command by command.  Commands that the shell has
built in act on it; others are programs, which run as processes of their own.
All of it runs one after another: a pipe is filled before it is read, and a
command in the background runs at once but leaves the clock where it was.  The
depth to which commands may be nested, and the rounds of a loop, are bounded by
an amount of fuel; what uses it up hangs until the limit of the session.
-/

namespace PlanGuard.Workbench

open Act

namespace Shell

/-- The value of a variable that a name or a special character stands for. -/
def value? (shell : Shell) (name : String) : Option String :=
  match name with
  | "?" => some (toString shell.status)
  | "$" => some (toString shell.pid)
  | "PPID" => some (toString shell.parent)
  | "#" => some (toString shell.arguments.length)
  | "0" => some shell.name
  | "-" => some ""
  | "!" => none
  | "@" | "*" =>
      if shell.arguments.isEmpty then none
      else some (" ".intercalate shell.arguments)
  | _ =>
      match name.toNat? with
      | some (position + 1) => shell.arguments[position]?
      | _ => shell.bindings.lookup name

def setValue (name value : String) (shell : Shell) : Shell :=
  { shell with
    bindings := (name, value) :: shell.bindings.filter fun one => one.1 != name }

/-- Gives a variable a value that programs see. -/
def exportValue (name value : String) (shell : Shell) : Shell :=
  let shell := shell.setValue name value
  { shell with exported := name :: shell.exported.filter (· != name) }

def environment (shell : Shell) : List (String × String) :=
  (shell.bindings.filter fun one => shell.exported.contains one.1).mergeSort
    fun first second => !(second.1 < first.1)

/-- The shell of a new process, which has only an environment. -/
def ofEnvironment (shell : Shell) (environment : List (String × String))
    (argv : List String) (pid : Nat) : Shell :=
  { bindings := environment
    exported := environment.map (·.1)
    directory := shell.directory
    stdout := shell.stdout
    stderr := shell.stderr
    name := argv.headD ""
    arguments := argv.tail
    pid
    parent := if pid = shell.pid then shell.parent else shell.pid
    ignored := shell.ignored }

def warn (text : String) : Act Unit := do
  let name := (← Act.shell).name
  complain s!"{name}: 1: {text}"

def setStatus (status : Nat) : Act Unit :=
  changeShell fun shell => { shell with status }

end Shell

/-- Runs something as a process of its own and tells how it ended. -/
def asProcess (shell : Shell) (body : Act Nat) : Act Ending := do
  let before := (← get).shell
  changeShell fun _ => shell
  let ending ← tryCatch (Ending.exited <$> body) fun halt =>
    match halt with
    | .exit code => pure (.exited code)
    | .signal number => pure (.killed number)
    | .cut => throw .cut
    | .leaveLoop | .nextRound => pure (.exited 0)
  changeShell fun _ => before
  match ending with
  | .exited code => pure (.exited (code % 256))
  | .killed signal => pure (.killed signal)

/-- The status that a shell sees of a process that has ended. -/
def statusOf : Ending → Nat
  | .exited code => code
  | .killed signal => 128 + signal

/-- Goes on with another standard input and returns to the one before. -/
def withInput {α : Type} (input : List UInt8) (body : Act α) : Act α := do
  let before := (← get).stdin
  modify fun session => { session with stdin := input }
  let restore : Act Unit :=
    modify fun session => { session with stdin := before }
  let result ← tryCatch body fun halt => do
    restore
    throw halt
  restore
  pure result

/-- Runs something whose output goes into a pipe, and takes all of that. -/
def intoPipe (body : Act Unit) : Act (List UInt8) := do
  let number ← fresh
  modify fun session => { session with pipes := (number, []) :: session.pipes }
  let shell ← shell
  let ending ← asProcess { shell with stdout := .pipe number } do
    body
    return (← Act.shell).status
  Shell.setStatus (statusOf ending)
  let session ← get
  set { session with pipes := session.pipes.filter fun pipe => pipe.1 != number }
  pure ((session.pipes.lookup number).getD []).reverse.flatten

/-- The line at the front of some bytes, whether it is whole, and the rest. -/
def firstLine (bytes : List UInt8) : List UInt8 × Bool × List UInt8 :=
  let line := bytes.takeWhile (· != 10)
  let rest := bytes.drop line.length
  (line, !rest.isEmpty, rest.tail)

/-- Gives names to the words of a line, all that is left to the last one. -/
def assignWords : List String → List Char → Act Unit
  | [], _ => pure ()
  | [name], letters => do
      let text := (letters.reverse.dropWhile Shell.isBlank).reverse
      changeShell (Shell.setValue name (String.ofList text))
  | name :: names, letters => do
      let word := letters.takeWhile fun c => !Shell.isBlank c
      changeShell (Shell.setValue name (String.ofList word))
      assignWords names ((letters.drop word.length).dropWhile Shell.isBlank)

def readLine (names : List String) : Act Nat := do
  let (line, whole, rest) := firstLine (← get).stdin
  modify fun session => { session with stdin := rest }
  let letters := (Text.Utf8.decode line).toList
  assignWords (names.filter (· != "-r")) (letters.dropWhile Shell.isBlank)
  pure (if whole then 0 else 1)

def changeDirectory (path : String) : Act Nat := do
  let session ← get
  let directory := session.shell.directory
  let target := do
    let place ← session.files.resolve directory path
    let _ ← session.files.entriesAt place
    pure place
  match target with
  | .error _ =>
      Shell.warn s!"cd: can't cd to {path}"
      pure 2
  | .ok place =>
      changeShell fun shell =>
        { (shell.exportValue "OLDPWD" (FileTree.pathOf directory)).exportValue "PWD"
            (FileTree.pathOf place) with directory := place }
      pure 0

/-- The status that a command such as `exit` is given, or the last one. -/
def givenStatus (arguments : List String) : Act Nat := do
  match arguments with
  | [] => return (← shell).status
  | text :: _ => pure ((text.toNat?).getD 2)

/-- The commands that a shell has built in and that start nothing. -/
def builtIns : List (String × Program) :=
  [(":", fun _ => pure 0),
    ("true", fun _ => pure 0),
    ("false", fun _ => pure 1),
    ("echo", Programs.echoBuiltIn),
    ("printf", Programs.printf),
    ("test", Programs.test),
    ("[", Programs.bracket),
    ("pwd", Programs.pwd),
    ("kill", Programs.kill),
    ("umask", fun _ => pure 0),
    ("trap", fun arguments => do
      match arguments with
      | "" :: names =>
          changeShell fun shell =>
            { shell with
              ignored := names.filterMap Programs.signal? ++ shell.ignored }
      | _ => pure ()
      pure 0),
    ("read", readLine),
    ("break", fun _ => throw .leaveLoop),
    ("continue", fun _ => throw .nextRound),
    ("exit", fun arguments => do throw (.exit (← givenStatus arguments))),
    ("cd", fun arguments => do
      match arguments with
      | [] => changeDirectory (((← shell).value? "HOME").getD "/")
      | "-" :: _ => changeDirectory (((← shell).value? "OLDPWD").getD "/")
      | path :: _ => changeDirectory path),
    ("export", fun arguments => do
      for argument in arguments do
        match argument.splitOn "=" with
        | [name] =>
            let value := ((← shell).value? name).getD ""
            changeShell (Shell.exportValue name value)
        | name :: rest => changeShell (Shell.exportValue name ("=".intercalate rest))
        | [] => pure ()
      pure 0),
    ("unset", fun arguments => do
      changeShell fun shell =>
        { shell with bindings := shell.bindings.filter fun one =>
            !arguments.contains one.1 }
      pure 0),
    ("shift", fun _ => do
      changeShell fun shell => { shell with arguments := shell.arguments.tail }
      pure 0),
    ("set", fun arguments => do
      match arguments with
      | "--" :: rest => changeShell fun shell => { shell with arguments := rest }
      | _ => pure ()
      pure 0),
    ("wait", fun _ => do
      let session ← get
      let last := session.jobs.foldl max session.moment
      spend (last - session.moment)
      pure 0)]

/-- The outlet that a name or number after a redirection stands for. -/
def outletOf (shell : Shell) : String → Option Outlet
  | "1" | "/dev/stdout" => some shell.stdout
  | "2" | "/dev/stderr" => some shell.stderr
  | "-" | "/dev/null" => some .null
  | _ => none

/-- Gives the stream with a number another outlet. -/
def setOutlet (number : Nat) (outlet : Outlet) : Act Unit :=
  changeShell fun shell =>
    match number with
    | 1 => { shell with stdout := outlet }
    | 2 => { shell with stderr := outlet }
    | _ => shell

def redirect (number : Nat) (operator target : String) : Act Bool := do
  let session ← get
  let shell := session.shell
  let place := session.files.resolve shell.directory target
  let refuse (error : SystemError) : Act Bool := do
    let reason :=
      match error with
      | .noEntry => if operator = "<" then "No such file" else "Directory nonexistent"
      | error => error.words
    let verb := if operator = "<" then "open" else "create"
    Shell.warn s!"cannot {verb} {target}: {reason}"
    pure false
  match operator with
  | "<" =>
      match place >>= session.files.read with
      | .error error => refuse error
      | .ok content =>
          set { session with stdin := content }
          pure true
  | ">&" =>
      match outletOf shell target with
      | some outlet =>
          setOutlet number outlet
          pure true
      | none =>
          Shell.warn "Bad fd number"
          pure false
  | _ =>
      match outletOf shell target with
      | some outlet =>
          setOutlet number outlet
          pure true
      | none =>
          let refused ← changeFiles fun now files => do
            let place ← place
            let before := if operator = ">>" then files.read place else .ok []
            files.write now place (before.toOption.getD [])
          match refused, place with
          | none, .ok place =>
              setOutlet number (.file place)
              pure true
          | some error, _ | none, .error error => refuse error

def trimEnd (longest : Bool) (pattern : Shell.Field) (letters : List Char) :
    List Char :=
  let cuts := (List.range (letters.length + 1)).filter fun kept =>
    pattern.covers (letters.drop kept)
  match if longest then cuts.head? else cuts.getLast? with
  | some kept => letters.take kept
  | none => letters

def trimStart (longest : Bool) (pattern : Shell.Field) (letters : List Char) :
    List Char :=
  let cuts := (List.range (letters.length + 1)).filter fun cut =>
    pattern.covers (letters.take cut)
  match if longest then cuts.getLast? else cuts.head? with
  | some cut => letters.drop cut
  | none => letters

/-- Marks as a pattern that is matched with a text. -/
def patternOf (marks : List Shell.Mark) : Shell.Field :=
  marks.filterMap fun mark =>
    match mark with
    | .letter c quoted => some (c, quoted)
    | .loose c => some (c, false)
    | .hold | .bound => none

/-- A tilde that starts a word stands for the home directory. -/
def homely (home : Option String) : List Shell.Mark → List Shell.Mark
  | .letter '~' false :: rest =>
      let ends : Bool :=
        match rest with
        | [] | .letter '/' _ :: _ => true
        | _ => false
      match home with
      | some home =>
          if ends then home.toList.map (.letter · true) ++ rest
          else .letter '~' false :: rest
      | none => .letter '~' false :: rest
  | marks => marks

mutual

def expandPiece : (fuel : Nat) → Shell.Piece → Act (List Shell.Mark)
  | 0, _ => exhaust
  | _ + 1, .text content quoted =>
      pure ((if quoted then [.hold] else []) ++
        content.toList.map (.letter · quoted))
  | fuel + 1, .command source quoted => do
      let bytes ← intoPipe (runText fuel source)
      let letters := (Text.Utf8.decode bytes).toList.reverse
      let text := String.ofList (letters.dropWhile (· == '\n')).reverse
      pure (Shell.Mark.ofText quoted text)
  | fuel + 1, .value source quoted => do
      let marks ← expandWord fuel (Shell.wordOf true source)
      let shell ← shell
      let lookup (name : String) : Int :=
        (((shell.value? name).getD "").toInt?).getD 0
      match Shell.Arithmetic.value? lookup (Shell.Mark.text marks) with
      | some value => pure (Shell.Mark.ofText quoted (toString value))
      | none =>
          Shell.warn "arithmetic expression: expecting primary"
          throw (.exit 2)
  | fuel + 1, .variable name operator operand quoted => do
      let shell ← shell
      let value := shell.value? name
      let isSet : Bool := value.any fun text => text != "" || !operator.startsWith ":"
      let alternative : Act (List Shell.Mark) := do
        expandWord fuel (Shell.wordOf quoted operand)
      let own : List Shell.Mark :=
        if name = "@" && quoted then
          (shell.arguments.map (Shell.Mark.ofText true)).intersperse [.bound]
            |>.flatten
        else Shell.Mark.ofText quoted (value.getD "")
      match operator with
      | "" => pure own
      | "length" => pure (Shell.Mark.ofText quoted (toString (value.getD "").length))
      | "-" | ":-" => if isSet then pure own else alternative
      | "+" | ":+" => if isSet then alternative else pure []
      | "=" | ":=" =>
          if isSet then pure own
          else do
            let marks ← alternative
            changeShell (Shell.setValue name (Shell.Mark.text marks))
            pure marks
      | "?" | ":?" =>
          if isSet then pure own
          else do
            let text := Shell.Mark.text (← alternative)
            Shell.warn s!"{name}: {text}"
            throw (.exit 2)
      | _ => do
          let pattern := patternOf (← alternative)
          let letters := (value.getD "").toList
          let trimmed :=
            match operator with
            | "%" => trimEnd false pattern letters
            | "%%" => trimEnd true pattern letters
            | "#" => trimStart false pattern letters
            | _ => trimStart true pattern letters
          pure (Shell.Mark.ofText quoted (String.ofList trimmed))

def expandWord : (fuel : Nat) → Shell.Word → Act (List Shell.Mark)
  | 0, _ => exhaust
  | _ + 1, [] => pure []
  | fuel + 1, piece :: rest => do
      let first ← expandPiece fuel piece
      let more ← expandWord fuel rest
      pure (first ++ more)

/-- The text that a word stands for where it is not split. -/
def expandText : (fuel : Nat) → Shell.Word → Act String
  | 0, _ => exhaust
  | fuel + 1, word => do
      let marks ← expandWord fuel word
      return Shell.Mark.text (homely ((← shell).value? "HOME") marks)

def expandWords : (fuel : Nat) → List Shell.Word → Act (List String)
  | 0, _ => exhaust
  | _ + 1, [] => pure []
  | fuel + 1, word :: rest => do
      let marks ← expandWord fuel word
      let session ← get
      let marks := homely (session.shell.value? "HOME") marks
      let first := (Shell.Mark.fields none marks).flatMap fun field =>
        field.expand session.files session.shell.directory
      let more ← expandWords fuel rest
      pure (first ++ more)

def redirectAll : (fuel : Nat) → List Shell.Redirect → Act Bool
  | 0, _ => exhaust
  | _ + 1, [] => pure true
  | fuel + 1, one :: rest => do
      let target ← expandText fuel one.target
      if ← redirect one.number one.operator target then redirectAll fuel rest
      else pure false

/-- Runs something with redirections; the streams are as before when it ends. -/
def withRedirects : (fuel : Nat) → List Shell.Redirect → Act Unit → Act Unit
  | 0, _, _ => exhaust
  | fuel + 1, redirects, body => do
      let before ← get
      let restore : Act Unit :=
        changeShell fun shell =>
          { shell with
            stdout := before.shell.stdout, stderr := before.shell.stderr }
      let act : Act Unit := do
        if ← redirectAll fuel redirects then body
        else Shell.setStatus 2
      tryCatch
        (if redirects.any fun one => one.operator = "<" then
          withInput before.stdin act
        else act)
        fun halt => do
          restore
          throw halt
      restore

def assignAll (exporting : Bool) :
    (fuel : Nat) → List (String × Shell.Word) → Act Unit
  | 0, _ => exhaust
  | _ + 1, [] => pure ()
  | fuel + 1, (name, word) :: rest => do
      let value ← expandText fuel word
      changeShell fun shell =>
        if exporting || shell.exported.contains name then
          shell.exportValue name value
        else shell.setValue name value
      assignAll exporting fuel rest

def runScript : (fuel : Nat) → Shell.Script → Act Unit
  | 0, _ => exhaust
  | _ + 1, .nothing => pure ()
  | fuel + 1, .sequence first second => do
      runScript fuel first
      runScript fuel second
  | fuel + 1, .both first second => do
      runScript fuel first
      if (← shell).status = 0 then runScript fuel second
  | fuel + 1, .either first second => do
      runScript fuel first
      if (← shell).status != 0 then runScript fuel second
  | fuel + 1, .negated body => do
      runScript fuel body
      Shell.setStatus (if (← shell).status = 0 then 1 else 0)
  | fuel + 1, .pipe first second => do
      let bytes ← withInput (← get).stdin (intoPipe (runScript fuel first))
      let shell ← shell
      let ending ← withInput bytes (asProcess shell do
        runScript fuel second
        return (← Act.shell).status)
      Shell.setStatus (statusOf ending)
  | fuel + 1, .background body => do
      let before ← get
      let job : Act Unit := do
        let _ ← withInput [] (asProcess before.shell do
          runScript fuel body
          return (← shell).status)
      tryCatch job fun _ => pure ()
      modify fun session =>
        { session with
          moment := before.moment
          stdin := before.stdin
          shell := { before.shell with status := 0 }
          jobs := session.moment :: session.jobs }
  | fuel + 1, .group false body redirects =>
      withRedirects fuel redirects (runScript fuel body)
  | fuel + 1, .group true body redirects =>
      withRedirects fuel redirects do
        let shell ← shell
        let ending ← asProcess shell do
          runScript fuel body
          return (← Act.shell).status
        match ending with
        | .exited code => Shell.setStatus code
        | .killed signal => throw (.signal signal)
  | fuel + 1, .choose test yes no => do
      runScript fuel test
      if (← shell).status = 0 then runScript fuel yes
      else
        Shell.setStatus 0
        runScript fuel no
  | fuel + 1, .loop holds test body => do
      runScript fuel test
      if ((← shell).status == 0) == holds then
        let goesOn ← tryCatch (do runScript fuel body; pure true) fun halt =>
          match halt with
          | .leaveLoop => pure false
          | .nextRound => pure true
          | halt => throw halt
        if goesOn then runScript fuel (.loop holds test body)
      else Shell.setStatus 0
  | fuel + 1, .each name words body => do
      let values ←
        match words with
        | some words => expandWords fuel words
        | none => return (← runEach fuel name (← shell).arguments body)
      runEach fuel name values body
  | fuel + 1, .simple assignments words redirects => do
      let arguments ← expandWords fuel words
      match arguments with
      | [] =>
          assignAll false fuel assignments
          withRedirects fuel redirects (Shell.setStatus 0)
      | name :: arguments =>
          runCommand fuel assignments redirects name arguments

def runEach : (fuel : Nat) → String → List String → Shell.Script → Act Unit
  | 0, _, _, _ => exhaust
  | _ + 1, _, [], _ => pure ()
  | fuel + 1, name, value :: rest, body => do
      changeShell (Shell.setValue name value)
      let goesOn ← tryCatch (do runScript fuel body; pure true) fun halt =>
        match halt with
        | .leaveLoop => pure false
        | .nextRound => pure true
        | halt => throw halt
      if goesOn then runEach fuel name rest body

def runCommand : (fuel : Nat) → List (String × Shell.Word) →
    List Shell.Redirect → String → List String → Act Unit
  | 0, _, _, _, _ => exhaust
  | fuel + 1, assignments, redirects, name, arguments => do
      if name = "exec" then
        if arguments.isEmpty then
          if !(← redirectAll fuel redirects) then throw (.exit 2)
        else
          assignAll true fuel assignments
          withRedirects fuel redirects (replace fuel arguments)
      else if name = "eval" then
        withRedirects fuel redirects (runText fuel (" ".intercalate arguments))
      else
        match builtIns.lookup name with
        | some builtIn =>
            assignAll false fuel assignments
            withRedirects fuel redirects do
              spend 1000
              let status ← builtIn arguments
              Shell.setStatus status
        | none =>
            let before := (← get).shell
            assignAll true fuel assignments
            withRedirects fuel redirects (start fuel (name :: arguments))
            changeShell fun shell => { before with status := shell.status }

/-- Starts a program as a process of its own and waits for it. -/
def start : (fuel : Nat) → List String → Act Unit
  | 0, _ => exhaust
  | fuel + 1, argv => do
      let session ← get
      let shell := session.shell
      let name := argv.headD ""
      match image session.files shell.directory (shell.value? "PATH") name with
      | .error .denied =>
          Shell.warn s!"{name}: Permission denied"
          Shell.setStatus 126
      | .error _ =>
          Shell.warn s!"{name}: not found"
          Shell.setStatus 127
      | .ok tree =>
          let pid ← fresh
          let ending ←
            asProcess (shell.ofEnvironment shell.environment argv pid) do
              runImage fuel tree argv
          Shell.setStatus (statusOf ending)

/-- Goes on as another program in the same process. -/
def replace : (fuel : Nat) → List String → Act Unit
  | 0, _ => exhaust
  | fuel + 1, argv => do
      let session ← get
      let shell := session.shell
      let name := argv.headD ""
      match image session.files shell.directory (shell.value? "PATH") name with
      | .error error =>
          let reason :=
            match error with
            | .denied => "Permission denied"
            | _ => "not found"
          Shell.warn s!"exec: {name}: {reason}"
          throw (.exit (if error = .denied then 126 else 127))
      | .ok tree =>
          changeShell fun shell =>
            shell.ofEnvironment shell.environment argv shell.pid
          throw (.exit (← runImage fuel tree argv))

/-- What a program that was found does in its process. -/
def runImage : (fuel : Nat) → FileTree → List String → Act Nat
  | 0, _, _ => exhaust
  | fuel + 1, tree, argv => do
      spend 1000000
      match tree with
      | .program "sh" => runShell fuel argv.tail
      | .program "env" => runEnvironment fuel argv.tail
      | .program name =>
          match Programs.table.lookup name with
          | some program => program argv.tail
          | none => pure 0
      | .file _ content =>
          match interpreter? content with
          | some words =>
              let session ← get
              match imageAt session.files session.shell.directory
                  (words.headD "") with
              | .ok tree => runImage fuel tree (words ++ argv)
              | .error _ => pure 127
          | none => runShell fuel argv
      | _ => pure 126

def runText : (fuel : Nat) → String → Act Unit
  | 0, _ => exhaust
  | fuel + 1, text =>
      match Shell.Script.parse text with
      | .ok script => runScript fuel script
      | .error error => do
          Shell.warn error.message
          throw (.exit 2)

def runShell : (fuel : Nat) → List String → Act Nat
  | 0, _ => exhaust
  | fuel + 1, arguments => do
      changeShell fun shell =>
        shell.exportValue "PWD" (FileTree.pathOf shell.directory)
      let finish (text : String) (name : String) (rest : List String) : Act Nat := do
        changeShell fun shell => { shell with name, arguments := rest }
        runText fuel text
        return (← shell).status
      match arguments with
      | "-c" :: text :: name :: rest => finish text name rest
      | ["-c", text] => finish text (← shell).name []
      | "-c" :: _ =>
          Shell.warn "-c requires an argument"
          pure 2
      | path :: rest =>
          match ← Programs.contentOf path with
          | .ok content => finish (Text.Utf8.decode content) path rest
          | .error _ =>
              Shell.warn s!"cannot open {path}: No such file"
              pure 2
      | [] => finish (Text.Utf8.decode (← takeInput)) (← shell).name []

/-- `env`: prints the environment, or runs a program in a changed one. -/
def runEnvironment : (fuel : Nat) → List String → Act Nat
  | 0, _ => exhaust
  | _ + 1, [] => do
      let shell ← shell
      say (String.join (shell.bindings.map fun one => one.1 ++ "=" ++ one.2 ++ "\n"))
      pure 0
  | fuel + 1, "-i" :: rest | fuel + 1, "-" :: rest => do
      changeShell fun shell => { shell with bindings := [], exported := [] }
      runEnvironment fuel rest
  | fuel + 1, "-u" :: name :: rest => do
      changeShell fun shell =>
        { shell with bindings := shell.bindings.filter fun one => one.1 != name }
      runEnvironment fuel rest
  | fuel + 1, argument :: rest => do
      match argument.splitOn "=" with
      | name :: value@(_ :: _) =>
          changeShell fun shell =>
            { shell with
              bindings := shell.bindings.filter (fun one => one.1 != name) ++
                [(name, "=".intercalate value)]
              exported := name :: shell.exported }
          runEnvironment fuel rest
      | _ =>
          let session ← get
          let shell := session.shell
          match image session.files shell.directory (shell.value? "PATH")
              argument with
          | .error error =>
              complain s!"env: '{argument}': {error.words}"
              pure (if error = .denied then 126 else 127)
          | .ok tree =>
              changeShell fun shell =>
                { shell with name := argument, arguments := rest }
              runImage fuel tree (argument :: rest)

end

end PlanGuard.Workbench
