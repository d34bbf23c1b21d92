/-!
# The command line

What a command line asks for.  Arguments are read one after another, and the
first that cannot be right makes the whole line a misuse, unless help was asked
for before it.  Values follow their option or are joined to it by an equals
sign; a value is never empty and never looks like an option.
-/

namespace PlanGuard.Cli

structure RunOptions where
  sandbox : Bool := false
  quiet : Bool := false
  json : Bool := false
  /-- The path of a table of fixes. -/
  fixes : Option String := none
  deriving DecidableEq

inductive Task where
  | check (plan : String)
  | run (plan : String) (options : RunOptions)
  deriving DecidableEq

inductive Topic where
  | program
  | check
  | run
  | help
  deriving DecidableEq

inductive Demand where
  /-- A task, with the path of a file of settings if one is named. -/
  | task (config : Option String) (task : Task)
  | version
  | help (topic : Topic)
  | misuse
  deriving DecidableEq

/-- The options and operands of a command as far as they have been read. -/
structure Reading where
  /-- Where the reader is: before the command, or after one of them. -/
  topic : Topic := .program
  /-- The settings named before the command, and after it. -/
  outer : Option String := none
  inner : Option String := none
  plan : Option String := none
  options : RunOptions := {}

namespace Reading

def demand (reading : Reading) : Demand :=
  let config := reading.inner.or reading.outer
  match reading.topic, reading.plan with
  | .check, some plan => .task config (.check plan)
  | .run, some plan => .task config (.run plan reading.options)
  | _, _ => .misuse

/-- Notes the path of the settings; each place takes one. -/
def setConfig (reading : Reading) (path : String) : Option Reading :=
  match reading.topic with
  | .program =>
      if reading.outer.isSome then none else some { reading with outer := some path }
  | _ =>
      if reading.inner.isSome then none else some { reading with inner := some path }

def setFixes (reading : Reading) (path : String) : Option Reading :=
  if reading.options.fixes.isSome then none
  else some { reading with options := { reading.options with fixes := some path } }

def operand (reading : Reading) (argument : String) : Option Reading :=
  match reading.topic, reading.plan with
  | .program, _ =>
      if argument = "check" then some { reading with topic := .check }
      else if argument = "run" then some { reading with topic := .run }
      else none
  | _, none => if argument = "" then none else some { reading with plan := some argument }
  | _, some _ => none

def setFlag (reading : Reading) (name : String) : Option Reading :=
  let options := reading.options
  match reading.topic with
  | .run =>
      match name with
      | "sandbox" =>
          if options.sandbox then none
          else some { reading with options := { options with sandbox := true } }
      | "quiet" =>
          if options.quiet then none
          else some { reading with options := { options with quiet := true } }
      | "json" =>
          if options.json then none
          else some { reading with options := { options with json := true } }
      | _ => none
  | _ => none

def setValue (reading : Reading) (name value : String) : Option Reading :=
  if value = "" then none
  else if name = "config" then reading.setConfig value
  else if name = "fixes" && reading.topic = .run then reading.setFixes value
  else none

/-- Options of one letter, given in a row. -/
def letters (reading : Reading) : List Char → Except Demand Reading
  | [] => .ok reading
  | 'h' :: _ => .error (.help reading.topic)
  | 'V' :: _ =>
      .error (if reading.topic = .program then .version else .misuse)
  | 'q' :: rest =>
      match reading.setFlag "quiet" with
      | some reading => letters reading rest
      | none => .error .misuse
  | _ :: _ => .error .misuse

def nameAndValue (letters : List Char) : String × Option String :=
  let name := letters.takeWhile (· != '=')
  (String.ofList name,
    match letters.drop name.length with
    | [] => none
    | _ :: value => some (String.ofList value))

/-- What an argument is, by its first letters. -/
inductive Shape where
  | operand
  | endOfOptions
  | long (name : String) (value : Option String)
  | short (letters : List Char)

def shape (argument : String) : Shape :=
  match argument.toList with
  | ['-', '-'] => .endOfOptions
  | '-' :: '-' :: rest => let (name, value) := nameAndValue rest; .long name value
  | '-' :: letter :: rest => .short (letter :: rest)
  | _ => .operand

/-- What follows an option that takes a value can be that value. -/
def canBeValue (argument : String) : Bool :=
  match shape argument with
  | .operand => true
  | _ => false

def helpTopic : List String → Demand
  | [] => .help .program
  | ["check"] => .help .check
  | ["run"] => .help .run
  | ["help"] => .help .help
  | _ => .misuse

def operands (reading : Reading) : List String → Demand
  | [] => reading.demand
  | argument :: rest =>
      if reading.topic = .program then .misuse
      else
        match reading.operand argument with
        | some reading => operands reading rest
        | none => .misuse

def read (reading : Reading) : List String → Demand
  | [] => reading.demand
  | argument :: rest =>
      let onward (next : Option Reading) : Demand :=
        match next with
        | some reading => read reading rest
        | none => .misuse
      match shape argument with
      | .endOfOptions => reading.operands rest
      | .short letters =>
          match reading.letters letters with
          | .ok reading => read reading rest
          | .error demand => demand
      | .operand =>
          if reading.topic = .program && argument = "help" then helpTopic rest
          else onward (reading.operand argument)
      | .long name (some value) => onward (reading.setValue name value)
      | .long "help" none => .help reading.topic
      | .long "version" none =>
          if reading.topic = .program then .version else .misuse
      | .long name none =>
          if name = "config" || name = "fixes" then
            match rest with
            | value :: rest =>
                if canBeValue value then
                  match reading.setValue name value with
                  | some reading => read reading rest
                  | none => .misuse
                else .misuse
            | [] => .misuse
          else onward (reading.setFlag name)

end Reading

def Demand.ofArguments (arguments : List String) : Demand :=
  Reading.read {} arguments

end PlanGuard.Cli
