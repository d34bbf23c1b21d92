import PlanGuard.Settings
import PlanGuard.Settings.Conversion
import PlanGuard.Settings.Environment
import PlanGuard.Settings.FromJson
import PlanGuard.Toml.Reading

/-!
# Loading the settings

Settings come in layers: the defaults of the program, a local file that may be
missing, a file that is asked for, and the environment.  Each layer overrides
the ones before it, key by key.  Files may be in several formats.  Readers for two of
them, TOML and JSON, are part of this library; any list of formats with their readers
can be given instead, in the order in which their endings are tried.
-/

namespace PlanGuard

/-- A set of named values that overrides what came before it. -/
abbrev Layer := List (String × Setting)

/-- A way to read the texts of files by their paths. -/
abbrev TextFiles := String → Option String

/-- Files with their texts, by their paths from the working directory. -/
abbrev Files := List (String × String)

namespace Files

/-- The steps of a path, where `.` stays and `..` goes back. -/
def steps (path : String) : List String :=
  (partsOf '/' path).foldl
    (fun steps step =>
      if step = "" || step = "." then steps
      else if step = ".." then steps.dropLast
      else steps ++ [step]) []

def read? (files : Files) : TextFiles := fun path =>
  if path.startsWith "/" || path.endsWith "/" then none
  else (files.find? fun file => steps file.1 == steps path).map (·.2)

end Files

inductive LoadError where
  /-- A layer could not be read. -/
  | unreadable
  /-- The layers together do not make settings. -/
  | unsuitable
  deriving DecidableEq

def LoadError.message : LoadError → String
  | .unreadable => "Failed to build configuration"
  | .unsuitable => "Failed to deserialize configuration"

/-- A format of settings: the endings of the names of its files, and how it is read. -/
structure TextFormat where
  endings : List String
  read : String → Option Layer

namespace TextFormat

def toml : TextFormat :=
  { endings := ["toml"], read := Toml.parse }

def json : TextFormat :=
  { endings := ["json"], read := Setting.ofJson? }

/-- The formats that this library has readers for. -/
def known : List TextFormat :=
  [toml, json]

end TextFormat

namespace Layer

/-- What the program starts from. -/
def embedded : Layer :=
  [("executor", .table
      [("timeout_secs", .integer 30),
        ("max_output_bytes", .integer 524288),
        ("fallback_path", .text "/usr/sbin:/usr/bin:/sbin:/bin")]),
    ("sandbox", .table
      [("limits", .table
        [("max_execution_secs", .integer 30),
          ("poll_interval_ms", .integer 250)])]),
    ("policy", .table
      [("allow", .list []),
        ("deny", .list
          [.text "^rm\\s+-rf\\s+/",
            .text "^mtd\\s+(erase|write)",
            .text "^firstboot",
            .text "^dd\\s"])]),
    ("retry", .table
      [("enabled", .flag false),
        ("max_retries", .integer 2),
        ("max_commands", .integer 20),
        ("fix_timeout_secs", .integer 30)])]

/-- What may stand in front of a text to mark it as Unicode is passed over. -/
def withoutMark (text : String) : String :=
  match text.toList with
  | '\uFEFF' :: rest => String.ofList rest
  | _ => text

def ending (path : String) : String :=
  match partsOf '.' ((Files.steps path).getLast?.getD "") with
  | [] | [_] => ""
  | [first, last] => if first = "" then "" else last
  | _ :: rest => rest.getLast?.getD ""

/-- The file at a path, or at the path with one of the endings after it. -/
def find? (formats : List TextFormat) (files : TextFiles) (path : String) :
    Option (String × TextFormat) :=
  match files path with
  | some text =>
      (formats.find? fun format => format.endings.contains (ending path)).map (text, ·)
  | none =>
      formats.findSome? fun format =>
        format.endings.findSome? fun ending =>
          (files (path ++ "." ++ ending)).map (·, format)

/-- The layer of the file at a path; a required file has to be there. -/
def ofFile (formats : List TextFormat) (files : TextFiles) (required : Bool)
    (path : String) : Except LoadError Layer :=
  match find? formats files path with
  | none => if required then .error .unreadable else .ok []
  | some (text, format) =>
      match format.read (withoutMark text) with
      | some layer => .ok layer
      | none => .error .unreadable

def merge (layers : List Layer) : Setting :=
  layers.foldl Setting.overlay (.table [])

end Layer

namespace Settings

def localPath : String := "config/local"

def ofLayers (layers : List Layer) : Except LoadError Settings :=
  match Settings.decode Setting.source (Layer.merge layers) with
  | .ok settings => .ok settings
  | .error _ => .error .unsuitable

/-- The settings for some files, an environment and an optional path. -/
def load (files : TextFiles) (environment : List (String × String))
    (path : Option String) (formats : List TextFormat := TextFormat.known) :
    Except LoadError Settings := do
  let localLayer ← Layer.ofFile formats files false localPath
  let chosen ←
    match path with
    | none => pure []
    | some path => Layer.ofFile formats files true path
  ofLayers [Layer.embedded, localLayer, chosen, Environment.layer environment]

end Settings

end PlanGuard
