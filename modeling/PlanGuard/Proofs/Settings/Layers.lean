import Mathlib
import PlanGuard.Proofs.Settings.Keys

/-!
# Which layer decides a key

In each layer sections are tables, and what it says about a key can be read for it.  Then
there are settings, and every one of their keys has the value of the last layer that says
anything about it, whatever the layers say about other keys of its section or of another.
-/

namespace PlanGuard

open Settings (keys sections)

/-- A value that is read from what is given, or the default, is one value. -/
theorem Took.unique {α : Type} {convert : Setting → Except Unsuitable α}
    {given : Option Setting} {default one other : α} (took : Took convert given default one)
    (also : Took convert given default other) : one = other := by
  cases given with
  | none => exact took.trans also.symm
  | some setting => exact Except.ok.inj (took.symm.trans also)

theorem Took.eq_of_read {α : Type} {convert : Setting → Except Unsuitable α}
    {given : Option Setting} {default value read : α} (took : Took convert given default value)
    (reads : (given.bind fun setting => (convert setting).toOption) = some read) :
    value = read := by
  cases given with
  | none => cases reads
  | some setting =>
      rw [Option.bind_some, show convert setting = .ok value from took] at reads
      exact Option.some.inj reads

/-! ## Typed layers -/

/-- Sections are tables, and whatever is said about a key can be read for it. -/
def Layer.Typed (layer : Layer) : Prop :=
  ∀ key ∈ keys, layer.Agrees key.Fits key.path

instance (layer : Layer) : Decidable layer.Typed :=
  inferInstanceAs (Decidable (∀ key ∈ keys, layer.Agrees key.Fits key.path))

theorem Layer.embedded_typed : embedded.Typed := by
  decide +kernel

namespace Settings

/-- Nothing is read from a table but a section. -/
theorem not_isTable_of_fits :
    ∀ key ∈ keys, ∀ setting, key.Fits setting → ¬setting.IsTable := by
  simp only [forall_keys, ExecutorSettings.slots, Sandbox.Limits.slots, PolicySettings.slots,
    RetrySettings.slots, SandboxSettings.rootSlot, List.forall_mem_cons, Slot.key]
  refine ⟨⟨?_, ?_, ?_, ?_, List.forall_mem_nil _⟩, ?_,
    ⟨?_, ?_, ?_, ?_, List.forall_mem_nil _⟩, ⟨?_, ?_, List.forall_mem_nil _⟩,
    ⟨?_, ?_, ?_, ?_, List.forall_mem_nil _⟩⟩
  all_goals
    rintro _ fits ⟨members, rfl⟩
    cases fits

theorem path_ne_nil : ∀ key ∈ keys, key.path ≠ [] := by
  decide

theorem exists_key_of_section :
    ∀ path ∈ sections, ∃ key ∈ keys, ∃ name, key.path = path ++ [name] := by
  have parents : ∀ path ∈ sections, ∃ key ∈ keys, key.path.dropLast = path := by
    decide +kernel
  intro path isSection
  obtain ⟨key, listed, rfl⟩ := parents path isSection
  exact ⟨key, listed, key.path.getLast (path_ne_nil key listed),
    (List.dropLast_concat_getLast _).symm⟩

/-- The last of several layers that says anything about a key decides it. -/
theorem getPath?_key {layers : List Layer} (typed : ∀ layer ∈ layers, layer.Typed) (key : Key)
    (listed : key ∈ keys) :
    (Layer.merge layers).getPath? key.path =
      layers.reverse.findSome? (Layer.said? key.path) := by
  obtain ⟨name, rest, path⟩ := List.exists_cons_of_ne_nil (path_ne_nil key listed)
  have agree (layer : Layer) (member : layer ∈ layers) : layer.Agrees key.Fits (name :: rest) :=
    path ▸ typed layer member key listed
  rw [path]
  exact Layer.getPath?_merge (not_isTable_of_fits key listed) agree

theorem readable_merge {layers : List Layer} (typed : ∀ layer ∈ layers, layer.Typed) :
    Readable (Layer.merge layers) where
  tidy path isSection := by
    obtain ⟨key, listed, name, ended⟩ := exists_key_of_section path isSection
    apply Layer.tidyAlong_merge
    intro layer member
    have agrees := typed layer member key listed
    rw [ended] at agrees
    exact agrees.above
  fits key listed setting here := by
    rw [getPath?_key typed key listed] at here
    obtain ⟨layer, member, said⟩ := List.exists_of_findSome?_eq_some here
    exact (typed layer (List.mem_reverse.mp member) key listed).fits_of_said said

/-- Typed layers make settings, in which each key is decided by the last that mentions it. -/
theorem ofLayers_took {layers : List Layer} (typed : ∀ layer ∈ layers, layer.Typed) :
    ∃ settings, ofLayers layers = .ok settings ∧
      ∀ key ∈ keys,
        key.Took (layers.reverse.findSome? (Layer.said? key.path)) settings := by
  obtain ⟨settings, decoded, took⟩ := (readable_merge typed).decode_took
  refine ⟨settings, ?_, fun key listed => ?_⟩
  · rw [ofLayers, decoded]
  · rw [← getPath?_key typed key listed]
    exact took key listed

/-! ## Variables -/

end Settings

namespace Setting

theorem said?_atPath {path : List String} (lower : ∀ name ∈ path, name.toLower = name)
    (value : Setting) (rest : List String) :
    (atPath path value).said? (path ++ rest) = value.said? rest := by
  induction path with
  | nil => rfl
  | cons name path ih =>
      obtain ⟨first, others⟩ := List.forall_mem_cons.mp lower
      have inner := ih others
      simp only [List.cons_append, atPath, said?, Setting.members, List.reverse_singleton,
        List.findSome?_singleton, first, if_true, inner]

theorem said?_atPath_of_apart {path other : List String} (value : Setting)
    (lower : ∀ name ∈ path, name.toLower = name) (apart : ¬path <+: other)
    (also : ¬other <+: path) : (atPath path value).said? other = none := by
  induction path generalizing other with
  | nil => exact absurd List.nil_prefix apart
  | cons name path ih =>
      obtain ⟨first, others⟩ := List.forall_mem_cons.mp lower
      cases other with
      | nil => exact absurd List.nil_prefix also
      | cons next other =>
          simp only [atPath, said?, Setting.members, List.reverse_singleton,
            List.findSome?_singleton, first]
          split
          next same =>
            subst same
            rw [List.prefix_cons_inj] at apart also
            exact ih others apart also
          next => rfl

end Setting

namespace Key

def variableName (key : Key) : String :=
  "WRTPILOT_" ++ "__".intercalate (key.path.map String.toUpper)

theorem toList_variableName (key : Key) :
    key.variableName.toList = "WRTPILOT_".toList ++
      "__".toList.intercalate (key.path.map fun name => name.toList.map Char.toUpper) := by
  simp [variableName, String.toList_intercalate, String.toUpper, String.toList_map,
    Function.comp_def]

end Key

namespace Settings

theorem toList_toLower (text : String) : text.toLower.toList = text.toList.map Char.toLower :=
  String.toList_map

theorem settingName?_variableName :
    ∀ key ∈ keys,
      Environment.settingName? key.variableName = some (".".intercalate key.path) := by
  intro key listed
  rw [Environment.settingName?, toList_toLower, key.toList_variableName]
  revert key
  decide +kernel

theorem path_intercalate :
    ∀ key ∈ keys, Setting.path (".".intercalate key.path) = key.path := by
  decide +kernel

theorem toLower_of_mem_path : ∀ key ∈ keys, ∀ name ∈ key.path, name.toLower = name := by
  intro key listed name member
  rw [← String.toList_inj, toList_toLower]
  revert key name
  decide +kernel

/-- No key leads on to another one. -/
theorem not_begins_path :
    ∀ key ∈ keys, ∀ other ∈ keys, other.path ≠ key.path → ¬key.path <+: other.path := by
  decide +kernel

/-- A variable sets its own key, to what its text stands for, and no other key. -/
theorem said?_variable (key : Key) (listed : key ∈ keys) (other : Key)
    (alsoListed : other ∈ keys) (text : String) :
    Layer.said? other.path (Environment.layer [(key.variableName, text)]) =
      if other.path = key.path then some (Environment.value text) else none := by
  have alone : Environment.layer [(key.variableName, text)] =
      [(".".intercalate key.path, Environment.value text)] := by
    simp [Environment.layer, Environment.setting?, settingName?_variableName key listed]
  have lower := toLower_of_mem_path key listed
  rw [alone, Layer.said?, List.reverse_singleton, List.findSome?_singleton, Layer.tree,
    path_intercalate key listed]
  split
  next same =>
    have said := Setting.said?_atPath lower (Environment.value text) []
    rw [List.append_nil] at said
    rw [same]
    exact said
  next differs =>
    exact Setting.said?_atPath_of_apart _ lower
      (not_begins_path key listed other alsoListed differs)
      (not_begins_path other alsoListed key listed (Ne.symm differs))

end Settings

/-! ## Files -/

namespace Layer

/-- The layer that the text of a file makes, in the format of the file's ending. -/
inductive ReadFrom (formats : List TextFormat) (files : TextFiles) (path : String) :
    Layer → Prop where
  /-- The file at the path itself. -/
  | there {text : String} {format : TextFormat} {earlier later : List TextFormat}
      {layer : Layer} (found : files path = some text)
      (split : formats = earlier ++ format :: later)
      (others : ∀ other ∈ earlier, ending path ∉ other.endings)
      (named : ending path ∈ format.endings)
      (read : format.read (withoutMark text) = some layer) :
      ReadFrom formats files path layer
  /-- The first file at the path with an ending after it. -/
  | beside {text name : String} {format : TextFormat} {earlier later : List TextFormat}
      {before after : List String} {layer : Layer} (absent : files path = none)
      (split : formats = earlier ++ format :: later)
      (others : ∀ other ∈ earlier, ∀ ending ∈ other.endings,
        files (path ++ "." ++ ending) = none)
      (endings : format.endings = before ++ name :: after)
      (unseen : ∀ ending ∈ before, files (path ++ "." ++ ending) = none)
      (found : files (path ++ "." ++ name) = some text)
      (read : format.read (withoutMark text) = some layer) :
      ReadFrom formats files path layer

/-- There is no file for a path, or none with an ending that is known. -/
def Unfound (formats : List TextFormat) (files : TextFiles) (path : String) : Prop :=
  match files path with
  | some _ => ∀ format ∈ formats, ending path ∉ format.endings
  | none => ∀ format ∈ formats, ∀ ending ∈ format.endings, files (path ++ "." ++ ending) = none

section Files

variable {formats : List TextFormat} {files : TextFiles} {path : String}

theorem find?_of_unfound (unfound : Unfound formats files path) :
    find? formats files path = none := by
  unfold Unfound at unfound
  unfold find?
  cases found : files path with
  | some text =>
      rw [found] at unfound
      dsimp only at unfound ⊢
      rw [Option.map_eq_none_iff, List.find?_eq_none]
      intro format listed
      rw [List.contains_iff_mem]
      exact unfound format listed
  | none =>
      rw [found] at unfound
      dsimp only at unfound ⊢
      rw [List.findSome?_eq_none_iff]
      intro format listed
      rw [List.findSome?_eq_none_iff]
      intro ending known
      rw [unfound format listed ending known, Option.map_none]

theorem ofFile_of_unfound (unfound : Unfound formats files path) (required : Bool) :
    ofFile formats files required path =
      if required then .error .unreadable else .ok [] := by
  unfold ofFile
  rw [find?_of_unfound unfound]

theorem ofFile_of_found {text : String} {format : TextFormat} {layer : Layer}
    (found : find? formats files path = some (text, format))
    (read : format.read (withoutMark text) = some layer) (required : Bool) :
    ofFile formats files required path = .ok layer := by
  unfold ofFile
  rw [found]
  dsimp only
  rw [read]

theorem ofFile_of_readFrom {layer : Layer} (given : ReadFrom formats files path layer)
    (required : Bool) : ofFile formats files required path = .ok layer := by
  cases given with
  | @there text format earlier later _ found split others named read =>
      refine ofFile_of_found ?_ read required
      have first : formats.find? (fun format => format.endings.contains (ending path)) =
          some format := by
        rw [List.find?_eq_some_iff_append]
        refine ⟨List.contains_iff_mem.mpr named, earlier, later, split, ?_⟩
        intro other listed
        rw [Bool.not_eq_true', ← Bool.not_eq_true, List.contains_iff_mem]
        exact others other listed
      simp only [find?, found, first, Option.map_some]
  | @beside text name format earlier later before after _ absent split others endings unseen
      found read =>
      refine ofFile_of_found ?_ read required
      have passed : earlier.findSome? (fun format => format.endings.findSome? fun ending =>
          (files (path ++ "." ++ ending)).map (·, format)) = none := by
        rw [List.findSome?_eq_none_iff]
        intro other listed
        rw [List.findSome?_eq_none_iff]
        intro ending known
        rw [others other listed ending known, Option.map_none]
      have first : format.endings.findSome? (fun ending =>
          (files (path ++ "." ++ ending)).map (·, format)) = some (text, format) := by
        have skipped : before.findSome? (fun ending =>
            (files (path ++ "." ++ ending)).map (·, format)) = none := by
          rw [List.findSome?_eq_none_iff]
          intro ending known
          rw [unseen ending known, Option.map_none]
        rw [endings, List.findSome?_append, skipped, Option.none_or, List.findSome?_cons, found]
        rfl
      simp only [find?, absent]
      rw [split, List.findSome?_append, passed, Option.none_or, List.findSome?_cons, first]

end Files

end Layer

namespace Settings

/-! ## Loading -/

/-- Without the file that is asked for there are no settings. -/
theorem load_of_unfound {formats : List TextFormat} {files : TextFiles} {path : String}
    (unfound : Layer.Unfound formats files path) (environment : List (String × String)) :
    ∃ error, load files environment (some path) formats = .error error := by
  unfold load
  cases Layer.ofFile formats files false localPath with
  | error error => exact ⟨error, rfl⟩
  | ok ofLocal =>
      simp only [bind, Except.bind, Layer.ofFile_of_unfound unfound, if_true]
      exact ⟨.unreadable, rfl⟩

def localText : String :=
  "[policy]\nallow = [\"^uptime\"]\n[executor]\ntimeout_secs = 5\nmax_output_bytes = 100\n"

def localLayer : Layer :=
  [("policy", .table [("allow", .list [.text "^uptime"])]),
    ("executor", .table [("timeout_secs", .integer 5), ("max_output_bytes", .integer 100)])]

def routerText : String :=
  "[executor]\ntimeout_secs = 6\nmax_output_bytes = 200\n"

def routerLayer : Layer :=
  [("executor", .table [("timeout_secs", .integer 6), ("max_output_bytes", .integer 200)])]

def routerFiles : TextFiles := fun path =>
  if path = "config/local.toml" then some localText
  else if path = "router.toml" then some routerText
  else none

theorem read_localText :
    TextFormat.toml.read (Layer.withoutMark localText) = some localLayer := by
  cbv

theorem read_routerText :
    TextFormat.toml.read (Layer.withoutMark routerText) = some routerLayer := by
  cbv

end Settings

end PlanGuard
