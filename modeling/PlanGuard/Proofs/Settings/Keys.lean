import PlanGuard.Proofs.Settings.Overlay
import Mathlib.Data.List.Pairwise

/-!
# The keys of the settings

Each field of each section has a key: a path, and how a value at that path is read.  A
`Slot` is such a field within its own record.  From a tree in which sections are tables
with distinct names, a record is read slot by slot, each from the value under its own
name and from no other; a slot that has none keeps its default.
-/

namespace PlanGuard

/-- A value is read from what is given for it, or else is the default. -/
def Took {α : Type} (convert : Setting → Except Unsuitable α) (given : Option Setting)
    (default value : α) : Prop :=
  match given with
  | some setting => convert setting = .ok value
  | none => value = default

structure Slot (ρ : Type) where
  {α : Type}
  name : String
  convert : Setting → Except Unsuitable α
  get : ρ → α
  set : α → ρ → ρ

namespace Slot

variable {ρ : Type}

def field (slot : Slot ρ) : Field Setting Unsuitable ρ where
  name := slot.name
  put value record := do return slot.set (← slot.convert value) record

def Fits (slot : Slot ρ) (setting : Setting) : Prop :=
  (slot.convert setting).isOk = true

theorem Fits.exists_value {slot : Slot ρ} {setting : Setting} (fits : slot.Fits setting) :
    ∃ value, slot.convert setting = .ok value := by
  unfold Fits at fits
  cases converted : slot.convert setting with
  | ok value => exact ⟨value, rfl⟩
  | error fault => rw [converted] at fits; cases fits

/-- Two slots have different names and do not touch each other. -/
def Apart (first second : Slot ρ) : Prop :=
  first.name ≠ second.name ∧
    (∀ value record, first.get (second.set value record) = first.get record) ∧
    ∀ value record, second.get (first.set value record) = second.get record

instance : Std.Symm (@Apart ρ) where
  symm _ _ apart := ⟨apart.1.symm, apart.2.2, apart.2.1⟩

/-- Slots of one record: what is set is there, and nothing else is changed by it. -/
structure Lawful (slots : List (Slot ρ)) : Prop where
  get_set : ∀ slot ∈ slots, ∀ value record, slot.get (slot.set value record) = value
  apart : slots.Pairwise Apart

variable {slots : List (Slot ρ)}

theorem Lawful.apart_of_ne (lawful : Lawful slots) {first second : Slot ρ}
    (one : first ∈ slots) (other : second ∈ slots) (differ : first ≠ second) :
    Apart first second :=
  lawful.apart.forall one other differ

theorem Lawful.eq_of_name (lawful : Lawful slots) {first second : Slot ρ}
    (one : first ∈ slots) (other : second ∈ slots) (same : first.name = second.name) :
    first = second := by
  by_contra differ
  exact (lawful.apart_of_ne one other differ).1 same

theorem Lawful.putMembers_cons (lawful : Lawful slots) {slot : Slot ρ} (member : slot ∈ slots)
    {setting : Setting} {value : slot.α} (read : slot.convert setting = .ok value)
    (rest : List (String × Setting)) (record : ρ) :
    Setting.putMembers (slots.map field) ((slot.name, setting) :: rest) record =
      Setting.putMembers (slots.map field) rest (slot.set value record) := by
  have found : (slots.map field).find? (·.name == slot.name) = some slot.field := by
    obtain ⟨other, known⟩ : ∃ other, slots.find? (fun other => other.name == slot.name) =
        some other := by
      apply Option.isSome_iff_exists.mp
      rw [List.find?_isSome]
      exact ⟨slot, member, beq_self_eq_true _⟩
    have named : (other.name == slot.name) = true :=
      List.find?_some (p := fun other : Slot ρ => other.name == slot.name) known
    have same : other = slot :=
      lawful.eq_of_name (List.mem_of_find?_eq_some known) member (eq_of_beq named)
    rw [List.find?_map]
    exact (congrArg (Option.map field) known).trans (congrArg (some ∘ field) same)
  rw [Setting.putMembers, found]
  simp only [field, read, bind, Except.bind, pure, Except.pure]

theorem putMembers_cons_of_unknown {name : String}
    (unknown : ∀ slot ∈ slots, slot.name ≠ name) (setting : Setting)
    (rest : List (String × Setting)) (record : ρ) :
    Setting.putMembers (slots.map field) ((name, setting) :: rest) record =
      Setting.putMembers (slots.map field) rest record := by
  have absent : (slots.map field).find? (·.name == name) = none := by
    rw [List.find?_eq_none]
    intro other member
    obtain ⟨slot, listed, rfl⟩ := List.mem_map.mp member
    simpa [field] using unknown slot listed
  rw [Setting.putMembers, absent]

/--
Members with distinct names are put into the slots of their names, each of which can be
read from its own; the other slots keep what was in them.
-/
theorem Lawful.putMembers_took (lawful : Lawful slots) {members : List (String × Setting)}
    (distinct : Setting.Distinct members)
    (fits : ∀ slot ∈ slots, ∀ setting, members.lookup slot.name = some setting →
      slot.Fits setting) (before : ρ) :
    ∃ after, Setting.putMembers (slots.map field) members before = .ok after ∧
      ∀ slot ∈ slots,
        Took slot.convert (members.lookup slot.name) (slot.get before) (slot.get after) := by
  induction members generalizing before with
  | nil => exact ⟨before, rfl, fun slot member => rfl⟩
  | cons member rest ih =>
      obtain ⟨name, setting⟩ := member
      have others : Setting.Distinct rest := (List.nodup_cons.mp distinct).2
      have unread : rest.lookup name = none := distinct.lookup_rest
      have elsewhere {slot : Slot ρ} (apart : slot.name ≠ name) :
          List.lookup slot.name ((name, setting) :: rest) = rest.lookup slot.name := by
        rw [List.lookup_cons, beq_false_of_ne apart]
      have later (slot : Slot ρ) (listed : slot ∈ slots) (value : Setting)
          (found : rest.lookup slot.name = some value) : slot.Fits value := by
        refine fits slot listed value ?_
        rwa [elsewhere]
        rintro rfl
        rw [unread] at found
        cases found
      by_cases known : ∃ slot ∈ slots, slot.name = name
      · obtain ⟨slot, listed, rfl⟩ := known
        obtain ⟨value, read⟩ := (fits slot listed setting List.lookup_cons_self).exists_value
        obtain ⟨after, put, took⟩ := ih others later (slot.set value before)
        refine ⟨after, (lawful.putMembers_cons listed read rest before).trans put, ?_⟩
        intro other member
        by_cases same : other = slot
        · subst same
          have kept := took other member
          rw [unread] at kept
          rw [List.lookup_cons_self]
          exact read.trans (congrArg Except.ok
            ((lawful.get_set other member value before).symm.trans kept.symm))
        · have apart := lawful.apart_of_ne member listed same
          have kept := took other member
          rwa [apart.2.1, ← elsewhere apart.1] at kept
      · have unknown (slot : Slot ρ) (listed : slot ∈ slots) : slot.name ≠ name :=
          fun same => known ⟨slot, listed, same⟩
        obtain ⟨after, put, took⟩ := ih others later before
        refine ⟨after, (putMembers_cons_of_unknown unknown setting rest before).trans put, ?_⟩
        intro slot listed
        rw [elsewhere (unknown slot listed)]
        exact took slot listed

/-- A record is read from a tidy table slot by slot. -/
theorem Lawful.toRecord_took (lawful : Lawful slots) {setting : Setting}
    (tidy : setting.Tidy)
    (fits : ∀ slot ∈ slots, ∀ value, setting.get? slot.name = some value → slot.Fits value)
    (default : ρ) :
    ∃ record, Setting.toRecord (slots.map field) default setting = .ok record ∧
      ∀ slot ∈ slots,
        Took slot.convert (setting.get? slot.name) (slot.get default) (slot.get record) := by
  obtain ⟨members, rfl, distinct⟩ := tidy
  exact lawful.putMembers_took distinct fits default

end Slot

/-! ## Sections -/

namespace ExecutorSettings

def slots : List (Slot ExecutorSettings) :=
  [⟨"timeout_secs", Setting.toNatural bound64, timeoutSeconds,
      fun value settings => { settings with timeoutSeconds := value }⟩,
    ⟨"max_output_bytes", Setting.toNatural bound64, maxOutputBytes,
      fun value settings => { settings with maxOutputBytes := value }⟩,
    ⟨"elevation_command", Setting.toOptional Setting.toText, elevation,
      fun value settings => { settings with elevation := value }⟩,
    ⟨"fallback_path", Setting.toText, fallbackPath,
      fun value settings => { settings with fallbackPath := value }⟩]

theorem lawful : Slot.Lawful slots where
  get_set := by simp [slots]
  apart := by simp [slots, Slot.Apart]

end ExecutorSettings

namespace Sandbox.Limits

def slots : List (Slot Limits) :=
  [⟨"max_execution_secs", Setting.toNatural bound64, maxExecutionSeconds,
      fun value limits => { limits with maxExecutionSeconds := value }⟩,
    ⟨"max_memory_mb", Setting.toOptional (Setting.toNatural bound64), maxMemoryMb,
      fun value limits => { limits with maxMemoryMb := value }⟩,
    ⟨"max_cpu_percent", Setting.toOptional Setting.toSingle, maxCpuPercent,
      fun value limits => { limits with maxCpuPercent := value }⟩,
    ⟨"poll_interval_ms", Setting.toNatural bound64, pollIntervalMs,
      fun value limits => { limits with pollIntervalMs := value }⟩]

theorem lawful : Slot.Lawful slots where
  get_set := by simp [slots]
  apart := by simp [slots, Slot.Apart]

end Sandbox.Limits

namespace SandboxSettings

def rootSlot : Slot SandboxSettings :=
  ⟨"root", Setting.toOptional Setting.toText, root,
    fun value settings => { settings with root := value }⟩

def limitsSlot : Slot SandboxSettings :=
  ⟨"limits", Sandbox.Limits.decode Setting.source, limits,
    fun value settings => { settings with limits := value }⟩

theorem lawful : Slot.Lawful [rootSlot, limitsSlot] where
  get_set := by simp [rootSlot, limitsSlot]
  apart := by simp [rootSlot, limitsSlot, Slot.Apart]

end SandboxSettings

namespace PolicySettings

def slots : List (Slot PolicySettings) :=
  [⟨"allow", Setting.toTexts, allow, fun value settings => { settings with allow := value }⟩,
    ⟨"deny", Setting.toTexts, deny, fun value settings => { settings with deny := value }⟩]

theorem lawful : Slot.Lawful slots where
  get_set := by simp [slots]
  apart := by simp [slots, Slot.Apart]

end PolicySettings

namespace RetrySettings

def slots : List (Slot RetrySettings) :=
  [⟨"enabled", Setting.toFlag, enabled,
      fun value settings => { settings with enabled := value }⟩,
    ⟨"max_retries", Setting.toNatural bound32, maxRetries,
      fun value settings => { settings with maxRetries := value }⟩,
    ⟨"max_commands", Setting.toNatural bound64, maxCommands,
      fun value settings => { settings with maxCommands := value }⟩,
    ⟨"fix_timeout_secs", Setting.toNatural bound64, fixTimeoutSeconds,
      fun value settings => { settings with fixTimeoutSeconds := value }⟩]

theorem lawful : Slot.Lawful slots where
  get_set := by simp [slots]
  apart := by simp [slots, Slot.Apart]

end RetrySettings

/-- A field of the settings: where it is in a tree, how it is read, and where it is kept. -/
structure Key where
  {α : Type}
  path : List String
  convert : Setting → Except Unsuitable α
  get : Settings → α

namespace Key

def Fits (key : Key) (setting : Setting) : Prop :=
  (key.convert setting).isOk = true

instance (key : Key) : DecidablePred key.Fits :=
  fun setting => inferInstanceAs (Decidable ((key.convert setting).isOk = true))

/-- The settings have this key from what is given for it, or else the default. -/
def Took (key : Key) (given : Option Setting) (settings : Settings) : Prop :=
  PlanGuard.Took key.convert given (key.get {}) (key.get settings)

end Key

def Slot.key {ρ : Type} (front : List String) (outer : Settings → ρ) (slot : Slot ρ) : Key :=
  ⟨front ++ [slot.name], slot.convert, slot.get ∘ outer⟩

namespace Settings

def slots : List (Slot Settings) :=
  [⟨"executor", ExecutorSettings.decode Setting.source, executor,
      fun value settings => { settings with executor := value }⟩,
    ⟨"sandbox", SandboxSettings.decode Setting.source, sandbox,
      fun value settings => { settings with sandbox := value }⟩,
    ⟨"policy", PolicySettings.decode Setting.source, policy,
      fun value settings => { settings with policy := value }⟩,
    ⟨"retry", RetrySettings.decode Setting.source, retry,
      fun value settings => { settings with retry := value }⟩]

theorem lawful : Slot.Lawful slots where
  get_set := by simp [slots]
  apart := by simp [slots, Slot.Apart]

def keys : List Key :=
  ExecutorSettings.slots.map (Slot.key ["executor"] executor) ++
    [SandboxSettings.rootSlot.key ["sandbox"] sandbox] ++
    Sandbox.Limits.slots.map (Slot.key ["sandbox", "limits"] (·.sandbox.limits)) ++
    PolicySettings.slots.map (Slot.key ["policy"] policy) ++
    RetrySettings.slots.map (Slot.key ["retry"] retry)

def sections : List (List String) :=
  [["executor"], ["sandbox"], ["sandbox", "limits"], ["policy"], ["retry"]]

end Settings

/-! ## Reading a tree -/

namespace Setting

theorem getPath?_concat (path : List String) (name : String) (tree : Setting) :
    tree.getPath? (path ++ [name]) = (tree.getPath? path).bind (get? name) := by
  induction path generalizing tree with
  | nil => exact Option.bind_fun_some _
  | cons first path ih =>
      rw [List.cons_append, getPath?_cons, getPath?_cons, Option.bind_assoc]
      congr 1
      funext found
      exact ih found

theorem TidyAlong.at_end {path : List String} {tree found : Setting}
    (tidy : TidyAlong path tree) (here : tree.getPath? path = some found) : found.Tidy := by
  induction path generalizing tree with
  | nil =>
      obtain rfl := Option.some.inj here
      exact tidy
  | cons name path ih =>
      obtain ⟨next, first, rest⟩ := Option.bind_eq_some_iff.mp here
      exact ih (tidy.2 next first) rest

end Setting

structure Legible {ρ : Type} (slots : List (Slot ρ)) (front : List String)
    (tree : Setting) : Prop where
  tidy : ∀ found, tree.getPath? front = some found → found.Tidy
  fits : ∀ slot ∈ slots, ∀ setting, tree.getPath? (front ++ [slot.name]) = some setting →
    slot.Fits setting

namespace Legible

variable {ρ : Type} {slots : List (Slot ρ)} {front : List String} {tree : Setting}

theorem toRecord_took (legible : Legible slots front tree) (lawful : Slot.Lawful slots)
    {found : Setting} (here : tree.getPath? front = some found) (default : ρ) :
    ∃ record, Setting.toRecord (slots.map Slot.field) default found = .ok record ∧
      ∀ slot ∈ slots, Took slot.convert (tree.getPath? (front ++ [slot.name]))
        (slot.get default) (slot.get record) := by
  have under (name : String) : tree.getPath? (front ++ [name]) = found.get? name := by
    rw [Setting.getPath?_concat, here, Option.bind_some]
  simp only [under]
  apply lawful.toRecord_took (legible.tidy found here)
  intro slot listed setting given
  exact legible.fits slot listed setting ((under slot.name).trans given)

theorem isOk_toRecord (legible : Legible slots front tree) (lawful : Slot.Lawful slots)
    {found : Setting} (here : tree.getPath? front = some found) (default : ρ) :
    (Setting.toRecord (slots.map Slot.field) default found).isOk = true := by
  obtain ⟨record, read, -⟩ := legible.toRecord_took lawful here default
  rw [read]
  rfl

/-- In a record that was read from its path, each slot was. -/
theorem took (legible : Legible slots front tree) (lawful : Slot.Lawful slots)
    {default record : ρ}
    (read : Took (Setting.toRecord (slots.map Slot.field) default) (tree.getPath? front)
      default record) :
    ∀ slot ∈ slots, Took slot.convert (tree.getPath? (front ++ [slot.name]))
      (slot.get default) (slot.get record) := by
  cases here : tree.getPath? front with
  | none =>
      rw [here] at read
      obtain rfl : record = default := read
      intro slot listed
      rw [Setting.getPath?_concat, here]
      rfl
  | some found =>
      rw [here] at read
      obtain ⟨other, again, each⟩ := legible.toRecord_took lawful here default
      obtain rfl : record = other := Except.ok.inj (read.symm.trans again)
      exact each

end Legible

namespace Settings

theorem forall_keys {holds : Key → Prop} :
    (∀ key ∈ keys, holds key) ↔
      (∀ slot ∈ ExecutorSettings.slots, holds (slot.key ["executor"] executor)) ∧
      holds (SandboxSettings.rootSlot.key ["sandbox"] sandbox) ∧
      (∀ slot ∈ Sandbox.Limits.slots,
        holds (slot.key ["sandbox", "limits"] (·.sandbox.limits))) ∧
      (∀ slot ∈ PolicySettings.slots, holds (slot.key ["policy"] policy)) ∧
      ∀ slot ∈ RetrySettings.slots, holds (slot.key ["retry"] retry) := by
  simp only [keys, List.forall_mem_append, List.forall_mem_map, List.forall_mem_singleton,
    and_assoc]

/-- Sections are tidy tables, and what is at a key can be read. -/
structure Readable (tree : Setting) : Prop where
  tidy : ∀ path ∈ sections, Setting.TidyAlong path tree
  fits : ∀ key ∈ keys, ∀ setting, tree.getPath? key.path = some setting → key.Fits setting

/--
The settings are read from such a tree, and each key is taken from what the tree has at
its path, or else is the default.  The records are read from the inside out, the limits
before the section that they are in, and the slots are then known from the outside in.
-/
theorem Readable.decode_took {tree : Setting} (readable : Readable tree) :
    ∃ settings, decode Setting.source tree = .ok settings ∧
      ∀ key ∈ keys, key.Took (tree.getPath? key.path) settings := by
  obtain ⟨executorFits, rootFits, limitsFits, policyFits, retryFits⟩ :=
    forall_keys.mp readable.fits
  have tidy (path : List String) (isSection : path ∈ sections) (found : Setting)
      (here : tree.getPath? path = some found) : found.Tidy :=
    (readable.tidy path isSection).at_end here
  have executor : Legible ExecutorSettings.slots ["executor"] tree :=
    ⟨tidy _ (by simp [sections]), executorFits⟩
  have limits : Legible Sandbox.Limits.slots ["sandbox", "limits"] tree :=
    ⟨tidy _ (by simp [sections]), limitsFits⟩
  have policy : Legible PolicySettings.slots ["policy"] tree :=
    ⟨tidy _ (by simp [sections]), policyFits⟩
  have retry : Legible RetrySettings.slots ["retry"] tree :=
    ⟨tidy _ (by simp [sections]), retryFits⟩
  have sandbox : Legible [SandboxSettings.rootSlot, SandboxSettings.limitsSlot]
      ["sandbox"] tree := by
    refine ⟨tidy _ (by simp [sections]), ?_⟩
    rw [List.forall_mem_cons, List.forall_mem_singleton]
    refine ⟨rootFits, fun setting given => ?_⟩
    exact limits.isOk_toRecord Sandbox.Limits.lawful given {}
  have whole : Legible slots [] tree := by
    refine ⟨fun found here => ?_, ?_⟩
    · obtain rfl := Option.some.inj here
      exact (readable.tidy ["executor"] (by simp [sections])).tidy
    · simp only [slots, List.forall_mem_cons, List.nil_append]
      exact ⟨fun _ given => executor.isOk_toRecord ExecutorSettings.lawful given {},
        fun _ given => sandbox.isOk_toRecord SandboxSettings.lawful given {},
        fun _ given => policy.isOk_toRecord PolicySettings.lawful given {},
        fun _ given => retry.isOk_toRecord RetrySettings.lawful given {},
        List.forall_mem_nil _⟩
  obtain ⟨settings, read, each⟩ := whole.toRecord_took lawful rfl {}
  refine ⟨settings, read, ?_⟩
  simp only [slots, List.forall_mem_cons, List.nil_append] at each
  obtain ⟨executorRead, sandboxRead, policyRead, retryRead, -⟩ := each
  have inSandbox := sandbox.took SandboxSettings.lawful sandboxRead
  rw [List.forall_mem_cons, List.forall_mem_singleton] at inSandbox
  obtain ⟨rootRead, limitsRead⟩ := inSandbox
  rw [forall_keys]
  exact ⟨executor.took ExecutorSettings.lawful executorRead, rootRead,
    limits.took Sandbox.Limits.lawful limitsRead, policy.took PolicySettings.lawful policyRead,
    retry.took RetrySettings.lawful retryRead⟩

/-- The keys are all that there is of the settings. -/
theorem ext_keys {one other : Settings} (same : ∀ key ∈ keys, key.get one = key.get other) :
    one = other := by
  simp only [forall_keys, ExecutorSettings.slots, Sandbox.Limits.slots, PolicySettings.slots,
    RetrySettings.slots, SandboxSettings.rootSlot, List.forall_mem_cons, Slot.key,
    Function.comp_apply] at same
  obtain ⟨⟨_, _, _, _⟩, ⟨_, _, _, _, _⟩, ⟨_, _⟩, ⟨_, _, _, _⟩⟩ := one
  obtain ⟨⟨_, _, _, _⟩, ⟨_, _, _, _, _⟩, ⟨_, _⟩, ⟨_, _, _, _⟩⟩ := other
  simp_all

end Settings

end PlanGuard
