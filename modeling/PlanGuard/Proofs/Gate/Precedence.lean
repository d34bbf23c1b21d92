import PlanGuard.Proofs.Gate.Verdict

/-!
# Which objection is raised

A plan may offend in several ways at once.  `Objects` says which objection a
command earns: every constructor asks that all the checks before its own have
passed, for arguments that those at lower positions are sound, and for deny
patterns that those before it in the list do not match.  The verdict on a plan
is the objection to the first command that is not permitted.
-/

namespace PlanGuard

namespace Gate

def Sound (argument : String) : Prop :=
  (∃ c ∈ argument.toList, Text.isBlank c = false) ∧ '\x00' ∉ argument.toList

/-- What is wrong with the argument at a position; blankness comes first. -/
inductive Faulty (argument : String) (position : Nat) : Objection → Prop where
  | blank (blank : ∀ c ∈ argument.toList, Text.isBlank c = true) :
      Faulty argument position (.emptyArgument position)
  | broken (inked : ∃ c ∈ argument.toList, Text.isBlank c = false)
      (nul : '\x00' ∈ argument.toList) :
      Faulty argument position (.nulByte position)

structure Orderly (command : Command) : Prop where
  named : command.argv ≠ []
  sound : ∀ argument ∈ command.argv, Sound argument
  plain : ∀ program, command.argv.head? = some program →
    ∀ c ∈ program.toList, c ∉ "|&;<>`$".toList

/-- The objection that a command earns, with all that comes before it passed. -/
inductive Objects (gate : Gate) (command : Command) : Objection → Prop where
  | emptyCommand (nameless : command.argv = []) :
      Objects gate command .emptyCommand
  | argument {earlier : List String} {argument : String} {later : List String}
      {objection : Objection}
      (split : command.argv = earlier ++ argument :: later)
      (sound : ∀ other ∈ earlier, Sound other)
      (faulty : Faulty argument earlier.length objection) :
      Objects gate command objection
  | shellMetacharacter {program : String} {rest : List String}
      (named : command.argv = program :: rest)
      (sound : ∀ argument ∈ command.argv, Sound argument)
      (special : ∃ c ∈ program.toList, c ∈ "|&;<>`$".toList) :
      Objects gate command (.shellMetacharacter program)
  /-- The first deny pattern that matches, whatever the allow patterns say. -/
  | denied {earlier : List Pattern} {pattern : Pattern} {later : List Pattern}
      (orderly : Orderly command)
      (split : gate.deny = earlier ++ pattern :: later)
      (unmatched : ∀ other ∈ earlier, other.accepts command.render = false)
      (matched : pattern.accepts command.render = true) :
      Objects gate command (.denied command.render pattern.source)
  | notAllowed (orderly : Orderly command)
      (undenied : ∀ pattern ∈ gate.deny, pattern.accepts command.render = false)
      (listed : gate.allow ≠ [])
      (unmatched : ∀ pattern ∈ gate.allow, pattern.accepts command.render = false) :
      Objects gate command (.notAllowed command.render)

/-! ## The first in a list -/

theorem exists_split_cons_iff {α : Type} {first : α} {rest : List α}
    {P : List α → α → Prop} :
    (∃ earlier item later,
        first :: rest = earlier ++ item :: later ∧ P earlier item) ↔
      P [] first ∨ ∃ earlier item later,
        rest = earlier ++ item :: later ∧ P (first :: earlier) item := by
  constructor
  · rintro ⟨earlier, item, later, split, holds⟩
    cases earlier with
    | nil =>
        obtain ⟨rfl, -⟩ := List.cons.inj split
        exact .inl holds
    | cons head earlier =>
        obtain ⟨rfl, tail⟩ := List.cons.inj split
        exact .inr ⟨earlier, item, later, tail, holds⟩
  · rintro (holds | ⟨earlier, item, later, rfl, holds⟩)
    · exact ⟨[], first, rest, rfl, holds⟩
    · exact ⟨first :: earlier, item, later, rfl, holds⟩

/-! ## Arguments and the program -/

theorem allBlank_eq_true_iff {text : String} :
    Text.allBlank text = true ↔ ∀ c ∈ text.toList, Text.isBlank c = true :=
  List.all_eq_true

theorem hasNul_eq_true_iff {argument : String} :
    hasNul argument = true ↔ '\x00' ∈ argument.toList := by
  unfold hasNul
  rw [List.contains_eq_mem, decide_eq_true_eq]

theorem sound_iff {argument : String} :
    Sound argument ↔ Text.allBlank argument = false ∧ hasNul argument = false := by
  rw [allBlank_eq_false_iff, hasNul_eq_false_iff]
  exact Iff.rfl

/-- An argument is faulty exactly when it is not sound, and in one way only. -/
theorem faulty_iff {argument : String} {position : Nat} {objection : Objection} :
    Faulty argument position objection ↔
      (if Text.allBlank argument then some (.emptyArgument position)
        else if hasNul argument then some (.nulByte position)
        else none) = some objection := by
  constructor
  · rintro (blank | ⟨inked, nul⟩)
    · rw [if_pos (allBlank_eq_true_iff.mpr blank)]
    · rw [allBlank_eq_false_iff.mpr inked, hasNul_eq_true_iff.mpr nul]
      rfl
  · intro raised
    cases blank : Text.allBlank argument with
    | true =>
        rw [blank, if_pos rfl] at raised
        rw [← Option.some.inj raised]
        exact .blank (allBlank_eq_true_iff.mp blank)
    | false =>
        cases nul : hasNul argument with
        | true =>
            rw [blank, nul, if_neg Bool.false_ne_true, if_pos rfl] at raised
            rw [← Option.some.inj raised]
            exact .broken (allBlank_eq_false_iff.mp blank) (hasNul_eq_true_iff.mp nul)
        | false =>
            rw [blank, nul] at raised
            cases raised

theorem Sound.not_faulty {argument : String} (sound : Sound argument)
    {position : Nat} {objection : Objection} :
    ¬ Faulty argument position objection := by
  obtain ⟨inked, whole⟩ := sound_iff.mp sound
  rw [faulty_iff, inked, whole]
  intro raised
  cases raised

theorem argumentObjection?_eq_some_iff {position : Nat} {arguments : List String}
    {objection : Objection} :
    argumentObjection? position arguments = some objection ↔
      ∃ earlier argument later, arguments = earlier ++ argument :: later ∧
        (∀ other ∈ earlier, Sound other) ∧
        Faulty argument (position + earlier.length) objection := by
  induction arguments generalizing position with
  | nil => simp [argumentObjection?]
  | cons argument rest ih =>
      rw [exists_split_cons_iff
        (P := fun earlier argument => (∀ other ∈ earlier, Sound other) ∧
          Faulty argument (position + earlier.length) objection)]
      by_cases sound : Sound argument
      · obtain ⟨inked, whole⟩ := sound_iff.mp sound
        unfold argumentObjection?
        rw [inked, whole, if_neg Bool.false_ne_true, if_neg Bool.false_ne_true, ih]
        simp only [sound.not_faulty, and_false, false_or, List.forall_mem_cons, sound,
          true_and, List.length_cons, Nat.add_right_comm position, Nat.add_assoc]
      · have unsound : ¬ ∃ earlier item later, rest = earlier ++ item :: later ∧
            (∀ other ∈ argument :: earlier, Sound other) ∧
            Faulty item (position + (argument :: earlier).length) objection := by
          rintro ⟨earlier, item, later, -, passed, -⟩
          exact sound (passed argument List.mem_cons_self)
        rw [or_iff_left unsound, faulty_iff]
        unfold argumentObjection?
        cases blank : Text.allBlank argument with
        | true => simp
        | false =>
            cases nul : hasNul argument with
            | true => simp
            | false => exact absurd (sound_iff.mpr ⟨blank, nul⟩) sound

theorem argumentObjection?_eq_none_iff_sound {position : Nat}
    {arguments : List String} :
    argumentObjection? position arguments = none ↔
      ∀ argument ∈ arguments, Sound argument := by
  rw [argumentObjection?_eq_none_iff]
  simp only [sound_iff]

theorem programObjection?_eq_some_iff {program : String} {objection : Objection} :
    programObjection? program = some objection ↔
      (∃ c ∈ program.toList, c ∈ "|&;<>`$".toList) ∧
        objection = .shellMetacharacter program := by
  unfold programObjection?
  have special : program.toList.any isShellMetacharacter = true ↔
      ∃ c ∈ program.toList, c ∈ "|&;<>`$".toList := by
    rw [List.any_eq_true]
    unfold isShellMetacharacter
    simp only [List.contains_eq_mem, decide_eq_true_eq]
  rw [← special]
  cases program.toList.any isShellMetacharacter with
  | true => simp [eq_comm]
  | false => simp

/-! ## Patterns -/

theorem find?_accepts_eq_some_iff {patterns : List Pattern} {line : String}
    {pattern : Pattern} :
    patterns.find? (·.accepts line) = some pattern ↔
      ∃ earlier later, patterns = earlier ++ pattern :: later ∧
        (∀ other ∈ earlier, other.accepts line = false) ∧
        pattern.accepts line = true := by
  rw [List.find?_eq_some_iff_append]
  simp only [Bool.not_eq_true']
  constructor
  · rintro ⟨matched, earlier, later, split, unmatched⟩
    exact ⟨earlier, later, split, unmatched, matched⟩
  · rintro ⟨earlier, later, split, unmatched, matched⟩
    exact ⟨matched, earlier, later, split, unmatched⟩

theorem find?_accepts_eq_none_iff {patterns : List Pattern} {line : String} :
    patterns.find? (·.accepts line) = none ↔
      ∀ pattern ∈ patterns, pattern.accepts line = false := by
  rw [List.find?_eq_none]
  simp only [Bool.not_eq_true]

/--
The patterns object with the first deny pattern that matches or, if none does,
with the lack of an allow pattern that matches where there are allow patterns.
-/
theorem patternObjection?_eq_some_iff {gate : Gate} {line : String}
    {objection : Objection} :
    gate.patternObjection? line = some objection ↔
      (∃ earlier pattern later, gate.deny = earlier ++ pattern :: later ∧
        (∀ other ∈ earlier, other.accepts line = false) ∧
        pattern.accepts line = true ∧ objection = .denied line pattern.source) ∨
      ((∀ pattern ∈ gate.deny, pattern.accepts line = false) ∧ gate.allow ≠ [] ∧
        (∀ pattern ∈ gate.allow, pattern.accepts line = false) ∧
        objection = .notAllowed line) := by
  unfold patternObjection?
  cases denied : gate.deny.find? (·.accepts line) with
  | some pattern =>
      dsimp only
      rw [Option.some.injEq]
      constructor
      · rintro rfl
        obtain ⟨earlier, later, split, unmatched, matched⟩ :=
          find?_accepts_eq_some_iff.mp denied
        exact .inl ⟨earlier, pattern, later, split, unmatched, matched, rfl⟩
      · rintro (⟨earlier, other, later, split, unmatched, matched, rfl⟩ | ⟨undenied, -⟩)
        · have found := find?_accepts_eq_some_iff.mpr
            ⟨earlier, later, split, unmatched, matched⟩
          rw [denied, Option.some.injEq] at found
          rw [found]
        · rw [find?_accepts_eq_none_iff.mpr undenied] at denied
          cases denied
  | none =>
      have undenied := find?_accepts_eq_none_iff.mp denied
      have refused : (gate.allow.isEmpty || gate.allow.any (·.accepts line)) = false ↔
          gate.allow ≠ [] ∧ ∀ pattern ∈ gate.allow, pattern.accepts line = false := by
        rw [Bool.or_eq_false_iff, List.isEmpty_eq_false_iff, List.any_eq_false]
        simp only [Bool.not_eq_true]
      have no_match : ¬ ∃ earlier pattern later,
          gate.deny = earlier ++ pattern :: later ∧
            (∀ other ∈ earlier, other.accepts line = false) ∧
            pattern.accepts line = true ∧
            objection = .denied line pattern.source := by
        rintro ⟨earlier, pattern, later, split, -, matched, -⟩
        rw [undenied pattern (by simp [split])] at matched
        cases matched
      rw [or_iff_right no_match, ← and_assoc (a := gate.allow ≠ []), ← refused,
        and_iff_right undenied]
      cases gate.allow.isEmpty || gate.allow.any (·.accepts line) with
      | true => simp
      | false => simp [eq_comm]

/-! ## Commands and plans -/

theorem orderly_cons_iff {command : Command} {program : String} {rest : List String}
    (named : command.argv = program :: rest) :
    Orderly command ↔
      argumentObjection? 0 (program :: rest) = none ∧
        programObjection? program = none := by
  rw [argumentObjection?_eq_none_iff_sound, programObjection?_eq_none_iff, ← named]
  constructor
  · intro orderly
    exact ⟨orderly.sound, orderly.plain program (by rw [named, List.head?_cons])⟩
  · rintro ⟨sound, plain⟩
    refine ⟨by simp [named], sound, ?_⟩
    intro first head
    rw [named, List.head?_cons, Option.some.injEq] at head
    exact head ▸ plain

/-- The gate raises the objection that a command earns, and no other. -/
theorem objection?_eq_some_iff {gate : Gate} {command : Command}
    {objection : Objection} :
    gate.objection? command = some objection ↔ gate.Objects command objection := by
  unfold objection?
  cases named : command.argv with
  | nil =>
      constructor
      · intro raised
        rw [← Option.some.inj raised]
        exact .emptyCommand named
      · intro objects
        cases objects with
        | emptyCommand => rfl
        | argument split => simp [named] at split
        | shellMetacharacter other => simp [named] at other
        | denied orderly => exact absurd named orderly.named
        | notAllowed orderly => exact absurd named orderly.named
  | cons program rest =>
      dsimp only
      rw [Option.or_eq_some_iff, Option.or_eq_some_iff, argumentObjection?_eq_some_iff,
        programObjection?_eq_some_iff, patternObjection?_eq_some_iff]
      constructor
      · rintro (⟨earlier, argument, later, split, sound, faulty⟩ |
          ⟨passed, ⟨special, rfl⟩ | ⟨plain, objected⟩⟩)
        · rw [Nat.zero_add] at faulty
          exact .argument (named.trans split) sound faulty
        · rw [argumentObjection?_eq_none_iff_sound, ← named] at passed
          exact .shellMetacharacter named passed special
        · have orderly := (orderly_cons_iff named).mpr ⟨passed, plain⟩
          rcases objected with
            ⟨earlier, pattern, later, split, unmatched, matched, rfl⟩ |
              ⟨undenied, listed, unmatched, rfl⟩
          · exact .denied orderly split unmatched matched
          · exact .notAllowed orderly undenied listed unmatched
      · intro objects
        cases objects with
        | emptyCommand nameless => simp [named] at nameless
        | @argument earlier argument later _ split sound faulty =>
            exact .inl ⟨earlier, argument, later, named.symm.trans split, sound,
              (Nat.zero_add _).symm ▸ faulty⟩
        | shellMetacharacter other sound special =>
            obtain ⟨rfl, -⟩ := List.cons.inj (named.symm.trans other)
            rw [named] at sound
            exact .inr ⟨argumentObjection?_eq_none_iff_sound.mpr sound,
              .inl ⟨special, rfl⟩⟩
        | @denied earlier pattern later orderly split unmatched matched =>
            obtain ⟨passed, plain⟩ := (orderly_cons_iff named).mp orderly
            exact .inr ⟨passed, .inr ⟨plain,
              .inl ⟨earlier, pattern, later, split, unmatched, matched, rfl⟩⟩⟩
        | notAllowed orderly undenied listed unmatched =>
            obtain ⟨passed, plain⟩ := (orderly_cons_iff named).mp orderly
            exact .inr ⟨passed, .inr ⟨plain,
              .inr ⟨undenied, listed, unmatched, rfl⟩⟩⟩

theorem violationFrom?_eq_some_iff {gate : Gate} {start : Nat}
    {commands : List Command} {index : Nat} {objection : Objection} :
    gate.violationFrom? start commands = some ⟨index, objection⟩ ↔
      ∃ earlier command later, commands = earlier ++ command :: later ∧
        (∀ other ∈ earlier, gate.Permits other) ∧
        index = start + earlier.length ∧ gate.Objects command objection := by
  induction commands generalizing start with
  | nil => simp [violationFrom?]
  | cons command rest ih =>
      rw [exists_split_cons_iff
        (P := fun earlier command => (∀ other ∈ earlier, gate.Permits other) ∧
          index = start + earlier.length ∧ gate.Objects command objection)]
      unfold violationFrom?
      cases raised : gate.objection? command with
      | none =>
          have permits := objection?_eq_none_iff.mp raised
          have no_objection : ¬ gate.Objects command objection := by
            rw [← objection?_eq_some_iff, raised]
            intro impossible
            cases impossible
          dsimp only
          rw [ih]
          simp only [no_objection, and_false, false_or, List.forall_mem_cons, permits,
            true_and, List.length_cons, Nat.add_right_comm start, Nat.add_assoc]
      | some first =>
          have unpermitted : ¬ gate.Permits command := by
            rw [← objection?_eq_none_iff, raised]
            intro impossible
            cases impossible
          have no_later : ¬ ∃ earlier item later, rest = earlier ++ item :: later ∧
              (∀ other ∈ command :: earlier, gate.Permits other) ∧
              index = start + (command :: earlier).length ∧
              gate.Objects item objection := by
            rintro ⟨earlier, item, later, -, permits, -⟩
            exact unpermitted (permits command List.mem_cons_self)
          rw [or_iff_left no_later, ← objection?_eq_some_iff, raised]
          simp [eq_comm]

/--
The verdict of the gate.  A plan passes exactly when every command is permitted.
If it does not pass, the verdict names the first command that is not permitted,
and raises the objection that this command earns.
-/
theorem violation?_verdict (gate : Gate) (plan : Plan) :
    (gate.violation? plan = none ↔
      ∀ command ∈ plan.commands, gate.Permits command) ∧
    ∀ index objection,
      gate.violation? plan = some ⟨index, objection⟩ ↔
        ∃ earlier command later, plan.commands = earlier ++ command :: later ∧
          (∀ other ∈ earlier, gate.Permits other) ∧
          index = earlier.length ∧ gate.Objects command objection := by
  refine ⟨violation?_eq_none_iff, ?_⟩
  intro index objection
  unfold violation?
  rw [violationFrom?_eq_some_iff]
  simp only [Nat.zero_add]

/-- A command that deny patterns and an allow pattern match is denied by the first. -/
example :
    Gate.violation?
        { allow := [⟨".", fun _ => true⟩],
          deny :=
            [⟨"^dd", (· == "dd")⟩, ⟨"^rm", (· == "rm x")⟩, ⟨"x$", fun _ => true⟩] }
        { commands := [{ argv := ["rm", "x"] }] } =
      some ⟨0, .denied "rm x" "^rm"⟩ := by
  decide +kernel

end Gate

end PlanGuard
