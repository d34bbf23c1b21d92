import PlanGuard.Proofs.Sandbox.Operations
import PlanGuard.Proofs.Sandbox.Watch

/-!
# What a sandbox refuses

A sandbox refuses an argv that is empty, and one that mentions a forbidden sequence,
wherever that stands in an argument and whichever argument it is, the words of an
elevation too.  `RefusedFor` says for what an argv is refused: for the first argument that
mentions anything forbidden and, of what it mentions, for what stands first in the list.
Nothing but a refusal is answered as one, and what is refused leaves everything as it was.
-/

namespace PlanGuard.Sandbox

/-! ## Mentions -/

/-- A sequence stands somewhere in an argument, as one piece. -/
def Mentions (argument sequence : String) : Prop :=
  sequence.toList <:+: argument.toList

theorem occursIn_iff (letters text : List Char) :
    occursIn letters text = true ↔ letters <:+: text := by
  induction text with
  | nil => rw [occursIn, List.isEmpty_iff, List.infix_nil]
  | cons c rest ih =>
      rw [occursIn, Bool.or_eq_true, List.isPrefixOf_iff_prefix, ih, List.infix_cons_iff]

theorem mentions_iff (argument sequence : String) :
    mentions argument sequence = true ↔ Mentions argument sequence :=
  occursIn_iff _ _

def Innocent (argument : String) : Prop :=
  ∀ sequence ∈ forbidden, ¬Mentions argument sequence

theorem find?_mentions_eq_none_iff (argument : String) :
    forbidden.find? (mentions argument) = none ↔ Innocent argument := by
  simp only [List.find?_eq_none, mentions_iff, Innocent]

/-! ## Reasons for a refusal -/

/-- What an argv is refused for. -/
inductive RefusedFor : Argv → Refusal → Prop where
  | nothing : RefusedFor [] .emptyCommand
  /-- The first argument that is not innocent, with the first sequence that it mentions. -/
  | mention {before after : List String} {argument sequence : String}
      {earlier later : List String} (first : ∀ other ∈ before, Innocent other)
      (listed : forbidden = earlier ++ sequence :: later)
      (least : ∀ other ∈ earlier, ¬Mentions argument other)
      (mentioned : Mentions argument sequence) :
      RefusedFor (before ++ argument :: after) (.forbidden argument sequence)

theorem find?_mentions_eq_some_iff (argument sequence : String) :
    forbidden.find? (mentions argument) = some sequence ↔
      Mentions argument sequence ∧ ∃ earlier later,
        forbidden = earlier ++ sequence :: later ∧
          ∀ other ∈ earlier, ¬Mentions argument other := by
  simp only [List.find?_eq_some_iff_append, mentions_iff, Bool.not_eq_true', ← Bool.not_eq_true]

theorem firstMention?_cons_of_innocent {argument : String} (innocent : Innocent argument)
    (rest : List String) : firstMention? (argument :: rest) = firstMention? rest := by
  rw [firstMention?, (find?_mentions_eq_none_iff argument).mpr innocent]

theorem firstMention?_append {before : List String}
    (innocent : ∀ argument ∈ before, Innocent argument) (rest : List String) :
    firstMention? (before ++ rest) = firstMention? rest := by
  induction before with
  | nil => rfl
  | cons argument before ih =>
      obtain ⟨first, others⟩ := List.forall_mem_cons.mp innocent
      rw [List.cons_append, firstMention?_cons_of_innocent first, ih others]

theorem firstMention?_eq_none_iff (arguments : List String) :
    firstMention? arguments = none ↔ ∀ argument ∈ arguments, Innocent argument := by
  constructor
  · intro absent
    induction arguments with
    | nil => exact List.forall_mem_nil _
    | cons argument rest ih =>
        unfold firstMention? at absent
        split at absent
        next => cases absent
        next none' =>
          exact List.forall_mem_cons.mpr
            ⟨(find?_mentions_eq_none_iff argument).mp none', ih absent⟩
  · intro innocent
    have nothing := firstMention?_append innocent []
    rwa [List.append_nil] at nothing

theorem refusedFor_of_firstMention? {arguments : List String} {refusal : Refusal}
    (found : firstMention? arguments = some refusal) : RefusedFor arguments refusal := by
  induction arguments with
  | nil => cases found
  | cons argument rest ih =>
      unfold firstMention? at found
      split at found
      next sequence here =>
        obtain rfl := Option.some.inj found
        obtain ⟨mentioned, earlier, later, listed, least⟩ :=
          (find?_mentions_eq_some_iff argument sequence).mp here
        exact RefusedFor.mention (List.forall_mem_nil _) listed least mentioned
      next absent =>
        have innocent := (find?_mentions_eq_none_iff argument).mp absent
        cases ih found with
        | nothing => cases found
        | mention first listed least mentioned =>
            exact RefusedFor.mention (List.forall_mem_cons.mpr ⟨innocent, first⟩) listed
              least mentioned

theorem refusal?_eq_some_iff (argv : Argv) (refusal : Refusal) :
    refusal? argv = some refusal ↔ RefusedFor argv refusal := by
  unfold refusal?
  constructor
  · intro refused
    split at refused
    next empty =>
      obtain rfl := Option.some.inj refused
      rw [List.isEmpty_iff.mp empty]
      exact .nothing
    next => exact refusedFor_of_firstMention? refused
  · rintro (- | ⟨first, listed, least, mentioned⟩)
    · rfl
    · rw [if_neg (by simp), firstMention?_append first, firstMention?,
        (find?_mentions_eq_some_iff _ _).mpr ⟨mentioned, _, _, listed, least⟩]

/-- What is refused is empty or has an argument that is not innocent, wherever it stands. -/
theorem exists_refusedFor_iff (argv : Argv) :
    (∃ refusal, RefusedFor argv refusal) ↔
      argv = [] ∨ ∃ argument ∈ argv, ∃ sequence ∈ forbidden,
        Mentions argument sequence := by
  constructor
  · rintro ⟨refusal, - | ⟨-, listed, -, mentioned⟩⟩
    · exact .inl rfl
    · refine .inr ⟨_, List.mem_append_right _ (.head _), _, ?_, mentioned⟩
      rw [listed]
      exact List.mem_append_right _ (.head _)
  · intro cause
    cases refused : refusal? argv with
    | some refusal => exact ⟨refusal, (refusal?_eq_some_iff argv refusal).mp refused⟩
    | none =>
        exfalso
        unfold refusal? at refused
        split at refused
        next => cases refused
        next some' =>
          rcases cause with rfl | ⟨argument, member, sequence, listed, mentioned⟩
          · exact some' rfl
          · exact (firstMention?_eq_none_iff argv).mp refused argument member sequence listed
              mentioned

/-! ## Other failures -/

theorem failure?_ne_rejected (ending : Ending) (reason : String) :
    ending.failure? ≠ some (.rejected reason) := by
  unfold Ending.failure?
  split
  · exact nofun
  · exact nofun
  · exact nofun

theorem Event.violation?_ne_rejected (event : Event) (limits : Limits) (limit : Duration)
    (reason : String) : event.violation? limits limit ≠ some (.rejected reason) := by
  cases event with
  | samples usage =>
      intro same
      obtain ⟨breach, -, other⟩ := Option.map_eq_some_iff.mp same
      cases other
  | _ => exact nofun

theorem Watch.verdict_after_ne_rejected (limits : Limits) (limit : Duration)
    (events : List Event) (reason : String) :
    (after limits limit events).verdict ≠ some (.rejected reason) := by
  unfold verdict
  split
  next failure answered =>
    intro same
    obtain rfl := Option.some.inj same
    obtain ⟨event, -, violation, noticed, told⟩ | told | ⟨outcome, told⟩ :=
      answer?_after_cases answered
    · cases told
      exact event.violation?_ne_rejected limits limit reason noticed
    · cases told
    · cases outcome with
      | error message => cases told
      | ok ending => cases told
  next ending _ => exact failure?_ne_rejected ending reason
  next => exact nofun

section Runs

variable (sandbox : Sandbox) {request : Request}

theorem watchOver_ne_rejected (launch : Launch) (trigger : Trigger) (watched : Bool)
    (request : Request) (child : Child) (state : State) (reason : String) :
    (sandbox.watchOver launch trigger watched request child state).1.failure ≠
      some (.rejected reason) := by
  unfold watchOver
  dsimp only
  split
  · exact nofun
  · exact Watch.verdict_after_ne_rejected _ _ _ reason

theorem runner_ne_rejected (accepted : refusal? request.argv = none) (launch : Launch)
    (trigger : Trigger) (watched : Bool) (state : State) (reason : String) :
    (sandbox.runner launch trigger watched request state).1.failure ≠
      some (.rejected reason) := by
  cases obtained : sandbox.scratchDirectory (cleanup state).2 with
  | mk result after =>
      cases result with
      | error trouble =>
          rw [sandbox.runner_of_error (sandbox.ready_of_trouble accepted obtained)]
          exact nofun
      | ok home =>
          obtain ⟨child, prepared, -⟩ := sandbox.ready_of_given accepted obtained
          rw [sandbox.runner_of_ok prepared]
          exact sandbox.watchOver_ne_rejected launch trigger watched request child after reason

theorem runner_of_refused {refusal : Refusal} (refused : refusal? request.argv = some refusal)
    (launch : Launch) (trigger : Trigger) (watched : Bool) (state : State) :
    sandbox.runner launch trigger watched request state =
      (request.refuse (.rejected refusal.reason) state.machine, state) :=
  sandbox.runner_of_error (sandbox.ready_of_refused refused state) launch trigger watched

end Runs

/--
What a sandbox refuses, and how.  A request is answered as refused exactly if there is
something to refuse it for, and with the reason for that: if its argv is empty, or if any
argument, at any place in it, mentions any of the forbidden sequences.  So is a command
that needs root for the words of its elevation.  A request that is refused has no child, as
there would be no other answer whatever a child does, has no output, and leaves all as it
was: the scratch directory, which is neither made nor cleaned, and the machine.
-/
theorem runner_refuses (sandbox : Sandbox) (launch : Launch) (trigger : Trigger)
    (watched : Bool) (request : Request) (state : State) :
    let ran := sandbox.runner launch trigger watched request state
    (∀ reason, ran.1.failure = some (.rejected reason) ↔
      (RefusedFor request.argv .emptyCommand ∧ reason = "empty command") ∨
        ∃ argument sequence, RefusedFor request.argv (.forbidden argument sequence) ∧
          reason = "argument " ++ Text.quoted argument ++
            " contains forbidden sequence " ++ Text.quoted sequence) ∧
    ((∃ refusal, RefusedFor request.argv refusal) ↔ request.argv = [] ∨
      ∃ argument ∈ request.argv,
        ∃ sequence ∈ ["&&", "|", "`", "$(", "../", "/dev/", "/proc/", "/sys/"],
          Mentions argument sequence) ∧
    (∀ first second, RefusedFor request.argv first → RefusedFor request.argv second →
      first = second) ∧
    (∀ (settings : ExecutorSettings) (command : Command),
      request.argv = settings.prepare command → command.needsRoot = true →
      ∀ word ∈ settings.elevationTokens, ∀ sequence ∈ forbidden, Mentions word sequence →
      ∃ refusal, RefusedFor request.argv refusal) ∧
    ∀ refusal, RefusedFor request.argv refusal →
      ran.1.output = "" ∧ ran.1.truncated = false ∧ ran.1.lines = [] ∧
      ran.1.elapsed = .zero ∧ ran.2 = state ∧
      (sandbox.ready request state).1.toOption = none ∧
      ∀ (other : Launch) (trigger : Trigger) (watched : Bool),
        sandbox.runner other trigger watched request state = ran := by
  intro ran
  have unique (first second : Refusal) (one : RefusedFor request.argv first)
      (another : RefusedFor request.argv second) : first = second := by
    rw [← refusal?_eq_some_iff] at one another
    exact Option.some.inj (one.symm.trans another)
  refine ⟨?_, exists_refusedFor_iff request.argv, unique, ?_, ?_⟩
  · intro reason
    cases vetted : refusal? request.argv with
    | none =>
        refine iff_of_false
          (sandbox.runner_ne_rejected vetted launch trigger watched state reason) ?_
        rintro (⟨refused, -⟩ | ⟨argument, sequence, refused, -⟩)
        · rw [← refusal?_eq_some_iff, vetted] at refused
          cases refused
        · rw [← refusal?_eq_some_iff, vetted] at refused
          cases refused
    | some refusal =>
        have refused := (refusal?_eq_some_iff _ _).mp vetted
        rw [show ran = _ from sandbox.runner_of_refused vetted launch trigger watched state]
        constructor
        · intro same
          obtain rfl := Failure.rejected.inj (Option.some.inj same)
          cases refusal with
          | emptyCommand => exact .inl ⟨refused, rfl⟩
          | forbidden argument sequence =>
              exact .inr ⟨argument, sequence, refused, rfl⟩
        · rintro (⟨another, rfl⟩ | ⟨argument, sequence, another, rfl⟩)
          · rw [unique refusal _ refused another]
            rfl
          · rw [unique refusal _ refused another]
            rfl
  · intro settings command prepared elevated word member sequence listed mentioned
    refine (exists_refusedFor_iff request.argv).mpr
      (.inr ⟨word, ?_, sequence, listed, mentioned⟩)
    rw [prepared, ExecutorSettings.prepare, if_pos elevated]
    exact List.mem_append_left _ member
  · intro refusal refused
    have vetted := (refusal?_eq_some_iff _ _).mpr refused
    have answered := sandbox.runner_of_refused vetted
    rw [show ran = _ from answered launch trigger watched state]
    refine ⟨rfl, rfl, rfl, rfl, rfl, ?_, fun other trigger watched => ?_⟩
    · rw [sandbox.ready_of_refused vetted]
      rfl
    · exact answered other trigger watched state

/-- An argument that mentions two sequences, of which the later stands first in the list. -/
def piping : Request :=
  { argv := ["sudo", "cat", "../a|b", "/dev/null"], path := "/bin", timeout := .zero
    maxOutputBytes := 80 }

theorem piping_refused :
    let sandbox : Sandbox := { root := "/tmp", token := "0" }
    let ran := sandbox.runner (fun _ _ _ _ => .error .noEntry) .never true piping { machine := {} }
    RefusedFor piping.argv (.forbidden "../a|b" "|") ∧
      ran.1.failure = some (.rejected
        "argument \"../a|b\" contains forbidden sequence \"|\"") ∧
      ran.1.output = "" ∧ ran.2 = { machine := {} } := by
  intro sandbox ran
  have refused : RefusedFor piping.argv (.forbidden "../a|b" "|") := by
    rw [← refusal?_eq_some_iff]
    decide +kernel
  have words : "argument \"../a|b\" contains forbidden sequence \"|\"" =
      "argument " ++ Text.quoted "../a|b" ++ " contains forbidden sequence " ++
        Text.quoted "|" := by
    decide +kernel
  obtain ⟨rejected, -, -, -, unchanged⟩ :=
    runner_refuses sandbox (fun _ _ _ _ => .error .noEntry) .never true piping { machine := {} }
  obtain ⟨output, -, -, -, kept, -⟩ := unchanged _ refused
  exact ⟨refused, (rejected _).mpr (.inr ⟨_, _, refused, words⟩), output, kept⟩

end PlanGuard.Sandbox
