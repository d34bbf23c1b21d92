import PlanGuard.Proofs.Sandbox.Operations

/-!
# The life of a scratch directory

From what one operation has to do with the directory follows what holds of every
sequence of operations: one directory is made, recorded and used, and no other.
-/

namespace PlanGuard.Sandbox

/-- How the record of the directory goes over some steps. -/
inductive Unfolds (sandbox : Sandbox) : List Step → Prop where
  /-- No directory was made. -/
  | pending {steps : List Step}
      (unrecorded : ∀ step ∈ steps,
        step.before.scratch = none ∧ step.after.scratch = none) :
      Unfolds sandbox steps
  /-- The directory was made in one step, and it is the same in every later one. -/
  | made {front back : List Step} {maker : Step} {machine : Machine} {home : String}
      (unrecorded : ∀ step ∈ front,
        step.before.scratch = none ∧ step.after.scratch = none)
      (absent : maker.before.scratch = none)
      (needed : maker.operation.needsDirectory = true)
      (success : sandbox.attempt maker.before = (.ok (), machine))
      (path : home = sandbox.scratchPath maker.before.attempts)
      (recorded : maker.after.scratch = some home)
      (kept : ∀ step ∈ back,
        step.before.scratch = some home ∧ step.after.scratch = some home) :
      Unfolds sandbox (front ++ maker :: back)

/--
A step in which an attempt has made the directory at a path and left a machine: the
directory is there, and a run starts its child on that machine.
-/
structure Step.Makes (step : Step) (sandbox : Sandbox) (path : String)
    (machine : Machine) : Prop where
  held : machine.HoldsPrivate path
  recorded : step.after.scratch = some path
  counted : step.after.attempts = step.before.attempts + 1
  left : (∀ launch trigger watched request,
    step.operation ≠ .run launch trigger watched request) → step.after.machine = machine
  started : ∀ launch trigger watched request,
    step.operation = .run launch trigger watched request →
    ∃ child, AtHome child path request.argv request.path ∧
      sandbox.runner launch trigger watched request step.before =
        sandbox.watchOver launch trigger watched request child
          { scratch := some path, attempts := step.before.attempts + 1, machine }

structure Step.Obeys (step : Step) (sandbox : Sandbox) : Prop where
  /-- What is given or built is in the directory that is recorded. -/
  housed : (step.answer.directory? = none ∧ step.answer.child? = none) ∨
    ∃ home, step.after.scratch = some home ∧ step.HousedIn home
  /--
  An operation that lacks the directory tries to make it, whatever was tried before.  An
  attempt that fails, at whichever of its calls, is told of and not recorded.
  -/
  tries : step.operation.needsDirectory = true → step.before.scratch = none →
    match sandbox.attempt step.before with
    | (.ok _, machine) =>
        step.Makes sandbox (sandbox.scratchPath step.before.attempts) machine
    | (.error error, machine) =>
        step.after =
            { scratch := none, attempts := step.before.attempts + 1, machine } ∧
          step.answer.TellsOf
            (.setup (sandbox.scratchPath step.before.attempts) error)
  /-- No attempt takes anything away: it leaves more directories at most. -/
  spares : step.before.machine.Extends (sandbox.attempt step.before).2
  /-- An operation that can do without the directory changes nothing of it. -/
  leaves : step.operation.needsDirectory = false →
    (∃ machine, step.after = { step.before with machine }) ∧
      (step.before.scratch = none ∨ step.operation ≠ .cleanup →
        step.after = step.before) ∧
      step.answer.directory? = none ∧ step.answer.child? = none
  /-- A run starts the child that was built for it, and nothing without one. -/
  starts : ∀ launch trigger watched request,
    step.operation = .run launch trigger watched request →
    ∀ other : Launch, (∀ child, step.answer.child? = some child →
      ∀ reach limit machine,
        other reach limit child machine = launch reach limit child machine) →
      sandbox.runner other trigger watched request step.before =
        sandbox.runner launch trigger watched request step.before

/-- A step that records nothing can come before. -/
theorem Unfolds.cons {sandbox : Sandbox} {step : Step} {steps : List Step}
    (unfolds : sandbox.Unfolds steps)
    (still : step.before.scratch = none ∧ step.after.scratch = none) :
    sandbox.Unfolds (step :: steps) := by
  cases unfolds with
  | pending unrecorded =>
      exact .pending (List.forall_mem_cons.mpr ⟨still, unrecorded⟩)
  | @made front back maker machine home unrecorded absent needed success path recorded kept =>
      rw [← List.cons_append]
      exact .made (List.forall_mem_cons.mpr ⟨still, unrecorded⟩) absent needed success
        path recorded kept

namespace Lawful

variable {sandbox : Sandbox} {step : Step}

theorem scratch_kept (lawful : sandbox.Lawful step) {home : String}
    (recorded : step.before.scratch = some home) : step.after.scratch = some home := by
  cases lawful with
  | apart _ frame _ _ =>
      obtain ⟨machine, after⟩ := frame
      rw [after]
      exact recorded
  | settled _ _ frame _ =>
      obtain ⟨machine, after⟩ := frame
      rw [after]
      exact recorded
  | made _ absent => rw [absent] at recorded; cases recorded
  | failed _ absent => rw [absent] at recorded; cases recorded

/-- What was not recorded is so only by an attempt that succeeds. -/
theorem made_or_absent (lawful : sandbox.Lawful step)
    (absent : step.before.scratch = none) :
    step.after.scratch = none ∨
      step.operation.needsDirectory = true ∧
        (∃ machine, sandbox.attempt step.before = (.ok (), machine)) ∧
        step.after.scratch = some (sandbox.scratchPath step.before.attempts) := by
  cases lawful with
  | apart _ _ unchanged _ =>
      left
      rw [unchanged (.inl absent)]
      exact absent
  | settled _ recorded => rw [absent] at recorded; cases recorded
  | made needed _ success recorded => exact .inr ⟨needed, ⟨_, success⟩, recorded⟩
  | failed _ _ _ unrecorded _ =>
      left
      rw [unrecorded]
      exact absent

theorem housed (lawful : sandbox.Lawful step) :
    (step.answer.directory? = none ∧ step.answer.child? = none) ∨
      ∃ home, step.after.scratch = some home ∧ step.HousedIn home := by
  cases lawful with
  | apart _ _ _ nothing => exact .inl nothing
  | settled _ recorded frame inside =>
      obtain ⟨machine, after⟩ := frame
      refine .inr ⟨_, ?_, inside⟩
      rw [after]
      exact recorded
  | made _ _ _ recorded _ inside => exact .inr ⟨_, recorded, inside⟩
  | failed _ _ _ _ told => exact .inl told.nothing

end Lawful

section Sequences

variable (sandbox : Sandbox)

theorem exists_of_mem_steps {turns : List Turn} {state : State} {step : Step}
    (member : step ∈ sandbox.steps turns state) :
    ∃ operation before, step = sandbox.stepOf operation before := by
  induction turns generalizing state with
  | nil => cases member
  | cons turn rest ih =>
      rcases List.mem_cons.mp member with first | later
      · exact ⟨_, _, first⟩
      · exact ih later

theorem steps_of_recorded {state : State} {home : String}
    (recorded : state.scratch = some home) (turns : List Turn) :
    ∀ step ∈ sandbox.steps turns state,
      step.before.scratch = some home ∧ step.after.scratch = some home := by
  induction turns generalizing state with
  | nil =>
      intro step member
      cases member
  | cons turn rest ih =>
      have lawful := sandbox.perform_lawful turn.operation
        { state with machine := turn.machine }
      have kept := lawful.scratch_kept recorded
      intro step member
      rcases List.mem_cons.mp member with rfl | later
      · exact ⟨recorded, kept⟩
      · exact ih kept step later

theorem steps_unfold {state : State} (absent : state.scratch = none)
    (turns : List Turn) : sandbox.Unfolds (sandbox.steps turns state) := by
  induction turns generalizing state with
  | nil =>
      refine .pending ?_
      intro step member
      cases member
  | cons turn rest ih =>
      have lawful := sandbox.perform_lawful turn.operation
        { state with machine := turn.machine }
      rcases lawful.made_or_absent absent with still | ⟨needed, ⟨machine, success⟩, recorded⟩
      · exact (ih still).cons ⟨absent, still⟩
      · rw [steps, ← List.nil_append (_ :: _)]
        exact .made (List.forall_mem_nil _) absent needed success rfl recorded
          (sandbox.steps_of_recorded recorded rest)

/-- The first operation that has its directory made uses it at once. -/
theorem stepOf_makes {operation : Operation} {before : State} {machine : Machine}
    (needed : operation.needsDirectory = true) (absent : before.scratch = none)
    (success : sandbox.attempt before = (.ok (), machine)) :
    (sandbox.stepOf operation before).Makes sandbox (sandbox.scratchPath before.attempts)
      machine := by
  have given := sandbox.scratchDirectory_of_made absent success
  have held := sandbox.holdsPrivate_of_attempt success
  cases operation with
  | scratchDirectory =>
      have after : (sandbox.stepOf .scratchDirectory before).after =
          (sandbox.scratchDirectory before).2 := rfl
      rw [given] at after
      exact ⟨held, congrArg State.scratch after, congrArg State.attempts after,
        fun _ => congrArg State.machine after, nofun⟩
  | build argv path =>
      have after : (sandbox.stepOf (.build argv path) before).after =
          (sandbox.build argv path before).2 := rfl
      cases argv with
      | nil =>
          rw [sandbox.build_of_empty given] at after
          exact ⟨held, congrArg State.scratch after, congrArg State.attempts after,
            fun _ => congrArg State.machine after, nofun⟩
      | cons program arguments =>
          obtain ⟨child, built, -⟩ := sandbox.build_of_given given program arguments path
          rw [built] at after
          exact ⟨held, congrArg State.scratch after, congrArg State.attempts after,
            fun _ => congrArg State.machine after, nofun⟩
  | cleanup => cases needed
  | vet argv => cases needed
  | run launch trigger watched request =>
      have accepted : refusal? request.argv = none := Option.isNone_iff_eq_none.mp needed
      have uncleaned : (cleanup before).2 = before :=
        congrArg Prod.snd (cleanup_of_absent absent)
      rw [← uncleaned] at given
      obtain ⟨child, prepared, housed⟩ := sandbox.ready_of_given accepted given
      rw [uncleaned] at prepared housed
      have ran := sandbox.runner_of_ok prepared launch trigger watched
      have after : (sandbox.stepOf (.run launch trigger watched request) before).after =
          (sandbox.runner launch trigger watched request before).2 := rfl
      obtain ⟨last, frame⟩ := sandbox.watchOver_frame launch trigger watched request child
        { scratch := some (sandbox.scratchPath before.attempts)
          attempts := before.attempts + 1, machine }
      rw [ran, frame] at after
      refine ⟨held, congrArg State.scratch after, congrArg State.attempts after, ?_, ?_⟩
      · intro other
        exact absurd rfl (other launch trigger watched request)
      · intro launch' trigger' watched' request' same
        obtain ⟨rfl, rfl, rfl, rfl⟩ := Operation.run.inj same
        exact ⟨child, housed, ran⟩

theorem stepOf_obeys (operation : Operation) (before : State) :
    (sandbox.stepOf operation before).Obeys sandbox := by
  have lawful := sandbox.perform_lawful operation before
  refine ⟨lawful.housed, ?_, sandbox.attempt_extends before, ?_, ?_⟩
  · intro needed absent
    cases lawful with
    | apart unneeded => rw [unneeded] at needed; cases needed
    | settled _ recorded => rw [absent] at recorded; cases recorded
    | made _ _ success =>
        rw [success]
        exact sandbox.stepOf_makes needed absent success
    | failed _ _ refusal unrecorded told =>
        rw [refusal]
        dsimp only at unrecorded
        rw [absent] at unrecorded
        exact ⟨unrecorded, told⟩
  · intro unneeded
    cases lawful with
    | apart _ frame unchanged nothing => exact ⟨frame, unchanged, nothing⟩
    | settled needed => rw [unneeded] at needed; cases needed
    | made needed => rw [unneeded] at needed; cases needed
    | failed needed => rw [unneeded] at needed; cases needed
  · intro launch trigger watched request ran other same
    obtain rfl : operation = .run launch trigger watched request := ran
    exact sandbox.runner_congr before same trigger watched

/--
The life of the scratch directory, over any operations of one sandbox and whatever
others do to the machine between them.  Nothing is recorded until an attempt to make
the directory succeeds, and from then on that path and no other; after this attempt the
directory is there, for its owner only.  Every directory that is given, and every child
that is built, is at that path; a child has it as its home and is given a search path,
and nothing else.  While nothing is recorded, an operation that needs the directory
makes one more attempt.  Where this fails, at a directory or at the mode of the last
one, it records nothing and tells so, and leaves more directories at most; nothing is
started then, since a run can start no child but the one that was built.  Vetting, a
cleanup and a run that is refused never make it.
-/
theorem steps_lifecycle (turns : List Turn) (machine : Machine) :
    sandbox.Unfolds (sandbox.steps turns { machine }) ∧
      ∀ step ∈ sandbox.steps turns { machine }, step.Obeys sandbox := by
  refine ⟨sandbox.steps_unfold rfl turns, ?_⟩
  intro step member
  obtain ⟨operation, before, rfl⟩ := sandbox.exists_of_mem_steps member
  exact sandbox.stepOf_obeys operation before

end Sequences

def numbered : Sandbox :=
  { root := "/tmp", token := "0", tokens := fun attempt => toString attempt }

def blocked : Machine :=
  { files := .directory {} [("tmp", .file {} [])] }

def listing : Request :=
  { argv := ["ls"], path := "/bin", timeout := .zero, maxOutputBytes := 80 }

def runListing : Operation :=
  .run (fun _ _ _ _ => .error .noEntry) .never false listing

/-- A machine on which directories can be made, and their modes cannot be set. -/
def modeless : Machine where
  refuses
    | .make, _ => none
    | .setMode, _ => some .denied

/--
The first attempt fails, as a file is in the way, the second one when the directory has
already been made, and the third one succeeds.
-/
def attempted : List Turn :=
  [⟨blocked, .cleanup⟩, ⟨blocked, runListing⟩, ⟨{}, .vet ["ls"]⟩,
    ⟨modeless, .scratchDirectory⟩, ⟨{}, .build ["ls"] "/sbin"⟩, ⟨blocked, .scratchDirectory⟩]

theorem attempted_lifecycle :
    let steps := numbered.steps attempted { machine := {} }
    steps.map (·.after.scratch) =
        [none, none, none, none, some "/tmp/wrtpilot-sandbox-2",
          some "/tmp/wrtpilot-sandbox-2"] ∧
      numbered.Unfolds steps ∧
      (∃ failing ∈ steps, failing.operation = runListing ∧
        ∃ error, failing.answer.TellsOf (.setup "/tmp/wrtpilot-sandbox-0" error)) ∧
      (∃ failing ∈ steps, failing.operation = .scratchDirectory ∧
        (∃ error, failing.answer.TellsOf (.setup "/tmp/wrtpilot-sandbox-1" error)) ∧
        failing.after.machine.isDirectory [] ["tmp", "wrtpilot-sandbox-1"] = true) ∧
      ∃ building ∈ steps, building.answer.child?.isSome = true ∧
        building.HousedIn "/tmp/wrtpilot-sandbox-2" ∧
        building.after.machine.HoldsPrivate "/tmp/wrtpilot-sandbox-2" := by
  intro steps
  obtain ⟨unfolds, laws⟩ := numbered.steps_lifecycle attempted {}
  have fails (failing : Step) (member : failing ∈ steps)
      (needed : failing.operation.needsDirectory = true)
      (absent : failing.before.scratch = none) (still : failing.after.scratch = none) :
      ∃ error, failing.answer.TellsOf
        (.setup (numbered.scratchPath failing.before.attempts) error) := by
    have tries := (laws failing member).tries needed absent
    cases attempted : numbered.attempt failing.before with
    | mk result machine =>
        rw [attempted] at tries
        cases result with
        | ok => rw [tries.recorded] at still; cases still
        | error error => exact ⟨error, tries.2⟩
  refine ⟨by decide +kernel, unfolds, ?_, ?_, ?_⟩
  · let failing := steps.get ⟨1, by decide +kernel⟩
    have member : failing ∈ steps := List.get_mem steps _
    have path : numbered.scratchPath failing.before.attempts =
        "/tmp/wrtpilot-sandbox-0" := by decide +kernel
    have told := fails failing member (by decide +kernel) (by decide +kernel) (by decide +kernel)
    rw [path] at told
    exact ⟨failing, member, rfl, told⟩
  · let failing := steps.get ⟨3, by decide +kernel⟩
    have member : failing ∈ steps := List.get_mem steps _
    have path : numbered.scratchPath failing.before.attempts =
        "/tmp/wrtpilot-sandbox-1" := by decide +kernel
    have told := fails failing member (by decide +kernel) (by decide +kernel) (by decide +kernel)
    rw [path] at told
    exact ⟨failing, member, rfl, told, by decide +kernel⟩
  · let building := steps.get ⟨4, by decide +kernel⟩
    have member : building ∈ steps := List.get_mem steps _
    have path : numbered.scratchPath building.before.attempts =
        "/tmp/wrtpilot-sandbox-2" := by decide +kernel
    have built : building.answer.child?.isSome = true := by decide +kernel
    have here : building.after.scratch = some "/tmp/wrtpilot-sandbox-2" := by
      decide +kernel
    have tries := (laws building member).tries (by decide +kernel) (by decide +kernel)
    have held : building.after.machine.HoldsPrivate "/tmp/wrtpilot-sandbox-2" := by
      cases attempted : numbered.attempt building.before with
      | mk result machine =>
          rw [attempted] at tries
          cases result with
          | ok =>
              rw [path] at tries
              rw [tries.left nofun]
              exact tries.held
          | error error =>
              rw [tries.1] at here
              cases here
    rcases (laws building member).housed with ⟨-, childless⟩ | ⟨home, there, housed⟩
    · rw [childless] at built
      cases built
    · obtain rfl := Option.some.inj (here.symm.trans there)
      exact ⟨building, member, built, housed, held⟩

end PlanGuard.Sandbox
