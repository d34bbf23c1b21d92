import PlanGuard.Proofs.Machine.Making
import PlanGuard.Sandbox.Runner

/-!
# What is done with a sandbox

Five things are done with a sandbox: it gives its scratch directory, builds a child,
cleans up, vets an argv, and runs a request.  Between them anybody may change the
machine, so that making the directory can fail in any attempt and succeed in a later
one.  `Lawful` says what one operation has to do with the directory.
-/

namespace PlanGuard.Sandbox

inductive Operation where
  | scratchDirectory
  | build (argv : Argv) (path : String)
  | cleanup
  | vet (argv : Argv)
  | run (launch : Launch) (trigger : Trigger) (watched : Bool) (request : Request)

inductive Answer where
  | directory (answer : Except Trouble String)
  | built (answer : Except Trouble Child)
  | cleaned (answer : Except SystemError Nat)
  | vetted (answer : Option Refusal)
  /-- The reply, with the child that was to be started for it, if there was one. -/
  | ran (reply : Reply) (child : Option Child)

namespace Operation

def needsDirectory : Operation → Bool
  | .scratchDirectory | .build _ _ => true
  | .cleanup | .vet _ => false
  | .run _ _ _ request => (refusal? request.argv).isNone

def order? : Operation → Option (Argv × String)
  | .build argv path => some (argv, path)
  | .run _ _ _ request => some (request.argv, request.path)
  | .scratchDirectory | .cleanup | .vet _ => none

end Operation

namespace Answer

def directory? : Answer → Option String
  | .directory (.ok path) => some path
  | _ => none

def child? : Answer → Option Child
  | .built (.ok child) => some child
  | .ran _ child => child
  | _ => none

/-- The operation came to nothing because of this trouble, and tells so. -/
def TellsOf (trouble : Trouble) : Answer → Prop
  | .directory answer => answer = .error trouble
  | .built answer => answer = .error trouble
  | .ran reply child =>
      reply.failure = some (.io trouble.message) ∧ reply.output = "" ∧ child = none
  | .cleaned _ | .vetted _ => False

theorem TellsOf.nothing {trouble : Trouble} {answer : Answer}
    (told : answer.TellsOf trouble) : answer.directory? = none ∧ answer.child? = none := by
  cases answer with
  | directory result => rw [show result = .error trouble from told]; exact ⟨rfl, rfl⟩
  | built result => rw [show result = .error trouble from told]; exact ⟨rfl, rfl⟩
  | cleaned => cases told
  | vetted => cases told
  | ran reply child => exact ⟨rfl, told.2.2⟩

end Answer

def perform (sandbox : Sandbox) (operation : Operation) (state : State) :
    Answer × State :=
  match operation with
  | .scratchDirectory =>
      let (answer, state) := sandbox.scratchDirectory state
      (.directory answer, state)
  | .build argv path =>
      let (answer, state) := sandbox.build argv path state
      (.built answer, state)
  | .cleanup =>
      let (answer, state) := Sandbox.cleanup state
      (.cleaned answer, state)
  | .vet argv => (.vetted (refusal? argv), state)
  | .run launch trigger watched request =>
      let (reply, after) := sandbox.runner launch trigger watched request state
      (.ran reply (sandbox.ready request state).1.toOption, after)

structure Turn where
  machine : Machine
  operation : Operation

structure Step where
  before : State
  operation : Operation
  answer : Answer
  after : State

def stepOf (sandbox : Sandbox) (operation : Operation) (before : State) : Step :=
  { before, operation
    answer := (sandbox.perform operation before).1
    after := (sandbox.perform operation before).2 }

def steps (sandbox : Sandbox) : List Turn → State → List Step
  | [], _ => []
  | turn :: rest, state =>
      let step := sandbox.stepOf turn.operation { state with machine := turn.machine }
      step :: sandbox.steps rest step.after

/-- The child is for this argv, at home in a directory, with a search path. -/
structure AtHome (child : Child) (home : String) (argv : Argv) (path : String) : Prop where
  argv : child.program :: child.arguments = argv
  directory : child.directory = some home
  environment : child.environment = [("HOME", home), ("PATH", path)]

namespace Step

/--
The directory that the operation gave, and the child that it built, if any, are at
this home.
-/
structure HousedIn (step : Step) (home : String) : Prop where
  given : ∀ path, step.answer.directory? = some path → path = home
  child : ∀ child, step.answer.child? = some child → ∃ argv path,
    step.operation.order? = some (argv, path) ∧ AtHome child home argv path

end Step

/-- An attempt to make the scratch directory, and the machine that it leaves. -/
def attempt (sandbox : Sandbox) (state : State) : Except SystemError Unit × Machine :=
  state.machine.makePrivate (sandbox.scratchPath state.attempts)

/-! ## One attempt -/

theorem steps_scratchPath_ne_nil (sandbox : Sandbox) (attempt : Nat) :
    FileTree.steps (sandbox.scratchPath attempt) ≠ [] := by
  have named : 'w' ∈ (sandbox.scratchPath attempt).toList := by
    unfold scratchPath below
    split <;> simp [String.toList_append]
  exact FileTree.steps_ne_nil named (by decide) (by decide)

theorem attempt_extends (sandbox : Sandbox) (state : State) :
    state.machine.Extends (sandbox.attempt state).2 :=
  Machine.makePrivate_extends (sandbox.steps_scratchPath_ne_nil _)

theorem holdsPrivate_of_attempt (sandbox : Sandbox) {state : State} {machine : Machine}
    (success : sandbox.attempt state = (.ok (), machine)) :
    machine.HoldsPrivate (sandbox.scratchPath state.attempts) :=
  Machine.holdsPrivate_of_makePrivate (sandbox.steps_scratchPath_ne_nil _) success

/-! ## One operation -/

section Operations

variable (sandbox : Sandbox) {state : State}

theorem scratchDirectory_of_recorded {path : String}
    (recorded : state.scratch = some path) :
    sandbox.scratchDirectory state = (.ok path, state) := by
  simp only [scratchDirectory, recorded]

theorem scratchDirectory_of_made {machine : Machine} (absent : state.scratch = none)
    (made : sandbox.attempt state = (.ok (), machine)) :
    sandbox.scratchDirectory state =
      (.ok (sandbox.scratchPath state.attempts),
        { scratch := some (sandbox.scratchPath state.attempts)
          attempts := state.attempts + 1, machine }) := by
  unfold attempt at made
  simp only [scratchDirectory, absent, made]

theorem scratchDirectory_of_error {error : SystemError} {machine : Machine}
    (absent : state.scratch = none)
    (refused : sandbox.attempt state = (.error error, machine)) :
    sandbox.scratchDirectory state =
      (.error (.setup (sandbox.scratchPath state.attempts) error),
        { state with attempts := state.attempts + 1, machine }) := by
  unfold attempt at refused
  simp only [scratchDirectory, absent, refused]

theorem cleanup_frame (state : State) :
    ∃ machine, (cleanup state).2 = { state with machine } := by
  unfold cleanup
  split
  · exact ⟨state.machine, rfl⟩
  · dsimp only
    split
    · exact ⟨state.machine, rfl⟩
    · split
      · exact ⟨state.machine, rfl⟩
      · exact ⟨_, rfl⟩

theorem cleanup_of_absent (absent : state.scratch = none) :
    cleanup state = (.ok 0, state) := by
  simp only [cleanup, absent]

theorem watchOver_frame (launch : Launch) (trigger : Trigger) (watched : Bool)
    (request : Request) (child : Child) (state : State) :
    ∃ machine, (sandbox.watchOver launch trigger watched request child state).2 =
      { state with machine } := by
  unfold watchOver
  dsimp only
  split
  · exact ⟨state.machine, rfl⟩
  · exact ⟨_, rfl⟩

theorem build_of_trouble {trouble : Trouble} {after : State}
    (refused : sandbox.scratchDirectory state = (.error trouble, after)) (argv : Argv)
    (path : String) : sandbox.build argv path state = (.error trouble, after) := by
  simp only [build, refused]

/-- The directory is made even for an argv that no child can be built for. -/
theorem build_of_empty {home : String} {after : State}
    (given : sandbox.scratchDirectory state = (.ok home, after)) (path : String) :
    sandbox.build [] path state = (.error (.refused .emptyCommand), after) := by
  simp only [build, given, Child.ofArgv?]

theorem build_of_given {home : String} {after : State}
    (given : sandbox.scratchDirectory state = (.ok home, after)) (program : String)
    (arguments : List String) (path : String) :
    ∃ child, sandbox.build (program :: arguments) path state = (.ok child, after) ∧
      AtHome child home (program :: arguments) path := by
  refine ⟨({ program, arguments, environment := [("PATH", path)] } : Child).atHome home,
    ?_, rfl, rfl, rfl⟩
  simp only [build, given, Child.ofArgv?]

theorem ready_of_refused {request : Request} {refusal : Refusal}
    (refused : refusal? request.argv = some refusal) (state : State) :
    sandbox.ready request state = (.error (.rejected refusal.reason), state) := by
  unfold ready
  rw [refused]

theorem ready_of_trouble {request : Request} {trouble : Trouble} {after : State}
    (accepted : refusal? request.argv = none)
    (refused : sandbox.scratchDirectory (cleanup state).2 = (.error trouble, after)) :
    sandbox.ready request state = (.error (.io trouble.message), after) := by
  have built := sandbox.build_of_trouble refused request.argv request.path
  simp only [ready, accepted, built]

/-- A request that is not refused has its child built after a cleanup. -/
theorem ready_of_given {request : Request} {home : String} {after : State}
    (accepted : refusal? request.argv = none)
    (given : sandbox.scratchDirectory (cleanup state).2 = (.ok home, after)) :
    ∃ child, sandbox.ready request state = (.ok child, after) ∧
      AtHome child home request.argv request.path := by
  cases named : request.argv with
  | nil => simp [named, refusal?] at accepted
  | cons program arguments =>
      obtain ⟨child, built, housed⟩ :=
        sandbox.build_of_given given program arguments request.path
      rw [named] at accepted
      refine ⟨child, ?_, housed⟩
      simp only [ready, named, accepted, built]

theorem runner_of_error {request : Request} {failure : Failure} {after : State}
    (unready : sandbox.ready request state = (.error failure, after)) (launch : Launch)
    (trigger : Trigger) (watched : Bool) :
    sandbox.runner launch trigger watched request state =
      (request.refuse failure after.machine, after) := by
  unfold runner
  rw [unready]

theorem runner_of_ok {request : Request} {child : Child} {after : State}
    (prepared : sandbox.ready request state = (.ok child, after)) (launch : Launch)
    (trigger : Trigger) (watched : Bool) :
    sandbox.runner launch trigger watched request state =
      sandbox.watchOver launch trigger watched request child after := by
  unfold runner
  rw [prepared]

end Operations

inductive Lawful (sandbox : Sandbox) (step : Step) : Prop where
  /-- It does without the directory, and does not make it. -/
  | apart (unneeded : step.operation.needsDirectory = false)
      (frame : ∃ machine, step.after = { step.before with machine })
      (unchanged : step.before.scratch = none ∨ step.operation ≠ .cleanup →
        step.after = step.before)
      (nothing : step.answer.directory? = none ∧ step.answer.child? = none)
  /-- It uses the directory that is recorded. -/
  | settled {home : String} (needed : step.operation.needsDirectory = true)
      (recorded : step.before.scratch = some home)
      (frame : ∃ machine, step.after = { step.before with machine })
      (housed : step.HousedIn home)
  /-- It makes the directory, records it, and uses it. -/
  | made {machine : Machine} (needed : step.operation.needsDirectory = true)
      (absent : step.before.scratch = none)
      (success : sandbox.attempt step.before = (.ok (), machine))
      (recorded : step.after.scratch = some (sandbox.scratchPath step.before.attempts))
      (counted : step.after.attempts = step.before.attempts + 1)
      (housed : step.HousedIn (sandbox.scratchPath step.before.attempts))
  /-- It tries to make the directory, and tells that this has failed. -/
  | failed {error : SystemError} {machine : Machine}
      (needed : step.operation.needsDirectory = true)
      (absent : step.before.scratch = none)
      (refusal : sandbox.attempt step.before = (.error error, machine))
      (unrecorded : step.after =
        { step.before with attempts := step.before.attempts + 1, machine })
      (told : step.answer.TellsOf
        (.setup (sandbox.scratchPath step.before.attempts) error))

section Operations

variable (sandbox : Sandbox)

/--
An operation that needs the directory goes by what is given for it, of a state whose
files may have been cleaned before.
-/
theorem lawful_of_given {step : Step} {cleaned between : State} {home : String}
    (needed : step.operation.needsDirectory = true)
    (frame : ∃ machine, cleaned = { step.before with machine })
    (uncleaned : step.before.scratch = none → cleaned = step.before)
    (given : sandbox.scratchDirectory cleaned = (.ok home, between))
    (after : ∃ machine, step.after = { between with machine })
    (housed : step.HousedIn home) : sandbox.Lawful step := by
  obtain ⟨last, after⟩ := after
  cases recorded : step.before.scratch with
  | some path =>
      obtain ⟨machine, framed⟩ := frame
      have known : cleaned.scratch = some path := by rw [framed]; exact recorded
      rw [sandbox.scratchDirectory_of_recorded known, framed] at given
      obtain ⟨same, rfl⟩ := Prod.mk.inj given
      obtain rfl := Except.ok.inj same
      exact .settled needed recorded ⟨last, after⟩ housed
  | none =>
      obtain rfl := uncleaned recorded
      cases attempted : sandbox.attempt step.before with
      | mk result machine =>
          cases result with
          | error error =>
              rw [sandbox.scratchDirectory_of_error recorded attempted] at given
              cases given
          | ok =>
              rw [sandbox.scratchDirectory_of_made recorded attempted] at given
              obtain ⟨same, rfl⟩ := Prod.mk.inj given
              obtain rfl := Except.ok.inj same
              exact .made needed recorded attempted (congrArg State.scratch after)
                (congrArg State.attempts after) housed

theorem lawful_of_trouble {step : Step} {cleaned : State} {trouble : Trouble}
    (needed : step.operation.needsDirectory = true)
    (frame : ∃ machine, cleaned = { step.before with machine })
    (uncleaned : step.before.scratch = none → cleaned = step.before)
    (refused : sandbox.scratchDirectory cleaned = (.error trouble, step.after))
    (told : step.answer.TellsOf trouble) : sandbox.Lawful step := by
  cases recorded : step.before.scratch with
  | some path =>
      obtain ⟨machine, framed⟩ := frame
      have known : cleaned.scratch = some path := by rw [framed]; exact recorded
      rw [sandbox.scratchDirectory_of_recorded known] at refused
      cases refused
  | none =>
      obtain rfl := uncleaned recorded
      cases attempted : sandbox.attempt step.before with
      | mk result machine =>
          cases result with
          | ok =>
              rw [sandbox.scratchDirectory_of_made recorded attempted] at refused
              cases refused
          | error error =>
              rw [sandbox.scratchDirectory_of_error recorded attempted] at refused
              obtain ⟨same, unrecorded⟩ := Prod.mk.inj refused
              obtain rfl := Except.error.inj same
              exact .failed needed recorded attempted unrecorded.symm told

theorem scratchDirectory_lawful (before : State) :
    sandbox.Lawful (sandbox.stepOf .scratchDirectory before) := by
  have step : sandbox.stepOf .scratchDirectory before =
      ⟨before, .scratchDirectory, .directory (sandbox.scratchDirectory before).1,
        (sandbox.scratchDirectory before).2⟩ := rfl
  cases obtained : sandbox.scratchDirectory before with
  | mk result after =>
      rw [step, obtained]
      cases result with
      | error trouble =>
          exact sandbox.lawful_of_trouble rfl ⟨before.machine, rfl⟩ (fun _ => rfl)
            obtained rfl
      | ok home =>
          refine sandbox.lawful_of_given rfl ⟨before.machine, rfl⟩ (fun _ => rfl)
            obtained ⟨after.machine, rfl⟩ ⟨?_, nofun⟩
          intro path same
          exact (Option.some.inj same).symm

theorem build_lawful (argv : Argv) (path : String) (before : State) :
    sandbox.Lawful (sandbox.stepOf (.build argv path) before) := by
  have step : sandbox.stepOf (.build argv path) before =
      ⟨before, .build argv path, .built (sandbox.build argv path before).1,
        (sandbox.build argv path before).2⟩ := rfl
  rw [step]
  cases obtained : sandbox.scratchDirectory before with
  | mk result after =>
      cases result with
      | error trouble =>
          rw [sandbox.build_of_trouble obtained]
          exact sandbox.lawful_of_trouble rfl ⟨before.machine, rfl⟩ (fun _ => rfl)
            obtained rfl
      | ok home =>
          cases argv with
          | nil =>
              rw [sandbox.build_of_empty obtained]
              exact sandbox.lawful_of_given rfl ⟨before.machine, rfl⟩ (fun _ => rfl)
                obtained ⟨after.machine, rfl⟩ ⟨nofun, nofun⟩
          | cons program arguments =>
              obtain ⟨child, built, housed⟩ :=
                sandbox.build_of_given obtained program arguments path
              rw [built]
              refine sandbox.lawful_of_given rfl ⟨before.machine, rfl⟩ (fun _ => rfl)
                obtained ⟨after.machine, rfl⟩ ⟨nofun, ?_⟩
              intro other same
              obtain rfl := Option.some.inj same
              exact ⟨_, _, rfl, housed⟩

/-- A request that is refused leaves everything as it is; any other needs the directory. -/
theorem run_lawful (launch : Launch) (trigger : Trigger) (watched : Bool)
    (request : Request) (before : State) :
    sandbox.Lawful (sandbox.stepOf (.run launch trigger watched request) before) := by
  have step : sandbox.stepOf (.run launch trigger watched request) before =
      ⟨before, .run launch trigger watched request,
        .ran (sandbox.runner launch trigger watched request before).1
          (sandbox.ready request before).1.toOption,
        (sandbox.runner launch trigger watched request before).2⟩ := rfl
  rw [step]
  cases vetted : refusal? request.argv with
  | some refusal =>
      have unready := sandbox.ready_of_refused vetted before
      rw [sandbox.runner_of_error unready, unready]
      refine .apart ?_ ⟨before.machine, rfl⟩ (fun _ => rfl) ⟨rfl, rfl⟩
      simp only [Operation.needsDirectory, vetted, Option.isNone_some]
  | none =>
      have needed : (Operation.run launch trigger watched request).needsDirectory = true := by
        simp only [Operation.needsDirectory, vetted, Option.isNone_none]
      have uncleaned : before.scratch = none → (cleanup before).2 = before := by
        intro absent
        rw [cleanup_of_absent absent]
      cases obtained : sandbox.scratchDirectory (cleanup before).2 with
      | mk result after =>
          cases result with
          | error trouble =>
              have unready := sandbox.ready_of_trouble vetted obtained
              rw [sandbox.runner_of_error unready, unready]
              exact sandbox.lawful_of_trouble needed (cleanup_frame before) uncleaned
                obtained ⟨rfl, rfl, rfl⟩
          | ok home =>
              obtain ⟨child, prepared, housed⟩ := sandbox.ready_of_given vetted obtained
              rw [sandbox.runner_of_ok prepared, prepared]
              refine sandbox.lawful_of_given needed (cleanup_frame before) uncleaned
                obtained (sandbox.watchOver_frame ..) ⟨nofun, ?_⟩
              intro other same
              obtain rfl := Option.some.inj same
              exact ⟨_, _, rfl, housed⟩

theorem perform_lawful (operation : Operation) (before : State) :
    sandbox.Lawful (sandbox.stepOf operation before) := by
  cases operation with
  | scratchDirectory => exact sandbox.scratchDirectory_lawful before
  | build argv path => exact sandbox.build_lawful argv path before
  | cleanup =>
      refine .apart rfl (cleanup_frame before) ?_ ⟨rfl, rfl⟩
      rintro (absent | other)
      · exact congrArg Prod.snd (cleanup_of_absent absent)
      · exact absurd rfl other
  | vet argv => exact .apart rfl ⟨before.machine, rfl⟩ (fun _ => rfl) ⟨rfl, rfl⟩
  | run launch trigger watched request =>
      exact sandbox.run_lawful launch trigger watched request before

/-! ## What is started -/

/-- A child is observed through what the launch says of that child. -/
theorem observe_congr {launch other : Launch} {child : Child}
    (same : ∀ reach limit machine,
      other reach limit child machine = launch reach limit child machine)
    (reach : Reach) (limit : Nat) (stops : Life → List (Nat × Stop))
    (machine : Machine) :
    observe other reach limit stops child machine =
      observe launch reach limit stops child machine := by
  unfold observe
  simp only [same]

/-- The child that was made ready is the only one that a run can start. -/
theorem runner_congr {launch other : Launch} {request : Request} (before : State)
    (same : ∀ child, (sandbox.ready request before).1.toOption = some child →
      ∀ reach limit machine,
        other reach limit child machine = launch reach limit child machine)
    (trigger : Trigger) (watched : Bool) :
    sandbox.runner other trigger watched request before =
      sandbox.runner launch trigger watched request before := by
  cases prepared : sandbox.ready request before with
  | mk result after =>
      cases result with
      | error failure =>
          rw [sandbox.runner_of_error prepared, sandbox.runner_of_error prepared]
      | ok child =>
          rw [prepared] at same
          have agree := observe_congr (same child rfl)
          rw [sandbox.runner_of_ok prepared, sandbox.runner_of_ok prepared]
          unfold watchOver
          simp only [agree]

end Operations

end PlanGuard.Sandbox
