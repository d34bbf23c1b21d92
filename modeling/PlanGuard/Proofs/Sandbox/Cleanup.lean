import PlanGuard.Proofs.Machine.Places
import PlanGuard.Proofs.Sandbox.Lifecycle

/-!
# What a cleanup removes

A cleanup goes by the age of what lies directly in the scratch directory, and takes a
directory away with all that it holds.  So nothing is lost below an entry that is not
stale itself, at whatever depth; below one that is, the age of a file does not save it.
-/

namespace PlanGuard.Sandbox

open FileTree (find_append_of_ok find_of_append_ok find_below lookup_of_find_below
  find_cons_ok find_cons_of_absent lookup_filterMap_of_some lookup_filterMap_of_none)

def Fresh (now : Int) (tree : FileTree) : Prop :=
  ∃ modified, tree.stamp.modified = some modified ∧ now - modified ≤ keptFor

theorem isStale_of_fresh {now : Int} {tree : FileTree} (fresh : Fresh now tree) :
    isStale now tree = false := by
  obtain ⟨modified, known, age⟩ := fresh
  simp only [isStale, known, decide_eq_false_iff_not, Int.not_lt]
  exact age

theorem sweep_of_not_stale {now : Int} {tree : FileTree} (young : isStale now tree = false)
    (name : String) : sweep now (name, tree) = some (name, tree) := by
  simp only [sweep, young, Bool.false_eq_true, if_false]

theorem sweep_eq_none_of_stale {now : Int} {tree : FileTree}
    (stale : isStale now tree = true) (free : tree.holdsPinned = false) (name : String) :
    sweep now (name, tree) = none := by
  have nothing := (FileTree.remnant?_eq_none_iff now tree).mpr free
  simp only [sweep, stale, nothing, if_true, Option.map_none]

theorem sweep_name (now : Int) (entry left : String × FileTree)
    (swept : sweep now entry = some left) : left.1 = entry.1 := by
  unfold sweep at swept
  split at swept
  · obtain ⟨tree, -, rfl⟩ := Option.map_eq_some_iff.mp swept
    rfl
  · obtain rfl := Option.some.inj swept
    rfl

theorem length_filterMap_sweep (now : Int) (entries : List (String × FileTree)) :
    (entries.filterMap (sweep now)).length +
      (entries.countP fun entry => (sweep now entry).isNone) = entries.length := by
  rw [List.length_filterMap_eq_countP,
    List.length_eq_countP_add_countP (fun entry => (sweep now entry).isSome)]
  simp only [Bool.decide_eq_true, Bool.not_eq_true, Option.isSome_eq_false_iff]

/-- What lies in an entry that is not stale stays as it is, at whatever depth. -/
def Keeps (place : List String) (before after : Machine) : Prop :=
  ∀ name top inner, before.files.find (place ++ [name]) = .ok top →
    isStale before.now top = false →
    after.files.find (place ++ name :: inner) = before.files.find (place ++ name :: inner)

/--
What a cleanup with this answer does to the files of a machine on which the scratch
directory is at a place.
-/
structure Spares (place : List String) (before after : Machine)
    (answer : Except SystemError Nat) : Prop where
  /-- A fresh tree is lost only below a directory in the scratch directory that is stale. -/
  fresh : ∀ name inner tree, before.files.find (place ++ name :: inner) = .ok tree →
    Fresh before.now tree → after.files.find (place ++ name :: inner) ≠ .ok tree →
    inner ≠ [] ∧ ∃ stamp entries,
      before.files.find (place ++ [name]) = .ok (.directory stamp entries) ∧
        isStale before.now (.directory stamp entries) = true
  kept : Keeps place before after
  /-- Of a stale entry nothing stays if there is nothing that the system refuses to remove. -/
  swept : ∀ stamp entries, before.files.find place = .ok (.directory stamp entries) →
    (entries.map Prod.fst).Nodup → ∀ name top inner, entries.lookup name = some top →
    isStale before.now top = true → top.holdsPinned = false →
    after.files.find (place ++ name :: inner) = .error .noEntry
  /-- The answer tells how many entries are gone. -/
  counted : ∀ stamp entries, before.files.find place = .ok (.directory stamp entries) →
    ∃ left remaining removed, after.files.find place = .ok (.directory left remaining) ∧
      answer = .ok removed ∧ remaining.length + removed = entries.length
  /-- Nothing changes outside of the directory. -/
  elsewhere : ∀ other, ¬other <+: place → ¬place <+: other →
    after.files.find other = before.files.find other
  clock : after.now = before.now

section Cleanups

variable {state : State} {path : String} {place : List String}

theorem cleanup_of_no_directory (recorded : state.scratch = some path)
    (resolved : state.machine.resolve path = .ok place)
    (missing : ¬∃ stamp entries,
      state.machine.files.find place = .ok (.directory stamp entries)) :
    ∃ error, cleanup state = (.error error, state) := by
  have unlisted : ∃ error, state.machine.files.entriesAt place = .error error := by
    unfold FileTree.entriesAt
    split
    · exact absurd ⟨_, _, ‹_›⟩ missing
    · exact ⟨_, rfl⟩
    · exact ⟨_, rfl⟩
  obtain ⟨error, unlisted⟩ := unlisted
  have failed : state.machine.entries path = .error error := by
    simp only [Machine.entries, resolved, unlisted, bind, Except.bind]
  exact ⟨error, by simp only [cleanup, recorded, failed]⟩

theorem cleanup_of_directory {stamp : Stamp} {entries : List (String × FileTree)}
    (recorded : state.scratch = some path)
    (resolved : state.machine.resolve path = .ok place)
    (here : state.machine.files.find place = .ok (.directory stamp entries)) :
    ∃ files, cleanup state =
        (.ok (entries.countP fun entry => (sweep state.machine.now entry).isNone),
          { state with machine := { state.machine with files } }) ∧
      state.machine.files.modify
        (FileTree.siftEntries state.machine.now (sweep state.machine.now)) place =
          .ok files := by
  have made : FileTree.siftEntries state.machine.now (sweep state.machine.now)
      (.directory stamp entries) = .ok (FileTree.leaving state.machine.now stamp entries
        (entries.filterMap (sweep state.machine.now))) := rfl
  obtain ⟨files, sifted⟩ := FileTree.modify_of_find here made
  refine ⟨files, ?_, sifted⟩
  have listed : state.machine.entries path = .ok entries := by
    simp only [Machine.entries, resolved, FileTree.entriesAt, here, bind, Except.bind]
  have left : state.machine.siftEntries path (sweep state.machine.now) =
      .ok { state.machine with files } := by
    simp only [Machine.siftEntries, resolved, sifted, bind, Except.bind, pure, Except.pure]
  simp only [cleanup, recorded, listed, left]

/-- What is fresh is lost below a stale directory only, if the other entries are kept. -/
theorem stale_of_lost {before after : Machine} (kept : Keeps place before after)
    {name : String} {inner : List String} {tree : FileTree}
    (found : before.files.find (place ++ name :: inner) = .ok tree)
    (fresh : Fresh before.now tree)
    (lost : after.files.find (place ++ name :: inner) ≠ .ok tree) :
    inner ≠ [] ∧ ∃ stamp entries,
      before.files.find (place ++ [name]) = .ok (.directory stamp entries) ∧
        isStale before.now (.directory stamp entries) = true := by
  have within : before.files.find ((place ++ [name]) ++ inner) = .ok tree := by
    rw [List.append_assoc]
    exact found
  obtain ⟨top, there, below⟩ := find_of_append_ok within
  have stale : isStale before.now top = true := by
    cases judged : isStale before.now top with
    | true => rfl
    | false => exact absurd ((kept name top inner there judged).trans found) lost
  cases inner with
  | nil =>
      rw [FileTree.find_nil] at below
      obtain rfl := Except.ok.inj below
      rw [isStale_of_fresh fresh] at stale
      cases stale
  | cons step rest =>
      obtain ⟨stamp, entries, _, rfl, _⟩ := find_cons_ok below
      exact ⟨List.cons_ne_nil step rest, stamp, entries, there, stale⟩

section Sifted

variable {machine : Machine} {files : FileTree} {stamp : Stamp}
  {entries : List (String × FileTree)}

/-- What a cleanup leaves of a directory is found at its place. -/
theorem find_sifted (here : machine.files.find place = .ok (.directory stamp entries))
    (sifted : machine.files.modify
      (FileTree.siftEntries machine.now (sweep machine.now)) place = .ok files) :
    ∃ left, files.find place =
      .ok (.directory left (entries.filterMap (sweep machine.now))) :=
  ⟨_, FileTree.find_of_sifted here sifted⟩

theorem keeps_of_sifted {left : Stamp}
    (here : machine.files.find place = .ok (.directory stamp entries))
    (there : files.find place =
      .ok (.directory left (entries.filterMap (sweep machine.now)))) :
    Keeps place machine { machine with files } := by
  intro name top inner found young
  obtain ⟨held, listed, same⟩ := lookup_of_find_below here found
  rw [FileTree.find_nil] at same
  obtain rfl := Except.ok.inj same
  have stays := lookup_filterMap_of_some (sweep_name machine.now) listed
    (sweep_of_not_stale young name)
  rw [find_below there stays, find_below here listed]

/-- The cleanup of a directory, by what becomes of its entries. -/
theorem spares_of_sifted (here : machine.files.find place = .ok (.directory stamp entries))
    (sifted : machine.files.modify
      (FileTree.siftEntries machine.now (sweep machine.now)) place = .ok files) :
    Spares place machine { machine with files }
      (.ok (entries.countP fun entry => (sweep machine.now entry).isNone)) := by
  obtain ⟨left, there⟩ := find_sifted here sifted
  have kept := keeps_of_sifted here there
  refine ⟨fun _ _ _ => stale_of_lost kept, kept, ?_, ?_, ?_, rfl⟩
  · intro stamp' entries' same distinct name top inner listed stale free
    obtain ⟨rfl, rfl⟩ := FileTree.directory.inj (Except.ok.inj (here.symm.trans same))
    have gone := lookup_filterMap_of_none (sweep_name machine.now) distinct listed
      (sweep_eq_none_of_stale stale free name)
    rw [find_append_of_ok there, find_cons_of_absent gone]
  · intro stamp' entries' same
    obtain ⟨rfl, rfl⟩ := FileTree.directory.inj (Except.ok.inj (here.symm.trans same))
    refine ⟨left, _, _, there, rfl, ?_⟩
    exact length_filterMap_sweep machine.now entries
  · intro other above below
    exact FileTree.find_modify_of_apart sifted above below

end Sifted

/-- A machine without a directory at the place has nothing to lose there. -/
theorem spares_of_no_directory {machine : Machine} (answer : Except SystemError Nat)
    (missing : ¬∃ stamp entries, machine.files.find place = .ok (.directory stamp entries)) :
    Spares place machine machine answer :=
  { fresh := fun _ _ _ found _ lost => absurd found lost
    kept := fun _ _ _ _ _ => rfl
    swept := fun _ _ here => absurd ⟨_, _, here⟩ missing
    counted := fun _ _ here => absurd ⟨_, _, here⟩ missing
    elsewhere := fun _ _ _ => rfl
    clock := rfl }

theorem cleanup_spares (recorded : state.scratch = some path)
    (resolved : state.machine.resolve path = .ok place) :
    Spares place state.machine (cleanup state).2.machine (cleanup state).1 := by
  by_cases there : ∃ stamp entries,
      state.machine.files.find place = .ok (.directory stamp entries)
  · obtain ⟨stamp, entries, here⟩ := there
    obtain ⟨files, cleaned, sifted⟩ := cleanup_of_directory recorded resolved here
    rw [cleaned]
    exact spares_of_sifted here sifted
  · obtain ⟨error, cleaned⟩ := cleanup_of_no_directory recorded resolved there
    rw [cleaned]
    exact spares_of_no_directory _ there

end Cleanups

/-! ## Sequences -/

/--
What is done in a step to clean up the scratch directory at a path: the machine that is
left, and the answer.
-/
structure Step.Cleans (step : Step) (sandbox : Sandbox) (path : String)
    (cleaned : Machine) (answer : Except SystemError Nat) : Prop where
  spares : ∀ place, step.before.machine.resolve path = .ok place →
    Spares place step.before.machine cleaned answer
  astray : ∀ error, step.before.machine.resolve path = .error error →
    cleaned = step.before.machine ∧ answer = .error error
  cleanup : step.operation = .cleanup → step.answer = .cleaned answer ∧
    step.after = { step.before with machine := cleaned }
  /-- The child of a run is started on the machine that was cleaned. -/
  run : ∀ launch trigger watched request,
    step.operation = .run launch trigger watched request →
    refusal? request.argv = none →
    ∃ child, AtHome child path request.argv request.path ∧
      sandbox.runner launch trigger watched request step.before =
        sandbox.watchOver launch trigger watched request child
          { step.before with machine := cleaned }

theorem cleanup_of_astray {state : State} {path : String} {error : SystemError}
    (recorded : state.scratch = some path)
    (unresolved : state.machine.resolve path = .error error) :
    cleanup state = (.error error, state) := by
  have failed : state.machine.entries path = .error error := by
    simp only [Machine.entries, unresolved, bind, Except.bind]
  simp only [cleanup, recorded, failed]

theorem stepOf_cleans (sandbox : Sandbox) (operation : Operation) {before : State}
    {path : String} (recorded : before.scratch = some path) :
    (sandbox.stepOf operation before).Cleans sandbox path (cleanup before).2.machine
      (cleanup before).1 := by
  have frame : (cleanup before).2 =
      { before with machine := (cleanup before).2.machine } := by
    obtain ⟨machine, framed⟩ := cleanup_frame before
    rw [framed]
  refine ⟨fun place resolved => cleanup_spares recorded resolved, ?_, ?_, ?_⟩
  · intro error unresolved
    rw [cleanup_of_astray recorded unresolved]
    exact ⟨rfl, rfl⟩
  · intro isCleanup
    obtain rfl : operation = .cleanup := isCleanup
    exact ⟨rfl, frame⟩
  · intro launch trigger watched request isRun accepted
    have known : (cleanup before).2.scratch = some path := by
      rw [frame]
      exact recorded
    obtain ⟨child, prepared, housed⟩ := sandbox.ready_of_given accepted
      (sandbox.scratchDirectory_of_recorded known)
    rw [frame] at prepared
    exact ⟨child, housed, sandbox.runner_of_ok prepared launch trigger watched⟩

/--
Cleaning up, over any operations of one sandbox and whatever others do to the machine
between them.  Without a recorded directory a cleanup does nothing.  With one, it takes
away what is stale directly in it, with all that this holds, and nothing else; so what
is fresh is lost only if it lies below a directory, directly in the scratch directory,
that is stale itself.  A run that is not refused does the same before its child is
started.
-/
theorem steps_clean (sandbox : Sandbox) (turns : List Turn) (machine : Machine) :
    ∀ step ∈ sandbox.steps turns { machine },
      (step.before.scratch = none → cleanup step.before = (.ok 0, step.before)) ∧
        ∀ path, step.before.scratch = some path →
          ∃ cleaned answer, step.Cleans sandbox path cleaned answer := by
  intro step member
  obtain ⟨operation, before, rfl⟩ := sandbox.exists_of_mem_steps member
  refine ⟨cleanup_of_absent, ?_⟩
  intro path recorded
  exact ⟨_, _, sandbox.stepOf_cleans operation recorded⟩

def aged : Stamp := { modified := some 0 }

def recent : Stamp := { modified := some 7200000000000 }

def cluttered : Machine :=
  { now := 7200000000000
    files := .directory {} [("tmp", .directory {} [("wrtpilot-sandbox-0", .directory {}
      [("log", .file aged []), ("note", .file recent []),
        ("new", .directory recent [("log", .file aged [])]),
        ("old", .directory aged [("note", .file recent [])])])])] }

def clearing : List Turn :=
  [⟨{}, .scratchDirectory⟩, ⟨cluttered, .cleanup⟩]

def scratchPlace : List String := ["tmp", "wrtpilot-sandbox-0"]

theorem clearing_cleans :
    ∃ step ∈ numbered.steps clearing { machine := {} }, ∃ cleaned answer,
      step.Cleans numbered "/tmp/wrtpilot-sandbox-0" cleaned answer ∧
        cleaned.files.find (scratchPlace ++ ["new", "log"]) = .ok (.file aged []) ∧
        cleaned.files.find (scratchPlace ++ ["log"]) = .error .noEntry := by
  let step := (numbered.steps clearing { machine := {} }).get ⟨1, by decide +kernel⟩
  have member : step ∈ numbered.steps clearing { machine := {} } := List.get_mem _ _
  have recorded : step.before.scratch = some "/tmp/wrtpilot-sandbox-0" := by decide +kernel
  obtain ⟨cleaned, answer, cleans⟩ :=
    (numbered.steps_clean clearing {} step member).2 _ recorded
  have resolved : step.before.machine.resolve "/tmp/wrtpilot-sandbox-0" =
      .ok scratchPlace := by with_unfolding_all rfl
  have spares := cleans.spares scratchPlace resolved
  refine ⟨step, member, cleaned, answer, cleans, ?_, ?_⟩
  · exact spares.kept "new" _ ["log"] rfl rfl
  · exact spares.swept _ _ rfl (by decide) "log" _ [] rfl rfl rfl

/-- A fresh file is lost with the stale directory that it lies in. -/
theorem stale_directory_takes_fresh_file :
    ¬∀ turns, ∀ step ∈ numbered.steps turns { machine := {} }, ∀ path place,
      step.before.scratch = some path → step.before.machine.resolve path = .ok place →
      ∀ inner stamp content,
        step.before.machine.files.find (place ++ inner) = .ok (.file stamp content) →
        Fresh step.before.machine.now (.file stamp content) →
        (cleanup step.before).2.machine.files.find (place ++ inner) =
          .ok (.file stamp content) := by
  intro never
  let step := (numbered.steps clearing { machine := {} }).get ⟨1, by decide +kernel⟩
  have member : step ∈ numbered.steps clearing { machine := {} } := List.get_mem _ _
  have kept := never clearing step member "/tmp/wrtpilot-sandbox-0" scratchPlace
    (by decide +kernel) (by with_unfolding_all rfl) ["old", "note"] recent [] rfl ⟨_, rfl, by decide⟩
  have lost : (cleanup step.before).2.machine.files.find
      (scratchPlace ++ ["old", "note"]) = .error .noEntry := by
    with_unfolding_all rfl
  rw [lost] at kept
  cases kept

end PlanGuard.Sandbox
