import PlanGuard.Proofs.Machine.Changes
import PlanGuard.Proofs.Sandbox.Cleanup
import Mathlib.Data.List.Basic

/-!
# One pass over the scratch directory

A cleanup may be taken apart into visits, one for each entry: what cannot be read, what
is not stale, and what the system refuses to remove is passed over, and anything else is
removed and counted.  In whatever order the entries are visited, the same ones are gone
in the end, with the same count.
-/

namespace PlanGuard.Sandbox

open FileTree (siftEntries leaving)

/-- Last changed more than an hour ago. -/
def Stale (now : Int) (tree : FileTree) : Prop :=
  ∃ modified, tree.stamp.modified = some modified ∧ keptFor < now - modified

theorem isStale_iff (now : Int) (tree : FileTree) : isStale now tree = true ↔ Stale now tree := by
  unfold isStale Stale
  cases tree.stamp.modified with
  | none => simp
  | some modified => simp

theorem sweep_of_stale {now : Int} {tree : FileTree} (stale : Stale now tree)
    (name : String) :
    sweep now (name, tree) = (tree.remnant? now).map fun left => (name, left) := by
  simp only [sweep, (isStale_iff now tree).mpr stale, if_true]

theorem sweep_of_young {now : Int} {tree : FileTree} (young : ¬Stale now tree)
    (name : String) : sweep now (name, tree) = some (name, tree) := by
  rw [← isStale_iff, Bool.not_eq_true] at young
  exact sweep_of_not_stale young name

/-- Stale, and nothing of it is kept by the system. -/
def Goes (now : Int) (tree : FileTree) : Prop :=
  Stale now tree ∧ tree.holdsPinned = false

instance (now : Int) (tree : FileTree) : Decidable (Goes now tree) :=
  decidable_of_iff (isStale now tree = true ∧ tree.holdsPinned = false)
    (and_congr_left' (isStale_iff now tree))

/-! ## Visits -/

inductive Visit where
  /-- Nothing is there, or its age cannot be told. -/
  | unreadable
  /-- It is not stale. -/
  | spared
  /-- It is stale, and the system refused to remove all of it. -/
  | refused
  | removed

def Visit.count : Visit → Nat
  | .removed => 1
  | _ => 0

/-- Visits the entry with a name in the directory at a place, and removes it if it is stale. -/
def visit (now : Int) (place : List String) (name : String) (files : FileTree) :
    Visit × FileTree :=
  match files.find (place ++ [name]) with
  | .error _ => (.unreadable, files)
  | .ok tree =>
      match tree.stamp.modified with
      | none => (.unreadable, files)
      | some modified =>
          if keptFor < now - modified then
            match files.remove now (place ++ [name]) with
            | .ok (true, files) => (.removed, files)
            | .ok (false, files) => (.refused, files)
            | .error _ => (.refused, files)
          else (.spared, files)

def pass (now : Int) (place : List String) : List String → Nat × FileTree → Nat × FileTree
  | [], counted => counted
  | name :: rest, (removed, files) =>
      let visited := visit now place name files
      pass now place rest (removed + visited.1.count, visited.2)

/-- What a cleanup that visits only some names leaves of an entry. -/
def sweepNamed (now : Int) (names : List String) (entry : String × FileTree) :
    Option (String × FileTree) :=
  if entry.1 ∈ names then sweep now entry else some entry

theorem sweep_eq_none_iff (now : Int) (entry : String × FileTree) :
    sweep now entry = none ↔ Goes now entry.2 := by
  obtain ⟨name, tree⟩ := entry
  by_cases stale : Stale now tree
  · rw [sweep_of_stale stale, Option.map_eq_none_iff, FileTree.remnant?_eq_none_iff]
    exact (and_iff_right stale).symm
  · rw [sweep_of_young stale]
    exact iff_of_false (Option.some_ne_none _) fun goes => stale goes.1

/-- What a cleanup has left it leaves again. -/
theorem sweep_of_left {now : Int} {entry left : String × FileTree}
    (swept : sweep now entry = some left) : sweep now left = some left := by
  obtain ⟨name, tree⟩ := entry
  by_cases stale : Stale now tree
  · rw [sweep_of_stale stale] at swept
    obtain ⟨remnant, removed, rfl⟩ := Option.map_eq_some_iff.mp swept
    have again := FileTree.remnant?_of_left removed
    simp only [sweep, again, Option.map_some, ite_self]
  · rw [sweep_of_young stale] at swept
    obtain rfl := Option.some.inj swept
    exact sweep_of_young stale name

theorem sweepNamed_name (now : Int) (names : List String) (entry left : String × FileTree)
    (swept : sweepNamed now names entry = some left) : left.1 = entry.1 := by
  unfold sweepNamed at swept
  split at swept
  · exact sweep_name now entry left swept
  · rw [Option.some.inj swept]

theorem sweepNamed_cons (now : Int) (name : String) (rest : List String) :
    (fun entry => (sweepNamed now [name] entry).bind (sweepNamed now rest)) =
      sweepNamed now (name :: rest) := by
  funext entry
  by_cases first : entry.1 = name
  · have named : entry.1 ∈ [name] := List.mem_singleton.mpr first
    have among : entry.1 ∈ name :: rest := List.mem_cons.mpr (.inl first)
    simp only [sweepNamed, if_pos named, if_pos among]
    cases swept : sweep now entry with
    | none => rfl
    | some left =>
        simp only [Option.bind_some, sweepNamed, sweep_of_left swept, ite_self]
  · have other : sweepNamed now [name] entry = some entry :=
      if_neg (mt List.mem_singleton.mp first)
    rw [other, Option.bind_some]
    simp only [sweepNamed, List.mem_cons, first, false_or]

section Visiting

variable {now : Int} {place : List String} {name : String} {files : FileTree} {stamp : Stamp}
  {entries : List (String × FileTree)}

/-! ### What is visited -/

theorem filterMap_sweepNamed_of_apart {names : List String}
    (apart : ∀ entry ∈ entries, entry.1 ∉ names) :
    entries.filterMap (sweepNamed now names) = entries := by
  have same : ∀ entry ∈ entries, sweepNamed now names entry = some entry :=
    fun entry member => if_neg (apart entry member)
  rw [List.filterMap_congr same, List.filterMap_some]

/-- Where names are distinct, one of them is the name of one entry. -/
theorem split_of_distinct {tree : FileTree} (distinct : (entries.map Prod.fst).Nodup)
    (held : entries.lookup name = some tree) :
    ∃ front back, entries = front ++ (name, tree) :: back ∧
      (∀ entry ∈ front, entry.1 ≠ name) ∧ ∀ entry ∈ back, entry.1 ≠ name := by
  obtain ⟨front, back, rfl, before⟩ := FileTree.split_of_lookup held
  refine ⟨front, back, rfl, before, ?_⟩
  intro entry member same
  rw [List.map_append, List.map_cons] at distinct
  have later := (List.nodup_cons.mp (List.nodup_append.mp distinct).2.1).1
  exact later (List.mem_map.mpr ⟨entry, member, same⟩)

theorem filterMap_sweepNamed_middle {front back : List (String × FileTree)} {tree : FileTree}
    (before : ∀ entry ∈ front, entry.1 ≠ name) (after : ∀ entry ∈ back, entry.1 ≠ name) :
    (front ++ (name, tree) :: back).filterMap (sweepNamed now [name]) =
      front ++ ((sweep now (name, tree)).toList ++ back) := by
  have apart {others : List (String × FileTree)} (differ : ∀ entry ∈ others, entry.1 ≠ name) :
      others.filterMap (sweepNamed now [name]) = others :=
    filterMap_sweepNamed_of_apart fun entry member named =>
      differ entry member (List.mem_singleton.mp named)
  have visited : sweepNamed now [name] (name, tree) = sweep now (name, tree) :=
    if_pos (List.mem_singleton.mpr rfl)
  rw [List.filterMap_append, apart before, List.filterMap_cons, visited, apart after]
  cases sweep now (name, tree) <;> rfl

section Middle

variable {front back : List (String × FileTree)} {tree : FileTree}
  (before : ∀ entry ∈ front, entry.1 ≠ name) (after : ∀ entry ∈ back, entry.1 ≠ name)

include before after

theorem siftEntries_of_gone (gone : sweep now (name, tree) = none) :
    siftEntries now (sweepNamed now [name]) (.directory stamp (front ++ (name, tree) :: back)) =
      FileTree.changeEntries now (·.filter fun entry => entry.1 != name)
        (.directory stamp (front ++ (name, tree) :: back)) := by
  have others {entries : List (String × FileTree)}
      (differ : ∀ entry ∈ entries, entry.1 ≠ name) :
      (entries.filter fun entry => entry.1 != name) = entries :=
    List.filter_eq_self.mpr fun entry member => bne_iff_ne.mpr (differ entry member)
  have fewer : ¬(front ++ back).length = (front ++ (name, tree) :: back).length := by
    simp only [List.length_append, List.length_cons]
    omega
  have itself : ¬(name != name) = true := by simp
  simp only [siftEntries, leaving, FileTree.changeEntries,
    filterMap_sweepNamed_middle before after, gone, Option.toList_none, List.nil_append,
    if_neg fewer, List.filter_append, List.filter_cons, if_neg itself, others before,
    others after]

theorem siftEntries_of_left {left : FileTree}
    (stays : sweep now (name, tree) = some (name, left)) :
    siftEntries now (sweepNamed now [name]) (.directory stamp (front ++ (name, tree) :: back)) =
      FileTree.modify (fun _ => .ok left) [name]
        (.directory stamp (front ++ (name, tree) :: back)) := by
  have held : (front ++ (name, tree) :: back).lookup name = some tree :=
    List.lookup_eq_some_iff.mpr
      ⟨front, back, rfl, fun entry member => bne_iff_ne.mpr (before entry member).symm⟩
  have many : (front ++ (name, left) :: back).length =
      (front ++ (name, tree) :: back).length := by
    simp only [List.length_append, List.length_cons]
  simp only [siftEntries, leaving, FileTree.modify, held, FileTree.putEntry_middle before,
    filterMap_sweepNamed_middle before after, stays, Option.toList_some,
    List.singleton_append, if_pos many]

end Middle

/-! ### A visit -/

section Found

variable (here : files.find place = .ok (.directory stamp entries))

include here

theorem visit_of_absent (absent : entries.lookup name = none) :
    visit now place name files = (.unreadable, files) := by
  have missing : files.find (place ++ [name]) = .error .noEntry := by
    rw [FileTree.find_append_of_ok here, FileTree.find_cons_of_absent absent]
  simp only [visit, missing]

variable {tree : FileTree} (held : entries.lookup name = some tree)

include held

theorem find_of_held : files.find (place ++ [name]) = .ok tree := by
  rw [FileTree.find_below here held, FileTree.find_nil]

theorem visit_of_not_stale (young : ¬Stale now tree) :
    (visit now place name files).1.count = 0 ∧ (visit now place name files).2 = files := by
  have found := find_of_held here held
  cases known : tree.stamp.modified with
  | none =>
      simp only [visit, found, known, Visit.count, and_self]
  | some modified =>
      have recent : ¬keptFor < now - modified := fun old => young ⟨modified, known, old⟩
      simp only [visit, found, known, if_neg recent, Visit.count, and_self]

theorem visit_of_stale (stale : Stale now tree) :
    visit now place name files =
      match files.remove now (place ++ [name]) with
      | .ok (true, files) => (.removed, files)
      | .ok (false, files) => (.refused, files)
      | .error _ => (.refused, files) := by
  have found := find_of_held here held
  obtain ⟨modified, known, old⟩ := stale
  simp only [visit, found, known, if_pos old]

theorem visit_of_gone (stale : Stale now tree) (gone : tree.remnant? now = none) :
    ∃ left, visit now place name files = (.removed, left) ∧
      files.modify (FileTree.changeEntries now (·.filter fun entry => entry.1 != name)) place =
        .ok left := by
  have made : FileTree.changeEntries now (·.filter fun entry => entry.1 != name)
      (.directory stamp entries) = .ok (.directory { stamp with modified := some now }
        (entries.filter fun entry => entry.1 != name)) := rfl
  obtain ⟨left, changed⟩ := FileTree.modify_of_find here made
  refine ⟨left, ?_, changed⟩
  rw [visit_of_stale here held stale]
  simp only [FileTree.remove, find_of_held here held, gone, FileTree.erase_append, changed,
    Except.map]

theorem visit_of_left (stale : Stale now tree) {remnant : FileTree}
    (stays : tree.remnant? now = some remnant) :
    ∃ left, visit now place name files = (.refused, left) ∧
      files.modify (FileTree.modify (fun _ => .ok remnant) [name]) place = .ok left := by
  have found := find_of_held here held
  have possible : ∃ left,
      files.modify (fun _ => .ok remnant) (place ++ [name]) = .ok left :=
    FileTree.modify_of_find found rfl
  obtain ⟨left, changed⟩ := possible
  refine ⟨left, ?_, FileTree.modify_append _ files place [name] ▸ changed⟩
  rw [visit_of_stale here held stale]
  simp only [FileTree.remove, found, stays, changed, Except.map]

end Found

/-- What a visit to the entry with a name does to a directory and its entries. -/
structure VisitSifts (now : Int) (place : List String) (files : FileTree)
    (entries : List (String × FileTree)) (name : String) : Prop where
  sifted : files.modify (siftEntries now (sweepNamed now [name])) place =
    .ok (visit now place name files).2
  counted : (visit now place name files).1.count +
    (entries.filterMap (sweepNamed now [name])).length = entries.length

theorem visitSifts_of_untouched (here : files.find place = .ok (.directory stamp entries))
    (untouched : entries.filterMap (sweepNamed now [name]) = entries)
    (uncounted : (visit now place name files).1.count = 0)
    (unchanged : (visit now place name files).2 = files) :
    VisitSifts now place files entries name := by
  refine ⟨?_, by rw [uncounted, untouched, Nat.zero_add]⟩
  rw [unchanged]
  apply FileTree.modify_of_same here
  rw [siftEntries, untouched, FileTree.leaving_self]

section Stale

variable {front back : List (String × FileTree)} {tree : FileTree}
  (here : files.find place = .ok (.directory stamp (front ++ (name, tree) :: back)))
  (held : (front ++ (name, tree) :: back).lookup name = some tree)
  (before : ∀ entry ∈ front, entry.1 ≠ name) (after : ∀ entry ∈ back, entry.1 ≠ name)
  (stale : Stale now tree)

include here held before after stale

theorem visitSifts_of_gone (removed : tree.remnant? now = none) :
    VisitSifts now place files (front ++ (name, tree) :: back) name := by
  have gone : sweep now (name, tree) = none := by
    rw [sweep_of_stale stale, removed, Option.map_none]
  obtain ⟨left, visited, changed⟩ := visit_of_gone here held stale removed
  constructor
  · rw [visited, FileTree.modify_congr here (siftEntries_of_gone before after gone)]
    exact changed
  · rw [visited, filterMap_sweepNamed_middle before after, gone]
    simp only [Visit.count, Option.toList_none, List.nil_append, List.length_append,
      List.length_cons]
    omega

theorem visitSifts_of_left {remnant : FileTree}
    (removed : tree.remnant? now = some remnant) :
    VisitSifts now place files (front ++ (name, tree) :: back) name := by
  have stays : sweep now (name, tree) = some (name, remnant) := by
    rw [sweep_of_stale stale, removed, Option.map_some]
  obtain ⟨left, visited, changed⟩ := visit_of_left here held stale removed
  constructor
  · rw [visited, FileTree.modify_congr here (siftEntries_of_left before after stays)]
    exact changed
  · rw [visited, filterMap_sweepNamed_middle before after, stays]
    simp only [Visit.count, Option.toList_some, List.singleton_append, List.length_append,
      List.length_cons, Nat.zero_add]

end Stale

/-- A visit does to its entry what a cleanup does, and nothing to the others. -/
theorem visit_sifts (here : files.find place = .ok (.directory stamp entries))
    (distinct : (entries.map Prod.fst).Nodup) (now : Int) (name : String) :
    VisitSifts now place files entries name := by
  cases held : entries.lookup name with
  | none =>
      have untouched : entries.filterMap (sweepNamed now [name]) = entries := by
        apply filterMap_sweepNamed_of_apart
        intro entry member named
        have other := List.lookup_eq_none_iff.mp held entry member
        exact bne_iff_ne.mp other (List.mem_singleton.mp named).symm
      have missed : visit now place name files = (.unreadable, files) :=
        visit_of_absent here held
      exact visitSifts_of_untouched here untouched (congrArg (·.1.count) missed)
        (congrArg Prod.snd missed)
  | some tree =>
      obtain ⟨front, back, rfl, before, after⟩ := split_of_distinct distinct held
      by_cases stale : Stale now tree
      · cases removed : tree.remnant? now with
        | none => exact visitSifts_of_gone here held before after stale removed
        | some remnant => exact visitSifts_of_left here held before after stale removed
      · have untouched : (front ++ (name, tree) :: back).filterMap (sweepNamed now [name]) =
            front ++ (name, tree) :: back := by
          rw [filterMap_sweepNamed_middle before after, sweep_of_young stale name]
          rfl
        obtain ⟨uncounted, unchanged⟩ := visit_of_not_stale here held stale
        exact visitSifts_of_untouched here untouched uncounted unchanged

/-- A pass does to the entries with the names what a cleanup does, in whatever order. -/
theorem pass_sifts (here : files.find place = .ok (.directory stamp entries))
    (distinct : (entries.map Prod.fst).Nodup) (now : Int) (names : List String)
    (removed : Nat) :
    files.modify (siftEntries now (sweepNamed now names)) place =
        .ok (pass now place names (removed, files)).2 ∧
      (pass now place names (removed, files)).1 +
        (entries.filterMap (sweepNamed now names)).length = removed + entries.length := by
  induction names generalizing files stamp entries removed with
  | nil =>
      have untouched : entries.filterMap (sweepNamed now []) = entries :=
        filterMap_sweepNamed_of_apart fun _ _ => List.not_mem_nil
      refine ⟨?_, by rw [pass, untouched]⟩
      apply FileTree.modify_of_same here
      rw [siftEntries, untouched, FileTree.leaving_self]
  | cons name rest ih =>
      obtain ⟨sifted, counted⟩ := visit_sifts here distinct now name
      have there := FileTree.find_of_sifted here sifted
      have others := (FileTree.filterMap_names_sublist
        (sweepNamed_name now [name]) entries).nodup distinct
      obtain ⟨after, total⟩ := ih there others (removed + (visit now place name files).1.count)
      rw [FileTree.modify_modify sifted] at after
      simp only [FileTree.siftEntries_bind, sweepNamed_cons] at after
      simp only [List.filterMap_filterMap, sweepNamed_cons] at total
      exact ⟨after, by rw [pass]; omega⟩

end Visiting

/-! ## A cleanup -/

structure Remains (now : Int) (entry left : String × FileTree) : Prop where
  name : left.1 = entry.1
  untouched : ¬Stale now entry.2 → left = entry
  /-- Of a stale entry there is left what the system refused to remove. -/
  refused : Stale now entry.2 → entry.2.remnant? now = some left.2

theorem sweep_remains {now : Int} {entry left : String × FileTree}
    (swept : sweep now entry = some left) : Remains now entry left := by
  obtain ⟨name, tree⟩ := entry
  refine ⟨sweep_name now _ left swept, ?_, ?_⟩
  · intro young
    exact (Option.some.inj ((sweep_of_young young name).symm.trans swept)).symm
  · intro stale
    rw [sweep_of_stale stale] at swept
    obtain ⟨remnant, removed, rfl⟩ := Option.map_eq_some_iff.mp swept
    exact removed

theorem filterMap_sweep_remains (now : Int) (entries : List (String × FileTree)) :
    List.Forall₂ (Remains now) (entries.filter fun entry => ¬Goes now entry.2)
      (entries.filterMap (sweep now)) := by
  induction entries with
  | nil => exact .nil
  | cons entry rest ih =>
      cases swept : sweep now entry with
      | none =>
          have goes := (sweep_eq_none_iff now entry).mp swept
          rw [List.filterMap_cons_none swept, List.filter_cons_of_neg (by simpa using goes)]
          exact ih
      | some left =>
          have stays : ¬Goes now entry.2 := by
            rw [← sweep_eq_none_iff, swept]
            exact Option.some_ne_none left
          rw [List.filterMap_cons_some swept, List.filter_cons_of_pos (by simpa using stays)]
          exact .cons (sweep_remains swept) ih

theorem countP_sweep (now : Int) (entries : List (String × FileTree)) :
    (entries.countP fun entry => (sweep now entry).isNone) =
      entries.countP fun entry => Goes now entry.2 := by
  apply List.countP_congr
  intro entry _
  rw [Option.isNone_iff_eq_none, sweep_eq_none_iff, decide_eq_true_iff]

theorem sweep_of_mem_filterMap (now : Int) (entries : List (String × FileTree)) :
    ∀ left ∈ entries.filterMap (sweep now), sweep now left = some left := by
  intro left member
  obtain ⟨entry, -, swept⟩ := List.mem_filterMap.mp member
  exact sweep_of_left swept

/--
What a cleanup does to the entries of the scratch directory, which a path leads to and
which is at a place.
-/
structure Sweeps (path : String) (place : List String) (entries : List (String × FileTree))
    (before after : State) (answer : Except SystemError Nat) : Prop where
  /-- The answer is the number of entries that go: those stale and let go by the system. -/
  counted : answer = .ok (entries.countP fun entry => Goes before.machine.now entry.2)
  /-- All others remain, and nothing else is there. -/
  remaining : ∃ stamp remaining,
    after.machine.files.find place = .ok (.directory stamp remaining) ∧
      List.Forall₂ (Remains before.machine.now)
        (entries.filter fun entry => ¬Goes before.machine.now entry.2) remaining
  /-- It is what visits to the entries do, one after another and in any order. -/
  visits : (entries.map Prod.fst).Nodup →
    ∀ order : List String, order.Perm (entries.map Prod.fst) →
      answer = .ok (pass before.machine.now place order (0, before.machine.files)).1 ∧
        after.machine.files =
          (pass before.machine.now place order (0, before.machine.files)).2
  /-- Another cleanup at the same time changes nothing. -/
  settled : (cleanup after).2 = after
  /-- It finds nothing to count, if the path still leads there. -/
  uncounted : after.machine.resolve path = .ok place → (cleanup after).1 = .ok 0
  /-- A path that never goes back does; one that does may have gone through an entry. -/
  found : ".." ∉ FileTree.steps path → after.machine.resolve path = .ok place
  /-- Nothing outside of the directory changes. -/
  elsewhere : ∀ other, ¬other <+: place → ¬place <+: other →
    after.machine.files.find other = before.machine.files.find other
  frame : ∃ files, after = { before with machine := { before.machine with files } }

section Cleanup

variable {state : State} {path : String} {place : List String} {stamp : Stamp}
  {entries : List (String × FileTree)}

/-- Visits to all entries sift the directory as a cleanup does. -/
theorem pass_of_perm {machine : Machine} {files : FileTree}
    (here : machine.files.find place = .ok (.directory stamp entries))
    (sifted : machine.files.modify
      (siftEntries machine.now (sweep machine.now)) place = .ok files)
    (distinct : (entries.map Prod.fst).Nodup) {order : List String}
    (perm : order.Perm (entries.map Prod.fst)) :
    pass machine.now place order (0, machine.files) =
      (entries.countP fun entry => (sweep machine.now entry).isNone, files) := by
  obtain ⟨visited, counted⟩ := pass_sifts here distinct machine.now order 0
  have all : ∀ entry ∈ entries, sweepNamed machine.now order entry = sweep machine.now entry :=
    fun entry member => if_pos (perm.mem_iff.mpr (List.mem_map_of_mem member))
  have same : entries.filterMap (sweepNamed machine.now order) =
      entries.filterMap (sweep machine.now) := List.filterMap_congr all
  have agree : siftEntries machine.now (sweepNamed machine.now order) (.directory stamp entries) =
      siftEntries machine.now (sweep machine.now) (.directory stamp entries) := by
    rw [siftEntries, siftEntries, same]
  rw [FileTree.modify_congr here agree, sifted] at visited
  have total := length_filterMap_sweep machine.now entries
  rw [same] at counted
  exact Prod.ext (by omega) (Except.ok.inj visited).symm

/-- A cleanup of a directory in which nothing is to be removed. -/
theorem cleanup_of_settled (recorded : state.scratch = some path)
    (resolved : state.machine.resolve path = .ok place)
    (here : state.machine.files.find place = .ok (.directory stamp entries))
    (still : ∀ entry ∈ entries, sweep state.machine.now entry = some entry) :
    cleanup state = (.ok 0, state) := by
  obtain ⟨files, cleaned, sifted⟩ := cleanup_of_directory recorded resolved here
  have same : entries.filterMap (sweep state.machine.now) = entries := by
    rw [List.filterMap_congr still, List.filterMap_some]
  have unchanged : siftEntries state.machine.now (sweep state.machine.now)
      (.directory stamp entries) = .ok (.directory stamp entries) := by
    rw [siftEntries, same, FileTree.leaving_self]
  rw [FileTree.modify_of_same here unchanged] at sifted
  obtain rfl := Except.ok.inj sifted
  have none_gone : (entries.countP fun entry =>
      (sweep state.machine.now entry).isNone) = 0 := by
    have total := length_filterMap_sweep state.machine.now entries
    rw [same] at total
    omega
  rw [cleaned, none_gone]

/-- Where the path leads to the place or nowhere, what is settled stays as it is. -/
theorem cleanup_unchanged (recorded : state.scratch = some path)
    (leads : ∀ other, state.machine.resolve path = .ok other → other = place)
    (here : state.machine.files.find place = .ok (.directory stamp entries))
    (still : ∀ entry ∈ entries, sweep state.machine.now entry = some entry) :
    (cleanup state).2 = state := by
  cases resolved : state.machine.resolve path with
  | error error => rw [cleanup_of_astray recorded resolved]
  | ok other =>
      obtain rfl := leads other resolved
      rw [cleanup_of_settled recorded resolved here still]

/--
One cleanup.  Without a recorded directory it answers zero and changes nothing.  With
one that is there, whatever lies in it and whatever time it is, the entries that go are
those of which it can be told that they changed more than an hour ago, and of which the
system lets everything go; the answer is how many these are.  All others remain, those
that are not stale as they were.  It makes no difference in which order the entries are
visited, and another cleanup at the same time removes nothing more.
-/
theorem cleanup_sweeps (state : State) :
    (state.scratch = none → cleanup state = (.ok 0, state)) ∧
      ∀ path place stamp entries, state.scratch = some path →
        state.machine.resolve path = .ok place →
        state.machine.files.find place = .ok (.directory stamp entries) →
        Sweeps path place entries state (cleanup state).2 (cleanup state).1 := by
  refine ⟨cleanup_of_absent, ?_⟩
  intro path place stamp entries recorded resolved here
  obtain ⟨files, cleaned, sifted⟩ := cleanup_of_directory recorded resolved here
  obtain ⟨left, there⟩ := find_sifted here sifted
  have still := sweep_of_mem_filterMap state.machine.now entries
  have known : ({ state with machine := { state.machine with files } } : State).scratch =
      some path := recorded
  have leads : ∀ other, files.resolve state.machine.directory path = .ok other →
      other = place := fun other found =>
    (FileTree.eq_lexical_of_resolve found).trans
      (FileTree.eq_lexical_of_resolve resolved).symm
  rw [cleaned]
  refine ⟨?_, ?_, ?_, ?_, ?_, ?_, ?_, ⟨files, rfl⟩⟩
  · rw [countP_sweep]
  · exact ⟨left, _, there, filterMap_sweep_remains state.machine.now entries⟩
  · intro distinct order perm
    rw [pass_of_perm here sifted distinct perm]
    exact ⟨rfl, rfl⟩
  · exact cleanup_unchanged known leads there still
  · intro again
    rw [cleanup_of_settled known again there still]
  · exact fun forth => FileTree.resolve_of_find forth resolved there
  · exact fun other above below => FileTree.find_modify_of_apart sifted above below

end Cleanup

def mixture : List (String × FileTree) :=
  [("log", .file aged []), ("hour", .file { modified := some 3600000000000 } []),
    ("later", .file { modified := some 9000000000000 } []), ("lost", .file {} []),
    ("held", .file { aged with pinned := true } []),
    ("old", .directory aged
      [("note", .file recent []), ("held", .file { aged with pinned := true } [])]),
    ("done", .directory aged [("note", .file recent [])])]

def mixed : State :=
  { scratch := some "/tmp/wrtpilot-sandbox-0"
    machine :=
      { now := 7200000000000
        files := .directory {} [("tmp", .directory {}
          [("wrtpilot-sandbox-0", .directory {} mixture)])] } }

/-- One file and one directory go, past one of each that the system holds. -/
theorem mixed_sweeps :
    mixed.scratch = some "/tmp/wrtpilot-sandbox-0" ∧
      mixed.machine.resolve "/tmp/wrtpilot-sandbox-0" = .ok scratchPlace ∧
      mixed.machine.files.find scratchPlace = .ok (.directory {} mixture) ∧
      Sweeps "/tmp/wrtpilot-sandbox-0" scratchPlace mixture mixed
        (cleanup mixed).2 (cleanup mixed).1 ∧
      (cleanup mixed).1 = .ok 2 ∧
      (cleanup mixed).2.machine.files = (pass mixed.machine.now scratchPlace
        ["done", "old", "held", "lost", "later", "hour", "log"] (0, mixed.machine.files)).2 ∧
      cleanup (cleanup mixed).2 = (.ok 0, (cleanup mixed).2) := by
  have resolved : mixed.machine.resolve "/tmp/wrtpilot-sandbox-0" = .ok scratchPlace := by
    with_unfolding_all rfl
  have sweeps := (cleanup_sweeps mixed).2 "/tmp/wrtpilot-sandbox-0" scratchPlace {} mixture
    rfl resolved rfl
  have leads := sweeps.found (by decide +kernel)
  refine ⟨rfl, resolved, rfl, sweeps, ?_, ?_,
    Prod.ext (sweeps.uncounted leads) sweeps.settled⟩
  · rw [sweeps.counted]
    decide +kernel
  · exact (sweeps.visits (by decide) _ (by decide)).2

end PlanGuard.Sandbox
