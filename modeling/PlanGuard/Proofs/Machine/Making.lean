import PlanGuard.Machine
import PlanGuard.Proofs.Machine.Places

/-!
# Making directories

Making a directory takes nothing away: `FileTree.Grows` says that a tree has everything
that another one has, and beyond that directories only.  So what could be reached can
still be reached, and an attempt that has failed leaves no more than directories on the
way to the one that was to be made.
-/

namespace PlanGuard

namespace FileTree

def DirectoryAt (root : FileTree) (place : List String) : Prop :=
  ∃ stamp entries, root.find place = .ok (directory stamp entries)

theorem exists_of_isDirectory {tree : FileTree} (folder : tree.isDirectory = true) :
    ∃ stamp entries, tree = directory stamp entries := by
  cases tree with
  | directory stamp entries => exact ⟨stamp, entries, rfl⟩
  | file => cases folder
  | device => cases folder
  | program => cases folder

/-- A tree with all that another one has, and with more directories at most. -/
structure Grows (root changed : FileTree) : Prop where
  kept : ∀ place tree, root.find place = .ok tree → tree.isDirectory = false →
    changed.find place = .ok tree
  stays : ∀ place, root.DirectoryAt place → changed.DirectoryAt place
  added : ∀ place tree, changed.find place = .ok tree →
    (∃ error, root.find place = .error error) → tree.isDirectory = true

namespace Grows

theorem refl (root : FileTree) : root.Grows root where
  kept _ _ found _ := found
  stays _ there := there
  added := by
    rintro place tree found ⟨error, missing⟩
    rw [missing] at found
    cases found

theorem trans {first second third : FileTree} (early : first.Grows second)
    (late : second.Grows third) : first.Grows third where
  kept place tree found other := late.kept place tree (early.kept place tree found other) other
  stays place there := late.stays place (early.stays place there)
  added := by
    intro place tree found missing
    cases between : second.find place with
    | error error => exact late.added place tree found ⟨error, between⟩
    | ok middle =>
        obtain ⟨stamp, entries, rfl⟩ :=
          exists_of_isDirectory (early.added place middle between missing)
        obtain ⟨_, _, there⟩ := late.stays place ⟨stamp, entries, between⟩
        rw [there] at found
        obtain rfl := Except.ok.inj found
        rfl

/-- A directory grows if its entries do, and if the new ones hold directories only. -/
theorem of_entries {stamp stamp' : Stamp} {entries entries' : List (String × FileTree)}
    (old : ∀ name tree, entries.lookup name = some tree →
      ∃ tree', entries'.lookup name = some tree' ∧ tree.Grows tree')
    (new : ∀ name tree', entries.lookup name = none → entries'.lookup name = some tree' →
      ∀ place tree, tree'.find place = .ok tree → tree.isDirectory = true) :
    (directory stamp entries).Grows (directory stamp' entries') where
  kept := by
    intro place tree found other
    cases place with
    | nil =>
        obtain rfl := Except.ok.inj found
        cases other
    | cons name rest =>
        obtain ⟨_, _, inner, same, held, below⟩ := find_cons_ok found
        obtain ⟨rfl, rfl⟩ := directory.inj same
        obtain ⟨inner', held', grows⟩ := old name inner held
        rw [find_cons_of_lookup held']
        exact grows.kept rest tree below other
  stays := by
    rintro place ⟨_, _, found⟩
    cases place with
    | nil => exact ⟨_, _, rfl⟩
    | cons name rest =>
        obtain ⟨_, _, inner, same, held, below⟩ := find_cons_ok found
        obtain ⟨rfl, rfl⟩ := directory.inj same
        obtain ⟨inner', held', grows⟩ := old name inner held
        unfold DirectoryAt
        rw [find_cons_of_lookup held']
        exact grows.stays rest ⟨_, _, below⟩
  added := by
    rintro place tree found ⟨error, missing⟩
    cases place with
    | nil => cases missing
    | cons name rest =>
        obtain ⟨_, _, inner', same, held', below⟩ := find_cons_ok found
        obtain ⟨rfl, rfl⟩ := directory.inj same
        cases held : entries.lookup name with
        | none => exact new name inner' held held' rest tree below
        | some inner =>
            obtain ⟨_, again, grows⟩ := old name inner held
            obtain rfl := Option.some.inj (held'.symm.trans again)
            rw [find_cons_of_lookup held] at missing
            exact grows.added rest tree below ⟨error, missing⟩

theorem of_new {stamp stamp' inner : Stamp} {entries : List (String × FileTree)}
    {name : String} (absent : entries.lookup name = none) :
    (directory stamp entries).Grows
      (directory stamp' (putEntry name (directory inner []) entries)) := by
  refine of_entries ?_ ?_
  · intro other tree listed
    have differs : other ≠ name := by
      rintro rfl
      rw [absent] at listed
      cases listed
    exact ⟨tree, (lookup_putEntry_of_ne differs _ _).trans listed, refl tree⟩
  · intro other tree' unlisted listed place tree below
    by_cases same : other = name
    · obtain rfl := same
      rw [lookup_putEntry_self] at listed
      obtain rfl := Option.some.inj listed
      -- The new directory is empty, so that nothing but itself is found in it.
      cases place with
      | nil => obtain rfl := Except.ok.inj below; rfl
      | cons => cases below
    · rw [lookup_putEntry_of_ne same, unlisted] at listed
      cases listed

theorem of_modify {change : FileTree → Except SystemError FileTree} {place : List String}
    {root changed : FileTree} (done : root.modify change place = .ok changed)
    (local' : ∀ old new, root.find place = .ok old → change old = .ok new → old.Grows new) :
    root.Grows changed := by
  induction place generalizing root changed with
  | nil =>
      rw [modify_nil] at done
      exact local' root changed (find_nil root) done
  | cons step rest ih =>
      obtain ⟨stamp, entries, inner, next, rfl, held, inside, rfl⟩ := modify_cons_ok done
      have grows : inner.Grows next := ih inside fun old new found =>
        local' old new ((find_cons_of_lookup held rest).trans found)
      refine of_entries ?_ ?_
      · intro name tree listed
        by_cases same : name = step
        · obtain rfl := same
          obtain rfl := Option.some.inj (held.symm.trans listed)
          exact ⟨next, lookup_putEntry_self name next entries, grows⟩
        · exact ⟨tree, (lookup_putEntry_of_ne same next entries).trans listed, refl tree⟩
      · intro name tree absent listed
        have differs : name ≠ step := by
          rintro rfl
          rw [held] at absent
          cases absent
        rw [lookup_putEntry_of_ne differs, absent] at listed
        cases listed

/-- Steps lead through a tree that has grown to where they have led before. -/
theorem walk {root changed : FileTree} (grows : root.Grows changed)
    {here steps place : List String} (reached : root.walk here steps = .ok place) :
    changed.walk here steps = .ok place := by
  induction steps generalizing here with
  | nil => exact reached
  | cons step rest ih =>
      unfold FileTree.walk at reached
      split at reached
      next => cases reached
      next stamp entries found =>
        obtain ⟨stamp', entries', there⟩ := grows.stays here ⟨stamp, entries, found⟩
        unfold FileTree.walk
        rw [there]
        dsimp only
        split at reached
        next back => rw [if_pos back]; exact ih reached
        next forth => rw [if_neg forth]; exact ih reached
      next => cases reached

theorem resolve {root changed : FileTree} (grows : root.Grows changed)
    {directory place : List String} {path : String}
    (resolved : root.resolve directory path = .ok place) :
    changed.resolve directory path = .ok place := by
  unfold FileTree.resolve at resolved ⊢
  split at resolved
  next => cases resolved
  next named => rw [if_neg named]; exact grows.walk resolved

end Grows

theorem mem_pieces {letters : List Char} {c : Char} (member : c ∈ letters) (inside : c ≠ '/') :
    ∃ piece ∈ pieces letters, c ∈ piece := by
  induction letters with
  | nil => cases member
  | cons first rest ih =>
      unfold pieces
      by_cases slash : first = '/'
      · rcases List.mem_cons.mp member with rfl | later
        · exact absurd slash inside
        · obtain ⟨piece, listed, held⟩ := ih later
          rw [if_pos slash]
          exact ⟨piece, .tail _ listed, held⟩
      · rw [if_neg slash]
        split
        next none' =>
          rcases List.mem_cons.mp member with rfl | later
          · exact ⟨[c], .head _, .head _⟩
          · obtain ⟨piece, listed, -⟩ := ih later
            rw [none'] at listed
            cases listed
        next top others split' =>
          rcases List.mem_cons.mp member with rfl | later
          · exact ⟨c :: top, .head _, .head _⟩
          · obtain ⟨piece, listed, held⟩ := ih later
            rw [split'] at listed
            rcases List.mem_cons.mp listed with rfl | further
            · exact ⟨first :: piece, .head _, .tail _ held⟩
            · exact ⟨piece, .tail _ further, held⟩

/-- A path takes a step if it is written with more than slashes and dots. -/
theorem steps_ne_nil {path : String} {c : Char} (member : c ∈ path.toList)
    (inside : c ≠ '/') (plain : c ≠ '.') : steps path ≠ [] := by
  obtain ⟨piece, listed, held⟩ := mem_pieces member inside
  have taken : String.ofList piece ∈ steps path := by
    refine List.mem_filter.mpr ⟨List.mem_map.mpr ⟨piece, listed, rfl⟩, ?_⟩
    rw [Bool.and_eq_true, bne_iff_ne, bne_iff_ne]
    constructor
    · intro same
      rw [← String.toList_inj, String.toList_ofList] at same
      rw [same] at held
      cases held
    · intro same
      rw [← String.toList_inj, String.toList_ofList] at same
      rw [same] at held
      exact plain (List.mem_singleton.mp held)
  exact List.ne_nil_of_mem taken

/-- A directory that is made is there, and nothing is lost. -/
theorem makeDirectory_ok {now : Int} {mode : Nat} {place : List String}
    {root changed : FileTree} (made : root.makeDirectory now mode place = .ok changed) :
    root.Grows changed ∧ changed.DirectoryAt place := by
  unfold makeDirectory at made
  split at made
  next => cases made
  next missing =>
    unfold put at made
    split at made
    next => cases made
    next name last =>
      obtain ⟨old, new, found, swapped, there⟩ := find_modify_self made
      unfold changeEntries at swapped
      split at swapped
      next stamp entries =>
        obtain rfl := Except.ok.inj swapped
        have path : place = place.dropLast ++ [name] := by
          obtain ⟨front, rfl⟩ := List.getLast?_eq_some_iff.mp last
          rw [List.dropLast_concat]
        have absent : entries.lookup name = none := by
          cases held : entries.lookup name with
          | none => rfl
          | some tree =>
              rw [path, find_below found held, find_nil] at missing
              cases missing
        constructor
        · refine Grows.of_modify made fun before after here swap => ?_
          obtain rfl := Except.ok.inj (found.symm.trans here)
          obtain rfl := Except.ok.inj swap
          exact Grows.of_new absent
        · refine ⟨{ modified := some now, mode }, [], ?_⟩
          rw [path, find_below there (lookup_putEntry_self name _ _), find_nil]
      next => cases swapped
  next => cases made

end FileTree

namespace Machine

/-- A machine on which another one's files have grown, and nothing else has changed. -/
structure Extends (before after : Machine) : Prop where
  files : before.files.Grows after.files
  frame : after = { before with files := after.files }

namespace Extends

theorem refl (machine : Machine) : machine.Extends machine :=
  ⟨.refl machine.files, rfl⟩

theorem trans {first second third : Machine} (early : first.Extends second)
    (late : second.Extends third) : first.Extends third := by
  refine ⟨early.files.trans late.files, ?_⟩
  rw [late.frame, early.frame]

end Extends

def Leads (machine : Machine) (start steps place : List String) : Prop :=
  machine.files.walk start steps = .ok place ∧ machine.files.DirectoryAt place

theorem isDirectory_iff (machine : Machine) (start steps : List String) :
    machine.isDirectory start steps = true ↔ ∃ place, machine.Leads start steps place := by
  unfold isDirectory Leads FileTree.DirectoryAt
  constructor
  · intro tested
    split at tested
    next => cases tested
    next place reached =>
      split at tested
      next => cases tested
      next tree found =>
        obtain ⟨stamp, entries, rfl⟩ := FileTree.exists_of_isDirectory tested
        exact ⟨place, reached, stamp, entries, found⟩
  · rintro ⟨place, reached, stamp, entries, found⟩
    rw [reached]
    dsimp only
    rw [found]
    rfl

section Making

variable {machine after : Machine} {start steps : List String}

/-- What the system has found and changed if it refuses a call no more. -/
theorem exists_of_granted {call : Call} {place : Except SystemError (List String)}
    {change : List String → Except SystemError FileTree}
    (granted : (do
      let place ← place
      let files ← change place
      match machine.refuses call place with
      | some error => .error error
      | none => .ok { machine with files }) = Except.ok after) :
    ∃ found files, place = .ok found ∧ change found = .ok files ∧
      after = { machine with files } := by
  cases place with
  | error error => cases granted
  | ok found =>
      cases changed : change found with
      | error error =>
          simp only [bind, Except.bind, changed] at granted
          cases granted
      | ok files =>
          simp only [bind, Except.bind, changed] at granted
          split at granted
          next => cases granted
          next => exact ⟨found, files, rfl, changed, (Except.ok.inj granted).symm⟩

theorem makeDirectory_ok (made : machine.makeDirectory start steps = .ok after) :
    machine.Extends after ∧ ∃ place, after.Leads start steps place := by
  obtain ⟨place, files, reached, changed, rfl⟩ := exists_of_granted made
  obtain ⟨grows, there⟩ := FileTree.makeDirectory_ok changed
  exact ⟨⟨grows, rfl⟩, place, grows.walk reached, there⟩

theorem ensureDirectory_ok (made : machine.ensureDirectory start steps = .ok after) :
    machine.Extends after ∧ ∃ place, after.Leads start steps place := by
  unfold ensureDirectory at made
  split at made
  next new =>
    obtain rfl := Except.ok.inj made
    exact makeDirectory_ok new
  next =>
    split at made
    next there =>
      obtain rfl := Except.ok.inj made
      exact ⟨.refl machine, (isDirectory_iff machine start steps).mp there⟩
    next => cases made

theorem makeDirectories_extends (start back : List String) (machine : Machine) :
    machine.Extends (makeDirectories start back machine).2 := by
  induction back generalizing machine with
  | nil => exact .refl machine
  | cons step back ih =>
      unfold makeDirectories
      dsimp only
      split
      next made => exact (ensureDirectory_ok made).1
      next =>
        have before := ih machine
        split
        next stopped => rw [stopped] at before; exact before
        next between gone =>
          rw [gone] at before
          split
          next made => exact before.trans (ensureDirectory_ok made).1
          next => exact before
      next => exact .refl machine

/-- The steps lead to a directory once it was made with those on the way to it. -/
theorem leads_of_makeDirectories {start back : List String} (some' : back ≠ [])
    (made : makeDirectories start back machine = (.ok (), after)) :
    ∃ place, after.Leads start back.reverse place := by
  cases back with
  | nil => exact absurd rfl some'
  | cons step back =>
      unfold makeDirectories at made
      dsimp only at made
      split at made
      next new =>
        obtain rfl := (Prod.mk.inj made).2
        exact (ensureDirectory_ok new).2
      next =>
        split at made
        next => cases made
        next =>
          split at made
          next new =>
            obtain rfl := (Prod.mk.inj made).2
            exact (ensureDirectory_ok new).2
          next => cases made
      next => cases made

end Making

/-- The path leads to a directory that is for its owner only. -/
def HoldsPrivate (machine : Machine) (path : String) : Prop :=
  ∃ place stamp entries, machine.resolve path = .ok place ∧
    machine.files.find place = .ok (.directory stamp entries) ∧ stamp.mode = 0o700

/-- The mode of a directory can be set, and it stays where it is. -/
theorem setMode_ok {machine after : Machine} {mode : Nat} {path : String}
    (set : machine.setMode mode path = .ok after)
    (directories : ∀ place, machine.resolve path = .ok place →
      machine.files.DirectoryAt place) :
    machine.Extends after ∧ ∃ place stamp entries, after.resolve path = .ok place ∧
      after.files.find place = .ok (.directory stamp entries) ∧ stamp.mode = mode := by
  obtain ⟨place, files, resolved, changed, rfl⟩ := exists_of_granted set
  obtain ⟨stamp, entries, here⟩ := directories place resolved
  obtain ⟨old, new, found, swapped, there⟩ := FileTree.find_modify_self changed
  obtain rfl := Except.ok.inj (here.symm.trans found)
  obtain rfl := Except.ok.inj swapped
  have grows : machine.files.Grows files := by
    refine FileTree.Grows.of_modify changed fun before after at' swap => ?_
    obtain rfl := Except.ok.inj (here.symm.trans at')
    obtain rfl := Except.ok.inj swap
    exact .of_entries (fun _ tree listed => ⟨tree, listed, .refl tree⟩)
      fun _ _ absent listed => by rw [absent] at listed; cases listed
  exact ⟨⟨grows, rfl⟩, place, _, entries, grows.resolve resolved, there, rfl⟩

theorem resolve_eq_walk {machine : Machine} {path : String} {place : List String}
    (resolved : machine.resolve path = .ok place) :
    machine.files.walk (machine.start path) (FileTree.steps path) = .ok place := by
  unfold resolve FileTree.resolve at resolved
  split at resolved
  next => cases resolved
  next => exact resolved

section Private

variable {machine after : Machine} {path : String}

theorem directoryAt_of_makeDirectories (steps : FileTree.steps path ≠ [])
    (made : makeDirectories (machine.start path) (FileTree.steps path).reverse machine =
      (.ok (), after)) :
    ∀ place, after.resolve path = .ok place → after.files.DirectoryAt place := by
  intro place resolved
  have grown : machine.Extends after := by
    have all := makeDirectories_extends (machine.start path)
      (FileTree.steps path).reverse machine
    rw [made] at all
    exact all
  have same : after.start path = machine.start path := by
    unfold start
    rw [grown.frame]
  obtain ⟨other, reached, there⟩ :=
    leads_of_makeDirectories (fun none => steps (List.reverse_eq_nil_iff.mp none)) made
  rw [List.reverse_reverse, ← same, resolve_eq_walk resolved] at reached
  obtain rfl := Except.ok.inj reached
  exact there

theorem makePrivate_extends (steps : FileTree.steps path ≠ []) :
    machine.Extends (machine.makePrivate path).2 := by
  unfold makePrivate
  have grown := makeDirectories_extends (machine.start path)
    (FileTree.steps path).reverse machine
  split
  next stopped => rw [stopped] at grown; exact grown
  next between made =>
    rw [made] at grown
    split
    next => exact grown
    next set =>
      exact grown.trans (setMode_ok set (directoryAt_of_makeDirectories steps made)).1

theorem holdsPrivate_of_makePrivate (steps : FileTree.steps path ≠ [])
    (made : machine.makePrivate path = (.ok (), after)) : after.HoldsPrivate path := by
  unfold makePrivate at made
  split at made
  next => cases made
  next between all =>
    split at made
    next => cases made
    next set =>
      obtain rfl := (Prod.mk.inj made).2
      exact (setMode_ok set (directoryAt_of_makeDirectories steps all)).2

end Private

end Machine

end PlanGuard
