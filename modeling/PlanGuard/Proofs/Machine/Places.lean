import PlanGuard.Machine.FileTree

/-!
# Places in a tree that is changed

What is found at a place after the tree at another one was changed, what becomes of the
entries of a directory that are sifted, where a path leads then, and what is left of a
tree that is removed.
-/

namespace PlanGuard.FileTree

/-! ## Entries -/

theorem lookup_putEntry_self (name : String) (tree : FileTree)
    (entries : List (String × FileTree)) :
    (putEntry name tree entries).lookup name = some tree := by
  induction entries with
  | nil => exact List.lookup_cons_self
  | cons entry rest ih =>
      unfold putEntry
      split
      · exact List.lookup_cons_self
      · rename_i differs
        have other : (name == entry.1) = false := beq_false_of_ne (Ne.symm differs)
        rw [List.lookup_cons, other]
        exact ih

theorem lookup_putEntry_of_ne {name other : String} (differs : other ≠ name)
    (tree : FileTree) (entries : List (String × FileTree)) :
    (putEntry name tree entries).lookup other = entries.lookup other := by
  induction entries with
  | nil =>
      rw [putEntry, List.lookup_cons, beq_false_of_ne differs]
  | cons entry rest ih =>
      unfold putEntry
      split
      · rename_i same
        rw [List.lookup_cons, List.lookup_cons, same, beq_false_of_ne differs]
      · rw [List.lookup_cons, List.lookup_cons, ih]

section Sifting

variable {sift : String × FileTree → Option (String × FileTree)} {name : String}
  {tree : FileTree} {entries : List (String × FileTree)}

/-- The first entry with a name is still the first one if it is left. -/
theorem lookup_filterMap_of_some {left : FileTree}
    (named : ∀ entry left, sift entry = some left → left.1 = entry.1)
    (found : entries.lookup name = some tree)
    (stays : sift (name, tree) = some (name, left)) :
    (entries.filterMap sift).lookup name = some left := by
  induction entries with
  | nil => cases found
  | cons entry rest ih =>
      obtain ⟨other, held⟩ := entry
      by_cases same : name = other
      · obtain rfl := same
        rw [List.lookup_cons_self] at found
        obtain rfl := Option.some.inj found
        rw [List.filterMap_cons_some stays, List.lookup_cons_self]
      · have differs : (name == other) = false := beq_false_of_ne same
        rw [List.lookup_cons, differs] at found
        cases sifted : sift (other, held) with
        | none =>
            rw [List.filterMap_cons_none sifted]
            exact ih found
        | some kept =>
            have keeps : kept.1 = other := named _ _ sifted
            rw [List.filterMap_cons_some sifted, List.lookup_cons, keeps, differs]
            exact ih found

/-- Sifting gives no entry a name that none had. -/
theorem lookup_filterMap_of_absent
    (named : ∀ entry left, sift entry = some left → left.1 = entry.1)
    (absent : name ∉ entries.map Prod.fst) :
    (entries.filterMap sift).lookup name = none := by
  rw [List.lookup_eq_none_iff]
  intro left member
  obtain ⟨entry, held, sifted⟩ := List.mem_filterMap.mp member
  have differs : name ≠ left.1 := by
    rintro rfl
    exact absent (List.mem_map.mpr ⟨entry, held, (named entry left sifted).symm⟩)
  exact bne_iff_ne.mpr differs

theorem lookup_filterMap_of_none
    (named : ∀ entry left, sift entry = some left → left.1 = entry.1)
    (distinct : (entries.map Prod.fst).Nodup)
    (found : entries.lookup name = some tree) (gone : sift (name, tree) = none) :
    (entries.filterMap sift).lookup name = none := by
  induction entries with
  | nil => cases found
  | cons entry rest ih =>
      obtain ⟨other, held⟩ := entry
      obtain ⟨absent, distinct⟩ := List.nodup_cons.mp distinct
      by_cases same : name = other
      · obtain rfl := same
        rw [List.lookup_cons_self] at found
        obtain rfl := Option.some.inj found
        rw [List.filterMap_cons_none gone]
        exact lookup_filterMap_of_absent named absent
      · have differs : (name == other) = false := beq_false_of_ne same
        rw [List.lookup_cons, differs] at found
        cases sifted : sift (other, held) with
        | none =>
            rw [List.filterMap_cons_none sifted]
            exact ih distinct found
        | some kept =>
            have keeps : kept.1 = other := named _ _ sifted
            rw [List.filterMap_cons_some sifted, List.lookup_cons, keeps, differs]
            exact ih distinct found

/-- No entry that is left has a new name, and none has come before another. -/
theorem filterMap_names_sublist
    (named : ∀ entry left, sift entry = some left → left.1 = entry.1)
    (entries : List (String × FileTree)) :
    ((entries.filterMap sift).map Prod.fst).Sublist (entries.map Prod.fst) := by
  induction entries with
  | nil => exact List.Sublist.refl _
  | cons entry rest ih =>
      cases sifted : sift entry with
      | none =>
          rw [List.filterMap_cons_none sifted]
          exact ih.cons _
      | some left =>
          rw [List.filterMap_cons_some sifted, List.map_cons, List.map_cons,
            named entry left sifted]
          exact ih.cons_cons _

end Sifting

/-! ## Places -/

@[simp] theorem find_nil (tree : FileTree) : tree.find [] = .ok tree := by
  cases tree <;> rfl

theorem find_cons_of_lookup {stamp : Stamp} {entries : List (String × FileTree)}
    {step : String} {tree : FileTree} (found : entries.lookup step = some tree)
    (rest : List String) :
    (directory stamp entries).find (step :: rest) = tree.find rest := by
  simp only [find, found]

theorem find_cons_of_absent {stamp : Stamp} {entries : List (String × FileTree)}
    {step : String} (absent : entries.lookup step = none) (rest : List String) :
    (directory stamp entries).find (step :: rest) = .error .noEntry := by
  simp only [find, absent]

theorem find_cons_ok {root tree : FileTree} {step : String} {rest : List String}
    (found : root.find (step :: rest) = .ok tree) :
    ∃ stamp entries inner, root = directory stamp entries ∧
      entries.lookup step = some inner ∧ inner.find rest = .ok tree := by
  cases root with
  | directory stamp entries =>
      cases held : entries.lookup step with
      | none =>
          rw [find_cons_of_absent held] at found
          cases found
      | some inner =>
          rw [find_cons_of_lookup held] at found
          exact ⟨stamp, entries, inner, rfl, held, found⟩
  | file => cases found
  | device => cases found
  | program => cases found

theorem find_append (root : FileTree) (first second : List String) :
    root.find (first ++ second) = (root.find first).bind (·.find second) := by
  induction first generalizing root with
  | nil => cases root <;> rfl
  | cons step rest ih =>
      cases root with
      | directory stamp entries =>
          cases held : entries.lookup step with
          | none =>
              rw [List.cons_append, find_cons_of_absent held, find_cons_of_absent held]
              rfl
          | some tree =>
              rw [List.cons_append, find_cons_of_lookup held, find_cons_of_lookup held]
              exact ih tree
      | file => rfl
      | device => rfl
      | program => rfl

theorem find_append_of_ok {root tree : FileTree} {first : List String}
    (found : root.find first = .ok tree) (second : List String) :
    root.find (first ++ second) = tree.find second := by
  rw [find_append, found]
  rfl

/-- What leads to a place where something is found is found as well. -/
theorem find_of_append_ok {root tree : FileTree} {first second : List String}
    (found : root.find (first ++ second) = .ok tree) :
    ∃ between, root.find first = .ok between ∧ between.find second = .ok tree := by
  rw [find_append] at found
  cases there : root.find first with
  | error error => rw [there] at found; cases found
  | ok between => rw [there] at found; exact ⟨between, rfl, found⟩

section Below

variable {root top tree : FileTree} {place inner : List String} {stamp : Stamp}
  {entries : List (String × FileTree)} {name : String}

theorem find_below (here : root.find place = .ok (directory stamp entries))
    (held : entries.lookup name = some top) (inner : List String) :
    root.find (place ++ name :: inner) = top.find inner := by
  rw [find_append_of_ok here, find_cons_of_lookup held]

theorem lookup_of_find_below (here : root.find place = .ok (directory stamp entries))
    (found : root.find (place ++ name :: inner) = .ok tree) :
    ∃ top, entries.lookup name = some top ∧ top.find inner = .ok tree := by
  rw [find_append_of_ok here] at found
  cases held : entries.lookup name with
  | none =>
      rw [find_cons_of_absent held] at found
      cases found
  | some top =>
      rw [find_cons_of_lookup held] at found
      exact ⟨top, rfl, found⟩

theorem directory_of_find_below (found : root.find (place ++ name :: inner) = .ok tree) :
    ∃ stamp entries, root.find place = .ok (directory stamp entries) := by
  obtain ⟨between, here, below⟩ := find_of_append_ok found
  obtain ⟨stamp, entries, _, rfl, _⟩ := find_cons_ok below
  exact ⟨stamp, entries, here⟩

end Below

section Changes

variable {change : FileTree → Except SystemError FileTree} {root changed : FileTree}
  {place : List String}

@[simp] theorem modify_nil (change : FileTree → Except SystemError FileTree)
    (root : FileTree) : root.modify change [] = change root := by
  cases root <;> rfl

/-- A change at a place in a directory changes one of its entries. -/
theorem modify_cons_ok {step : String} {rest : List String}
    (done : root.modify change (step :: rest) = .ok changed) :
    ∃ stamp entries old new, root = directory stamp entries ∧
      entries.lookup step = some old ∧ old.modify change rest = .ok new ∧
      changed = directory stamp (putEntry step new entries) := by
  cases root with
  | directory stamp entries =>
      cases held : entries.lookup step with
      | none => simp only [modify, held, reduceCtorEq] at done
      | some old =>
          cases inside : old.modify change rest with
          | error error => simp only [modify, held, inside, reduceCtorEq] at done
          | ok new =>
              simp only [modify, held, inside, Except.ok.injEq] at done
              exact ⟨stamp, entries, old, new, rfl, held, inside, done.symm⟩
  | file => cases done
  | device => cases done
  | program => cases done

theorem find_modify_self (done : root.modify change place = .ok changed) :
    ∃ old new, root.find place = .ok old ∧ change old = .ok new ∧
      changed.find place = .ok new := by
  induction place generalizing root changed with
  | nil =>
      rw [modify_nil] at done
      exact ⟨root, changed, find_nil root, done, find_nil changed⟩
  | cons step rest ih =>
      obtain ⟨stamp, entries, inner, next, rfl, held, inside, rfl⟩ := modify_cons_ok done
      obtain ⟨old, new, found, made, there⟩ := ih inside
      refine ⟨old, new, ?_, made, ?_⟩
      · rw [find_cons_of_lookup held]
        exact found
      · rw [find_cons_of_lookup (lookup_putEntry_self step next entries)]
        exact there

/-- Places that neither lead to the changed one nor lie below it are as they were. -/
theorem find_modify_of_apart (done : root.modify change place = .ok changed)
    {other : List String} (above : ¬other <+: place) (below : ¬place <+: other) :
    changed.find other = root.find other := by
  induction place generalizing root changed other with
  | nil => exact absurd List.nil_prefix below
  | cons step rest ih =>
      cases other with
      | nil => exact absurd List.nil_prefix above
      | cons first others =>
          obtain ⟨stamp, entries, inner, next, rfl, held, inside, rfl⟩ := modify_cons_ok done
          by_cases same : first = step
          · obtain rfl := same
            rw [find_cons_of_lookup held,
              find_cons_of_lookup (lookup_putEntry_self first next entries)]
            exact ih inside (fun leads => above (List.cons_prefix_cons.mpr ⟨rfl, leads⟩))
              (fun lies => below (List.cons_prefix_cons.mpr ⟨rfl, lies⟩))
          · simp only [find, lookup_putEntry_of_ne same]

theorem modify_of_find {old new : FileTree} (found : root.find place = .ok old)
    (made : change old = .ok new) : ∃ changed, root.modify change place = .ok changed := by
  induction place generalizing root with
  | nil =>
      rw [find_nil] at found
      obtain rfl := Except.ok.inj found
      exact ⟨new, (modify_nil change root).trans made⟩
  | cons step rest ih =>
      obtain ⟨stamp, entries, inner, rfl, held, there⟩ := find_cons_ok found
      obtain ⟨next, inside⟩ := ih there
      exact ⟨directory stamp (putEntry step next entries), by simp only [modify, held, inside]⟩

theorem find_of_sifted {stamp : Stamp} {entries : List (String × FileTree)} {now : Int}
    {sift : String × FileTree → Option (String × FileTree)}
    (here : root.find place = .ok (directory stamp entries))
    (sifted : root.modify (siftEntries now sift) place = .ok changed) :
    changed.find place = .ok (leaving now stamp entries (entries.filterMap sift)) := by
  obtain ⟨old, new, found, made, there⟩ := find_modify_self sifted
  obtain rfl := Except.ok.inj (here.symm.trans found)
  obtain rfl := Except.ok.inj made
  exact there

end Changes

/-! ## Paths -/

/-- What is reached by steps is told by the steps. -/
theorem eq_foldl_of_walk {root : FileTree} {here steps place : List String}
    (reached : root.walk here steps = .ok place) :
    place = steps.foldl
      (fun place step => if step = ".." then place.dropLast else place ++ [step]) here := by
  induction steps generalizing here with
  | nil => exact (Except.ok.inj reached).symm
  | cons step rest ih =>
      rw [walk] at reached
      split at reached
      · cases reached
      · rw [List.foldl_cons]
        split at reached
        · rename_i back
          rw [if_pos back]
          exact ih reached
        · rename_i forth
          rw [if_neg forth]
          exact ih reached
      · cases reached

/-- A path that leads anywhere leads to the place that it spells. -/
theorem eq_lexical_of_resolve {root : FileTree} {directory place : List String} {path : String}
    (resolved : root.resolve directory path = .ok place) : place = lexical directory path := by
  unfold resolve at resolved
  split at resolved
  · cases resolved
  · exact eq_foldl_of_walk resolved

/-- Steps that never go back are taken where there is something at their end. -/
theorem walk_of_find {root tree : FileTree} {here steps : List String}
    (forth : ".." ∉ steps) (found : root.find (here ++ steps) = .ok tree) :
    root.walk here steps = .ok (here ++ steps) := by
  induction steps generalizing here with
  | nil => rw [walk, List.append_nil]
  | cons step rest ih =>
      obtain ⟨stamp, entries, there⟩ := directory_of_find_below found
      obtain ⟨back, forth⟩ := List.ne_and_not_mem_of_not_mem_cons forth
      rw [List.append_cons] at found ⊢
      simp only [walk, there, if_neg (Ne.symm back), ih forth found]

theorem lexical_of_forth {directory : List String} {path : String}
    (forth : ".." ∉ steps path) :
    lexical directory path = (if path.startsWith "/" then [] else directory) ++ steps path := by
  unfold lexical
  generalize (if path.startsWith "/" then [] else directory) = here
  generalize steps path = steps at forth
  induction steps generalizing here with
  | nil => rw [List.foldl_nil, List.append_nil]
  | cons step rest ih =>
      obtain ⟨back, forth⟩ := List.ne_and_not_mem_of_not_mem_cons forth
      rw [List.foldl_cons, if_neg (Ne.symm back), ih _ forth, ← List.append_cons]

/-- A path that never goes back still leads to its place if there is still something. -/
theorem resolve_of_find {root changed tree : FileTree} {directory place : List String}
    {path : String} (forth : ".." ∉ steps path)
    (resolved : root.resolve directory path = .ok place)
    (there : changed.find place = .ok tree) :
    changed.resolve directory path = .ok place := by
  have named : path ≠ "" := by
    rintro rfl
    cases resolved
  rw [eq_lexical_of_resolve resolved, lexical_of_forth forth] at there ⊢
  rw [resolve, if_neg named]
  exact walk_of_find forth there

/-! ## Removal -/

mutual

def holdsPinned : FileTree → Bool
  | .directory stamp entries => stamp.pinned || anyPinned entries
  | .file stamp _ => stamp.pinned
  | .device _ | .program _ => false

def anyPinned : List (String × FileTree) → Bool
  | [] => false
  | (_, tree) :: rest => tree.holdsPinned || anyPinned rest

end

mutual

theorem remnant?_eq_none_iff (now : Int) (tree : FileTree) :
    tree.remnant? now = none ↔ tree.holdsPinned = false := by
  cases tree with
  | directory stamp entries =>
      have inside := remnants_eq_nil_iff now entries
      cases pinned : stamp.pinned <;> simp [remnant?, holdsPinned, pinned, inside]
  | file stamp content =>
      cases pinned : stamp.pinned <;> simp [remnant?, holdsPinned, pinned]
  | device => exact ⟨fun _ => rfl, fun _ => rfl⟩
  | program => exact ⟨fun _ => rfl, fun _ => rfl⟩

theorem remnants_eq_nil_iff (now : Int) (entries : List (String × FileTree)) :
    remnants now entries = [] ↔ anyPinned entries = false := by
  cases entries with
  | nil => exact ⟨fun _ => rfl, fun _ => rfl⟩
  | cons entry rest =>
      obtain ⟨name, tree⟩ := entry
      have first := remnant?_eq_none_iff now tree
      have others := remnants_eq_nil_iff now rest
      cases left : tree.remnant? now with
      | none =>
          have unpinned := first.mp left
          simp [remnants, anyPinned, left, unpinned, others]
      | some left' =>
          have pinned : tree.holdsPinned = true := by
            rw [left] at first
            simpa using first
          simp [remnants, anyPinned, left, pinned]

end

end PlanGuard.FileTree
