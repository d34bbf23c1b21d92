import PlanGuard.Proofs.Machine.Places

/-!
# One change of a tree after another

Two changes at a place are one change there, and a change below a place is one at the
place.  Sifting twice is sifting once, by both; and what a removal has left it leaves
when it is made again.
-/

namespace PlanGuard.FileTree

/-! ## Entries -/

theorem putEntry_middle {name : String} {front : List (String × FileTree)}
    (absent : ∀ entry ∈ front, entry.1 ≠ name) (old new : FileTree)
    (back : List (String × FileTree)) :
    putEntry name new (front ++ (name, old) :: back) = front ++ (name, new) :: back := by
  induction front with
  | nil => exact if_pos rfl
  | cons entry rest ih =>
      obtain ⟨other, others⟩ := List.forall_mem_cons.mp absent
      rw [List.cons_append, putEntry, if_neg other, ih others, List.cons_append]

/-- The first entry with a name stands behind others only. -/
theorem split_of_lookup {name : String} {tree : FileTree} {entries : List (String × FileTree)}
    (found : entries.lookup name = some tree) :
    ∃ front back, entries = front ++ (name, tree) :: back ∧
      ∀ entry ∈ front, entry.1 ≠ name := by
  obtain ⟨front, back, split, others⟩ := List.lookup_eq_some_iff.mp found
  refine ⟨front, back, split, ?_⟩
  intro entry member same
  exact bne_iff_ne.mp (others entry member) same.symm

theorem putEntry_of_lookup {name : String} {tree : FileTree}
    {entries : List (String × FileTree)} (found : entries.lookup name = some tree) :
    putEntry name tree entries = entries := by
  obtain ⟨front, back, rfl, others⟩ := split_of_lookup found
  exact putEntry_middle others tree tree back

@[simp] theorem putEntry_putEntry (name : String) (first second : FileTree)
    (entries : List (String × FileTree)) :
    putEntry name second (putEntry name first entries) = putEntry name second entries := by
  induction entries with
  | nil => simp only [putEntry, if_true]
  | cons entry rest ih =>
      by_cases same : entry.1 = name
      · simp only [putEntry, same, if_true]
      · simp only [putEntry, same, if_false, ih]

/-! ## Changes at a place -/

/-- A change below a place is a change at the place. -/
theorem modify_append (change : FileTree → Except SystemError FileTree) (root : FileTree)
    (first second : List String) :
    root.modify change (first ++ second) = root.modify (modify change second) first := by
  induction first generalizing root with
  | nil => rw [List.nil_append, modify_nil]
  | cons step rest ih =>
      cases root with
      | directory stamp entries => simp only [List.cons_append, modify, ih]
      | file => rfl
      | device => rfl
      | program => rfl

theorem modify_modify {first second : FileTree → Except SystemError FileTree}
    {root changed : FileTree} {place : List String}
    (done : root.modify first place = .ok changed) :
    changed.modify second place =
      root.modify (fun tree => (first tree).bind second) place := by
  induction place generalizing root changed with
  | nil =>
      rw [modify_nil] at done
      rw [modify_nil, modify_nil, done]
      rfl
  | cons step rest ih =>
      obtain ⟨stamp, entries, inner, next, rfl, held, inside, rfl⟩ := modify_cons_ok done
      simp only [modify, lookup_putEntry_self, held, ih inside, putEntry_putEntry]

theorem modify_of_same {change : FileTree → Except SystemError FileTree}
    {root old : FileTree} {place : List String} (found : root.find place = .ok old)
    (same : change old = .ok old) : root.modify change place = .ok root := by
  induction place generalizing root with
  | nil =>
      rw [find_nil] at found
      obtain rfl := Except.ok.inj found
      exact (modify_nil change root).trans same
  | cons step rest ih =>
      obtain ⟨stamp, entries, inner, rfl, held, there⟩ := find_cons_ok found
      simp only [modify, held, ih there, putEntry_of_lookup held]

/-- Only what a change makes of the tree at the place matters. -/
theorem modify_congr {first second : FileTree → Except SystemError FileTree}
    {root old : FileTree} {place : List String} (found : root.find place = .ok old)
    (agree : first old = second old) : root.modify first place = root.modify second place := by
  induction place generalizing root with
  | nil =>
      rw [find_nil] at found
      obtain rfl := Except.ok.inj found
      rw [modify_nil, modify_nil, agree]
  | cons step rest ih =>
      obtain ⟨stamp, entries, inner, rfl, held, there⟩ := find_cons_ok found
      simp only [modify, held, ih there]

theorem erase_append (now : Int) (place : List String) (name : String) (root : FileTree) :
    root.erase now (place ++ [name]) =
      root.modify (changeEntries now (·.filter fun entry => entry.1 != name)) place := by
  simp only [erase, List.getLast?_concat, List.dropLast_concat]

/-! ## Sifting -/

theorem leaving_self (now : Int) (stamp : Stamp) (entries : List (String × FileTree)) :
    leaving now stamp entries entries = directory stamp entries := by
  simp only [leaving, if_true]

/-- Sifting twice is sifting once, by both. -/
theorem siftEntries_bind (now : Int)
    (first second : String × FileTree → Option (String × FileTree)) (tree : FileTree) :
    (siftEntries now first tree).bind (siftEntries now second) =
      siftEntries now (fun entry => (first entry).bind second) tree := by
  cases tree with
  | directory stamp entries =>
      have fewer := List.length_filterMap_le first entries
      have still := List.length_filterMap_le second (entries.filterMap first)
      simp only [siftEntries, leaving, Except.bind, ← List.filterMap_filterMap]
      -- The directory is as old as before only if neither of the two took anything away.
      by_cases whole : ((entries.filterMap first).filterMap second).length = entries.length
      · have middle : (entries.filterMap first).length = entries.length :=
          Nat.le_antisymm fewer (whole ▸ still)
        simp only [middle, whole, if_true]
      · by_cases middle : (entries.filterMap first).length = entries.length
        · simp only [middle, whole, if_true, if_false]
        · simp only [middle, whole, if_false, ite_self]
  | file => rfl
  | device => rfl
  | program => rfl

/-! ## Removal -/

mutual

/-- What is left of a tree that is removed would be left of itself. -/
theorem remnant?_of_left {now : Int} {tree left : FileTree}
    (removed : tree.remnant? now = some left) : left.remnant? now = some left := by
  cases tree with
  | directory stamp entries =>
      have inside := remnants_remnants now entries
      simp only [remnant?, Option.ite_none_left_eq_some, Option.some.injEq] at removed
      obtain ⟨stays, rfl⟩ := removed
      have refused : (if (remnants now entries).length = entries.length then stamp
          else { stamp with modified := some now }).pinned = stamp.pinned := by
        split <;> rfl
      rw [leaving, remnant?, inside, refused, if_neg stays, leaving_self]
  | file stamp content =>
      simp only [remnant?, Option.ite_none_right_eq_some, Option.some.injEq] at removed
      obtain ⟨pinned, rfl⟩ := removed
      exact if_pos pinned
  | device => cases removed
  | program => cases removed

theorem remnants_remnants (now : Int) (entries : List (String × FileTree)) :
    remnants now (remnants now entries) = remnants now entries := by
  cases entries with
  | nil => rfl
  | cons entry rest =>
      obtain ⟨name, tree⟩ := entry
      cases removed : tree.remnant? now with
      | none =>
          simp only [remnants, removed]
          exact remnants_remnants now rest
      | some left => simp only [remnants, removed, remnant?_of_left removed]

end

/--
Removes what lies at a place with all that it holds, as far as the system lets it go,
and tells whether all of it went.
-/
def remove (now : Int) (place : List String) (root : FileTree) :
    Except SystemError (Bool × FileTree) :=
  match root.find place with
  | .error error => .error error
  | .ok tree =>
      match tree.remnant? now with
      | none => (root.erase now place).map (true, ·)
      | some left => (root.modify (fun _ => .ok left) place).map (false, ·)

end PlanGuard.FileTree
