import PlanGuard.Proofs.Json.Tokens

/-!
# Documents read back

What is written of a document is read as the tree of that document, whether it is
written on one line or laid out for people.  The two ways to write differ in where they
put blanks, so both are cases of one.
-/

namespace PlanGuard.Json

/-! ## Layouts -/

/-- Where a document is written with blanks. -/
structure Spacing where
  /-- Before each item and member, and before the end, at a depth of nesting. -/
  gap : Nat → List Char
  /-- Between a key and its value. -/
  space : List Char
  gap_blank : ∀ depth, ∀ c ∈ gap depth, Reader.isSpace c = true
  space_blank : ∀ c ∈ space, Reader.isSpace c = true

namespace Spacing

def tight : Spacing where
  gap _ := []
  space := []
  gap_blank _ := List.forall_mem_nil _
  space_blank := List.forall_mem_nil _

def airy : Spacing where
  gap := newLine
  space := [' ']
  gap_blank depth := by
    refine List.forall_mem_cons.mpr ⟨rfl, ?_⟩
    intro c member
    rw [List.eq_of_mem_replicate member]
    rfl
  space_blank := by
    intro c member
    rw [List.mem_singleton.mp member]
    rfl

end Spacing

mutual

def spell (spacing : Spacing) (depth : Nat) : Json → List Char
  | .array [] => ['[', ']']
  | .array items =>
      '[' :: (spellItems spacing (depth + 1) items ++ spacing.gap depth ++ [']'])
  | .object [] => ['\x7b', '\x7d']
  | .object members =>
      '\x7b' :: (spellMembers spacing (depth + 1) members ++ spacing.gap depth ++ ['\x7d'])
  | .null => write .null
  | .bool value => write (.bool value)
  | .number literal => write (.number literal)
  | .text value => write (.text value)

def spellItems (spacing : Spacing) (depth : Nat) : List Json → List Char
  | [] => []
  | [item] => spacing.gap depth ++ spell spacing depth item
  | item :: next :: rest =>
      spacing.gap depth ++ spell spacing depth item ++
        ',' :: spellItems spacing depth (next :: rest)

def spellMembers (spacing : Spacing) (depth : Nat) :
    List (String × Json) → List Char
  | [] => []
  | [(name, value)] =>
      spacing.gap depth ++ quote name ++ ':' :: (spacing.space ++ spell spacing depth value)
  | (name, value) :: next :: rest =>
      spacing.gap depth ++ quote name ++ ':' :: (spacing.space ++
        (spell spacing depth value ++ ',' :: spellMembers spacing depth (next :: rest)))

end

mutual

theorem write_eq_spell (depth : Nat) (json : Json) :
    write json = spell .tight depth json := by
  cases json with
  | array items =>
      cases items with
      | nil => rfl
      | cons item rest =>
          rw [write, spell, writeItems_eq_spell (depth + 1) (item :: rest)]
          · simp [Spacing.tight]
          · simp
  | object members =>
      cases members with
      | nil => rfl
      | cons member rest =>
          rw [write, spell, writeMembers_eq_spell (depth + 1) (member :: rest)]
          · simp [Spacing.tight]
          · simp
  | null => rfl
  | bool => rfl
  | number => rfl
  | text => rfl

theorem writeItems_eq_spell (depth : Nat) (items : List Json) :
    writeItems items = spellItems .tight depth items := by
  cases items with
  | nil => rfl
  | cons item rest =>
      cases rest with
      | nil => exact write_eq_spell depth item
      | cons next rest =>
          rw [writeItems, spellItems, write_eq_spell depth item,
            writeItems_eq_spell depth (next :: rest)]
          rfl

theorem writeMembers_eq_spell (depth : Nat) (members : List (String × Json)) :
    writeMembers members = spellMembers .tight depth members := by
  cases members with
  | nil => rfl
  | cons member rest =>
      obtain ⟨name, value⟩ := member
      cases rest with
      | nil =>
          rw [writeMembers, spellMembers, write_eq_spell depth value]
          rfl
      | cons next rest =>
          rw [writeMembers, spellMembers, write_eq_spell depth value,
            writeMembers_eq_spell depth (next :: rest)]
          rfl

end

mutual

theorem layOut_eq_spell (depth : Nat) (json : Json) :
    layOut depth json = spell .airy depth json := by
  cases json with
  | array items =>
      cases items with
      | nil => rfl
      | cons item rest =>
          rw [layOut, spell, layOutItems_eq_spell (depth + 1) (item :: rest)]
          · rfl
          · simp
          · simp
  | object members =>
      cases members with
      | nil => rfl
      | cons member rest =>
          rw [layOut, spell, layOutMembers_eq_spell (depth + 1) (member :: rest)]
          · rfl
          · simp
          · simp
  | null => rfl
  | bool => rfl
  | number => rfl
  | text => rfl

theorem layOutItems_eq_spell (depth : Nat) (items : List Json) :
    layOutItems depth items = spellItems .airy depth items := by
  cases items with
  | nil => rfl
  | cons item rest =>
      cases rest with
      | nil =>
          rw [layOutItems, spellItems, layOut_eq_spell depth item]
          rfl
      | cons next rest =>
          rw [layOutItems, spellItems, layOut_eq_spell depth item,
            layOutItems_eq_spell depth (next :: rest)]
          rfl

theorem layOutMembers_eq_spell (depth : Nat) (members : List (String × Json)) :
    layOutMembers depth members = spellMembers .airy depth members := by
  cases members with
  | nil => rfl
  | cons member rest =>
      obtain ⟨name, value⟩ := member
      cases rest with
      | nil =>
          rw [layOutMembers, spellMembers, layOut_eq_spell depth value]
          rfl
      | cons next rest =>
          rw [layOutMembers, spellMembers, layOut_eq_spell depth value,
            layOutMembers_eq_spell depth (next :: rest)]
          rfl

end

/-! ## Trees -/

mutual

def toNode : Json → Node
  | .null => .null
  | .bool value => .bool value
  | .number literal => .number literal.toList
  | .text value => .text (some value)
  | .array items => .array (toNodes items) .closed
  | .object members => .object (toMembers members) .closed

def toNodes : List Json → List Node
  | [] => []
  | item :: rest => item.toNode :: toNodes rest

def toMembers : List (String × Json) → List (Option String × Node)
  | [] => []
  | (name, value) :: rest => (some name, value.toNode) :: toMembers rest

end

mutual

def Readable : Json → Prop
  | .number literal => IsNumeral literal
  | .array items => AllReadable items
  | .object members => MembersReadable members
  | .null | .bool _ | .text _ => True

def AllReadable : List Json → Prop
  | [] => True
  | item :: rest => item.Readable ∧ AllReadable rest

def MembersReadable : List (String × Json) → Prop
  | [] => True
  | (_, value) :: rest => value.Readable ∧ MembersReadable rest

end

section Reading

open Reader

variable (spacing : Spacing)

mutual

/-- Where a value is to come, what is written of a document is read as its tree. -/
theorem foldl_spell (depth : Nat) (json : Json) (readable : json.Readable) {reader : Reader}
    {frames : List Frame} (awaits : Awaits frames reader) :
    Holds frames json.toNode ((spell spacing depth json).foldl step reader) := by
  cases json with
  | null => rw [spell, awaits.foldl_null]; exact .value _
  | bool value => rw [spell, awaits.foldl_bool]; exact .value _
  | number literal => exact awaits.foldl_numeral readable
  | text value => rw [spell, write, awaits.foldl_quote]; exact .value _
  | array items =>
      have opened : reader.step '[' = ⟨.firstItem, .items [] :: frames⟩ := by
        cases awaits <;> rfl
      cases items with
      | nil => rw [spell, List.foldl_cons, opened]; exact .value _
      | cons item rest =>
          have closed := foldl_spellItems (depth + 1) (item :: rest) readable (by simp)
            (.firstItem : Awaits (.items [] :: frames) _) (spacing.gap_blank depth)
          rw [spell, List.foldl_cons, opened, closed]
          · exact .value _
          · simp
  | object members =>
      have opened : reader.step '\x7b' = ⟨.firstKey, .members [] none :: frames⟩ := by
        cases awaits <;> rfl
      cases members with
      | nil => rw [spell, List.foldl_cons, opened]; exact .value _
      | cons member rest =>
          have closed := foldl_spellMembers (depth + 1) (member :: rest) readable (by simp)
            (.firstKey : AwaitsKey (.members [] none :: frames) _)
            (spacing.gap_blank depth)
          rw [spell, List.foldl_cons, opened, closed]
          · exact .value _
          · simp

/--
The items of an array are read up to its end.  What was read of it before lies in the
innermost frame, in reverse.
-/
theorem foldl_spellItems (depth : Nat) (items : List Json) (readable : AllReadable items)
    (nonempty : items ≠ []) {reader : Reader} {done : List Node} {frames : List Frame}
    (awaits : Awaits (.items done :: frames) reader) {blanks : List Char}
    (blank : ∀ c ∈ blanks, isSpace c = true) :
    (spellItems spacing depth items ++ blanks ++ [']']).foldl step reader =
      ⟨.afterValue (.array (done.reverse ++ toNodes items) .closed), frames⟩ := by
  cases items with
  | nil => exact absurd rfl nonempty
  | cons item rest =>
      obtain ⟨first, others⟩ := readable
      have ready := foldl_blanks Awaits.step_blank (spacing.gap_blank depth) awaits
      have holds := foldl_spell depth item first ready
      cases rest with
      | nil =>
          have ended := (foldl_blanks Holds.step_blank blank holds).step_bracket
          simp only [spellItems, List.foldl_append, List.foldl_cons, List.foldl_nil, ended]
          simp [toNodes]
      | cons next rest =>
          have closed := foldl_spellItems depth (next :: rest) others (by simp)
            (.value : Awaits (.items (item.toNode :: done) :: frames) _) blank
          simp only [spellItems, List.append_assoc, List.cons_append, List.foldl_append,
            List.foldl_cons, holds.step_comma] at closed ⊢
          rw [closed]
          simp [toNodes]

/-- The members of an object are read up to its end, each key before its value. -/
theorem foldl_spellMembers (depth : Nat) (members : List (String × Json))
    (readable : MembersReadable members) (nonempty : members ≠ []) {reader : Reader}
    {done : List (Option String × Node)} {key : Option String} {frames : List Frame}
    (awaits : AwaitsKey (.members done key :: frames) reader) {blanks : List Char}
    (blank : ∀ c ∈ blanks, isSpace c = true) :
    (spellMembers spacing depth members ++ blanks ++ ['\x7d']).foldl step reader =
      ⟨.afterValue (.object (done.reverse ++ toMembers members) .closed), frames⟩ := by
  cases members with
  | nil => exact absurd rfl nonempty
  | cons member rest =>
      obtain ⟨name, value⟩ := member
      obtain ⟨first, others⟩ := readable
      have ready := foldl_blanks AwaitsKey.step_blank (spacing.gap_blank depth) awaits
      have named := ready.foldl_key name
      have before := foldl_blanks Awaits.step_blank spacing.space_blank
        (.value : Awaits (.members done (some name) :: frames) _)
      have holds := foldl_spell depth value first before
      cases rest with
      | nil =>
          have ended := (foldl_blanks Holds.step_blank blank holds).step_brace
          have text : spellMembers spacing depth [(name, value)] ++ blanks ++ ['\x7d'] =
              spacing.gap depth ++ ((quote name ++ [':']) ++ (spacing.space ++
                (spell spacing depth value ++ (blanks ++ ['\x7d'])))) := by
            simp [spellMembers]
          rw [text, List.foldl_append, List.foldl_append, named, List.foldl_append,
            List.foldl_append, List.foldl_append, List.foldl_cons, ended]
          simp [toMembers]
      | cons next rest =>
          have closed := foldl_spellMembers depth (next :: rest) others (by simp)
            (.key : AwaitsKey (.members ((some name, value.toNode) :: done) none :: frames) _)
            blank
          have text : spellMembers spacing depth ((name, value) :: next :: rest) ++ blanks ++
                ['\x7d'] =
              spacing.gap depth ++ ((quote name ++ [':']) ++ (spacing.space ++
                (spell spacing depth value ++ ',' ::
                  (spellMembers spacing depth (next :: rest) ++ blanks ++ ['\x7d'])))) := by
            simp [spellMembers]
          rw [text, List.foldl_append, List.foldl_append, named, List.foldl_append,
            List.foldl_append, List.foldl_cons, holds.step_member_comma, closed]
          simp [toMembers]

end

/-- A document is read back from its text, whatever its blanks. -/
theorem read_spell (depth : Nat) (json : Json) (readable : json.Readable) :
    read (String.ofList (spell spacing depth json)) = ⟨json.toNode, none⟩ := by
  have holds := foldl_spell spacing depth json readable (.value : Awaits [] _)
  simp only [read, String.toList_ofList, holds.finish]

end Reading

theorem read_compact (json : Json) (readable : json.Readable) :
    read json.compact = ⟨json.toNode, none⟩ := by
  rw [compact, write_eq_spell 0]
  exact read_spell .tight 0 json readable

theorem read_pretty (json : Json) (readable : json.Readable) :
    read json.pretty = ⟨json.toNode, none⟩ := by
  rw [pretty, layOut_eq_spell]
  exact read_spell .airy 0 json readable

end PlanGuard.Json
