import PlanGuard.Text.Utf8
import Mathlib.Data.String.Basic

/-!
# Cutting a text to a number of bytes

A text is cut between two characters only.  The search for such a place starts where
the room ends and goes back byte by byte; as the front of a text is one, the search
ends inside the text, and it ends at the last one there is.  So what is kept is the
longest beginning of the text that fits.
-/

namespace PlanGuard.Text.Utf8

/-- The search ends at a place that is within reach, and passes no other on its way. -/
theorem exists_lastBoundary? (text : String) (place : Nat) :
    ∃ stop, lastBoundary? text place = some stop ∧ stop.offset.byteIdx ≤ place ∧
      ∀ other : text.Pos, other.offset.byteIdx ≤ place →
        other.offset.byteIdx ≤ stop.offset.byteIdx := by
  induction place with
  | zero =>
      unfold lastBoundary?
      have front : (String.Pos.Raw.mk 0).IsValid text := String.Pos.Raw.isValid_zero
      rw [dif_pos front]
      exact ⟨_, rfl, Nat.le_refl 0, fun _ reach => reach⟩
  | succ place ih =>
      unfold lastBoundary?
      by_cases valid : (String.Pos.Raw.mk (place + 1)).IsValid text
      · rw [dif_pos valid]
        exact ⟨_, rfl, Nat.le_refl _, fun _ reach => reach⟩
      · rw [dif_neg valid]
        obtain ⟨stop, found, near, last⟩ := ih
        refine ⟨stop, found, Nat.le_succ_of_le near, ?_⟩
        intro other reach
        rcases Nat.le_succ_iff.mp reach with before | here
        · exact last other before
        · have same : other.offset = String.Pos.Raw.mk (place + 1) :=
            String.Pos.Raw.ext here
          exact absurd (same ▸ other.isValid) valid

/-- The longest beginning of a text, in whole characters, that fits into the room. -/
structure LongestWithin (room : Nat) (text kept : String) : Prop where
  beginning : kept.toList <+: text.toList
  fits : kept.utf8ByteSize ≤ room
  longest : ∀ other : String, other.toList <+: text.toList →
    other.utf8ByteSize ≤ room → other.toList <+: kept.toList

/-- A beginning of a text ends between two characters of it. -/
theorem isValid_of_prefix {text beginning : String}
    (front : beginning.toList <+: text.toList) :
    (String.Pos.Raw.mk beginning.utf8ByteSize).IsValid text := by
  obtain ⟨rest, whole⟩ := front
  refine String.Pos.Raw.isValid_iff_exists_append.mpr ⟨beginning, String.ofList rest, ?_, rfl⟩
  rw [← String.toList_inj, String.toList_append, String.toList_ofList, whole]

/-- Of two beginnings of a text, the one with fewer bytes is a beginning of the other. -/
theorem prefix_of_utf8ByteSize_le {text first second : String}
    (front : first.toList <+: text.toList) (longer : second.toList <+: text.toList)
    (fewer : first.utf8ByteSize ≤ second.utf8ByteSize) :
    first.toList <+: second.toList := by
  rcases List.prefix_or_prefix_of_prefix front longer with within | ⟨rest, beyond⟩
  · exact within
  · have whole : first = second ++ String.ofList rest := by
      rw [← String.toList_inj, String.toList_append, String.toList_ofList, beyond]
    have nothing : (String.ofList rest).utf8ByteSize = 0 := by
      rw [whole, String.utf8ByteSize_append] at fewer
      omega
    rw [String.utf8ByteSize_eq_zero_iff] at nothing
    have same : first = second := by rw [whole, nothing, String.append_empty]
    subst same
    exact List.prefix_rfl

theorem clip_of_fits {room : Nat} {text : String} (fits : text.utf8ByteSize ≤ room) :
    clip room text = text := by
  unfold clip
  rw [if_pos fits]

theorem longestWithin_clip (room : Nat) (text : String) :
    LongestWithin room text (clip room text) := by
  by_cases fits : text.utf8ByteSize ≤ room
  · rw [clip_of_fits fits]
    exact ⟨List.prefix_rfl, fits, fun _ front _ => front⟩
  · obtain ⟨stop, found, near, last⟩ := exists_lastBoundary? text room
    have cut : clip room text = (text.sliceTo stop).copy := by
      unfold clip
      rw [if_neg fits, found]
    rw [cut]
    have splits := stop.splits
    have size : (text.sliceTo stop).copy.utf8ByteSize = stop.offset.byteIdx := by
      rw [splits.offset_eq_rawEndPos]
      rfl
    have front : (text.sliceTo stop).copy.toList <+: text.toList := by
      refine ⟨(text.sliceFrom stop).copy.toList, ?_⟩
      rw [← String.toList_append, ← splits.eq_append]
    refine ⟨front, size ▸ near, ?_⟩
    intro other begins within
    have reached := last ⟨_, isValid_of_prefix begins⟩ within
    exact prefix_of_utf8ByteSize_le begins front (size ▸ reached)

theorem LongestWithin.unique {room : Nat} {text first second : String}
    (longest : LongestWithin room text first) (other : LongestWithin room text second) :
    first = second := by
  have within := other.longest first longest.beginning longest.fits
  have back := longest.longest second other.beginning other.fits
  rw [← String.toList_inj]
  exact within.eq_of_length_le back.length_le

/-- So many bytes of a text end after some characters, in front of the next or inside it. -/
structure CutAt (count : Nat) (text kept : String) (next : Char) : Prop where
  split : ∃ rest, text.toList = kept.toList ++ next :: rest
  reached : kept.utf8ByteSize ≤ count
  inside : count < kept.utf8ByteSize + next.utf8Size

theorem exists_split_of_lt {count : Nat} {text : List Char}
    (fewer : count < String.utf8Len text) :
    ∃ kept next rest, text = kept ++ next :: rest ∧ String.utf8Len kept ≤ count ∧
      count < String.utf8Len kept + next.utf8Size := by
  induction text generalizing count with
  | nil => exact absurd fewer (Nat.not_lt_zero count)
  | cons c rest ih =>
      rw [String.utf8Len_cons] at fewer
      by_cases here : count < c.utf8Size
      · refine ⟨[], c, rest, rfl, Nat.zero_le count, ?_⟩
        rw [String.utf8Len_nil, Nat.zero_add]
        exact here
      · obtain ⟨kept, next, later, split, reached, inside⟩ :=
          @ih (count - c.utf8Size) (by omega)
        refine ⟨c :: kept, next, later, ?_, ?_, ?_⟩
        · rw [split, List.cons_append]
        · rw [String.utf8Len_cons]
          omega
        · rw [String.utf8Len_cons]
          omega

theorem exists_cutAt {count : Nat} {text : String} (fewer : count < text.utf8ByteSize) :
    ∃ kept next, CutAt count text kept next := by
  rw [← String.ofList_toList (s := text), String.utf8ByteSize_ofList] at fewer
  obtain ⟨kept, next, rest, split, reached, inside⟩ := exists_split_of_lt fewer
  refine ⟨String.ofList kept, next, ⟨rest, ?_⟩, ?_, ?_⟩
  · rw [String.toList_ofList, split]
  · rw [String.utf8ByteSize_ofList]
    exact reached
  · rw [String.utf8ByteSize_ofList]
    exact inside

/-- The characters in front of a cut are the longest beginning that fits. -/
theorem CutAt.longestWithin {count : Nat} {text kept : String} {next : Char}
    (cut : CutAt count text kept next) : LongestWithin count text kept := by
  obtain ⟨rest, split⟩ := cut.split
  have front : kept.toList <+: text.toList := ⟨next :: rest, split.symm⟩
  refine ⟨front, cut.reached, ?_⟩
  intro other begins fits
  rcases List.prefix_or_prefix_of_prefix begins front with within | ⟨more, beyond⟩
  · exact within
  · cases more with
    | nil =>
        have same : other.toList = kept.toList := by rw [← beyond, List.append_nil]
        exact same ▸ List.prefix_rfl
    | cons c more =>
        -- A beginning that goes beyond the cut has the character that the cut is inside.
        obtain ⟨later, whole⟩ := begins
        rw [← whole, ← beyond, List.append_assoc, List.append_cancel_left_eq,
          List.cons_append, List.cons.injEq] at split
        have front : kept.utf8ByteSize = String.utf8Len kept.toList := by
          rw [← String.utf8ByteSize_ofList, String.ofList_toList]
        have size : other.utf8ByteSize =
            kept.utf8ByteSize + (String.utf8Len more + next.utf8Size) := by
          rw [← String.ofList_toList (s := other), ← beyond, String.utf8ByteSize_ofList,
            String.utf8Len_append, String.utf8Len_cons, split.1, front]
        have inside := cut.inside
        omega

end PlanGuard.Text.Utf8
