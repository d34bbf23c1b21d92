import PlanGuard.Proofs.Capture.Splitting
import PlanGuard.Proofs.Text.Parts
import Mathlib.Data.List.DropRight

/-!
# What is shown of a text

A text comes in pieces of bytes, and each piece is read on its own and stripped of what can
end a line.  What is shown in all depends only on the text and on the places at which the
pieces end.  A carriage return goes if a line or a piece ends behind it, others aside, and a
newline always goes.  A character that a piece ends inside is shown as one replacement
character for its bytes in front of the cut and one for each byte behind.  Every other
character is shown as it is.
-/

namespace PlanGuard

open Text.Utf8 (Continues replacement letters)

/-! ## Texts in pieces -/

/-- The places at which pieces end, the first of which begins at `offset`. -/
def endsFrom (offset : Nat) : List (List UInt8) → List Nat
  | [] => []
  | piece :: rest => (offset + piece.length) :: endsFrom (offset + piece.length) rest

/-- A line ends here or a piece does, carriage returns aside. -/
def endsPiece (cuts : List Nat) (offset : Nat) : List Char → Bool
  | [] => true
  | c :: rest =>
      c == '\n' || c == '\r' &&
        (cuts.contains (offset + 1) || endsPiece cuts (offset + 1) rest)

/--
What is shown of a text whose bytes begin at `offset` and are cut at these places.  Of a
character that is cut a replacement character is shown for the part in front of the first
cut, and one for each byte behind it.
-/
def shownFrom (cuts : List Nat) (offset : Nat) : List Char → List Char
  | [] => []
  | c :: rest =>
      let next := offset + c.utf8Size
      let first :=
        match cuts.find? fun place => offset < place && place < next with
        | some place => List.replicate (1 + (next - place)) replacement
        | none => if endsPiece cuts offset (c :: rest) then [] else [c]
      first ++ shownFrom cuts next rest

/-! ## The end of a piece -/

theorem stripEnd_eq (bytes : List UInt8) :
    stripEnd bytes = bytes.rdropWhile fun byte => byte == 10 || byte == 13 :=
  rfl

/-- Only what ends a line is dropped, and from the end. -/
theorem stripEnd_append (first second : List UInt8) :
    stripEnd (first ++ second) =
      if stripEnd second = [] then stripEnd first else first ++ stripEnd second := by
  unfold stripEnd
  rw [List.reverse_append, List.dropWhile_append]
  simp only [List.isEmpty_iff, List.reverse_eq_nil_iff]
  split
  · rfl
  · rw [List.reverse_append, List.reverse_reverse]

theorem stripEnd_of_high {bytes : List UInt8} (high : ∀ b ∈ bytes, 0x80 ≤ b) :
    stripEnd bytes = bytes := by
  rw [stripEnd_eq, List.rdropWhile_eq_self_iff]
  intro nonempty dropped
  have last := high _ (List.getLast_mem nonempty)
  rw [Bool.or_eq_true, beq_iff_eq, beq_iff_eq] at dropped
  rcases dropped with same | same
  · rw [same] at last
    exact absurd last (by decide)
  · rw [same] at last
    exact absurd last (by decide)

/-- Of the bytes of a character nothing is dropped unless it is one that ends a line. -/
theorem stripEnd_utf8EncodeChar (c : Char) :
    stripEnd (String.utf8EncodeChar c) =
      if c = '\n' ∨ c = '\r' then [] else String.utf8EncodeChar c := by
  split
  next ends =>
    rcases ends with rfl | rfl
    · decide
    · decide
  next other =>
    rw [not_or] at other
    rcases Text.Utf8.begins_or_completes c with
      ⟨byte, encoded, reads⟩ | ⟨first, rest, cursor, encoded, -, completes⟩
    · rw [encoded, stripEnd_eq, List.rdropWhile_singleton, if_neg]
      rw [Bool.or_eq_true, beq_iff_eq, beq_iff_eq]
      rintro (rfl | rfl)
      · exact other.1 (List.cons.inj (Prod.mk.inj reads).2).1.symm
      · exact other.2 (List.cons.inj (Prod.mk.inj reads).2).1.symm
    · apply stripEnd_of_high
      apply Text.Utf8.high_of_mem_utf8EncodeChar
      rw [← String.length_utf8EncodeChar, encoded, List.length_cons]
      exact Nat.succ_lt_succ (List.length_pos_iff.mpr completes.ne_nil)

theorem stripEnd_take_utf8EncodeChar {c : Char} (long : 1 < c.utf8Size) (count : Nat) :
    stripEnd ((String.utf8EncodeChar c).take count) = (String.utf8EncodeChar c).take count := by
  apply stripEnd_of_high
  intro b member
  exact Text.Utf8.high_of_mem_utf8EncodeChar long b (List.mem_of_mem_take member)

theorem stripEnd_character_append_eq_nil_iff (c : Char) (more : List UInt8) :
    stripEnd (String.utf8EncodeChar c ++ more) = [] ↔
      (c = '\n' ∨ c = '\r') ∧ stripEnd more = [] := by
  rw [stripEnd_append]
  split
  next nothing =>
    rw [stripEnd_utf8EncodeChar]
    split
    next ends => exact iff_of_true rfl ⟨ends, nothing⟩
    next other => exact iff_of_false String.utf8EncodeChar_ne_nil fun both => other both.1
  next kept =>
    rw [List.append_eq_nil_iff]
    exact iff_of_false (fun both => kept both.2) fun both => kept both.2

/-- A character is read of its bytes unless all that they begin with is dropped. -/
theorem letters_stripEnd_character (c : Char) (more : List UInt8) :
    letters (stripEnd (String.utf8EncodeChar c ++ more)) =
      (if stripEnd (String.utf8EncodeChar c ++ more) = [] then [] else [c]) ++
        letters (stripEnd more) := by
  split
  next dropped =>
    rw [dropped, ((stripEnd_character_append_eq_nil_iff c more).mp dropped).2]
    rfl
  next kept =>
    have whole : stripEnd (String.utf8EncodeChar c ++ more) =
        String.utf8EncodeChar c ++ stripEnd more := by
      rw [stripEnd_character_append_eq_nil_iff] at kept
      rw [stripEnd_append]
      split
      next nothing =>
        rw [stripEnd_utf8EncodeChar, if_neg fun ends => kept ⟨ends, nothing⟩, nothing,
          List.append_nil]
      next => rfl
    rw [whole, Text.Utf8.letters_append (Text.Utf8.run_utf8EncodeChar c)]

/-! ## Cuts -/

section Cuts

variable {cuts : List Nat} {stop offset : Nat}

theorem shownFrom_cons {c : Char}
    (apart : ∀ place ∈ cuts, ¬(offset < place ∧ place < offset + c.utf8Size))
    (rest : List Char) :
    shownFrom cuts offset (c :: rest) =
      (if endsPiece cuts offset (c :: rest) then [] else [c]) ++
        shownFrom cuts (offset + c.utf8Size) rest := by
  have absent : cuts.find? (fun place =>
      decide (offset < place) && decide (place < offset + c.utf8Size)) = none := by
    rw [List.find?_eq_none]
    intro place member
    rw [Bool.and_eq_true, decide_eq_true_iff, decide_eq_true_iff]
    exact apart place member
  rw [shownFrom]
  rw [absent]

theorem shownFrom_cons_cut {c : Char} (after : offset < stop)
    (before : stop < offset + c.utf8Size) (rest : List Char) :
    shownFrom (stop :: cuts) offset (c :: rest) =
      List.replicate (1 + (offset + c.utf8Size - stop)) replacement ++
        shownFrom (stop :: cuts) (offset + c.utf8Size) rest := by
  rw [shownFrom]
  rw [List.find?_cons_of_pos]
  simp [after, before]

/-- A cut that has been passed makes no difference. -/
theorem endsPiece_of_le (passed : stop ≤ offset) (text : List Char) :
    endsPiece (stop :: cuts) offset text = endsPiece cuts offset text := by
  induction text generalizing offset with
  | nil => rfl
  | cons c rest ih =>
      have other : (offset + 1 == stop) = false := by
        rw [beq_eq_false_iff_ne]
        omega
      rw [endsPiece, endsPiece, List.contains_cons, other, Bool.false_or, ih (by omega)]

theorem shownFrom_of_le (passed : stop ≤ offset) (text : List Char) :
    shownFrom (stop :: cuts) offset text = shownFrom cuts offset text := by
  induction text generalizing offset with
  | nil => rfl
  | cons c rest ih =>
      rw [shownFrom, shownFrom, ih (by omega), endsPiece_of_le passed, List.find?_cons_of_neg]
      simp [Nat.not_lt.mpr passed]

/-- The first bytes of a text have its first character, or part of it. -/
theorem front_cases {piece rest : List UInt8} {c : Char} {others : List Char}
    (whole : piece ++ rest = (c :: others).flatMap String.utf8EncodeChar) :
    (∃ more, piece = String.utf8EncodeChar c ++ more ∧
      more ++ rest = others.flatMap String.utf8EncodeChar) ∨
    (piece.length < c.utf8Size ∧
      piece = (String.utf8EncodeChar c).take piece.length ∧
      rest = (String.utf8EncodeChar c).drop piece.length ++
        others.flatMap String.utf8EncodeChar) := by
  rw [List.flatMap_cons] at whole
  rcases List.append_eq_append_iff.mp whole with
    ⟨part, encoded, behind⟩ | ⟨more, front, behind⟩
  · cases part with
    | nil =>
        left
        rw [List.append_nil] at encoded
        exact ⟨[], by rw [encoded, List.append_nil], behind⟩
    | cons byte part =>
        right
        rw [← String.length_utf8EncodeChar, encoded, List.take_left, List.drop_left,
          List.length_append, List.length_cons]
        exact ⟨by omega, rfl, behind⟩
  · exact .inl ⟨more, front, behind.symm⟩

theorem tidy_of_append {first second : List UInt8}
    (tidy : newline ∉ (first ++ second).dropLast) : newline ∉ second.dropLast := by
  by_cases last : second = []
  · rw [last]
    exact List.not_mem_nil
  · rw [List.dropLast_append_of_ne_nil last, List.mem_append, not_or] at tidy
    exact tidy.2

theorem endsPiece_cons_iff (c : Char) (rest : List Char) :
    endsPiece cuts offset (c :: rest) = true ↔
      c = '\n' ∨ c = '\r' ∧
        (offset + 1 ∈ cuts ∨ endsPiece cuts (offset + 1) rest = true) := by
  simp [endsPiece]

/-- Where a piece ends with a character, that goes if it can end a line. -/
theorem endsPiece_cons_last {c : Char} (reach : offset + c.utf8Size = stop)
    (rest : List Char) :
    endsPiece (stop :: cuts) offset (c :: rest) = true ↔ c = '\n' ∨ c = '\r' := by
  rw [endsPiece_cons_iff]
  refine or_congr_right ⟨And.left, ?_⟩
  rintro rfl
  exact ⟨rfl, .inl (reach ▸ .head _)⟩

/-- Where it does not, the character has to be a carriage return, and the rest to end. -/
theorem endsPiece_cons_more {c : Char} (reach : offset + c.utf8Size < stop)
    (later : ∀ place ∈ cuts, stop ≤ place) (other : c ≠ '\n') (rest : List Char) :
    endsPiece (stop :: cuts) offset (c :: rest) = true ↔
      c = '\r' ∧ endsPiece (stop :: cuts) (offset + 1) rest = true := by
  rw [endsPiece_cons_iff, or_iff_right other]
  refine and_congr_right fun _ => or_iff_right ?_
  intro ended
  have size := c.utf8Size_pos
  rcases List.mem_cons.mp ended with here | beyond
  · omega
  · have least := later _ beyond
    omega

/-- Nothing is shown of the first bytes of a text exactly if a line or the piece ends there. -/
theorem endsPiece_iff {piece rest : List UInt8} {text : List Char}
    (whole : piece ++ rest = text.flatMap String.utf8EncodeChar)
    (reach : offset + piece.length = stop) (later : ∀ place ∈ cuts, stop ≤ place)
    (tidy : newline ∉ piece.dropLast) (nonempty : piece ≠ []) :
    endsPiece (stop :: cuts) offset text = true ↔ stripEnd piece = [] := by
  induction text generalizing piece offset with
  | nil => exact absurd (List.append_eq_nil_iff.mp whole).1 nonempty
  | cons c others ih =>
      rcases front_cases whole with ⟨more, rfl, behind⟩ | ⟨fewer, part, -⟩
      · rw [stripEnd_character_append_eq_nil_iff]
        rw [List.length_append, String.length_utf8EncodeChar] at reach
        by_cases last : more = []
        · subst last
          rw [endsPiece_cons_last reach others]
          exact (and_iff_left rfl).symm
        · have some' := List.length_pos_iff.mpr last
          have other : c ≠ '\n' := by
            -- A newline is the last byte of its piece.
            rintro rfl
            apply tidy
            rw [List.dropLast_append_of_ne_nil last]
            exact List.mem_append_left _ (.head _)
          rw [endsPiece_cons_more (by omega) later other, or_iff_right other]
          refine and_congr_right ?_
          rintro rfl
          have size : ('\r').utf8Size = 1 := rfl
          exact ih behind (by omega) (tidy_of_append tidy) last
      · have some' := List.length_pos_iff.mpr nonempty
        have long : 1 < c.utf8Size := by omega
        rw [part, stripEnd_take_utf8EncodeChar long, ← part, endsPiece_cons_iff]
        refine iff_of_false ?_ nonempty
        rintro (rfl | ⟨rfl, -⟩)
        · exact absurd long (by decide)
        · exact absurd long (by decide)

/-- A character of which the piece has only the first bytes. -/
theorem shownFrom_cons_part {piece : List UInt8} {c : Char} (some' : 0 < piece.length)
    (fewer : piece.length < c.utf8Size)
    (part : piece = (String.utf8EncodeChar c).take piece.length)
    (reach : offset + piece.length = stop) (others : List Char) :
    let behind := ((String.utf8EncodeChar c).drop piece.length).length
    shownFrom (stop :: cuts) offset (c :: others) =
      letters (stripEnd piece) ++ (List.replicate behind replacement ++
        shownFrom (stop :: cuts) (stop + behind) others) := by
  intro behind
  have read : letters (stripEnd piece) = [replacement] := by
    rw [part, stripEnd_take_utf8EncodeChar (by omega),
      Text.Utf8.letters_take_utf8EncodeChar some' fewer]
  have size : behind = c.utf8Size - piece.length := by
    rw [← String.length_utf8EncodeChar, ← List.length_drop]
  have next : offset + c.utf8Size = stop + behind := by omega
  rw [shownFrom_cons_cut (by omega) (by omega), read, next, Nat.add_sub_cancel_left,
    List.replicate_add, List.append_assoc]
  rfl

theorem shown_front {piece rest : List UInt8} {text : List Char}
    (whole : piece ++ rest = text.flatMap String.utf8EncodeChar)
    (reach : offset + piece.length = stop) (later : ∀ place ∈ cuts, stop ≤ place)
    (tidy : newline ∉ piece.dropLast) :
    ∃ tail others, rest = tail ++ others.flatMap String.utf8EncodeChar ∧
      (∀ b ∈ tail, Continues b) ∧
      shownFrom (stop :: cuts) offset text =
        letters (stripEnd piece) ++ (List.replicate tail.length replacement ++
          shownFrom (stop :: cuts) (stop + tail.length) others) := by
  induction text generalizing piece offset with
  | nil =>
      obtain ⟨rfl, rfl⟩ := List.append_eq_nil_iff.mp whole
      exact ⟨[], [], rfl, List.forall_mem_nil _, rfl⟩
  | cons c others ih =>
      by_cases empty : piece = []
      · subst empty
        refine ⟨[], c :: others, whole, List.forall_mem_nil _, ?_⟩
        rw [← reach]
        rfl
      rcases front_cases whole with ⟨more, rfl, behind⟩ | ⟨fewer, part, behind⟩
      · have further : offset + c.utf8Size + more.length = stop := by
          rw [← reach, List.length_append, String.length_utf8EncodeChar, Nat.add_assoc]
        obtain ⟨tail, last, split, continues, shown⟩ := ih behind further (tidy_of_append tidy)
        refine ⟨tail, last, split, continues, ?_⟩
        have apart : ∀ place ∈ stop :: cuts,
            ¬(offset < place ∧ place < offset + c.utf8Size) := by
          intro place member
          have beyond : stop ≤ place := by
            rcases List.mem_cons.mp member with rfl | among
            · exact Nat.le_refl _
            · exact later place among
          omega
        have ends := endsPiece_iff whole reach later tidy empty
        rw [shownFrom_cons apart, shown, letters_stripEnd_character, List.append_assoc]
        simp only [ends]
      · have some' := List.length_pos_iff.mpr empty
        exact ⟨(String.utf8EncodeChar c).drop piece.length, others, behind,
          Text.Utf8.continues_of_mem_drop some',
          shownFrom_cons_part some' fewer part reach others⟩

end Cuts

/-! ## All pieces -/

theorem bounds_of_mem_endsFrom {pieces : List (List UInt8)} {offset place : Nat}
    (member : place ∈ endsFrom offset pieces) :
    offset ≤ place ∧ place ≤ offset + pieces.flatten.length := by
  induction pieces generalizing offset with
  | nil => cases member
  | cons piece rest ih =>
      rw [List.flatten_cons, List.length_append]
      rcases List.mem_cons.mp member with rfl | later
      · omega
      · have further := ih later
        omega

/-- What is left of a character that was cut is shown byte by byte, whatever follows it. -/
theorem letters_stripEnd_append {tail : List UInt8} (continues : ∀ b ∈ tail, Continues b)
    (more : List UInt8) :
    letters (stripEnd (tail ++ more)) =
      List.replicate tail.length replacement ++ letters (stripEnd more) := by
  have read := Text.Utf8.letters_append (Text.Utf8.run_of_continues continues)
  rw [stripEnd_append]
  split
  next nothing =>
    rw [stripEnd_of_high fun b member => (continues b member).1, nothing, ← read,
      List.append_nil]
  next => rw [read]

/--
What is shown of pieces is known from the text and the places at which they end.  In front
of the text stands what is left of a character that was cut.
-/
theorem letters_pieces {pieces : List (List UInt8)} {tail : List UInt8} {text : List Char}
    (offset : Nat) (continues : ∀ b ∈ tail, Continues b)
    (whole : pieces.flatten = tail ++ text.flatMap String.utf8EncodeChar)
    (tidy : ∀ piece ∈ pieces, newline ∉ piece.dropLast) :
    pieces.flatMap (fun piece => letters (stripEnd piece)) =
      List.replicate tail.length replacement ++
        shownFrom (endsFrom offset pieces) (offset + tail.length) text := by
  induction pieces generalizing offset tail text with
  | nil =>
      obtain ⟨rfl, nothing⟩ := List.append_eq_nil_iff.mp whole.symm
      cases text with
      | nil => rfl
      | cons c others =>
          rw [List.flatMap_cons, List.append_eq_nil_iff] at nothing
          exact absurd nothing.1 String.utf8EncodeChar_ne_nil
  | cons piece rest ih =>
      obtain ⟨first, later⟩ := List.forall_mem_cons.mp tidy
      rw [List.flatMap_cons, endsFrom]
      rcases List.append_eq_append_iff.mp whole with
        ⟨more, rfl, behind⟩ | ⟨front, rfl, behind⟩
      · -- The whole piece belongs to the character that was cut.
        rw [List.forall_mem_append] at continues
        have read := letters_stripEnd_append continues.1 []
        rw [List.append_nil] at read
        rw [read, ih (offset + piece.length) continues.2 behind later,
          shownFrom_of_le (by rw [List.length_append]; omega), List.length_append,
          List.replicate_add, List.append_assoc, List.append_assoc, ← Nat.add_assoc]
        rfl
      · have reach : offset + tail.length + front.length = offset + (tail ++ front).length := by
          rw [List.length_append, Nat.add_assoc]
        obtain ⟨behindCut, others, split, carried, shown⟩ := shown_front behind.symm reach
          (fun place member => (bounds_of_mem_endsFrom member).1) (tidy_of_append first)
        rw [letters_stripEnd_append continues, shown, ih _ carried split later,
          shownFrom_of_le (Nat.le_add_right _ _), List.append_assoc]

end PlanGuard
