import PlanGuard.Proofs.Capture.Shown

/-!
# Cuts that show

The pieces of a pipe are cut where a line is full, and that may be anywhere in the text.
Whoever watches is shown the text as it is, without its line ends, exactly if each cut is
right after a character, and after a carriage return only where the line ends.  A cut inside
a character adds replacement characters, and a cut after a carriage return in the middle of
a line takes it away.  Lines that are no longer than one event are not cut, so nothing of
this happens to them.
-/

namespace PlanGuard

open Text.Utf8 (replacement letters encode)

/-! ## Line ends -/

/-- A line ends here, with a newline or with the text, carriage returns aside. -/
def endsLine : List Char → Bool
  | [] => true
  | c :: rest => c == '\n' || c == '\r' && endsLine rest

/-- A text without its newlines, the carriage returns in front of each, and those at its end. -/
def withoutEnds : List Char → List Char
  | [] => []
  | c :: rest => if endsLine (c :: rest) then withoutEnds rest else c :: withoutEnds rest

theorem endsLine_cons_iff (c : Char) (rest : List Char) :
    endsLine (c :: rest) = true ↔ c = '\n' ∨ c = '\r' ∧ endsLine rest = true := by
  simp [endsLine]

/-- What can end a line is no replacement character. -/
theorem ne_replacement_of_ends {c : Char} {goes : Prop} (ends : c = '\n' ∨ c = '\r' ∧ goes) :
    c ≠ replacement := by
  rcases ends with rfl | ⟨rfl, -⟩
  · decide
  · decide

/-- Replacement characters of the text itself are kept. -/
theorem count_withoutEnds (text : List Char) :
    (withoutEnds text).count replacement = text.count replacement := by
  induction text with
  | nil => rfl
  | cons c rest ih =>
      rw [withoutEnds]
      split
      next ends =>
        rw [endsLine_cons_iff] at ends
        rw [ih, List.count_cons_of_ne (ne_replacement_of_ends ends)]
      next => rw [List.count_cons, List.count_cons, ih]

/-! ## Clean cuts -/

/-- A place right after a character, which is fine there in front of what follows. -/
def CutAfter (fine : Char → List Char → Prop) (offset : Nat) (text : List Char)
    (place : Nat) : Prop :=
  ∃ front c back, text = front ++ c :: back ∧
    offset + String.utf8Len front + c.utf8Size = place ∧ fine c back

def CutsAfter (fine : Char → List Char → Prop) (cuts : List Nat) (offset : Nat)
    (text : List Char) : Prop :=
  ∀ place ∈ cuts, offset < place → place ≤ offset + String.utf8Len text →
    CutAfter fine offset text place

/-- No carriage return goes with a cut but those that go with the end of their line. -/
def KeepsReturns (c : Char) (back : List Char) : Prop :=
  c = '\r' → endsLine back = true

section Clean

variable {fine : Char → List Char → Prop} {cuts : List Nat} {offset place : Nat} {c : Char}
  {rest : List Char}

theorem cutsAfter_nil : CutsAfter fine cuts offset [] :=
  fun _ _ behind within => absurd behind (Nat.not_lt.mpr within)

theorem cutAfter_cons_iff :
    CutAfter fine offset (c :: rest) place ↔
      (place = offset + c.utf8Size ∧ fine c rest) ∨
        CutAfter fine (offset + c.utf8Size) rest place := by
  constructor
  · rintro ⟨front, last, back, split, rfl, okay⟩
    cases front with
    | nil =>
        obtain ⟨rfl, rfl⟩ := List.cons.inj split
        exact .inl ⟨rfl, okay⟩
    | cons first front =>
        obtain ⟨rfl, rfl⟩ := List.cons.inj split
        refine .inr ⟨front, last, back, rfl, ?_, okay⟩
        rw [String.utf8Len_cons]
        omega
  · rintro (⟨rfl, okay⟩ | ⟨front, last, back, rfl, rfl, okay⟩)
    · exact ⟨[], c, rest, rfl, rfl, okay⟩
    · refine ⟨c :: front, last, back, rfl, ?_, okay⟩
      rw [String.utf8Len_cons]
      omega

theorem CutAfter.behind {text front : List Char}
    (cut : CutAfter fine (offset + String.utf8Len front) text place) :
    CutAfter fine offset (front ++ text) place := by
  induction front generalizing offset with
  | nil => exact cut
  | cons first front ih =>
      refine cutAfter_cons_iff.mpr (.inr (ih ?_))
      rwa [String.utf8Len_cons, Nat.add_comm (String.utf8Len front), ← Nat.add_assoc] at cut

theorem CutAfter.lt {text : List Char} (cut : CutAfter fine offset text place) :
    offset < place := by
  obtain ⟨front, last, back, -, rfl, -⟩ := cut
  have size := last.utf8Size_pos
  omega

theorem cutsAfter_cons_iff :
    CutsAfter fine cuts offset (c :: rest) ↔
      (∀ place ∈ cuts, ¬(offset < place ∧ place < offset + c.utf8Size)) ∧
      (offset + c.utf8Size ∈ cuts → fine c rest) ∧
      CutsAfter fine cuts (offset + c.utf8Size) rest := by
  have size := c.utf8Size_pos
  constructor
  · intro after
    refine ⟨?_, ?_, ?_⟩
    · rintro place member ⟨behind, inside⟩
      rcases cutAfter_cons_iff.mp (after place member behind
        (by rw [String.utf8Len_cons]; omega)) with ⟨here, -⟩ | later
      · omega
      · have beyond := later.lt
        omega
    · intro member
      rcases cutAfter_cons_iff.mp (after _ member (by omega)
        (by rw [String.utf8Len_cons]; omega)) with ⟨-, okay⟩ | later
      · exact okay
      · exact absurd later.lt (Nat.lt_irrefl _)
    · intro place member behind within
      rcases cutAfter_cons_iff.mp (after place member (by omega)
        (by rw [String.utf8Len_cons]; omega)) with ⟨here, -⟩ | later
      · omega
      · exact later
  · rintro ⟨apart, here, later⟩ place member behind within
    rw [String.utf8Len_cons] at within
    rw [cutAfter_cons_iff]
    by_cases last : place = offset + c.utf8Size
    · subst last
      exact .inl ⟨rfl, here member⟩
    · have beyond : ¬place < offset + c.utf8Size := fun inside =>
        apart place member ⟨behind, inside⟩
      exact .inr (later place member (by omega) (by omega))

end Clean

/-- A character that some cut is inside is shown as two replacement characters or more. -/
theorem exists_shownFrom_cons_of_inside {cuts : List Nat} {offset place : Nat} {c : Char}
    (member : place ∈ cuts) (behind : offset < place) (inside : place < offset + c.utf8Size)
    (rest : List Char) :
    ∃ more, shownFrom cuts offset (c :: rest) =
      List.replicate (2 + more) replacement ++
        shownFrom cuts (offset + c.utf8Size) rest := by
  rw [shownFrom]
  split
  next first found =>
    have within := List.find?_some found
    rw [Bool.and_eq_true, decide_eq_true_iff, decide_eq_true_iff] at within
    obtain ⟨more, size⟩ := Nat.exists_eq_add_of_lt within.2
    exact ⟨more, by rw [size]; congr 2; omega⟩
  next absent =>
    have other := List.find?_eq_none.mp absent place member
    simp [behind, inside] at other

/-- Each cut inside a character shows as a replacement character more than there were. -/
theorem count_shownFrom (cuts : List Nat) (offset : Nat) (text : List Char) :
    text.count replacement ≤ (shownFrom cuts offset text).count replacement ∧
      ((shownFrom cuts offset text).count replacement = text.count replacement ↔
        CutsAfter (fun _ _ => True) cuts offset text) := by
  induction text generalizing offset with
  | nil =>
      exact ⟨Nat.le_refl _, iff_of_true rfl cutsAfter_nil⟩
  | cons c rest ih =>
      obtain ⟨least, exact'⟩ := ih (offset + c.utf8Size)
      have one : [c].count replacement ≤ 1 := List.count_le_length
      rw [← List.singleton_append, List.count_append, List.singleton_append,
        cutsAfter_cons_iff]
      by_cases apart : ∀ place ∈ cuts, ¬(offset < place ∧ place < offset + c.utf8Size)
      · have head : (if endsPiece cuts offset (c :: rest) then [] else [c]).count replacement =
            [c].count replacement := by
          split
          next ends =>
            rw [endsPiece_cons_iff] at ends
            rw [List.count_cons_of_ne (ne_replacement_of_ends ends)]
          next => rfl
        rw [shownFrom_cons apart, List.count_append, head, Nat.add_left_cancel_iff, exact']
        refine ⟨Nat.add_le_add_left least _, ?_⟩
        exact ⟨fun later => ⟨apart, fun _ => trivial, later⟩, fun after => after.2.2⟩
      · -- At least two are shown for a character that is at most one.
        have strict : [c].count replacement + rest.count replacement <
            (shownFrom cuts offset (c :: rest)).count replacement := by
          push Not at apart
          obtain ⟨place, member, behind, inside⟩ := apart
          obtain ⟨more, shown⟩ := exists_shownFrom_cons_of_inside member behind inside rest
          rw [shown, List.count_append, List.count_replicate_self]
          omega
        exact ⟨Nat.le_of_lt strict,
          iff_of_false (Nat.ne_of_gt strict) fun after => apart after.1⟩

/-- Where a line ends, a piece of it may end as well. -/
theorem endsPiece_of_endsLine {cuts : List Nat} {offset : Nat} {text : List Char}
    (ends : endsLine text = true) : endsPiece cuts offset text = true := by
  induction text generalizing offset with
  | nil => rfl
  | cons c rest ih =>
      rw [endsLine_cons_iff] at ends
      rw [endsPiece_cons_iff]
      rcases ends with newlined | ⟨returned, later⟩
      · exact .inl newlined
      · exact .inr ⟨returned, .inr (ih later)⟩

theorem endsLine_of_endsPiece {cuts : List Nat} {offset : Nat} {text : List Char}
    (after : CutsAfter KeepsReturns cuts offset text)
    (ends : endsPiece cuts offset text = true) : endsLine text = true := by
  induction text generalizing offset with
  | nil => rfl
  | cons c rest ih =>
      obtain ⟨-, here, later⟩ := cutsAfter_cons_iff.mp after
      rw [endsPiece_cons_iff] at ends
      rw [endsLine_cons_iff]
      rcases ends with newlined | ⟨rfl, cut | goes⟩
      · exact .inl newlined
      · exact .inr ⟨rfl, here cut rfl⟩
      · exact .inr ⟨rfl, ih later goes⟩

theorem shownFrom_of_keepsReturns {cuts : List Nat} {offset : Nat} {text : List Char}
    (after : CutsAfter KeepsReturns cuts offset text) :
    shownFrom cuts offset text = withoutEnds text := by
  induction text generalizing offset with
  | nil => rfl
  | cons c rest ih =>
      obtain ⟨apart, -, later⟩ := cutsAfter_cons_iff.mp after
      rw [shownFrom_cons apart, ih later, withoutEnds]
      by_cases ends : endsLine (c :: rest) = true
      · rw [if_pos (endsPiece_of_endsLine ends), if_pos ends, List.nil_append]
      · rw [if_neg fun cut => ends (endsLine_of_endsPiece after cut), if_neg ends,
          List.singleton_append]

/-- If no character is cut, as much is shown as should be only if no carriage return is lost. -/
theorem length_shownFrom {cuts : List Nat} {offset : Nat} {text : List Char}
    (after : CutsAfter (fun _ _ => True) cuts offset text) :
    (shownFrom cuts offset text).length ≤ (withoutEnds text).length ∧
      ((shownFrom cuts offset text).length = (withoutEnds text).length →
        CutsAfter KeepsReturns cuts offset text) := by
  induction text generalizing offset with
  | nil =>
      exact ⟨Nat.le_refl _, fun _ => cutsAfter_nil⟩
  | cons c rest ih =>
      obtain ⟨apart, -, later⟩ := cutsAfter_cons_iff.mp after
      obtain ⟨most, kept⟩ := ih later
      rw [shownFrom_cons apart, withoutEnds, cutsAfter_cons_iff]
      by_cases ends : endsLine (c :: rest) = true
      · rw [if_pos (endsPiece_of_endsLine ends), if_pos ends, List.nil_append]
        refine ⟨most, fun same => ⟨apart, fun _ returned => ?_, kept same⟩⟩
        rcases (endsLine_cons_iff c rest).mp ends with newlined | ⟨-, goes⟩
        · rw [newlined] at returned
          exact absurd returned (by decide)
        · exact goes
      · rw [if_neg ends, List.length_append, List.length_cons]
        by_cases cut : endsPiece cuts offset (c :: rest) = true
        · -- A carriage return is lost, and nothing makes up for it.
          rw [if_pos cut, List.length_nil, Nat.zero_add]
          exact ⟨Nat.le_succ_of_le most, fun same => by omega⟩
        · rw [if_neg cut, List.length_singleton]
          refine ⟨by omega, fun same => ⟨apart, fun last returned => ?_, kept (by omega)⟩⟩
          subst returned
          exact absurd ((endsPiece_cons_iff _ rest).mpr (.inr ⟨rfl, .inl last⟩)) cut

/--
The text is shown as it is, without its line ends, exactly if each cut is right after a
character, and right after a carriage return only where the line ends.
-/
theorem shownFrom_eq_withoutEnds_iff (cuts : List Nat) (offset : Nat) (text : List Char) :
    shownFrom cuts offset text = withoutEnds text ↔
      CutsAfter KeepsReturns cuts offset text := by
  refine ⟨fun same => ?_, shownFrom_of_keepsReturns⟩
  have counted : (shownFrom cuts offset text).count replacement = text.count replacement := by
    rw [same, count_withoutEnds]
  have after := (count_shownFrom cuts offset text).2.mp counted
  exact (length_shownFrom after).2 (congrArg List.length same)

/-! ## Lines of any length -/

theorem eq_newline_of_mem {c : Char} (member : newline ∈ String.utf8EncodeChar c) :
    c = '\n' := by
  have short : ¬1 < c.utf8Size := by
    intro long
    exact absurd (Text.Utf8.high_of_mem_utf8EncodeChar long _ member) (by decide)
  have size := c.utf8Size_pos
  obtain ⟨byte, encoded⟩ := List.length_eq_one_iff.mp
    (show (String.utf8EncodeChar c).length = 1 by rw [String.length_utf8EncodeChar]; omega)
  have read := Text.Utf8.run_utf8EncodeChar c
  rw [encoded, List.mem_singleton] at member
  rw [encoded, ← member] at read
  exact (List.cons.inj (Prod.mk.inj read).2).1.symm

theorem exists_of_getLast_newline {piece rest : List UInt8} {text : List Char}
    (whole : piece ++ rest = text.flatMap String.utf8EncodeChar)
    (ended : piece.getLast? = some newline) :
    ∃ front back, text = front ++ '\n' :: back ∧
      piece.length = String.utf8Len front + ('\n').utf8Size ∧
      rest = back.flatMap String.utf8EncodeChar := by
  induction text generalizing piece with
  | nil =>
      rw [(List.append_eq_nil_iff.mp whole).1] at ended
      cases ended
  | cons c others ih =>
      rcases front_cases whole with ⟨more, rfl, behind⟩ | ⟨fewer, part, -⟩
      · by_cases last : more = []
        · subst last
          rw [List.append_nil] at ended
          obtain rfl := eq_newline_of_mem (List.mem_of_getLast? ended)
          exact ⟨[], others, rfl, rfl, behind⟩
        · rw [List.getLast?_append_of_ne_nil _ last] at ended
          obtain ⟨front, back, split, size, left⟩ := ih behind ended
          refine ⟨c :: front, back, by rw [split, List.cons_append], ?_, left⟩
          rw [List.length_append, size, String.length_utf8EncodeChar, String.utf8Len_cons]
          omega
      · have member := List.mem_of_getLast? ended
        rw [part] at member
        obtain rfl := eq_newline_of_mem (List.mem_of_mem_take member)
        have some' := List.length_pos_of_mem member
        rw [← part] at some'
        have one : ('\n').utf8Size = 1 := rfl
        omega

theorem length_flatMap_utf8EncodeChar (text : List Char) :
    (text.flatMap String.utf8EncodeChar).length = String.utf8Len text := by
  rw [← String.utf8ByteSize_ofList, ← Text.Utf8.length_encode, Text.Utf8.encode_eq,
    String.toList_ofList]

/-- Where pieces end as lines do, nothing is lost. -/
theorem cutsAfter_of_ended {pieces : List (List UInt8)} {text : List Char} (offset : Nat)
    (whole : pieces.flatten = text.flatMap String.utf8EncodeChar)
    (ended : ∀ piece ∈ pieces.dropLast, piece.getLast? = some newline) :
    CutsAfter KeepsReturns (endsFrom offset pieces) offset text := by
  induction pieces generalizing offset text with
  | nil => exact List.forall_mem_nil _
  | cons piece rest ih =>
      rw [List.flatten_cons] at whole
      by_cases last : rest = []
      · -- The last piece may lack a newline, but nothing comes behind it.
        subst last
        rw [List.flatten_nil, List.append_nil] at whole
        have size := length_flatMap_utf8EncodeChar text
        rw [← whole] at size
        rcases List.eq_nil_or_concat text with rfl | ⟨front, c, rfl⟩
        · exact cutsAfter_nil
        · rw [List.concat_eq_append, String.utf8Len_append, String.utf8Len_cons,
            String.utf8Len_nil, Nat.zero_add] at size
          intro place member _ _
          obtain rfl := List.mem_singleton.mp member
          exact ⟨front, c, [], List.concat_eq_append, by omega, fun _ => rfl⟩
      · rw [List.dropLast_cons_of_ne_nil last, List.forall_mem_cons] at ended
        obtain ⟨front, back, rfl, size, left⟩ := exists_of_getLast_newline whole ended.1
        have later := ih (offset + piece.length) left ended.2
        intro place member behind within
        by_cases here : place = offset + piece.length
        · subst here
          exact ⟨front, '\n', back, rfl, by omega, fun other => absurd other (by decide)⟩
        · have among := (List.mem_cons.mp member).resolve_left here
          have beyond := (bounds_of_mem_endsFrom among).1
          rw [String.utf8Len_append, String.utf8Len_cons] at within
          have cut := later place among (by omega) (by omega)
          rw [List.append_cons]
          apply CutAfter.behind
          rwa [String.utf8Len_append, String.utf8Len_cons, String.utf8Len_nil, Nat.zero_add,
            ← size]

/-! ## What is shown of a pipe -/

section Pipe

variable {reads : List (List UInt8)} {text : String}

theorem toList_join_textOf (pieces : List (List UInt8)) :
    (String.join (pieces.map textOf)).toList =
      pieces.flatMap fun piece => letters (stripEnd piece) := by
  rw [String.toList_join, List.flatMap_map]
  congr 1
  funext piece
  rw [textOf, Text.Utf8.decode_eq, String.toList_ofList]

theorem toList_shown (whole : reads.flatten = encode text) :
    (String.join ((readLines reads).map textOf)).toList =
      shownFrom (endsFrom 0 (readLines reads)) 0 text.toList := by
  have splits := splits_readLines reads
  have encoded : (readLines reads).flatten =
      [] ++ text.toList.flatMap String.utf8EncodeChar := by
    rw [splits.whole, whole, Text.Utf8.encode_eq, List.nil_append]
  have shown := letters_pieces 0 (List.forall_mem_nil _) encoded
    fun piece member => (splits.each piece member).tidy
  rw [toList_join_textOf, shown]
  rfl

theorem cutsAfter_of_short (whole : reads.flatten = encode text)
    (short : ∀ line ∈ linesOf (encode text), line.length ≤ maxLineBytes) :
    CutsAfter KeepsReturns (endsFrom 0 (readLines reads)) 0 text.toList := by
  have lines : readLines reads = linesOf (encode text) :=
    (whole ▸ splits_readLines reads).unique (splits_linesOf short)
  apply cutsAfter_of_ended 0
  · rw [(splits_readLines reads).whole, whole, Text.Utf8.encode_eq]
  · rw [lines]
    exact fun line inside => getLast?_of_mem_dropLast_linesOf inside

/--
What whoever watches is shown of a pipe that carries a text, the texts of all events put
together.  A piece is read on its own, so of a character that a piece ends inside there are
replacement characters, and a carriage return that a piece ends with is lost in the middle of
a line.  Nothing else is lost and nothing else is added: the text is shown as it is,
without its line ends, exactly if each piece ends right after a character, and after a
carriage return only where its line ends, and replacement characters are added exactly if
some piece ends inside a character.  Neither happens where no line is longer than one event.
-/
theorem pipe_text_shown (text : String) (reads : List (List UInt8))
    (whole : reads.flatten = encode text) :
    let pieces := readLines reads
    let ends := endsFrom 0 pieces
    let shown := String.join (pieces.map textOf)
    let unended := String.ofList (withoutEnds text.toList)
    shown = String.ofList (shownFrom ends 0 text.toList) ∧
    (shown = unended ↔ CutsAfter KeepsReturns ends 0 text.toList) ∧
    text.toList.count replacement ≤ shown.toList.count replacement ∧
    (shown.toList.count replacement = text.toList.count replacement ↔
      CutsAfter (fun _ _ => True) ends 0 text.toList) ∧
    ((∀ line ∈ linesOf (encode text), line.length ≤ maxLineBytes) →
      shown = unended ∧
        shown.toList.count replacement = text.toList.count replacement) ∧
    (∀ (τ : Type) (limit : Nat) (pipes : Stream → Option (List (List UInt8)))
      (stream : Stream), pipes stream = some pieces →
      ∀ (made : List (Move τ)) (c : Collection τ),
        (Collection.start true limit pipes).run made = some c → c.LeftInTime →
        String.join (textsOn stream c.capture.lines) = shown) ∧
    ∀ (request : Request) (trigger : Trigger) (machine : Machine) (life : Life)
      (failure : Option Failure) (stream : Stream),
      Life.readsOf life.writes stream = reads →
      String.join (textsOn stream (request.answer true trigger machine life failure).lines) =
        shown := by
  intro pieces ends shown unended
  have read : shown.toList = shownFrom ends 0 text.toList := toList_shown whole
  obtain ⟨least, exact'⟩ := count_shownFrom ends 0 text.toList
  have same : shown = unended ↔ CutsAfter KeepsReturns ends 0 text.toList := by
    rw [← shownFrom_eq_withoutEnds_iff, ← read, ← String.toList_inj, String.toList_ofList]
  refine ⟨?_, same, read ▸ least, read ▸ exact', ?_, ?_, ?_⟩
  · rw [← read, String.ofList_toList]
  · intro short
    have kept := same.mpr (cutsAfter_of_short whole short)
    refine ⟨kept, ?_⟩
    rw [kept, String.toList_ofList, count_withoutEnds]
  · intro τ limit pipes stream piped made c ran timely
    rw [Collection.textsOn_of_run ran timely stream, piped]
    rfl
  · rintro request trigger machine life failure stream rfl
    rw [request.textsOn_answer, (splits_chunks _).unique (splits_readLines _)]

/-- Two lines, the second of which comes in reads that part a character. -/
theorem parted_text_shown :
    let reads : List (List UInt8) := [[0x68], [0x0D, 0x0A, 0x68, 0xC3], [0xA9]]
    reads.flatten = encode "h\r\nhé" ∧
      String.join ((readLines reads).map textOf) = "hhé" := by
  intro reads
  have whole : reads.flatten = encode "h\r\nhé" := by decide +kernel
  have shown := pipe_text_shown "h\r\nhé" reads whole
  refine ⟨whole, (shown.2.2.2.2.1 ?_).1.trans ?_⟩
  · decide +kernel
  · decide +kernel

end Pipe

/-! ## A line longer than an event -/

def overlong : String :=
  String.ofList (List.replicate (maxLineBytes - 1) 'a' ++ ['é'])

theorem encode_overlong :
    encode overlong = List.replicate (maxLineBytes - 1) 0x61 ++ [0xC3, 0xA9] := by
  have each : String.utf8EncodeChar 'a' = [0x61] := by decide
  have last : String.utf8EncodeChar 'é' = [0xC3, 0xA9] := by decide
  rw [Text.Utf8.encode_eq, overlong, String.toList_ofList, List.flatMap_append,
    List.flatMap_singleton, last, List.flatMap_replicate, each, List.flatten_replicate_singleton]

theorem splits_overlong :
    Splits maxLineBytes (encode overlong)
      [List.replicate (maxLineBytes - 1) 0x61 ++ [0xC3], [0xA9]] := by
  have size : (List.replicate (maxLineBytes - 1) (0x61 : UInt8) ++ [0xC3]).length =
      maxLineBytes := by
    rw [List.length_append, List.length_replicate]
    rfl
  have first : IsPiece maxLineBytes (List.replicate (maxLineBytes - 1) 0x61 ++ [0xC3]) := by
    refine ⟨List.concat_ne_nil _ _, Nat.le_of_eq size, ?_⟩
    rw [List.dropLast_concat, List.mem_replicate]
    exact fun both => absurd both.2 (by decide)
  have second : IsPiece maxLineBytes [0xA9] := ⟨List.cons_ne_nil _ _, by decide, by decide⟩
  have last : Splits maxLineBytes [0xA9] [[0xA9]] :=
    Splits.cons second (absurd rfl) (.nil maxLineBytes)
  rw [encode_overlong, List.append_cons]
  exact .cons first (fun _ => .inr size) last

/--
The two bytes of its last character are shown as two replacement characters, of which the
line has none.
-/
theorem overlong_garbled :
    replacement ∉ overlong.toList ∧
      replacement ∈ (String.join ((readLines [encode overlong]).map textOf)).toList ∧
      String.join ((readLines [encode overlong]).map textOf) ≠
        String.ofList (withoutEnds overlong.toList) := by
  have absent : replacement ∉ overlong.toList := by
    rw [overlong, String.toList_ofList, List.mem_append, List.mem_replicate]
    rintro (⟨-, same⟩ | last)
    · exact absurd same (by decide)
    · exact absurd last (by decide)
  have pieces := splits_readLines [encode overlong]
  rw [List.flatten_singleton] at pieces
  have garbled : replacement ∈
      (String.join ((readLines [encode overlong]).map textOf)).toList := by
    rw [toList_join_textOf, pieces.unique splits_overlong, List.mem_flatMap]
    exact ⟨[0xA9], .tail _ (.head _), by decide⟩
  refine ⟨absent, garbled, ?_⟩
  intro same
  rw [same, String.toList_ofList, ← List.count_pos_iff, count_withoutEnds,
    List.count_pos_iff] at garbled
  exact absent garbled

end PlanGuard
