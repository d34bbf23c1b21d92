import PlanGuard.Pattern.Compile
import Mathlib.Data.List.Basic
import Mathlib.Data.Nat.Bitwise

/-!
# Anchored literals

The plainest pattern is a caret and a text whose characters stand for themselves,
bare or after a backslash; every text has such a source (`spelled?_literal`).  It is
read as a condition on the start of the line and one set for each character
(`parse_anchored`), it compiles unless the text is very long (`compile_anchored`), and
it matches the lines that begin with the text and no others (`accepts_anchored`).
-/

namespace PlanGuard.Pattern

open Text (Ranges)

/-- The characters that have a meaning of their own outside a set. -/
def metaCharacters : List Char :=
  ['(', ')', '|', '[', '?', '*', '+', '\x7b', '\\', '.', '^', '$']

def isMeta (c : Char) : Bool :=
  metaCharacters.contains c

theorem isPlain_of_isMeta {c : Char} (meaning : isMeta c = true) :
    Escape.isPlain c = true := by
  have plain : metaCharacters.all Escape.isPlain = true := by decide
  exact List.all_eq_true.mp plain c (List.contains_iff_mem.mp meaning)

/-- The text that a source spells, if every part of it stands for one character. -/
def spelled? : List Char → Option (List Char)
  | [] => some []
  | '\\' :: c :: rest =>
      if Escape.isPlain c then (spelled? rest).map (c :: ·) else none
  | c :: rest => if isMeta c then none else (spelled? rest).map (c :: ·)

def literal (letters : List Char) : List Char :=
  letters.flatMap fun c => if isMeta c then ['\\', c] else [c]

theorem spelled?_literal (letters : List Char) :
    spelled? (literal letters) = some letters := by
  induction letters with
  | nil => rfl
  | cons c letters ih =>
      rw [literal, List.flatMap_cons, ← literal]
      split
      case isTrue meaning =>
        simp [spelled?, isPlain_of_isMeta meaning, ih]
      case isFalse bare =>
        have other : c ≠ '\\' := fun backslash => bare (backslash ▸ rfl)
        simp [spelled?, other, bare, ih]

def letter (c : Char) : Expr :=
  .set (singleton c.toNat)

def anchored (letters : List Char) : Expr :=
  .sequence (.look .textStart :: letters.map letter)

/-! ## Reading -/

namespace Reader

def spell (reader : Reader) : List Char → Reader
  | [] => reader
  | c :: letters => (reader.push (letter c) 0).spell letters

theorem spell_eq (reader : Reader) (letters : List Char) :
    reader.spell letters =
      { reader with
        level := { reader.level with
          pieces := (letters.map fun c => { expr := letter c }).reverse ++
            reader.level.pieces } } := by
  induction letters generalizing reader with
  | nil => rfl
  | cons c letters ih =>
      rw [spell, ih, List.map_cons, List.reverse_cons, List.append_assoc]
      rfl

variable {reader : Reader}

theorem atom_character (flags : reader.flags = {}) (c : Char) :
    reader.atom (.character c false) = some (reader.push (letter c) 0) := by
  simp [atom, characterSet, flags, Flags.fold, letter]

theorem step_bare (flags : reader.flags = {}) {c : Char} (bare : isMeta c = false)
    (rest : List Char) :
    reader.step c rest = some (reader.push (letter c) 0, rest) := by
  simp only [isMeta, metaCharacters, List.contains_eq_mem, List.mem_cons,
    List.not_mem_nil, or_false, decide_eq_false_iff_not, not_or] at bare
  unfold step
  split <;> simp_all [atom_character]

theorem step_escaped (flags : reader.flags = {}) {c : Char}
    (plain : Escape.isPlain c = true) (rest : List Char) :
    reader.step '\\' (c :: rest) = some (reader.push (letter c) 0, rest) := by
  simp [step, Escape.read, plain, atom_character flags]

/-- One step of a reader that passes over nothing. -/
theorem run_cons (flags : reader.flags = {}) {c : Char} {rest left : List Char}
    {next : Reader} (steps : reader.step c rest = some (next, left)) (fuel : Nat) :
    run (fuel + 1) reader (c :: rest) = run fuel next left := by
  simp [run, flags, Flags.skip, steps]

/-- Each character of a text becomes a piece of its own. -/
theorem run_spelled {source letters : List Char} (spells : spelled? source = some letters)
    {fuel : Nat} (enough : source.length < fuel) (flags : reader.flags = {}) :
    run fuel reader source = some (reader.spell letters) := by
  obtain ⟨fuel, rfl⟩ : ∃ less, fuel = less + 1 := ⟨fuel - 1, by omega⟩
  fun_induction spelled? source generalizing fuel letters reader with
  | case1 =>
      cases spells
      simp [run, flags, Flags.skip, spell]
  | case2 c rest plain ih =>
      obtain ⟨letters, further, rfl⟩ := Option.map_eq_some_iff.mp spells
      simp only [List.length_cons] at enough
      obtain ⟨fuel, rfl⟩ : ∃ less, fuel = less + 1 := ⟨fuel - 1, by omega⟩
      have kept : (reader.push (letter c) 0).flags = {} := flags
      rw [run_cons flags (step_escaped flags plain rest)]
      exact ih further kept fuel (by omega)
  | case3 => cases spells
  | case4 => cases spells
  | case5 c rest _ bare ih =>
      obtain ⟨letters, further, rfl⟩ := Option.map_eq_some_iff.mp spells
      simp only [List.length_cons] at enough
      obtain ⟨fuel, rfl⟩ : ∃ less, fuel = less + 1 := ⟨fuel - 1, by omega⟩
      have kept : (reader.push (letter c) 0).flags = {} := flags
      rw [run_cons flags (step_bare flags (Bool.eq_false_iff.mpr bare) rest)]
      exact ih further kept fuel (by omega)

end Reader

/-- Flat pieces are a level of nesting together at most. -/
theorem Piece.together_depth_le {combine : List Expr → Expr} {pieces : List Piece}
    (flat : ∀ piece ∈ pieces, piece.depth = 0) :
    (Piece.together combine pieces).depth ≤ 1 := by
  have zero : pieces.foldl (fun depth piece => max depth piece.depth) 0 = 0 := by
    induction pieces with
    | nil => rfl
    | cons piece pieces ih =>
        obtain ⟨first, rest⟩ := List.forall_mem_cons.mp flat
        rw [List.foldl_cons, first]
        exact ih rest
  simp only [Piece.together, zero]
  split <;> omega

theorem body_of_one {level : Level} (only : level.alternatives = [])
    (flat : ∀ piece ∈ level.pieces, piece.depth = 0) :
    level.body.expr = .sequence (level.pieces.reverse.map (·.expr)) ∧
      level.body.depth ≤ 1 := by
  have whole : level.body =
      Piece.together .choice [Piece.together .sequence level.pieces.reverse] := by
    simp [Level.body, Level.split, only]
  rw [whole]
  refine ⟨rfl, ?_⟩
  have bound : (Piece.together .sequence level.pieces.reverse).depth ≤ 1 :=
    Piece.together_depth_le fun piece member => flat piece (List.mem_reverse.mp member)
  simpa [Piece.together] using bound

namespace Reader

/-- The reader after a caret and a text that stands for itself. -/
def afterCaret (letters : List Char) : Reader :=
  Reader.spell (Reader.push {} (.look .textStart) 0) letters

theorem run_caret {source letters : List Char} (spells : spelled? source = some letters) :
    run (source.length + 2) {} ('^' :: source) = some (afterCaret letters) := by
  have caret : step {} '^' source = some (push {} (.look .textStart) 0, source) := rfl
  rw [run_cons rfl caret]
  exact run_spelled spells (Nat.lt_succ_self _) rfl

theorem outer_afterCaret (letters : List Char) : (afterCaret letters).outer = [] := by
  rw [afterCaret, spell_eq]
  rfl

theorem pieces_afterCaret (letters : List Char) :
    (afterCaret letters).level.pieces =
      (letters.map fun c => { expr := letter c }).reverse ++
        [{ expr := .look .textStart }] := by
  rw [afterCaret, spell_eq]
  rfl

theorem body_afterCaret (letters : List Char) :
    (afterCaret letters).level.body.expr = anchored letters ∧
      (afterCaret letters).level.body.depth ≤ 1 := by
  have only : (afterCaret letters).level.alternatives = [] := by
    rw [afterCaret, spell_eq]
    rfl
  have flat : ∀ piece ∈ (afterCaret letters).level.pieces, piece.depth = 0 := by
    rw [pieces_afterCaret]
    intro piece member
    rcases List.mem_append.mp member with inside | caret
    · obtain ⟨c, _, rfl⟩ := List.mem_map.mp (List.mem_reverse.mp inside)
      rfl
    · cases List.mem_singleton.mp caret
      rfl
  obtain ⟨expr, shallow⟩ := body_of_one only flat
  refine ⟨?_, shallow⟩
  rw [expr, pieces_afterCaret]
  simp [anchored, Function.comp_def]

end Reader

/-- A caret and a text that stands for itself, if it is not too large. -/
theorem parse_anchored {source letters : List Char}
    (spells : spelled? source = some letters) :
    parse (String.ofList ('^' :: source)) =
      if (anchored letters).size ≤ maxSize then some (anchored letters) else none := by
  obtain ⟨whole, depth⟩ := Reader.body_afterCaret letters
  have shallow : (Reader.afterCaret letters).level.body.depth ≤ maxDepth :=
    Nat.le_trans depth (by decide)
  simp only [parse, String.toList_ofList, List.length_cons, Reader.run_caret spells,
    Option.bind_eq_bind, Option.bind_some, Reader.outer_afterCaret, List.isEmpty_nil,
    if_true, whole, shallow, decide_true, Bool.true_and, decide_eq_true_eq]

/-! ## Size -/

theorem sequence_cons_size (first : Expr) (rest : List Expr) :
    (Expr.sequence (first :: rest)).size = first.size + (rest.map Expr.size).sum := by
  induction rest generalizing first with
  | nil => rfl
  | cons second rest ih =>
      rw [Expr.sequence, Expr.size, ih, List.map_cons, List.sum_cons]

theorem pieces_self (count mark n : Nat) :
    (ByteRanges.pieces count mark n n).map List.length = [count + 1] := by
  induction count generalizing mark n with
  | zero => rfl
  | succ count ih =>
      have longer := congrArg (List.map (· + 1)) (ih 0x80 (n % Nat.pow 64 (count + 1)))
      simpa [ByteRanges.pieces, Function.comp_def] using longer

/-- The spans of code points that hold one give a piece each. -/
theorem ofRange_self (n : Nat) :
    (ByteRanges.ofRange (n, n)).map List.length =
      ByteRanges.lengths.flatMap fun (count, _, low, high) =>
        if low ≤ n ∧ n ≤ high then [count + 1] else [] := by
  rw [ByteRanges.ofRange, List.map_flatMap]
  congr 1
  funext ⟨count, mark, low, high⟩
  dsimp only
  split
  case isTrue meets =>
    have inside : low ≤ n ∧ n ≤ high := by omega
    rw [if_pos inside, Nat.max_eq_right inside.1, Nat.min_eq_right inside.2, pieces_self]
  case isFalse apart =>
    rw [if_neg (by omega)]
    rfl

theorem setSize_singleton_le (n : Nat) : setSize (singleton n) ≤ 4 * stateSize := by
  have bytes : ((ByteRanges.ofRange (n, n)).map List.length).foldl (· + ·) 0 ≤ 4 := by
    rw [ofRange_self]
    simp only [ByteRanges.lengths, List.flatMap_cons, List.flatMap_nil]
    split_ifs <;> simp <;> omega
  simp only [setSize, singleton, if_true]
  rw [Nat.mul_comm]
  exact Nat.mul_le_mul_right stateSize bytes

theorem anchored_size_le (letters : List Char) :
    (anchored letters).size ≤ stateSize + letters.length * (4 * stateSize) := by
  rw [anchored, sequence_cons_size, Expr.size, List.map_map]
  refine Nat.add_le_add_left ?_ stateSize
  induction letters with
  | nil => exact Nat.zero_le _
  | cons c letters ih =>
      rw [List.map_cons, List.sum_cons, List.length_cons, Nat.succ_mul, Nat.add_comm]
      exact Nat.add_le_add ih (setSize_singleton_le c.toNat)

/-! ## Matching -/

theorem member_singleton (n m : Nat) :
    Ranges.member (singleton n).toArray m = (m == n) := by
  simp only [Ranges.member, singleton, List.size_toArray, List.length_singleton,
    Ranges.search]
  rcases Nat.lt_trichotomy m n with below | rfl | above
  · simp [below, Nat.ne_of_lt below]
  · simp
  · simp [above, Nat.lt_asymm above, Nat.ne_of_gt above]

namespace Places

theorem testBit_whereFrom {α : Type} (test : α → Bool) (start n : Nat) (items : List α) :
    (whereFrom test start items).testBit n =
      (decide (start ≤ n) && (items[n - start]?).any test) := by
  induction items generalizing start with
  | nil => simp [whereFrom]
  | cons item items ih =>
      have head : (if test item then 1 <<< start else 0).testBit n =
          (test item && decide (start = n)) := by
        cases test item <;> simp [Nat.one_shiftLeft, Nat.testBit_two_pow]
      rw [whereFrom, Nat.testBit_or, head, ih]
      rcases Nat.lt_trichotomy start n with before | rfl | after
      · obtain ⟨more, rfl⟩ := Nat.exists_eq_add_of_lt before
        have skipped : start + more + 1 - start = more + 1 := by omega
        have left : start + more + 1 - (start + 1) = more := by omega
        simp [skipped, left, Nat.ne_of_lt before, Nat.le_of_lt before]
      · simp
      · simp [Nat.ne_of_gt after, Nat.not_le_of_gt after]
        omega

theorem single_and (n : Nat) (places : Places) :
    2 ^ n &&& places = if places.testBit n then 2 ^ n else 0 := by
  rw [Nat.two_pow_and]
  cases places.testBit n <;> simp

end Places

theorem before_testBit (subject : Subject) (ranges : Ranges) (n : Nat) :
    (subject.before ranges).testBit n =
      (subject.letters[n]?).any fun c => Ranges.member ranges.toArray c.toNat := by
  simp [Subject.before, Places.testBit_whereFrom]

theorem reach_letter (subject : Subject) (c : Char) (n : Nat) :
    (letter c).reach subject (2 ^ n) =
      if subject.letters[n]? = some c then 2 ^ (n + 1) else 0 := by
  have stands : (subject.before (singleton c.toNat)).testBit n = true ↔
      subject.letters[n]? = some c := by
    rw [before_testBit]
    simp [member_singleton, Char.toNat_inj, Option.any_eq_true]
  rw [letter, Expr.reach, Places.single_and, if_congr stands rfl rfl]
  split
  · rw [Nat.shiftLeft_eq, Nat.pow_succ]
    rfl
  · rfl

theorem reach_sequence_cons (subject : Subject) (first : Expr) (rest : List Expr)
    (places : Places) :
    (Expr.sequence (first :: rest)).reach subject places =
      (Expr.sequence rest).reach subject (first.reach subject places) := by
  cases rest with
  | nil => rfl
  | cons second rest => rfl

theorem reach_letters_zero (subject : Subject) (letters : List Char) :
    (Expr.sequence (letters.map letter)).reach subject 0 = 0 := by
  induction letters with
  | nil => rfl
  | cons c letters ih =>
      rw [List.map_cons, reach_sequence_cons]
      have nowhere : (letter c).reach subject 0 = 0 := by simp [letter, Expr.reach]
      rw [nowhere, ih]

theorem reach_letters (subject : Subject) (letters : List Char) (n : Nat) :
    (Expr.sequence (letters.map letter)).reach subject (2 ^ n) =
      if letters <+: subject.letters.drop n then 2 ^ (n + letters.length) else 0 := by
  induction letters generalizing n with
  | nil => simp [Expr.sequence, Expr.reach]
  | cons c letters ih =>
      rw [List.map_cons, reach_sequence_cons, reach_letter]
      have both : c :: letters <+: subject.letters.drop n ↔
          subject.letters[n]? = some c ∧ letters <+: subject.letters.drop (n + 1) := by
        rw [← List.head?_drop, ← List.tail_drop]
        cases subject.letters.drop n with
        | nil => simp
        | cons next left => simp [List.cons_prefix_cons, eq_comm]
      split
      case isTrue stands =>
        rw [ih, List.length_cons, Nat.add_assoc, Nat.add_comm 1]
        exact if_congr ⟨fun rest => both.mpr ⟨stands, rest⟩, fun whole => (both.mp whole).2⟩
          rfl rfl
      case isFalse other =>
        rw [reach_letters_zero, if_neg fun whole => other (both.mp whole).1]

/-- Only the first place has no character before it. -/
theorem fulfilling_textStart (text : String) :
    (Subject.ofString text).fulfilling .textStart = 2 ^ 0 := by
  have later (c : Char) (start : Nat) (letters : List Char) :
      Places.whereFrom Look.textStart.holds start (surroundings (some c) letters) = 0 := by
    induction letters generalizing c start with
    | nil => simp [surroundings, Places.whereFrom, Look.holds]
    | cons next letters ih => simp [surroundings, Places.whereFrom, Look.holds, ih]
  rw [Subject.fulfilling, Subject.ofString]
  cases text.toList with
  | nil => rfl
  | cons c letters => simp [surroundings, Places.whereFrom, Look.holds, later]

theorem all_testBit_zero (length : Nat) : (Places.all length).testBit 0 = true := by
  have positive : 0 < 2 ^ length := Nat.two_pow_pos length
  have doubled : Nat.pow 2 (length + 1) = 2 ^ length * 2 := rfl
  rw [Nat.testBit_zero, decide_eq_true_eq, Places.all, doubled]
  omega

theorem occursIn_anchored (letters : List Char) (line : String) :
    (anchored letters).occursIn line = true ↔ letters <+: line.toList := by
  have start : (Expr.look .textStart).reach (Subject.ofString line)
      (Places.all line.toList.length) = 2 ^ 0 := by
    rw [Expr.reach, fulfilling_textStart, Nat.land_comm, Places.single_and,
      if_pos (all_testBit_zero _)]
  have ends : (anchored letters).reach (Subject.ofString line)
      (Places.all line.toList.length) =
        if letters <+: line.toList then 2 ^ (0 + letters.length) else 0 := by
    rw [anchored, reach_sequence_cons, start, reach_letters]
    rfl
  show ((anchored letters).reach (Subject.ofString line)
      (Places.all line.toList.length) != 0) = true ↔ _
  rw [ends]
  split <;> simp_all

/-! ## Compiling -/

variable {source letters : List Char}

/-- What compiles to a pattern at all compiles to one for the start of the line. -/
theorem accepts_anchored (spells : spelled? source = some letters) {pattern : PlanGuard.Pattern}
    (compiled : compile (String.ofList ('^' :: source)) = some pattern) (line : String) :
    pattern.accepts line = true ↔ letters <+: line.toList := by
  rw [compile, parse_anchored spells] at compiled
  split at compiled
  case isTrue =>
    obtain rfl := Option.some.inj compiled
    exact occursIn_anchored letters line
  case isFalse => cases compiled

/-- The longest text that surely fits into a pattern. -/
def longestLiteral : Nat :=
  maxSize / (4 * stateSize) - 1

theorem compile_anchored (spells : spelled? source = some letters)
    (short : letters.length ≤ longestLiteral) :
    (compile (String.ofList ('^' :: source))).isSome := by
  have small : (anchored letters).size ≤ maxSize := by
    have bound := anchored_size_le letters
    simp only [longestLiteral, maxSize, stateSize] at *
    omega
  rw [compile, parse_anchored spells, if_pos small]
  rfl

end PlanGuard.Pattern
