import PlanGuard.Capture.Reader
import PlanGuard.Proofs.Capture.Arrival
import Mathlib.Data.List.SplitBy

/-!
# How a pipe falls into line events

A pipe is cut after each newline, and where a line has as many bytes as one event may
have.  There is only one way to do that, so the reader, which takes bytes from the reads
as they come, and the splitter, which takes them one by one, make the same pieces, and
the sizes of the reads leave no trace.  Where no line is too long the pieces are the
lines, and whoever watches is shown one text for each.
-/

namespace PlanGuard

/-! ## Pieces -/

/-- What one event can carry: some bytes, and no newline but at their end. -/
structure IsPiece (most : Nat) (piece : List UInt8) : Prop where
  nonempty : piece ≠ []
  short : piece.length ≤ most
  tidy : newline ∉ piece.dropLast

def Complete (most : Nat) (piece : List UInt8) : Prop :=
  piece.getLast? = some newline ∨ piece.length = most

/-- Bytes cut into pieces, of which all but the last are complete. -/
structure Splits (most : Nat) (bytes : List UInt8) (pieces : List (List UInt8)) : Prop where
  whole : pieces.flatten = bytes
  each : ∀ piece ∈ pieces, IsPiece most piece
  complete : ∀ piece ∈ pieces.dropLast, Complete most piece

namespace Splits

variable {most : Nat} {bytes piece : List UInt8} {pieces others : List (List UInt8)}

theorem nil (most : Nat) : Splits most [] [] where
  whole := rfl
  each := List.forall_mem_nil _
  complete := List.forall_mem_nil _

/-- Pieces make up nothing only if there are none. -/
theorem eq_nil_iff (splits : Splits most bytes pieces) : pieces = [] ↔ bytes = [] := by
  constructor
  · rintro rfl
    exact splits.whole.symm
  · intro empty
    cases pieces with
    | nil => rfl
    | cons first rest =>
        have nothing := splits.whole.trans empty
        rw [List.flatten_cons, List.append_eq_nil_iff] at nothing
        exact absurd nothing.1 (splits.each first (.head _)).nonempty

/-- A piece that must be complete if anything follows it. -/
theorem cons (first : IsPiece most piece) (complete : bytes ≠ [] → Complete most piece)
    (splits : Splits most bytes pieces) : Splits most (piece ++ bytes) (piece :: pieces) where
  whole := by rw [List.flatten_cons, splits.whole]
  each := List.forall_mem_cons.mpr ⟨first, splits.each⟩
  complete := by
    by_cases last : pieces = []
    · rw [last]
      exact List.forall_mem_nil _
    · rw [List.dropLast_cons_of_ne_nil last]
      have more : bytes ≠ [] := fun empty => last (splits.eq_nil_iff.mpr empty)
      exact List.forall_mem_cons.mpr ⟨complete more, splits.complete⟩

/-- Complete pieces can be put before others. -/
theorem prepend {done last : List (List UInt8)} (splits : Splits most bytes last)
    (each : ∀ piece ∈ done, IsPiece most piece ∧ Complete most piece) :
    Splits most (done.flatten ++ bytes) (done ++ last) := by
  induction done with
  | nil => exact splits
  | cons piece rest ih =>
      obtain ⟨⟨first, complete⟩, later⟩ := List.forall_mem_cons.mp each
      rw [List.flatten_cons, List.append_assoc]
      exact .cons first (fun _ => complete) (ih later)

theorem tail (splits : Splits most bytes (piece :: pieces)) :
    Splits most pieces.flatten pieces where
  whole := rfl
  each := (List.forall_mem_cons.mp splits.each).2
  complete := by
    intro other member
    apply splits.complete
    by_cases last : pieces = []
    · rw [last] at member
      cases member
    · rw [List.dropLast_cons_of_ne_nil last]
      exact .tail _ member

theorem length_le {first second : List UInt8}
    (splits : Splits most bytes (first :: pieces))
    (another : Splits most bytes (second :: others)) : second.length ≤ first.length := by
  by_contra longer
  have same : first ++ pieces.flatten = second ++ others.flatten :=
    splits.whole.trans another.whole.symm
  rcases List.append_eq_append_iff.mp same with
    ⟨more, beyond, rest⟩ | ⟨more, within, -⟩
  · have further : more ≠ [] := by
      rintro rfl
      rw [beyond, List.append_nil] at longer
      exact longer (Nat.le_refl _)
    have follows : pieces ≠ [] := by
      rintro rfl
      rw [List.flatten_nil] at rest
      exact further (List.append_eq_nil_iff.mp rest.symm).1
    have complete : Complete most first := by
      apply splits.complete
      rw [List.dropLast_cons_of_ne_nil follows]
      exact .head _
    have next := another.each second (.head _)
    rcases complete with ended | full
    · apply next.tidy
      rw [beyond, List.dropLast_append_of_ne_nil further]
      exact List.mem_append_left _ (List.mem_of_getLast? ended)
    · have short := next.short
      omega
  · rw [within, List.length_append] at longer
    omega

/-- There is one way to cut bytes into pieces. -/
theorem unique (splits : Splits most bytes pieces) (another : Splits most bytes others) :
    pieces = others := by
  induction pieces generalizing bytes others with
  | nil => exact (another.eq_nil_iff.mpr (splits.eq_nil_iff.mp rfl)).symm
  | cons first rest ih =>
      cases others with
      | nil => exact splits.eq_nil_iff.mpr (another.eq_nil_iff.mp rfl)
      | cons second later =>
          have same : first ++ rest.flatten = second ++ later.flatten :=
            splits.whole.trans another.whole.symm
          have size := Nat.le_antisymm (another.length_le splits) (splits.length_le another)
          obtain ⟨rfl, beyond⟩ := List.append_inj same size
          rw [ih splits.tail (beyond ▸ another.tail)]

end Splits

/-! ## The splitter -/

theorem maxLineBytes_pos : 0 < maxLineBytes := by
  decide

namespace Splitter

structure Tracks (splitter : Splitter) (seen : List UInt8) : Prop where
  whole : splitter.done.reverse.flatten ++ splitter.pending.reverse = seen
  size : splitter.size = splitter.pending.length
  room : splitter.pending.length < maxLineBytes
  unended : newline ∉ splitter.pending
  done : ∀ piece ∈ splitter.done, IsPiece maxLineBytes piece ∧ Complete maxLineBytes piece

theorem tracks_nil : Tracks {} [] where
  whole := rfl
  size := rfl
  room := maxLineBytes_pos
  unended := List.not_mem_nil
  done := List.forall_mem_nil _

/-- What is pending is a piece as soon as there is any. -/
theorem Tracks.isPiece {splitter : Splitter} {seen : List UInt8} (tracks : splitter.Tracks seen)
    (some' : splitter.pending ≠ []) : IsPiece maxLineBytes splitter.pending.reverse where
  nonempty := by rwa [ne_eq, List.reverse_eq_nil_iff]
  short := by
    rw [List.length_reverse]
    exact Nat.le_of_lt tracks.room
  tidy := fun member => tracks.unended (List.mem_reverse.mp (List.dropLast_subset _ member))

theorem Tracks.step {splitter : Splitter} {seen : List UInt8} (tracks : splitter.Tracks seen)
    (byte : UInt8) : (splitter.step byte).Tracks (seen ++ [byte]) := by
  have room := tracks.room
  have grown : (byte :: splitter.pending).reverse = splitter.pending.reverse ++ [byte] :=
    List.reverse_cons
  unfold Splitter.step
  dsimp only
  split
  next ends =>
    rw [Bool.or_eq_true, decide_eq_true_iff, decide_eq_true_iff, tracks.size] at ends
    have piece : IsPiece maxLineBytes (byte :: splitter.pending).reverse := by
      refine ⟨by simp, ?_, ?_⟩
      · rw [List.length_reverse, List.length_cons]
        exact room
      · rw [grown, List.dropLast_concat, List.mem_reverse]
        exact tracks.unended
    have complete : Complete maxLineBytes (byte :: splitter.pending).reverse := by
      rcases ends with rfl | full
      · left
        rw [grown, List.getLast?_concat]
        rfl
      · right
        rw [List.length_reverse, List.length_cons]
        exact full
    refine ⟨?_, rfl, maxLineBytes_pos, List.not_mem_nil, ?_⟩
    · rw [← tracks.whole]
      simp [flush]
    · exact List.forall_mem_cons.mpr ⟨⟨piece, complete⟩, tracks.done⟩
  next goes =>
    rw [Bool.or_eq_true, not_or, decide_eq_true_iff, decide_eq_true_iff, tracks.size] at goes
    obtain ⟨other, free⟩ := goes
    refine ⟨?_, ?_, ?_, ?_, tracks.done⟩
    · rw [← tracks.whole]
      simp
    · rw [tracks.size, List.length_cons]
    · rw [List.length_cons]
      omega
    · rw [List.mem_cons, not_or]
      exact ⟨fun same => other same.symm, tracks.unended⟩

theorem Tracks.foldl_step {splitter : Splitter} {seen : List UInt8}
    (tracks : splitter.Tracks seen) (bytes : List UInt8) :
    (bytes.foldl Splitter.step splitter).Tracks (seen ++ bytes) := by
  induction bytes generalizing splitter seen with
  | nil => rwa [List.append_nil]
  | cons byte rest ih =>
      rw [List.foldl_cons, List.append_cons]
      exact ih (tracks.step byte)

theorem Tracks.close {splitter : Splitter} {seen : List UInt8} (tracks : splitter.Tracks seen) :
    Splits maxLineBytes seen splitter.close := by
  have earlier : ∀ piece ∈ splitter.done.reverse,
      IsPiece maxLineBytes piece ∧ Complete maxLineBytes piece := by
    intro piece member
    exact tracks.done piece (List.mem_reverse.mp member)
  rw [← tracks.whole]
  unfold Splitter.close
  cases pending : splitter.pending with
  | nil =>
      have done := Splits.prepend (.nil maxLineBytes) earlier
      rw [List.append_nil] at done
      simpa using done
  | cons byte rest =>
      have last := Splits.cons (tracks.isPiece (by rw [pending]; exact List.cons_ne_nil _ _))
        (absurd rfl) (.nil maxLineBytes)
      rw [List.append_nil, pending] at last
      have done := last.prepend earlier
      simpa [flush, pending] using done

end Splitter

theorem splits_chunks (reads : List (List UInt8)) :
    Splits maxLineBytes reads.flatten (chunks reads) := by
  have fed : reads.foldl Splitter.feed {} = reads.flatten.foldl Splitter.step {} :=
    List.foldl_flatten.symm
  unfold chunks
  rw [fed]
  exact (Splitter.tracks_nil.foldl_step reads.flatten).close

/-! ## The reader -/

structure Taken (room : Nat) (bytes : List UInt8) (left : List (List UInt8)) : Prop where
  short : bytes.length ≤ room
  tidy : newline ∉ bytes.dropLast
  complete : left.flatten ≠ [] → Complete room bytes

namespace Taken

variable {room : Nat} {bytes : List UInt8} {left : List (List UInt8)}

theorem of_newline {read : List UInt8} {place : Nat} (within : place < room)
    (inside : place < read.length) (found : read[place] = newline)
    (first : newline ∉ read.take place) : Taken room (read.take (place + 1)) left := by
  have ends : read.take (place + 1) = read.take place ++ [newline] := by
    rw [List.take_succ_eq_append_getElem inside, found]
  refine ⟨?_, ?_, fun _ => .inl ?_⟩
  · rw [List.length_take]
    omega
  · rwa [ends, List.dropLast_concat]
  · rw [ends, List.getLast?_concat]

theorem of_full {read : List UInt8} (fits : room ≤ read.length)
    (unended : newline ∉ read.take room) : Taken room (read.take room) left where
  short := List.length_take_le room read
  tidy := fun member => unended (List.dropLast_subset _ member)
  complete := fun _ => .inr (List.length_take_of_le fits)

/-- A read without a newline, and what is taken after it. -/
theorem after_read {read : List UInt8} (taken : Taken (room - read.length) bytes left)
    (smaller : read.length < room) (unended : newline ∉ read) :
    Taken room (read ++ bytes) left where
  short := by
    have short := taken.short
    rw [List.length_append]
    omega
  tidy := by
    by_cases nothing : bytes = []
    · rw [nothing, List.append_nil]
      exact fun member => unended (List.dropLast_subset _ member)
    · rw [List.dropLast_append_of_ne_nil nothing, List.mem_append, not_or]
      exact ⟨unended, taken.tidy⟩
  complete := by
    intro more
    rcases taken.complete more with ended | full
    · left
      rw [List.getLast?_append, ended, Option.some_or]
    · right
      rw [List.length_append, full]
      omega

end Taken

theorem taken_takeLine (room : Nat) (reads : List (List UInt8)) :
    Taken room (takeLine room reads).1 (takeLine room reads).2 := by
  induction reads generalizing room with
  | nil => exact ⟨Nat.zero_le room, List.not_mem_nil, absurd rfl⟩
  | cons read rest ih =>
      unfold takeLine
      split
      next place found =>
        obtain ⟨offered, ends, before⟩ := List.findIdx?_eq_some_iff_getElem.mp found
        rw [List.length_take] at offered
        rw [List.getElem_take, beq_iff_eq] at ends
        refine .of_newline (by omega) (by omega) ends ?_
        intro member
        obtain ⟨earlier, inside, same⟩ := List.mem_iff_getElem.mp member
        rw [List.length_take] at inside
        have another := before earlier (by omega)
        rw [List.getElem_take] at same another
        rw [same] at another
        exact absurd another (by decide)
      next absent =>
        have unended : newline ∉ read.take room := by
          intro member
          exact absurd (List.findIdx?_eq_none_iff.mp absent newline member) (by decide)
        split
        next full => exact .of_full full unended
        next beyond =>
          rw [List.take_of_length_le (by omega)] at unended
          exact (ih _).after_read (by omega) unended

/-- Nothing is not complete, so nothing is taken only where there is nothing. -/
theorem not_complete_nil : ¬Complete maxLineBytes [] := by
  rintro (ended | full)
  · cases ended
  · exact absurd full (by decide)

theorem splits_readLines (reads : List (List UInt8)) :
    Splits maxLineBytes reads.flatten (readLines reads) := by
  fun_induction readLines reads with
  | case1 reads taken empty =>
      have complete := (taken_takeLine maxLineBytes reads).complete
      have nothing : taken.2.flatten = [] := by
        by_contra more
        exact not_complete_nil (empty ▸ complete more)
      rw [← takeLine_flatten maxLineBytes reads]
      change Splits maxLineBytes (taken.1 ++ taken.2.flatten) []
      rw [empty, nothing]
      exact .nil maxLineBytes
  | case2 reads taken some' ih =>
      obtain ⟨short, tidy, complete⟩ := taken_takeLine maxLineBytes reads
      rw [← takeLine_flatten maxLineBytes reads]
      exact .cons ⟨some', short, tidy⟩ complete ih

/-! ## Lines -/

def linesOf (bytes : List UInt8) : List (List UInt8) :=
  bytes.splitBy fun byte _ => byte != newline

theorem exists_next_of_mem_dropLast {α : Type} {a : α} {list : List α}
    (member : a ∈ list.dropLast) : ∃ front next back, list = front ++ a :: next :: back := by
  have nonempty : list ≠ [] := by
    rintro rfl
    cases member
  obtain ⟨front, back, split⟩ := List.append_of_mem member
  cases rest : back ++ [list.getLast nonempty] with
  | nil => simp at rest
  | cons next more =>
      refine ⟨front, next, more, ?_⟩
      rw [← rest, ← List.cons_append, ← List.append_assoc, ← split,
        List.dropLast_concat_getLast]

/-- A line that is not the last one ends in a newline. -/
theorem getLast?_of_mem_dropLast_linesOf {bytes line : List UInt8}
    (inside : line ∈ (linesOf bytes).dropLast) : line.getLast? = some newline := by
  obtain ⟨front, next, back, split⟩ := exists_next_of_mem_dropLast inside
  obtain ⟨nonempty, -, ends⟩ := List.isChain_iff_forall_rel_of_append_cons_cons.mp
    (List.isChain_getLast_head_splitBy (fun byte _ => byte != newline) bytes) split
  rw [bne_eq_false_iff_eq] at ends
  rw [List.getLast?_eq_some_getLast nonempty, ends]

/-- Lines that are not too long are the pieces. -/
theorem splits_linesOf {most : Nat} {bytes : List UInt8}
    (short : ∀ line ∈ linesOf bytes, line.length ≤ most) :
    Splits most bytes (linesOf bytes) where
  whole := List.flatten_splitBy _ bytes
  each := by
    intro line member
    refine ⟨List.ne_nil_of_mem_splitBy member, short line member, ?_⟩
    intro inside
    obtain ⟨front, next, back, split⟩ := exists_next_of_mem_dropLast inside
    have goes := List.isChain_iff_forall_rel_of_append_cons_cons.mp
      (List.isChain_of_mem_splitBy member) split
    exact absurd goes (by decide)
  complete := fun _ inside => .inl (getLast?_of_mem_dropLast_linesOf inside)

/-! ## What is shown -/

def textsOn (stream : Stream) (lines : List Line) : List String :=
  (lines.filter fun line => line.stream = stream).map Line.text

section Collection

variable {τ : Type} {limit : Nat} {pipes : Stream → Option (List (List UInt8))}
  {made : List (Move τ)} {c : Collection τ}

def textOf (piece : List UInt8) : String :=
  Text.Utf8.decode (stripEnd piece)

/-- The texts shown at any moment are those of the first pieces of a pipe. -/
theorem Collection.textsOn_prefix_of_run
    (ran : (Collection.start true limit pipes).run made = some c) (stream : Stream) :
    textsOn stream c.capture.lines <+: ((pipes stream).getD []).map textOf := by
  obtain ⟨arrived, delivers⟩ := exists_delivers ran
  obtain ⟨rest, interleaves⟩ := delivers.within
  have due : (pipes stream).getD [] = sentOn stream (arrived ++ rest) :=
    (interleaves stream).symm
  rw [delivers.captured, Capture.lines_collect, if_pos rfl, textsOn, filter_lines, due,
    sentOn_append, List.map_append, List.map_map]
  exact List.prefix_append _ _

/-- A loop that is left in time has shown a text for each piece of a pipe. -/
theorem Collection.textsOn_of_run
    (ran : (Collection.start true limit pipes).run made = some c) (timely : c.LeftInTime)
    (stream : Stream) :
    textsOn stream c.capture.lines = ((pipes stream).getD []).map textOf := by
  obtain ⟨arrived, delivers⟩ := exists_delivers ran
  have records := Capture.collect_records true limit (delivers.interleaves timely)
  rw [delivers.captured, textsOn, records.perStream rfl, List.map_map]
  rfl

end Collection

/-- The same of what goes with the answer to a request whose child was started. -/
theorem Request.textsOn_answer (request : Request) (trigger : Trigger) (machine : Machine)
    (life : Life) (failure : Option Failure) (stream : Stream) :
    textsOn stream (request.answer true trigger machine life failure).lines =
      (chunks (Life.readsOf life.writes stream)).map textOf := by
  obtain ⟨final, ran, timely, -, -, -, -, lines⟩ :=
    request.answer_collected true trigger machine life failure
  rw [lines, Collection.textsOn_of_run ran timely]
  rfl

/--
Nothing is lost between a pipe and whoever watches.  Whatever the sizes of the reads, the
reader hands on the bytes of the pipe in the one way in which they can be cut after each
newline and where a line is full, and the splitter makes the same pieces.  If no line is
longer than one event, the pieces are the lines, and one text is shown for each, in order:
its bytes, read as UTF-8, without the newline and carriage returns at its end.  A loop that
is left in time has shown them all, and so has the answer to a request whose child was
started.
-/
theorem pipe_in_lines (reads : List (List UInt8)) :
    let pieces := readLines reads
    Splits maxLineBytes reads.flatten pieces ∧
    (∀ others, Splits maxLineBytes reads.flatten others → others = pieces) ∧
    (∀ others : List (List UInt8), others.flatten = reads.flatten →
      readLines others = pieces ∧ chunks others = pieces) ∧
    ((∀ line ∈ linesOf reads.flatten, line.length ≤ maxLineBytes) →
      let texts := (linesOf reads.flatten).map textOf
      pieces = linesOf reads.flatten ∧
      (∀ (τ : Type) (limit : Nat) (pipes : Stream → Option (List (List UInt8)))
        (stream : Stream), pipes stream = some pieces →
        ∀ (made : List (Move τ)) (c : Collection τ),
          (Collection.start true limit pipes).run made = some c →
          textsOn stream c.capture.lines <+: texts ∧
            (c.LeftInTime → textsOn stream c.capture.lines = texts)) ∧
      ∀ (request : Request) (trigger : Trigger) (machine : Machine) (life : Life)
        (failure : Option Failure) (stream : Stream),
        Life.readsOf life.writes stream = reads →
        textsOn stream (request.answer true trigger machine life failure).lines = texts) := by
  intro pieces
  have splits : Splits maxLineBytes reads.flatten pieces := splits_readLines reads
  refine ⟨splits, fun others another => another.unique splits, ?_, ?_⟩
  · intro others same
    exact ⟨Splits.unique (same ▸ splits_readLines others) splits,
      Splits.unique (same ▸ splits_chunks others) splits⟩
  · intro short texts
    have lines : pieces = linesOf reads.flatten := splits.unique (splits_linesOf short)
    refine ⟨lines, ?_, ?_⟩
    · intro τ limit pipes stream piped made c ran
      have due : ((pipes stream).getD []).map textOf = texts := by
        rw [piped, Option.getD_some, lines]
      rw [← due]
      exact ⟨Collection.textsOn_prefix_of_run ran stream, fun timely =>
        Collection.textsOn_of_run ran timely stream⟩
    · rintro request trigger machine life failure stream rfl
      rw [request.textsOn_answer, (splits_chunks _).unique splits, lines]

/-- A child that writes two lines, the first in two parts, and ends the second with no newline. -/
def halting : Life :=
  { writes :=
      [⟨0, .stdout, [0x68, 0x0D]⟩, ⟨5, .stderr, [0x21, 0x0A]⟩,
        ⟨9, .stdout, [0x0A, 0x69, 0x0D]⟩]
    ending := .exited 0
    span := 10
    cut := false
    usage := { memoryBytes := 0, cpuPercent := .finite false 0 0 } }

theorem halting_in_lines :
    let reads := Life.readsOf halting.writes .stdout
    (∀ line ∈ linesOf reads.flatten, line.length ≤ maxLineBytes) ∧
      readLines reads = [[0x68, 0x0D, 0x0A], [0x69, 0x0D]] ∧
      ∀ request : Request,
        textsOn .stdout (request.answer true .never {} halting none).lines = ["h", "i"] := by
  intro reads
  have short : ∀ line ∈ linesOf reads.flatten, line.length ≤ maxLineBytes := by decide
  obtain ⟨lines, -, shown⟩ := (pipe_in_lines reads).2.2.2 short
  refine ⟨short, lines, fun request => ?_⟩
  rw [shown request .never {} halting none .stdout rfl]
  decide +kernel

end PlanGuard
