import PlanGuard.FixTable
import PlanGuard.Proofs.Pattern.Anchored

/-!
# Boundaries of arguments

A command line shows where its arguments end, as long as no argument begins with a
quotation mark: then a word that is shown between quotation marks cannot be mistaken
for one that is shown bare.  `readWord` takes the first word off a line, and from it
follows what two lines with a common beginning have in common (`renderTail_cut`).

An argument that begins with a quotation mark can imitate another one, since only
blanks and single quotes are put between quotation marks.
-/

namespace PlanGuard.Argv

def Plain (argv : Argv) : Prop :=
  ∀ argument ∈ argv, argument.toList.head? ≠ some '"'

instance (argv : Argv) : Decidable argv.Plain :=
  inferInstanceAs (Decidable (∀ argument ∈ argv, argument.toList.head? ≠ some '"'))

/-- The arguments of the second are those of the first and at least one more. -/
def Extends (argv whole : Argv) : Prop :=
  argv <+: whole ∧ argv ≠ whole

/-! ## Taking a line apart -/

def unescape (c : Char) : Char :=
  if c = 'n' then '\n' else if c = 't' then '\t' else if c = 'r' then '\r' else c

def readQuoted : List Char → List Char × List Char
  | [] => ([], [])
  | '"' :: rest => ([], rest)
  | '\\' :: 'x' :: '0' :: '0' :: rest =>
      let (word, left) := readQuoted rest
      ('\x00' :: word, left)
  | '\\' :: c :: rest =>
      let (word, left) := readQuoted rest
      (unescape c :: word, left)
  | c :: rest =>
      let (word, left) := readQuoted rest
      (c :: word, left)

def readWord : List Char → List Char × List Char
  | '"' :: rest => readQuoted rest
  | letters => (letters.takeWhile (· != ' '), letters.dropWhile (· != ' '))

theorem readQuoted_escape (c : Char) (rest : List Char) :
    readQuoted (escape c ++ rest) = (c :: (readQuoted rest).1, (readQuoted rest).2) := by
  unfold escape
  split_ifs with quote backslash newline tab carriage nul
  · subst quote; rfl
  · subst backslash; rfl
  · subst newline; rfl
  · subst tab; rfl
  · subst carriage; rfl
  · subst nul; rfl
  · simp [readQuoted, backslash]

theorem readQuoted_flatMap_escape (word rest : List Char) :
    readQuoted (word.flatMap escape ++ '"' :: rest) = (word, rest) := by
  induction word with
  | nil => rfl
  | cons c word ih =>
      rw [List.flatMap_cons, List.append_assoc, readQuoted_escape, ih]

/-- What follows a word on a line: nothing, or another word after a space. -/
def Ends (rest : List Char) : Prop :=
  ∀ c ∈ rest.head?, c = ' '

theorem Ends.append {rest further : List Char} (ends : Ends rest) (goesOn : Ends further) :
    Ends (rest ++ further) := by
  cases rest with
  | nil => exact goesOn
  | cons c rest => exact ends

theorem readWord_bare {word rest : List Char} (quotes : needsQuotes word = false)
    (plain : word.head? ≠ some '"') (ends : Ends rest) :
    readWord (word ++ rest) = (word, rest) := by
  obtain ⟨nonempty, solid⟩ : word ≠ [] ∧ ∀ c ∈ word, (c != ' ') = true := by
    simp only [needsQuotes, Bool.or_eq_false_iff, List.isEmpty_eq_false_iff,
      List.any_eq_false] at quotes
    refine ⟨quotes.1, fun c member => ?_⟩
    have harmless : ¬ isDelicate c = true := quotes.2 c member
    grind [isDelicate]
  have bare : readWord (word ++ rest) =
      ((word ++ rest).takeWhile (· != ' '), (word ++ rest).dropWhile (· != ' ')) := by
    cases word with
    | nil => exact absurd rfl nonempty
    | cons c word =>
        have other : c ≠ '"' := fun quote => plain (congrArg some quote)
        simp [readWord, other]
  have stops : rest.takeWhile (· != ' ') = [] ∧ rest.dropWhile (· != ' ') = rest := by
    cases rest with
    | nil => exact ⟨rfl, rfl⟩
    | cons c rest =>
        have space : c = ' ' := ends c rfl
        simp [space]
  rw [bare, List.takeWhile_append_of_pos solid, List.dropWhile_append_of_pos solid,
    stops.1, stops.2, List.append_nil]

theorem readWord_renderLetters {word rest : List Char} (plain : word.head? ≠ some '"')
    (ends : Ends rest) : readWord (renderLetters word ++ rest) = (word, rest) := by
  unfold renderLetters
  split
  case isTrue =>
    have shown : '"' :: word.flatMap escape ++ ['"'] ++ rest =
        '"' :: (word.flatMap escape ++ '"' :: rest) := by simp
    rw [shown]
    exact readQuoted_flatMap_escape word rest
  case isFalse bare => exact readWord_bare (Bool.eq_false_iff.mpr bare) plain ends

/-- Two lines agree on their first word. -/
theorem renderLetters_cut {first second rest others : List Char}
    (plain : first.head? ≠ some '"') (otherPlain : second.head? ≠ some '"')
    (ends : Ends rest) (otherEnds : Ends others)
    (same : renderLetters first ++ rest = renderLetters second ++ others) :
    first = second ∧ rest = others := by
  have read := readWord_renderLetters plain ends
  rw [same, readWord_renderLetters otherPlain otherEnds] at read
  exact ⟨(Prod.mk.inj read).1.symm, (Prod.mk.inj read).2.symm⟩

theorem renderLetters_ne_nil (word : List Char) : renderLetters word ≠ [] := by
  unfold renderLetters
  split
  case isTrue => exact List.cons_ne_nil _ _
  case isFalse bare =>
    rintro rfl
    exact bare rfl

/-! ## Words after words -/

def renderTail (words : List (List Char)) : List Char :=
  words.flatMap fun word => ' ' :: renderLetters word

theorem ends_renderTail (words : List (List Char)) : Ends (renderTail words) := by
  cases words <;> simp [Ends, renderTail]

theorem renderTail_eq_nil {words : List (List Char)} (empty : renderTail words = []) :
    words = [] := by
  cases words with
  | nil => rfl
  | cons word words => simp [renderTail] at empty

/-- A line is the words after a space that is not shown. -/
theorem space_renderWords {words : List (List Char)} (nonempty : words ≠ []) :
    ' ' :: renderWords words = renderTail words := by
  fun_induction renderWords words with
  | case1 => exact absurd rfl nonempty
  | case2 word => simp [renderTail]
  | case3 word next rest ih =>
      rw [ih (List.cons_ne_nil _ _), renderTail, List.flatMap_cons]
      rfl

/--
Where plain words begin a line of plain words, the line goes on with the words that
are left.  The first word of both lines is the same, and so on for the rest of them.
-/
theorem renderTail_cut {words others : List (List Char)} {rest : List Char}
    (plain : ∀ word ∈ words, word.head? ≠ some '"')
    (otherPlain : ∀ word ∈ others, word.head? ≠ some '"') (ends : Ends rest)
    (same : renderTail words ++ rest = renderTail others) :
    ∃ more, others = words ++ more ∧ rest = renderTail more := by
  induction words generalizing others with
  | nil => exact ⟨others, rfl, same⟩
  | cons word words ih =>
      cases others with
      | nil => simp [renderTail] at same
      | cons other others =>
          obtain ⟨first, later⟩ := List.forall_mem_cons.mp plain
          obtain ⟨otherFirst, otherLater⟩ := List.forall_mem_cons.mp otherPlain
          have lines : renderLetters word ++ (renderTail words ++ rest) =
              renderLetters other ++ renderTail others := by
            simpa [renderTail] using same
          obtain ⟨rfl, left⟩ := renderLetters_cut first otherFirst
            ((ends_renderTail words).append ends) (ends_renderTail others) lines
          obtain ⟨more, rfl, further⟩ := ih later otherLater left
          exact ⟨more, rfl, further⟩

theorem renderTail_append (words more : List (List Char)) :
    renderTail (words ++ more) = renderTail words ++ renderTail more :=
  List.flatMap_append

variable {words others : List (List Char)}

theorem renderTail_injective (plain : ∀ word ∈ words, word.head? ≠ some '"')
    (otherPlain : ∀ word ∈ others, word.head? ≠ some '"')
    (same : renderTail words = renderTail others) : words = others := by
  have ends : Ends [] := fun c member => absurd member (by simp)
  obtain ⟨more, rfl, nothing⟩ :=
    renderTail_cut plain otherPlain ends ((List.append_nil _).trans same)
  rw [renderTail_eq_nil nothing.symm, List.append_nil]

/-- With a space after it, a line begins the lines that go on with another word. -/
theorem renderTail_begins_iff (plain : ∀ word ∈ words, word.head? ≠ some '"')
    (otherPlain : ∀ word ∈ others, word.head? ≠ some '"') :
    renderTail words ++ [' '] <+: renderTail others ↔ words <+: others ∧ words ≠ others := by
  constructor
  · rintro ⟨rest, whole⟩
    have ends : Ends (' ' :: rest) := fun c first => (Option.some.inj first).symm
    rw [List.append_assoc, List.singleton_append] at whole
    obtain ⟨more, rfl, left⟩ := renderTail_cut plain otherPlain ends whole
    refine ⟨List.prefix_append words more, fun same => ?_⟩
    rw [List.self_eq_append_right.mp same] at left
    cases left
  · rintro ⟨⟨more, rfl⟩, differs⟩
    rw [renderTail_append, List.prefix_append_right_inj]
    cases more with
    | nil => exact absurd (List.append_nil words).symm differs
    | cons word more => exact ⟨renderLetters word ++ renderTail more, rfl⟩

/-! ## Command lines -/

variable {argv other : Argv}

theorem toList_render (argv : Argv) :
    argv.render.toList = renderWords (argv.map String.toList) :=
  String.toList_ofList

theorem space_render (nonempty : argv ≠ []) :
    ' ' :: argv.render.toList = renderTail (argv.map String.toList) := by
  rw [toList_render, space_renderWords (by simpa using nonempty)]

theorem render_toList_ne_nil (nonempty : argv ≠ []) : argv.render.toList ≠ [] := by
  intro nothing
  obtain ⟨argument, rest, rfl⟩ := List.exists_cons_of_ne_nil nonempty
  have line := space_render nonempty
  rw [nothing, List.map_cons, renderTail, List.flatMap_cons, List.cons_append] at line
  exact renderLetters_ne_nil _ (List.append_eq_nil_iff.mp (List.cons.inj line).2.symm).1

theorem Plain.letters (plain : argv.Plain) :
    ∀ word ∈ argv.map String.toList, word.head? ≠ some '"' :=
  List.forall_mem_map.mpr plain

theorem map_toList_injective : Function.Injective (List.map String.toList) :=
  List.map_injective_iff.mpr fun _ _ same => String.toList_injective same

/-- Equal lines stand for equal commands. -/
theorem render_injective (plain : argv.Plain) (otherPlain : other.Plain)
    (same : argv.render = other.render) : argv = other := by
  rcases eq_or_ne argv [] with rfl | nonempty
  · by_contra differs
    have shown := render_toList_ne_nil (Ne.symm differs)
    exact shown (congrArg String.toList same).symm
  · have otherNonempty : other ≠ [] := by
      rintro rfl
      exact render_toList_ne_nil nonempty (congrArg String.toList same)
    refine map_toList_injective (renderTail_injective plain.letters otherPlain.letters ?_)
    rw [← space_render nonempty, ← space_render otherNonempty, same]

/-- With a space after it, a line begins the lines of the commands that extend its own. -/
theorem render_begins_iff (plain : argv.Plain) (otherPlain : other.Plain)
    (nonempty : argv ≠ []) :
    (argv.render ++ " ").toList <+: other.render.toList ↔ argv.Extends other := by
  rw [String.toList_append]
  rcases eq_or_ne other [] with rfl | otherNonempty
  · have none : ¬ argv.Extends [] := fun longer => nonempty (List.prefix_nil.mp longer.1)
    simp [none, toList_render, renderWords]
  · rw [← List.prefix_cons_inj ' ', ← List.cons_append, space_render nonempty,
      space_render otherNonempty, Extends,
      ← List.prefix_map_iff_of_injective fun _ _ same => String.toList_injective same]
    exact (renderTail_begins_iff plain.letters otherPlain.letters).trans
      (and_congr_right fun _ => map_toList_injective.ne_iff)

theorem accepts_render (plain : argv.Plain) (otherPlain : other.Plain) (nonempty : argv ≠ [])
    {source : List Char} {pattern : Pattern}
    (spells : Pattern.spelled? source = some (argv.render ++ " ").toList)
    (compiled : Pattern.compile (String.ofList ('^' :: source)) = some pattern) :
    pattern.accepts other.render = true ↔ argv.Extends other :=
  (Pattern.accepts_anchored spells compiled other.render).trans
    (render_begins_iff plain otherPlain nonempty)

/-- Looking up a line finds what is listed for its command. -/
theorem lookup_render {β : Type} {entries : List (Argv × β)}
    (plains : ∀ entry ∈ entries, entry.1.Plain) (plain : argv.Plain) :
    (entries.map fun entry => (entry.1.render, entry.2)).lookup argv.render =
      entries.lookup argv := by
  induction entries with
  | nil => rfl
  | cons entry entries ih =>
      obtain ⟨first, rest⟩ := List.forall_mem_cons.mp plains
      have same : (argv.render == entry.1.render) = (argv == entry.1) := by
        rw [Bool.eq_iff_iff, beq_iff_eq, beq_iff_eq]
        exact ⟨render_injective plain first, congrArg render⟩
      rw [List.map_cons, List.lookup_cons, List.lookup_cons, same, ih rest]

/--
Command lines keep the boundaries of arguments visible, where no argument begins with
a quotation mark.  Two lines are equal only if the commands are; a line with a space
after it begins the lines of the commands that go on where its own stops; a pattern
that is such a line after a caret matches those commands and no others, and compiles
unless it is very long; and a table of fixes with lines for its keys answers each
command with the plan that is listed for it.
-/
theorem render_boundaries (plain : argv.Plain) (otherPlain : other.Plain) :
    (argv.render = other.render → argv = other) ∧
      (argv ≠ [] →
        ((argv.render ++ " ").toList <+: other.render.toList ↔ argv.Extends other)) ∧
      (argv ≠ [] → ∀ source : List Char,
        Pattern.spelled? source = some (argv.render ++ " ").toList →
          (∀ pattern, Pattern.compile (String.ofList ('^' :: source)) = some pattern →
            (pattern.accepts other.render = true ↔ argv.Extends other)) ∧
          (argv.render.length < Pattern.longestLiteral →
            (Pattern.compile (String.ofList ('^' :: source))).isSome)) ∧
      (∀ entries : List (Argv × Plan), (∀ entry ∈ entries, entry.1.Plain) →
        FixTable.plan ⟨entries.map fun entry => (entry.1.render, entry.2)⟩ argv.render =
          (entries.lookup argv).getD {}) := by
  refine ⟨render_injective plain otherPlain, render_begins_iff plain otherPlain, ?_, ?_⟩
  · intro nonempty source spells
    refine ⟨fun pattern => accepts_render plain otherPlain nonempty spells, fun short => ?_⟩
    refine Pattern.compile_anchored spells ?_
    rw [String.toList_append, List.length_append, String.length_toList]
    exact short
  · intro entries plains
    rw [FixTable.plan, lookup_render plains plain]

/-- An argument with a space, after the arguments that a pattern names. -/
theorem rm_boundaries :
    ∃ pattern, Pattern.compile "^rm -rf " = some pattern ∧
      pattern.accepts (render ["rm", "-rf", "a b"]) = true := by
  have longer : Extends ["rm", "-rf"] ["rm", "-rf", "a b"] := ⟨⟨["a b"], rfl⟩, by decide⟩
  obtain ⟨-, -, matching, -⟩ :=
    @render_boundaries ["rm", "-rf"] ["rm", "-rf", "a b"] (by decide) (by decide)
  obtain ⟨accepts, compiles⟩ := matching (by decide) "rm -rf ".toList (by decide)
  obtain ⟨pattern, compiled⟩ := Option.isSome_iff_exists.mp (compiles (by decide))
  exact ⟨pattern, compiled, (accepts pattern compiled).mpr longer⟩

-- Bare quotation marks show a space between them as a quoted argument does.
example : render ["\"a", "b\""] = render ["a b"] := by decide

end PlanGuard.Argv
