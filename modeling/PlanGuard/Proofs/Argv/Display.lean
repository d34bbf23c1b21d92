import PlanGuard.Argv
import Mathlib.Algebra.Group.Nat.Even
import Mathlib.Data.List.Induction

/-!
# What a command line shows on a terminal

No line or tab of an argument is shown as such, so that a command line is always one
line.  Of the other control characters only two have an escape: the rest are shown as
they are, between quotation marks too.  A quotation mark within an argument that is
quoted has an odd number of backslashes in front of it, so that it cannot be taken for
the end of the argument.
-/

namespace PlanGuard.Argv

/-- The characters below a space, and the one above the tilde. -/
def isControl (c : Char) : Bool :=
  c.toNat < 0x20 || c.toNat == 0x7F

def escapable : List Char :=
  ['\n', '\t', '\r', '\x00']

/-! ## Control characters -/

/-- The control characters of an argument that are shown as they are. -/
def rawControls (letters : List Char) : List Char :=
  letters.filter fun c => isControl c && !(needsQuotes letters && escapable.contains c)

theorem filter_isControl_escape (c : Char) :
    (escape c).filter isControl = [c].filter fun c => isControl c && !escapable.contains c := by
  unfold escape
  split_ifs with quote backslash newline tab carriage nul
  · subst quote; rfl
  · subst backslash; rfl
  · subst newline; rfl
  · subst tab; rfl
  · subst carriage; rfl
  · subst nul; rfl
  · have other : escapable.contains c = false := by
      simp [escapable, newline, tab, carriage, nul]
    simp only [List.filter_cons, other, Bool.not_false, Bool.and_true]
    rfl

theorem filter_isControl_flatMap_escape (letters : List Char) :
    (letters.flatMap escape).filter isControl =
      letters.filter fun c => isControl c && !escapable.contains c := by
  induction letters with
  | nil => rfl
  | cons c rest ih =>
      rw [List.flatMap_cons, List.filter_append, ih, filter_isControl_escape,
        ← List.filter_append, List.singleton_append]

theorem filter_isControl_renderLetters (letters : List Char) :
    (renderLetters letters).filter isControl = rawControls letters := by
  unfold renderLetters rawControls
  split
  case isTrue quoted =>
    have marks : ['"'].filter isControl = [] := rfl
    rw [← List.singleton_append, List.filter_append, List.filter_append, marks,
      filter_isControl_flatMap_escape, List.nil_append, List.append_nil]
    simp only [quoted, Bool.true_and]
  case isFalse bare =>
    simp only [bare, Bool.false_and, Bool.not_false, Bool.and_true]

theorem filter_isControl_renderWords (words : List (List Char)) :
    (renderWords words).filter isControl = words.flatMap rawControls := by
  fun_induction renderWords words with
  | case1 => rfl
  | case2 word =>
      rw [filter_isControl_renderLetters, List.flatMap_singleton]
  | case3 word next rest ih =>
      have space : [' '].filter isControl = [] := rfl
      rw [← List.singleton_append, List.filter_append, List.filter_append, space, ih,
        filter_isControl_renderLetters, List.nil_append, ← List.flatMap_cons]

/-- A line or a tab makes an argument quoted, and has an escape then. -/
theorem not_mem_rawControls {c : Char} (delicate : isDelicate c = true)
    (escaped : c ∈ escapable) (letters : List Char) : c ∉ rawControls letters := by
  intro shown
  obtain ⟨member, raw⟩ := List.mem_filter.mp shown
  have quoted : needsQuotes letters = true := by
    rw [needsQuotes, List.any_eq_true.mpr ⟨c, member, delicate⟩, Bool.or_true]
  simp [quoted, escaped] at raw

theorem not_mem_render {c : Char} (delicate : isDelicate c = true) (escaped : c ∈ escapable)
    (control : isControl c = true) (argv : Argv) : c ∉ argv.render.toList := by
  intro shown
  have raw : c ∈ (argv.map String.toList).flatMap rawControls := by
    rw [← filter_isControl_renderWords]
    apply List.mem_filter.mpr
    exact ⟨by rwa [render, String.toList_ofList] at shown, control⟩
  obtain ⟨letters, -, member⟩ := List.mem_flatMap.mp raw
  exact not_mem_rawControls delicate escaped letters member

/-! ## Quotation marks -/

def backslashes (text : List Char) : Nat :=
  (text.reverse.takeWhile (· == '\\')).length

/-- Whether a backslash takes what comes after a text. -/
def taking (text : List Char) : Bool :=
  text.foldl (fun taken c => !taken && c == '\\') false

theorem taking_concat (text : List Char) (c : Char) :
    taking (text ++ [c]) = (!taking text && c == '\\') :=
  List.foldl_append

theorem taking_eq_false_iff (text : List Char) :
    taking text = false ↔ Even (backslashes text) := by
  induction text using List.reverseRecOn with
  | nil => simp [taking, backslashes]
  | append_singleton text c ih =>
      rw [taking_concat]
      by_cases backslash : c = '\\'
      · have more : backslashes (text ++ [c]) = backslashes text + 1 := by
          simp [backslashes, backslash]
        rw [more, Nat.even_add_one, ← ih]
        simp [backslash]
      · have none : backslashes (text ++ [c]) = 0 := by
          simp [backslashes, backslash]
        simp [none, backslash]

/-- Nothing is taken after an escape, unless it was before. -/
theorem taking_append_escape {text : List Char} (free : taking text = false) (c : Char) :
    taking (text ++ escape c) = false := by
  unfold escape
  split_ifs with quote backslash
  all_goals simp_all [taking]

theorem taking_append_flatMap_escape {text : List Char} (free : taking text = false)
    (letters : List Char) : taking (text ++ letters.flatMap escape) = false := by
  induction letters generalizing text with
  | nil => rwa [List.flatMap_nil, List.append_nil]
  | cons c rest ih =>
      rw [List.flatMap_cons, ← List.append_assoc]
      exact ih (taking_append_escape free c)

theorem eq_backslash_of_escape {c : Char} {before after : List Char}
    (quote : escape c = before ++ '"' :: after) : before = ['\\'] := by
  unfold escape at quote
  split_ifs at quote with mark
  all_goals simp [List.cons_eq_append_iff] at quote
  · exact quote.1
  · exact absurd quote.2.1.symm mark

/-- A quotation mark among escaped letters is taken by a backslash. -/
theorem taking_of_quote {text before after letters : List Char} (free : taking text = false)
    (quote : letters.flatMap escape = before ++ '"' :: after) :
    taking (text ++ before) = true := by
  induction letters generalizing text before with
  | nil => simp at quote
  | cons c rest ih =>
      rw [List.flatMap_cons] at quote
      rcases List.append_eq_append_iff.mp quote with
        ⟨later, rfl, left⟩ | ⟨others, whole, left⟩
      · rw [← List.append_assoc]
        exact ih (taking_append_escape free c) left
      · cases others with
        | nil =>
            rw [List.append_nil] at whole
            have again : taking (text ++ escape c ++ []) = true :=
              ih (taking_append_escape free c) left.symm
            rwa [List.append_nil, whole] at again
        | cons mark others =>
            obtain ⟨rfl, -⟩ := List.cons.inj left
            rw [eq_backslash_of_escape whole, taking_concat, free]
            rfl

/-- The marks around a quoted argument are those that no backslash takes. -/
theorem renderLetters_marks {letters before after : List Char}
    (quoted : needsQuotes letters = true)
    (mark : renderLetters letters = before ++ '"' :: after) :
    Even (backslashes before) ↔ before = [] ∨ after = [] := by
  have free : taking ['"'] = false := rfl
  have shown : '"' :: (letters.flatMap escape ++ ['"']) = before ++ '"' :: after := by
    rw [← mark, renderLetters, if_pos quoted, List.cons_append]
  rw [← taking_eq_false_iff]
  cases before with
  | nil => exact iff_of_true rfl (.inl rfl)
  | cons first before =>
      obtain ⟨rfl, inner⟩ := List.cons.inj shown
      rcases List.eq_nil_or_concat after with rfl | ⟨after, last, rfl⟩
      · have closing : letters.flatMap escape = before := (List.append_inj' inner rfl).1
        refine iff_of_true ?_ (.inr rfl)
        rw [← closing]
        exact taking_append_flatMap_escape free letters
      · rw [List.concat_eq_append, List.append_eq, ← List.cons_append,
          ← List.append_assoc] at inner
        have quote : letters.flatMap escape = before ++ '"' :: after :=
          (List.append_inj' inner rfl).1
        have taken := taking_of_quote free quote
        refine iff_of_false ?_ ?_
        · rw [Bool.not_eq_false]
          exact taken
        · simp

/-! ## Command lines -/

theorem needsQuotes_iff (argument : String) :
    needsQuotes argument.toList = true ↔
      argument = "" ∨ ∃ c ∈ argument.toList, c ∈ [' ', '\t', '\n', '\''] := by
  simp [needsQuotes, isDelicate, or_assoc]

theorem toList_render_singleton (argument : String) :
    (render [argument]).toList = renderLetters argument.toList :=
  String.toList_ofList

/--
What people see of a command line.  An argument that is empty or holds a blank, a line or
a single quote is shown between two quotation marks; these are the only ones in it that no
backslash takes, and of the control characters that it holds a line, a tab, a carriage
return and a null are not shown as such, but all others are.  So the control characters on
a line are those, in turn, that are left of each argument; and a line or a tab is never
one of them.
-/
theorem render_legible (argv : Argv) :
    (∀ argument : String,
      (argument = "" ∨ ∃ c ∈ argument.toList, c ∈ [' ', '\t', '\n', '\'']) →
      let shown := (render [argument]).toList
      (∃ body, shown = '"' :: body ++ ['"']) ∧
        (∀ before after, shown = before ++ '"' :: after →
          (Even (backslashes before) ↔ before = [] ∨ after = [])) ∧
        ∀ c, isControl c = true → (c ∈ shown ↔ c ∈ argument.toList ∧ c ∉ escapable)) ∧
    argv.render.toList.filter isControl =
      argv.flatMap (fun argument => rawControls argument.toList) ∧
    '\n' ∉ argv.render.toList ∧ '\t' ∉ argv.render.toList := by
  refine ⟨?_, ?_, ?_, ?_⟩
  · intro argument delicate shown
    have quoted := (needsQuotes_iff argument).mpr delicate
    have letters : shown = renderLetters argument.toList := toList_render_singleton argument
    refine ⟨⟨argument.toList.flatMap escape, ?_⟩, ?_, ?_⟩
    · rw [letters, renderLetters, if_pos quoted]
    · intro before after mark
      exact renderLetters_marks quoted (letters ▸ mark)
    · intro c control
      have kept : c ∈ shown ↔ c ∈ rawControls argument.toList := by
        rw [letters, ← filter_isControl_renderLetters, List.mem_filter]
        simp only [control, and_true]
      rw [kept, rawControls, List.mem_filter]
      simp [control, quoted]
  · rw [render, String.toList_ofList, filter_isControl_renderWords, List.flatMap_map]
  · exact not_mem_render rfl (by decide) rfl argv
  · exact not_mem_render rfl (by decide) rfl argv

/-- A carriage return beside a space is shown by its escape. -/
theorem returning_legible :
    (∃ c ∈ "a \r".toList, c ∈ [' ', '\t', '\n', '\'']) ∧
      '\r' ∉ (render ["a \r"]).toList := by
  have spaced : ∃ c ∈ "a \r".toList, c ∈ [' ', '\t', '\n', '\''] :=
    ⟨' ', by decide, by decide⟩
  obtain ⟨quoted, -⟩ := render_legible ["a \r"]
  obtain ⟨-, -, controls⟩ := quoted "a \r" (.inr spaced)
  refine ⟨spaced, fun shown => ?_⟩
  exact absurd ((controls '\r' rfl).mp shown).2 (by decide)

/-- A bell is shown as such, although it stands between quotation marks. -/
theorem ringing_not_legible :
    needsQuotes "ding \x07".toList = true ∧ isControl '\x07' = true ∧
      '\x07' ∈ (render ["ding \x07"]).toList ∧
      '\x07' ∈ (render ["echo", "ding \x07"]).toList :=
  ⟨by decide, by decide, by decide, by decide⟩

end PlanGuard.Argv
