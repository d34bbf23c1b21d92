import PlanGuard.Text.Blank
import Mathlib.Data.List.Basic

/-!
# How a text falls into words

A word is a run of characters that are not blank, and it ends where the text ends
or a blank begins.  `FallsInto` says so of a text and a list of words; `words`
finds the list of every text.
-/

namespace PlanGuard.Text

/-- The letters are those words, with blanks before, between and after them. -/
inductive FallsInto : List Char → List String → Prop where
  | blank {letters : List Char} (blank : ∀ c ∈ letters, isBlank c = true) :
      FallsInto letters []
  | word {before word rest : List Char} {words : List String}
      (blank : ∀ c ∈ before, isBlank c = true) (nonempty : word ≠ [])
      (solid : ∀ c ∈ word, isBlank c = false)
      (ends : ∀ c ∈ rest.head?, isBlank c = true) (further : FallsInto rest words) :
      FallsInto (before ++ word ++ rest) (String.ofList word :: words)

namespace FallsInto

theorem cons_blank {c : Char} {letters : List Char} {words : List String}
    (blank : isBlank c = true) (falls : FallsInto letters words) :
    FallsInto (c :: letters) words := by
  cases falls with
  | blank all => exact .blank (List.forall_mem_cons.mpr ⟨blank, all⟩)
  | @word before word rest words all nonempty solid ends further =>
      have blanks : ∀ letter ∈ c :: before, isBlank letter = true :=
        List.forall_mem_cons.mpr ⟨blank, all⟩
      exact .word blanks nonempty solid ends further

/-- A word, complete or yet to be begun, in front of a text that no letter continues. -/
theorem finishWord {current letters : List Char} {words : List String}
    (solid : ∀ c ∈ current, isBlank c = false)
    (ends : ∀ c ∈ letters.head?, isBlank c = true) (falls : FallsInto letters words) :
    FallsInto (current.reverse ++ letters) (Text.finishWord current ++ words) := by
  cases current with
  | nil => exact falls
  | cons c current =>
      have whole : FallsInto ([] ++ (c :: current).reverse ++ letters)
          (Text.finishWord (c :: current) ++ words) :=
        .word (fun _ member => absurd member List.not_mem_nil) (by simp)
          (fun letter member => solid letter (List.mem_reverse.mp member)) ends falls
      rwa [List.nil_append] at whole

end FallsInto

theorem fallsInto_wordsFrom (current : List Char)
    (solid : ∀ c ∈ current, isBlank c = false) (letters : List Char) :
    FallsInto (current.reverse ++ letters) (wordsFrom current letters) := by
  induction letters generalizing current with
  | nil =>
      have last : FallsInto (current.reverse ++ []) (finishWord current ++ []) :=
        .finishWord solid (fun _ member => by cases member)
          (.blank fun _ member => absurd member List.not_mem_nil)
      rwa [List.append_nil (finishWord current)] at last
  | cons c rest ih =>
      unfold wordsFrom
      cases blank : isBlank c with
      | true =>
          rw [if_pos rfl]
          have further := ih [] (fun _ member => absurd member List.not_mem_nil)
          refine .finishWord solid ?_ (.cons_blank blank further)
          intro first member
          rwa [← Option.some.inj member]
      | false =>
          rw [if_neg Bool.false_ne_true]
          have longer := ih (c :: current) (List.forall_mem_cons.mpr ⟨blank, solid⟩)
          rwa [List.reverse_cons, List.append_assoc] at longer

theorem fallsInto_words (text : String) : FallsInto text.toList (words text) :=
  fallsInto_wordsFrom [] (fun _ member => absurd member List.not_mem_nil) _

end PlanGuard.Text
