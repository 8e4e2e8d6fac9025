/-
Words on lines. What stands between white space is read word for word: words that are
joined with spaces are read back (`words_joined`), so every list of words is the list of
the words of some text. Where a line ends makes no difference to its words, and what
follows its line feed has no part in them (`words_firstLine_append`).
-/
import Groundwork.Text.Line
import Mathlib.Data.List.Basic

set_option autoImplicit false

namespace Groundwork.Text

/-- A word: a text with something in it, and no white space. -/
def IsWord (w : List Char) : Prop :=
  w ≠ [] ∧ ∀ c ∈ w, isBlank c = false

instance (w : List Char) : Decidable (IsWord w) :=
  decidable_of_iff (w.isEmpty = false ∧ w.all (fun c => !isBlank c) = true) (by simp [IsWord])

variable {w : List Char}

/-! ## Words that are joined -/

/-- The letters of a word go to the word that is being read. -/
theorem wordsAfter_append (hw : ∀ c ∈ w, isBlank c = false) (before rest : List Char) :
    wordsAfter before (w ++ rest) = wordsAfter (w.reverse ++ before) rest := by
  induction w generalizing before with
  | nil => rfl
  | cons c w ih =>
    obtain ⟨hc, hw⟩ := List.forall_mem_cons.1 hw
    rw [List.cons_append, wordsAfter, hc, if_neg Bool.false_ne_true, ih hw, List.reverse_cons,
      List.append_assoc]
    rfl

theorem words_word (hw : IsWord w) : words w = [w] := by
  obtain ⟨hne, hsolid⟩ := hw
  have hread := wordsAfter_append hsolid [] []
  rw [List.append_nil, List.append_nil] at hread
  have hsome : w.reverse.isEmpty = false := by simpa using hne
  rw [words, hread, wordsAfter, hsome, if_neg Bool.false_ne_true, List.reverse_reverse]

/-- A word ends where white space begins. -/
theorem words_word_append (hw : IsWord w) {b : Char} (hb : isBlank b = true) (rest : List Char) :
    words (w ++ b :: rest) = w :: words rest := by
  obtain ⟨hne, hsolid⟩ := hw
  have hsome : w.reverse.isEmpty = false := by simpa using hne
  rw [words, wordsAfter_append hsolid, List.append_nil, wordsAfter, hb, if_pos rfl, hsome,
    if_neg Bool.false_ne_true, List.reverse_reverse, words]

/-- Words that are joined with spaces are read back. -/
theorem words_joined {ws : List (List Char)} (h : ∀ w ∈ ws, IsWord w) :
    words ([' '].intercalate ws) = ws := by
  induction ws with
  | nil => rfl
  | cons w ws ih =>
    obtain ⟨hw, hws⟩ := List.forall_mem_cons.1 h
    cases ws with
    | nil =>
      rw [List.intercalate_singleton]
      exact words_word hw
    | cons w' ws =>
      rw [List.intercalate_cons_cons, List.append_assoc, List.singleton_append,
        words_word_append hw (by decide), ih hws]

/-- They all stand on one line. -/
theorem newline_notMem_joined {ws : List (List Char)} (h : ∀ w ∈ ws, IsWord w) :
    '\n' ∉ [' '].intercalate ws := by
  have hblank : isBlank '\n' = true := by decide
  induction ws with
  | nil => exact List.not_mem_nil
  | cons w ws ih =>
    obtain ⟨hw, hws⟩ := List.forall_mem_cons.1 h
    have hnot : '\n' ∉ w := fun hmem => by
      rw [hw.2 _ hmem] at hblank
      cases hblank
    cases ws with
    | nil => rwa [List.intercalate_singleton]
    | cons w' ws =>
      rw [List.intercalate_cons_cons, List.append_assoc, List.mem_append, not_or]
      refine ⟨hnot, fun hmem => ?_⟩
      rcases List.mem_cons.1 hmem with hspace | hrest
      · cases hspace
      · exact ih hws hrest

/-! ## Words on a first line -/

theorem wordsAfter_concat {b : Char} (hb : isBlank b = true) (before s : List Char) :
    wordsAfter before (s ++ [b]) = wordsAfter before s := by
  induction s generalizing before with
  | nil =>
    cases before with
    | nil => simp [wordsAfter, hb]
    | cons c before => simp [wordsAfter, hb]
  | cons c s ih =>
    rw [List.cons_append, wordsAfter, wordsAfter]
    split
    · rw [ih]
    · exact ih (c :: before)

theorem firstLine_of_notMem {line : List Char} (h : '\n' ∉ line) : firstLine line = line := by
  rw [firstLine, splitFirst?_eq_none.2 h]

theorem words_dropLineReturn (s : List Char) : words (dropLineReturn s) = words s := by
  unfold dropLineReturn
  split
  · next hlast =>
    obtain ⟨line, rfl⟩ := List.getLast?_eq_some_iff.1 hlast
    rw [List.dropLast_concat, words, words, wordsAfter_concat (by decide)]
  · rfl

/-- What follows the first line has no part in its words. -/
theorem words_firstLine_append {line : List Char} (h : '\n' ∉ line) (rest : List Char) :
    words (firstLine (line ++ '\n' :: rest)) = words (firstLine line) := by
  have hsplit : splitFirst? '\n' (line ++ '\n' :: rest) = some (line, rest) :=
    splitFirst?_eq_some.2 ⟨rfl, h⟩
  rw [firstLine, hsplit, firstLine_of_notMem h]
  exact words_dropLineReturn line

end Groundwork.Text
