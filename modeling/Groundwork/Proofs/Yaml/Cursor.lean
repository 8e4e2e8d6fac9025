/-
Places in what is written. A scalar or a sign is read from the place where its text starts,
and what matters of the place after it is the rest of the text, and the line and the column
at most.

Between the words of a scalar stand gaps. Of those that are written, one is spaces on a
line, or line ends and then indentation.
-/
import Groundwork.Proofs.Yaml.Written
import Groundwork.Yaml.Scalar
import Mathlib.Data.List.TakeWhile

set_option autoImplicit false

namespace Groundwork.Yaml

/-- Whether a token starts right here, or the text is at its end. -/
def NoGap : List Char → Prop
  | [] => True
  | x :: _ => isSolid x = true ∧ x ≠ '#' ∧ x ≠ '\ufeff'

theorem NoGap.head {rest : List Char} (h : NoGap rest) {x : Char} (hx : rest.head? = some x) :
    (x ≠ ' ' ∧ x ≠ '\t' ∧ x ≠ '#' ∧ x ≠ '\ufeff') ∧ isBreak x = false := by
  cases rest with
  | nil => cases hx
  | cons y rest =>
    cases hx
    obtain ⟨hsolid, hhash, hbom⟩ := h
    simp only [isSolid, isBlank, Bool.and_eq_true, Bool.not_eq_true', Bool.or_eq_false_iff,
      decide_eq_false_iff_not] at hsolid
    exact ⟨⟨hsolid.1.1, hsolid.1.2, hhash, hbom⟩, hsolid.2⟩

theorem NoGap.isSolid {rest : List Char} (h : NoGap rest) {x : Char} (hx : rest.head? = some x) :
    isSolid x = true := by
  cases rest with
  | nil => cases hx
  | cons y rest =>
    cases hx
    exact h.1

theorem NoGap.any_isBreak {rest : List Char} (h : NoGap rest) : rest.head?.any isBreak = false := by
  cases hhead : rest.head? with
  | none => rfl
  | some x => exact (h.head hhead).2

/-! ## Places in a text -/

namespace Cursor

@[simp] theorem advance_zero (c : Cursor) : c.advance 0 = c := rfl

theorem rest_advance {c : Cursor} {run rest : List Char} (h : c.rest = run ++ rest) :
    (c.advance run.length).rest = rest := by
  rw [advance, h]
  exact List.drop_left

theorem rest_advance_one {c : Cursor} {x : Char} {rest : List Char} (h : c.rest = x :: rest) :
    (c.advance 1).rest = rest := by
  rw [advance, h]
  rfl

theorem rest_advance_spaces {c : Cursor} {n : Nat} {rest : List Char} (h : c.rest = spaces n ++ rest) :
    (c.advance n).rest = rest := by
  rw [advance, h]
  exact List.drop_left' (length_spaces n)

@[simp] theorem column_advance (c : Cursor) (n : Nat) : (c.advance n).column = c.column + n := rfl

/-- The place after a piece of a line. -/
theorem advance_append (c : Cursor) (m n : Nat) : (c.advance m).advance n = c.advance (m + n) := by
  simp [advance, Nat.add_assoc]

theorem takeWhile_append {c : Cursor} {p : Char → Bool} {run rest : List Char}
    (hrest : c.rest = run ++ rest) (hrun : ∀ x ∈ run, p x = true)
    (hend : rest.head?.all (!p ·) = true) : c.takeWhile p = (run, c.advance run.length) := by
  have htake : c.rest.takeWhile p = run := by
    rw [hrest, List.takeWhile_append_of_pos hrun]
    cases rest with
    | nil => exact List.append_nil _
    | cons x rest =>
      have hx : p x = false := by simpa using hend
      rw [List.takeWhile_cons_of_neg (by simp [hx]), List.append_nil]
  rw [takeWhile, htake]

theorem skipWhile_append {c : Cursor} {p : Char → Bool} {run rest : List Char}
    (hrest : c.rest = run ++ rest) (hrun : ∀ x ∈ run, p x = true)
    (hend : rest.head?.all (!p ·) = true) : c.skipWhile p = c.advance run.length := by
  rw [skipWhile, takeWhile_append hrest hrun hend]

/-- No document's mark stands anywhere but at the start of a line. -/
theorem atDocumentMark_of_column {c : Cursor} (h : c.column ≠ 0) (x : Char) :
    c.atDocumentMark x = false := by
  simp [atDocumentMark, h]

end Cursor

/-! ## Gaps in scalars -/

section

variable {c : Cursor} {g : Gap} {x : Char} {rest : List Char} {tabsFrom : Nat}

theorem isSolid_of_isPrintable (hprintable : isPrintable x = true) (hx : x ≠ ' ')
    (hbreak : isBreak x = false) : isSolid x = true := by
  have htab : x ≠ '\t' := by
    rintro rfl
    exact absurd hprintable (by decide)
  simp [isSolid, isBlank, hx, htab, hbreak]

theorem isBlank_of_isBreak (hbreak : isBreak x = true) : isBlank x = false := by
  by_contra hblank
  simp only [isBlank, Bool.not_eq_false, Bool.or_eq_true, decide_eq_true_eq] at hblank
  rcases hblank with rfl | rfl <;> exact absurd hbreak (by decide)

/-- The line feed and the two separators are the only line ends that are shown, and they
are read as they are. -/
theorem readBreak_of_isPrintable (hc : c.rest = x :: rest) (hprintable : isPrintable x = true)
    (hbreak : isBreak x = true) : c.readBreak = ([x], ⟨rest, c.index + 1, c.line + 1, 0⟩) := by
  have hx : x = '\n' ∨ x = '\u2028' ∨ x = '\u2029' := by
    simp only [isBreak, Bool.or_eq_true, decide_eq_true_eq] at hbreak
    rcases hbreak with (((hx | rfl) | rfl) | hx) | hx
    · exact .inl hx
    · exact absurd hprintable (by decide)
    · exact absurd hprintable (by decide)
    · exact .inr (.inl hx)
    · exact .inr (.inr hx)
  rcases hx with rfl | rfl | rfl <;> rw [Cursor.readBreak, hc] <;> rfl

/-- A space before a line end. -/
theorem readGap_blank (hc : c.rest = ' ' :: rest) (hg : g.broken = false) (fuel : Nat) :
    readGap tabsFrom (fuel + 1) g c =
      readGap tabsFrom fuel { g with blanks := ' ' :: g.blanks } (c.advance 1) := by
  rw [readGap, Cursor.head?, hc]
  simp [hg, isBlank]

theorem readGap_break (hc : c.rest = x :: rest) (hprintable : isPrintable x = true)
    (hbreak : isBreak x = true) (fuel : Nat) :
    readGap tabsFrom (fuel + 1) g c =
      readGap tabsFrom fuel (if g.broken then { g with others := x :: g.others }
        else { g with blanks := [], broken := true, first := [x] })
        ⟨rest, c.index + 1, c.line + 1, 0⟩ := by
  rw [readGap, Cursor.head?, hc]
  simp only [List.head?_cons, isBlank_of_isBreak hbreak, Bool.false_eq_true, if_false, hbreak,
    if_true, readBreak_of_isPrintable hc hprintable hbreak]
  cases g.broken <;> rfl

/-- Indentation after a line end. -/
theorem readGap_spaces {n : Nat} (hc : c.rest = spaces n ++ rest) (hg : g.broken = true)
    (fuel : Nat) : readGap tabsFrom (n + fuel) g c = readGap tabsFrom fuel g (c.advance n) := by
  induction n generalizing c with
  | zero => rw [Nat.zero_add, Cursor.advance_zero]
  | succ n ih =>
    have hc' : c.rest = ' ' :: (spaces n ++ rest) := hc
    have hread : readGap tabsFrom (n + fuel + 1) g c = readGap tabsFrom (n + fuel) g (c.advance 1) := by
      rw [readGap, Cursor.head?, hc']
      simp [isBlank, hg]
    rw [Nat.add_right_comm, hread, ih (Cursor.rest_advance_one hc'), Cursor.advance_append,
      Nat.add_comm 1]

/-- A gap ends where a word starts, or with the text. -/
theorem readGap_end (hc : ∀ x, c.rest.head? = some x → isSolid x = true) (fuel : Nat) :
    readGap tabsFrom fuel g c = .ok (g, c) := by
  cases fuel with
  | zero => rfl
  | succ fuel =>
    rw [readGap, Cursor.head?]
    cases hhead : c.rest.head? with
    | none => rfl
    | some x =>
      have hx := hc x hhead
      simp only [isSolid, Bool.and_eq_true, Bool.not_eq_true'] at hx
      simp [hx]

end

end Groundwork.Yaml
