/-
Reading the tokens of a text, piece by piece.

`Lexes` says what the lexer makes of the rest of a text from a place in blocks at some
columns: the tokens up to the end. It does not depend on the line, nor on how far the place
is, as long as no place is kept for a key. So each piece of a text has a lemma that goes
from what is made of the text after it to what is made of the text with it, and a text is
read by going through its pieces backwards.
-/
import Groundwork.Proofs.Yaml.Cursor
import Groundwork.Yaml.Lexer

set_option autoImplicit false

namespace Groundwork.Yaml

namespace Lexer

/-! ## Blocks -/

/-- The column of the innermost of some blocks. -/
def innerColumn : List Nat → Int
  | [] => -1
  | column :: _ => column

/-- The columns around the innermost of some blocks. -/
def outerColumns : List Nat → List Int
  | [] => []
  | _ :: columns => innerColumn columns :: outerColumns columns

/-- A lexer in blocks at some columns, where a key may have started at one place. -/
def inBlocks (c : Cursor) (ts : List Token) (columns : List Nat) (keyAllowed : Bool)
    (key : Option KeyPlace) : Lexer where
  cursor := c
  tokens := ts.toArray
  indent := innerColumn columns
  indents := outerColumns columns
  keyAllowed := keyAllowed
  keys := [key]

section

variable (c c' : Cursor) (ts : List Token) (columns : List Nat) (keyAllowed : Bool)
  (key : Option KeyPlace)

@[simp] theorem cursor_inBlocks : (inBlocks c ts columns keyAllowed key).cursor = c := rfl

@[simp] theorem indent_inBlocks :
    (inBlocks c ts columns keyAllowed key).indent = innerColumn columns := rfl

@[simp] theorem keyAllowed_inBlocks :
    (inBlocks c ts columns keyAllowed key).keyAllowed = keyAllowed := rfl

@[simp] theorem keys_inBlocks : (inBlocks c ts columns keyAllowed key).keys = [key] := rfl

@[simp] theorem inFlow_inBlocks : (inBlocks c ts columns keyAllowed key).inFlow = false := rfl

@[simp] theorem size_inBlocks : (inBlocks c ts columns keyAllowed key).tokens.size = ts.length :=
  List.size_toArray

@[simp] theorem move_inBlocks : (inBlocks c ts columns keyAllowed key).move c' =
    inBlocks c' ts columns keyAllowed key := rfl

@[simp] theorem push_inBlocks (t : Token) : (inBlocks c ts columns keyAllowed key).push t =
    inBlocks c (ts ++ [t]) columns keyAllowed key := by
  rw [push, inBlocks, List.push_toArray]
  rfl

@[simp] theorem dropKey_inBlocks :
    (inBlocks c ts columns keyAllowed none).dropKey = .ok (inBlocks c ts columns keyAllowed none) := rfl

@[simp] theorem dropStaleKeys_inBlocks : (inBlocks c ts columns keyAllowed none).dropStaleKeys =
    .ok (inBlocks c ts columns keyAllowed none) := rfl

end

theorem inner_cons_outer (columns : List Nat) :
    innerColumn columns :: outerColumns columns = columns.map Int.ofNat ++ [-1] := by
  induction columns with
  | nil => rfl
  | cons column columns ih => rw [outerColumns, ih]; rfl

theorem closeBlocks_of_le {s : Lexer} {column : Int} (h : s.indent ≤ column) :
    closeBlocks column s = s := by
  rw [closeBlocks]
  split
  · rfl
  · have hnot : ¬ column < s.indent := by omega
    rw [List.takeWhile_cons_of_neg (by simpa using hnot),
      List.dropWhile_cons_of_neg (by simpa using hnot)]
    simp

/-- Closing the blocks around a place. -/
theorem closeBlocks_inBlocks (c : Cursor) (ts : List Token) (columns : List Nat) (keyAllowed : Bool)
    (key : Option KeyPlace) (upto : Int) :
    closeBlocks upto (inBlocks c ts columns keyAllowed key) =
      match (innerColumn columns :: outerColumns columns).dropWhile (upto < ·) with
      | [] => inBlocks c ts columns keyAllowed key
      | indent :: indents =>
        { cursor := c
          tokens := (ts ++ ((innerColumn columns :: outerColumns columns).takeWhile (upto < ·)).map
            fun _ => Token.blockEnd).toArray
          indent, indents, keyAllowed
          keys := [key] } := by
  rw [closeBlocks, inFlow_inBlocks, if_neg (by decide)]
  simp only [inBlocks]
  cases (innerColumn columns :: outerColumns columns).dropWhile (upto < ·) with
  | nil => rfl
  | cons indent indents => rw [List.append_toArray]

/-- The innermost block is closed before the ones around it. -/
theorem closeBlocks_cons {c : Cursor} {ts : List Token} {column : Nat} {columns : List Nat}
    {keyAllowed : Bool} {key : Option KeyPlace} {upto : Int} (hupto : -1 ≤ upto) (h : upto < column) :
    closeBlocks upto (inBlocks c ts (column :: columns) keyAllowed key) =
      closeBlocks upto (inBlocks c (ts ++ [.blockEnd]) columns keyAllowed key) := by
  have hbottom : (innerColumn columns :: outerColumns columns).dropWhile (upto < ·) ≠ [] := by
    rw [Ne, List.dropWhile_eq_nil_iff, inner_cons_outer]
    intro hall
    have hlast := hall (-1) (by simp)
    rw [decide_eq_true_eq] at hlast
    omega
  have hinner : innerColumn (column :: columns) = column := rfl
  have houter : outerColumns (column :: columns) = innerColumn columns :: outerColumns columns := rfl
  rw [closeBlocks_inBlocks, closeBlocks_inBlocks, hinner, houter,
    List.takeWhile_cons_of_pos (by simpa using h), List.dropWhile_cons_of_pos (by simpa using h),
    List.map_cons, List.append_assoc, List.singleton_append]
  cases hdrop : (innerColumn columns :: outerColumns columns).dropWhile (upto < ·) with
  | nil => exact absurd hdrop hbottom
  | cons indent indents => rfl

/-- At the end of a text all blocks are closed. -/
theorem closeBlocks_all (c : Cursor) (ts : List Token) (columns : List Nat) (keyAllowed : Bool)
    (key : Option KeyPlace) :
    closeBlocks (-1) (inBlocks c ts columns keyAllowed key) =
      inBlocks c (ts ++ List.replicate columns.length .blockEnd) [] keyAllowed key := by
  induction columns generalizing ts with
  | nil =>
    rw [closeBlocks_of_le (by exact Int.le_refl _)]
    simp
  | cons column columns ih =>
    rw [closeBlocks_cons (Int.le_refl _) (by omega), ih, List.append_assoc]
    rfl

/-! ## The rest of a text -/

/-- From the rest of a text at a column, in blocks at some columns, all tokens are read. -/
def Lexes (keyAllowed : Bool) (column : Nat) (rest : List Char) (ts : List Token)
    (columns : List Nat) (out : List Token) : Prop :=
  ∀ c : Cursor, c.rest = rest → c.column = column → ∀ fuel, rest.length < fuel →
    run fuel (inBlocks c ts columns keyAllowed none) = .ok out.toArray

/-! ## Between tokens -/

/-- Spaces are passed over, and line ends. -/
theorem skipGap_succ {s : Lexer} {n : Nat} {rest : List Char}
    (hrest : s.cursor.rest = spaces n ++ rest)
    (hstop : ∀ x, rest.head? = some x → x ≠ ' ' ∧ x ≠ '\t' ∧ x ≠ '#' ∧ x ≠ '\ufeff') (fuel : Nat) :
    skipGap (fuel + 1) s =
      if rest.head?.any isBreak then
        skipGap fuel { s with
          cursor := (s.cursor.advance n).skipBreak, keyAllowed := s.keyAllowed || !s.inFlow }
      else s.move (s.cursor.advance n) := by
  have hbom : (s.cursor.index == 0 && s.cursor.at? '\ufeff') = false := by
    rw [Bool.and_eq_false_iff]
    refine .inr ?_
    rw [Cursor.at?, hrest, beq_eq_false_iff_ne]
    cases n with
    | zero => exact fun h => (hstop _ h).2.2.2 rfl
    | succ n => exact fun h => absurd (Option.some.inj h) (by decide)
  have hskip (tabs : Bool) :
      s.cursor.skipWhile (fun x => decide (x = ' ') || (tabs && decide (x = '\t'))) =
        s.cursor.advance n := by
    rw [Cursor.skipWhile_append hrest, length_spaces]
    · intro x hx
      rw [List.eq_of_mem_replicate hx]
      rfl
    · cases hhead : rest.head? with
      | none => rfl
      | some x => simp [(hstop x hhead).1, (hstop x hhead).2.1]
  have hafter := Cursor.rest_advance_spaces hrest
  have hhash : (s.cursor.advance n).at? '#' = false := by
    rw [Cursor.at?, hafter, beq_eq_false_iff_ne]
    exact fun h => (hstop _ h).2.2.1 rfl
  simp only [skipGap, hbom, Bool.false_eq_true, if_false, hskip, hhash, Cursor.head?, hafter]

theorem skipGap_of_spaces {s : Lexer} {n : Nat} {rest : List Char}
    (hrest : s.cursor.rest = spaces n ++ rest) (h : NoGap rest) (fuel : Nat) :
    skipGap (fuel + 1) s = s.move (s.cursor.advance n) := by
  rw [skipGap_succ hrest fun x hx => (h.head hx).1, h.any_isBreak]
  rfl

theorem skipGap_of_noGap {s : Lexer} (h : NoGap s.cursor.rest) (fuel : Nat) : skipGap fuel s = s := by
  cases fuel with
  | zero => rfl
  | succ fuel => exact skipGap_of_spaces (n := 0) rfl h fuel

theorem skipGap_of_line {s : Lexer} {n : Nat} {rest : List Char}
    (hrest : s.cursor.rest = '\n' :: (spaces n ++ rest)) (h : NoGap rest) (fuel : Nat) :
    skipGap (fuel + 2) s = { s with
      cursor := ⟨rest, s.cursor.index + 1 + n, s.cursor.line + 1, n⟩,
      keyAllowed := s.keyAllowed || !s.inFlow } := by
  have hbreak : (s.cursor.advance 0).skipBreak =
      ⟨spaces n ++ rest, s.cursor.index + 1, s.cursor.line + 1, 0⟩ := by
    rw [Cursor.advance_zero, Cursor.skipBreak, Cursor.readBreak, hrest]
    rfl
  rw [skipGap_succ (n := 0) hrest (by rintro x ⟨⟩; decide), if_pos (by rfl), hbreak,
    @skipGap_of_spaces _ n rest rfl h]
  simp [move, Cursor.advance, spaces]

/-- The lexer right before a token. -/
theorem run_succ {s t : Lexer} {fuel : Nat} (h : (skipGap (fuel + 1) s).dropStaleKeys = .ok t) :
    run (fuel + 1) s =
      match (t.closeBlocks t.cursor.column).cursor.rest with
      | [] => (t.closeBlocks t.cursor.column).leaveBlocks.map Lexer.tokens
      | x :: rest =>
        (t.closeBlocks t.cursor.column).readToken (fuel + 1) x rest >>= run fuel := by
  rw [run]
  simp only [h]
  rfl

variable {c : Cursor} {ts : List Token} {columns : List Nat} {out : List Token}
  {keyAllowed : Bool} {column n : Nat} {rest : List Char} {key : Option KeyPlace}

theorem dropStaleKeys_skipGap (hc : NoGap c.rest) (fuel : Nat) :
    (skipGap fuel (inBlocks c ts columns keyAllowed none)).dropStaleKeys =
      .ok (inBlocks c ts columns keyAllowed none) := by
  rw [skipGap_of_noGap (s := inBlocks c ts columns keyAllowed none) hc, dropStaleKeys_inBlocks]

/-- A place that was kept on an earlier line is given up. -/
theorem dropStaleKeys_of_line
    (hkey : ∀ p, key = some p → p.required = false ∧ p.line < c.line) :
    (inBlocks c ts columns keyAllowed key).dropStaleKeys =
      .ok (inBlocks c ts columns keyAllowed none) := by
  cases key with
  | none => rfl
  | some p =>
    obtain ⟨hrequired, hline⟩ := hkey p rfl
    have hopen : KeyPlace.isOpen p c = false := by
      rw [KeyPlace.isOpen, beq_eq_false_iff_ne.2 (by omega : p.line ≠ c.line)]
      rfl
    rw [dropStaleKeys]
    simp [hrequired, hopen, inBlocks]

/-- A lexer that has passed over a gap goes on as one that starts there. -/
theorem run_of_skipGap (c : Cursor) {s : Lexer} {fuel : Nat}
    (h : (skipGap (fuel + 1) s).dropStaleKeys = .ok (inBlocks c ts columns keyAllowed none))
    (hc : NoGap c.rest) :
    run (fuel + 1) s = run (fuel + 1) (inBlocks c ts columns keyAllowed none) := by
  rw [run_succ h, run_succ (dropStaleKeys_skipGap hc _)]

/-- A space between tokens. -/
theorem Lexes.space (h : Lexes keyAllowed (column + 1) rest ts columns out) (hrest : NoGap rest) :
    Lexes keyAllowed column (' ' :: rest) ts columns out := by
  intro c hc hcolumn fuel hfuel
  obtain ⟨fuel, rfl⟩ := Nat.exists_eq_succ_of_ne_zero (Nat.ne_zero_of_lt hfuel)
  have hnext : (c.advance 1).rest = rest := Cursor.rest_advance_one hc
  rw [List.length_cons] at hfuel
  have hskip : (skipGap (fuel + 1) (inBlocks c ts columns keyAllowed none)).dropStaleKeys =
      .ok (inBlocks (c.advance 1) ts columns keyAllowed none) := by
    rw [skipGap_of_spaces (s := inBlocks c ts columns keyAllowed none) (n := 1) hc hrest]
    rfl
  rw [Nat.succ_eq_add_one, run_of_skipGap _ hskip (by rwa [hnext])]
  exact h _ hnext (congrArg (· + 1) hcolumn) _ (by omega)

/-- After a token that might have been a key, before a new line. -/
theorem run_of_line (h : Lexes true n rest ts columns out) (hrest : NoGap rest)
    (hc : c.rest = '\n' :: (spaces n ++ rest))
    (hkey : ∀ p, key = some p → p.required = false ∧ p.line ≤ c.line) {fuel : Nat}
    (hfuel : c.rest.length < fuel) :
    run fuel (inBlocks c ts columns keyAllowed key) = .ok out.toArray := by
  obtain ⟨fuel, rfl⟩ : ∃ f, fuel = f + 2 := by
    rw [hc, List.length_cons] at hfuel
    exact ⟨fuel - 2, by omega⟩
  have hskip : skipGap (fuel + 2) (inBlocks c ts columns keyAllowed key) =
      inBlocks ⟨rest, c.index + 1 + n, c.line + 1, n⟩ ts columns true key := by
    rw [skipGap_of_line (s := inBlocks c ts columns keyAllowed key) hc hrest, inFlow_inBlocks]
    simp [inBlocks]
  have hstale : (skipGap (fuel + 2) (inBlocks c ts columns keyAllowed key)).dropStaleKeys =
      .ok (inBlocks ⟨rest, c.index + 1 + n, c.line + 1, n⟩ ts columns true none) := by
    rw [hskip]
    exact dropStaleKeys_of_line fun p hp => ⟨(hkey p hp).1, Nat.lt_succ_of_le (hkey p hp).2⟩
  rw [hc, List.length_cons, List.length_append] at hfuel
  rw [run_of_skipGap _ hstale hrest]
  exact h _ rfl rfl _ (by omega)

/-- After a token that might have been a key, on a later line. -/
theorem run_of_later (h : Lexes true n rest ts columns out) (hrest : NoGap rest)
    (hc : c.rest = rest) (hcolumn : c.column = n)
    (hkey : ∀ p, key = some p → p.required = false ∧ p.line < c.line) {fuel : Nat}
    (hfuel : rest.length < fuel) :
    run fuel (inBlocks c ts columns true key) = .ok out.toArray := by
  obtain ⟨fuel, rfl⟩ := Nat.exists_eq_succ_of_ne_zero (Nat.ne_zero_of_lt hfuel)
  have hgap : NoGap c.rest := by rwa [hc]
  have hstale : (skipGap (fuel + 1) (inBlocks c ts columns true key)).dropStaleKeys =
      .ok (inBlocks c ts columns true none) := by
    rw [skipGap_of_noGap (s := inBlocks c ts columns true key) hgap]
    exact dropStaleKeys_of_line hkey
  rw [Nat.succ_eq_add_one, run_of_skipGap _ hstale hgap]
  exact h _ hc hcolumn _ hfuel

/-- A line end between tokens, and the indentation of the next line. -/
theorem Lexes.line (h : Lexes true n rest ts columns out) (hrest : NoGap rest) :
    Lexes keyAllowed column ('\n' :: (spaces n ++ rest)) ts columns out := by
  intro c hc _ fuel hfuel
  exact run_of_line h hrest hc (by simp) (by rwa [hc])

/-- A block ends before what is less indented. -/
theorem Lexes.dedent (h : Lexes keyAllowed n rest (ts ++ [.blockEnd]) columns out)
    (hrest : NoGap rest) (hn : n < column) :
    Lexes keyAllowed n rest ts (column :: columns) out := by
  intro c hc hcolumn fuel hfuel
  have hrun := h c hc hcolumn fuel hfuel
  obtain ⟨fuel, rfl⟩ := Nat.exists_eq_succ_of_ne_zero (Nat.ne_zero_of_lt hfuel)
  have hgap : NoGap c.rest := by rwa [hc]
  rw [Nat.succ_eq_add_one, run_succ (dropStaleKeys_skipGap hgap _), cursor_inBlocks] at hrun ⊢
  rw [closeBlocks_cons (by omega) (by omega)]
  exact hrun

/-- The end of a text. -/
theorem Lexes.nil (hcolumns : innerColumn columns ≤ 0) :
    Lexes true 0 [] ts columns (ts ++ List.replicate columns.length .blockEnd) := by
  intro c hc hcolumn fuel hfuel
  obtain ⟨fuel, rfl⟩ := Nat.exists_eq_succ_of_ne_zero (Nat.ne_zero_of_lt hfuel)
  have hgap : NoGap c.rest := by
    rw [hc]
    trivial
  have hclose : closeBlocks c.column (inBlocks c ts columns true none) =
      inBlocks c ts columns true none := closeBlocks_of_le (by rwa [hcolumn])
  rw [Nat.succ_eq_add_one, run_succ (dropStaleKeys_skipGap hgap _), cursor_inBlocks, hclose,
    cursor_inBlocks, hc, leaveBlocks, closeBlocks_all]
  rfl

end Lexer

end Groundwork.Yaml
