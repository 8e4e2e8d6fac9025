/-
Reading plain scalars.

A plain scalar is read by words and gaps too, but what ends it belongs to what follows: the
colon behind a key, or a line end before what is less indented. `PlainOn` and `PlainOver`
say what is read from a place inside a word, or inside a gap, and where.
-/
import Groundwork.Proofs.Yaml.Cursor

set_option autoImplicit false

namespace Groundwork.Yaml

/-! ## Words and gaps -/

/-- Reading on in a plain scalar in a block, from inside a gap. -/
def plainFromGap (indent gapFuel fuel : Nat) (text : List Char) (g : Gap) (c : Cursor) :
    Except Error PlainScalar := do
  let (g, c) ← readGap indent gapFuel g c
  if c.column < indent then
    return ⟨text.reverse, g.broken, c⟩
  readPlain false indent fuel text g c

/-- Reading on in a plain scalar in a block, from inside a word. -/
def plainFromWord (indent fuel : Nat) (text : List Char) (c : Cursor) : Except Error PlainScalar := do
  let n ← plainRun false c.rest
  let text := (c.rest.take n).reverseAux text
  let c := c.advance n
  if !c.head?.any (fun x => isBlank x || isBreak x) then
    return ⟨text.reverse, false, c⟩
  plainFromGap indent (fuel + 1) fuel text {} c

/-- From a place inside a word, a text is read up to a place, past the end of its line or
not. -/
def PlainOn (indent : Nat) (c : Cursor) (s : List Char) (ended : Bool) (after : Cursor) : Prop :=
  ∀ text fuel, c.rest.length ≤ fuel →
    plainFromWord indent fuel text c = .ok ⟨text.reverse ++ s, ended, after⟩

/-- So from a place inside a gap, with the blanks before it. -/
def PlainOver (indent : Nat) (blanks : List Char) (c : Cursor) (s : List Char) (ended : Bool)
    (after : Cursor) : Prop :=
  ∀ text gapFuel fuel, c.rest.length < gapFuel → c.rest.length < fuel →
    plainFromGap indent gapFuel fuel text { blanks } c =
      .ok ⟨text.reverse ++ blanks.reverse ++ s, ended, after⟩

theorem exists_plainRun (rest : List Char) : ∃ n, plainRun false rest = .ok n := by
  induction rest with
  | nil => exact ⟨0, rfl⟩
  | cons x rest ih =>
    obtain ⟨n, hn⟩ := ih
    rw [plainRun]
    simp only [Bool.false_and, Bool.false_eq_true, if_false, Bool.or_false, hn]
    split
    · exact ⟨0, rfl⟩
    · split
      · exact ⟨0, rfl⟩
      · exact ⟨n + 1, rfl⟩

/-- Whether a character before the rest of a text belongs to a word of a plain scalar. -/
def inWord (x : Char) (rest : List Char) : Prop :=
  isSolid x = true ∧ ¬ (x = ':' ∧ atGap rest = true)

section

variable {indent : Nat} {c after : Cursor} {x : Char} {s rest : List Char} {ended : Bool}

theorem plainRun_cons (hx : inWord x rest) {n : Nat} (hn : plainRun false rest = .ok n) :
    plainRun false (x :: rest) = .ok (n + 1) := by
  obtain ⟨hsolid, hcolon⟩ := hx
  rw [plainRun, hn]
  have hmark : (decide (x = ':') && atGap rest) = false := by
    simpa using hcolon
  simp [hsolid, hmark]
  rfl

/-- The first character of a word. -/
theorem readPlain_word (hc : c.rest = x :: rest) (hx : inWord x rest) (hmark : x ≠ '#')
    (hstart : c.atDocumentMark '-' = false) (hend : c.atDocumentMark '.' = false) (fuel : Nat)
    (text : List Char) (g : Gap) :
    readPlain false indent (fuel + 1) text g c =
      plainFromWord indent fuel (x :: g.foldedOnto text) (c.advance 1) := by
  obtain ⟨n, hn⟩ := exists_plainRun rest
  have hhash : c.at? '#' = false := by
    rw [Cursor.at?, hc, List.head?_cons, beq_eq_false_iff_ne]
    simpa using hmark
  have hnext : (c.advance 1).advance n = c.advance (n + 1) := by
    rw [Cursor.advance_append, Nat.add_comm]
  rw [readPlain, plainFromWord, hstart, hend, hhash, hc, plainRun_cons hx hn,
    Cursor.rest_advance_one hc, hn]
  simp [bind, Except.bind, hnext, plainFromGap]

/-- A character inside a word. -/
theorem PlainOn.char (hc : c.rest = x :: rest) (hx : inWord x rest)
    (h : PlainOn indent (c.advance 1) s ended after) : PlainOn indent c (x :: s) ended after := by
  intro text fuel hfuel
  have hword := h (x :: text) fuel (by
    rw [Cursor.rest_advance_one hc]
    rw [hc, List.length_cons] at hfuel
    omega)
  obtain ⟨n, hn⟩ := exists_plainRun rest
  have hnext : (c.advance 1).advance n = c.advance (n + 1) := by
    rw [Cursor.advance_append, Nat.add_comm]
  rw [plainFromWord, Cursor.rest_advance_one hc, hn] at hword
  rw [plainFromWord, hc, plainRun_cons hx hn]
  simp only [bind, Except.bind, hnext] at hword ⊢
  rw [List.take_succ_cons, List.reverseAux_cons, hword]
  simp

theorem plainFromWord_gap (hc : c.rest = x :: rest) (hx : isSolid x = false) (text : List Char)
    (fuel : Nat) :
    plainFromWord indent fuel text c = plainFromGap indent (fuel + 1) fuel text {} c := by
  have hrun : plainRun false (x :: rest) = .ok 0 := by
    rw [plainRun, hx]
    rfl
  have hgap : (isBlank x || isBreak x) = true := by
    rw [isSolid, Bool.and_eq_false_iff] at hx
    rw [Bool.or_eq_true]
    simpa using hx
  rw [plainFromWord, hc, hrun]
  simp [bind, Except.bind, Cursor.head?, hc, hgap]

/-- A space in a gap. -/
theorem PlainOver.blank {blanks : List Char} (hc : c.rest = ' ' :: rest)
    (h : PlainOver indent (' ' :: blanks) (c.advance 1) s ended after) :
    PlainOver indent blanks c (' ' :: s) ended after := by
  intro text gapFuel fuel hgap hfuel
  obtain ⟨gapFuel, rfl⟩ := Nat.exists_eq_succ_of_ne_zero (Nat.ne_zero_of_lt hgap)
  have hnext := h text gapFuel fuel
  rw [Cursor.rest_advance_one hc] at hnext
  rw [hc, List.length_cons] at hgap hfuel
  rw [plainFromGap] at hnext ⊢
  rw [readGap_blank hc rfl, hnext (by omega) (by omega)]
  simp

/-- A space after a word. -/
theorem PlainOn.blank (hc : c.rest = ' ' :: rest)
    (h : PlainOver indent [' '] (c.advance 1) s ended after) :
    PlainOn indent c (' ' :: s) ended after := by
  intro text fuel hfuel
  have hnext := h text fuel fuel
  rw [Cursor.rest_advance_one hc] at hnext
  rw [hc, List.length_cons] at hfuel
  rw [plainFromGap] at hnext
  rw [plainFromWord_gap hc (by decide), plainFromGap, readGap_blank hc rfl,
    hnext (by omega) (by omega)]
  simp

/-- A word after a gap. -/
theorem PlainOver.word {blanks : List Char} (hc : c.rest = x :: rest) (hx : inWord x rest)
    (hmark : x ≠ '#') (hindent : indent ≤ c.column) (hcolumn : c.column ≠ 0)
    (h : PlainOn indent (c.advance 1) s ended after) :
    PlainOver indent blanks c (x :: s) ended after := by
  intro text gapFuel fuel _ hfuel
  obtain ⟨fuel, rfl⟩ := Nat.exists_eq_succ_of_ne_zero (Nat.ne_zero_of_lt hfuel)
  have hnext := h (x :: (blanks ++ text)) fuel
  rw [Cursor.rest_advance_one hc] at hnext
  rw [hc, List.length_cons] at hfuel
  rw [plainFromGap, readGap_end (by simp [hc, hx.1])]
  simp only [bind, Except.bind]
  rw [if_neg (by omega), readPlain_word hc hx hmark (Cursor.atDocumentMark_of_column hcolumn _)
    (Cursor.atDocumentMark_of_column hcolumn _)]
  refine (hnext (by omega)).trans ?_
  simp

/-- The colon behind a key. -/
theorem PlainOn.colon (hc : c.rest = ':' :: rest) (hrest : atGap rest = true) :
    PlainOn indent c [] false c := by
  intro text fuel _
  have hrun : plainRun false (':' :: rest) = .ok 0 := by
    rw [plainRun, hrest]
    rfl
  rw [plainFromWord, hc, hrun]
  simp [bind, Except.bind, Cursor.head?, hc, isBlank, isBreak]
  rfl

/-- The end of the line. -/
theorem PlainOn.line {n : Nat} (hc : c.rest = '\n' :: (spaces n ++ rest)) (hrest : NoGap rest)
    (hend : n < indent ∨ rest = []) :
    PlainOn indent c [] true ⟨rest, c.index + 1 + n, c.line + 1, n⟩ := by
  intro text fuel hfuel
  rw [hc, List.length_cons, List.length_append, length_spaces] at hfuel
  have hgap : readGap indent (fuel + 1) {} c =
      .ok ({ broken := true, first := ['\n'] }, ⟨rest, c.index + 1 + n, c.line + 1, n⟩) := by
    have hskip : (⟨spaces n ++ rest, c.index + 1, c.line + 1, 0⟩ : Cursor).advance n =
        ⟨rest, c.index + 1 + n, c.line + 1, n⟩ := by
      simp [Cursor.advance, spaces]
    rw [readGap_break hc (by decide) (by decide), ← Nat.add_sub_of_le (by omega : n ≤ fuel)]
    refine (readGap_spaces rfl rfl _).trans ?_
    rw [hskip]
    exact readGap_end (fun x hx => hrest.isSolid hx) _
  rw [plainFromWord_gap hc (by decide), plainFromGap, hgap]
  simp only [bind, Except.bind]
  split
  · simp [pure, Except.pure]
  · next hn =>
    -- Nothing follows at the end of a text, so that reading on changes nothing.
    obtain rfl := hend.resolve_left hn
    cases fuel with
    | zero => simp [readPlain]
    | succ fuel =>
      simp [readPlain, Cursor.atDocumentMark, Cursor.at?, Cursor.head?, plainRun, bind, Except.bind,
        pure, Except.pure]

end

/-! ## Plain scalars -/

theorem inWord_of_marks {before x : Char} {s : List Char} (h : hasInnerMark before (x :: s) = false)
    (hx : isSolid x = true) (tail : List Char) : inWord x (s ++ tail) := by
  simp only [hasInnerMark, Bool.or_eq_false_iff] at h
  refine ⟨hx, ?_⟩
  rintro ⟨rfl, hgap⟩
  have hnot : gapNext s = false := by simpa using h.1.1
  cases s with
  | nil => cases hnot
  | cons y s => exact absurd hgap (Bool.eq_false_iff.1 hnot)

theorem getLast?_ne_of_cons {x y : Char} {s : List Char} (h : (x :: s).getLast? ≠ some y) :
    s.getLast? ≠ some y := by
  cases s with
  | nil => simp
  | cons z s => rwa [List.getLast?_cons_cons] at h

/-- A text that starts inside a plain scalar, before what ends it. -/
theorem plainOn_append {indent : Nat} {tail : List Char} {ended : Bool} (s : List Char)
    (hprintable : ∀ x ∈ s, isPrintable x = true ∧ isBreak x = false) (hlast : s.getLast? ≠ some ' ') :
    ∀ (before : Char) (c after : Cursor), hasInnerMark before s = false → c.rest = s ++ tail →
      indent ≤ c.column → c.column ≠ 0 → PlainOn indent (c.advance s.length) [] ended after →
      PlainOn indent c s ended after ∧
        (s ≠ [] → isSolid before = false → ∀ blanks, PlainOver indent blanks c s ended after) := by
  induction s with
  | nil =>
    intro before c after _ _ _ _ hend
    exact ⟨hend, fun h => absurd rfl h⟩
  | cons x s ih =>
    intro before c after hmarks hc hindent hcolumn hend
    have hmarks' : hasInnerMark x s = false := by
      rw [hasInnerMark, Bool.or_eq_false_iff] at hmarks
      exact hmarks.2
    obtain ⟨hon, hover⟩ := ih (fun y hy => hprintable y (List.mem_cons_of_mem x hy))
      (getLast?_ne_of_cons hlast) x (c.advance 1) after hmarks' (Cursor.rest_advance_one hc)
      (by rw [Cursor.column_advance]; omega) (by rw [Cursor.column_advance]; omega)
      (by rwa [Cursor.advance_append, Nat.add_comm])
    by_cases hx : x = ' '
    · subst hx
      have hne : s ≠ [] := by
        rintro rfl
        exact hlast rfl
      have hblank := hover hne (by decide)
      exact ⟨.blank hc (hblank _), fun _ _ blanks => .blank hc (hblank _)⟩
    · obtain ⟨hxprintable, hbreak⟩ := hprintable x List.mem_cons_self
      have hword := inWord_of_marks hmarks (isSolid_of_isPrintable hxprintable hx hbreak) tail
      refine ⟨.char hc hword hon, fun _ hbefore blanks => .word hc hword ?_ hindent hcolumn hon⟩
      rintro rfl
      simp [hasInnerMark, hbefore] at hmarks

/-- What is asked of a text that is written plain. -/
theorem plain_cases {s : List Char} (h : (shape s).plain = true) (hne : s ≠ []) :
    ∃ x rest, s = x :: rest ∧ startsLikeMark s = false ∧ barsStart x rest = false ∧
      hasInnerMark x rest = false ∧ x ≠ ' ' ∧ s.getLast? ≠ some ' ' ∧
      ∀ y ∈ s, isPrintable y = true ∧ isBreak y = false := by
  cases s with
  | nil => exact absurd rfl hne
  | cons x rest =>
    refine ⟨x, rest, rfl, ?_⟩
    simp only [shape, Bool.and_eq_true, Bool.not_eq_true', Bool.or_eq_false_iff] at h
    obtain ⟨⟨⟨⟨⟨hmark, hbars⟩, hinner⟩, hfirst, hlast⟩, hbreaks⟩, -, hprintable⟩ := h
    refine ⟨hmark, hbars, hinner, ?_, ?_, ?_⟩
    · rintro rfl
      simp at hfirst
    · intro h
      simp [h] at hlast
    · intro y hy
      rw [Bool.not_eq_false', List.all_eq_true] at hprintable
      rw [List.any_eq_false] at hbreaks
      exact ⟨hprintable y hy, Bool.eq_false_iff.2 (hbreaks y hy)⟩

/-- What starts like no document's mark stands for none, before what ends it. -/
theorem atDocumentMark_append {c : Cursor} {s : List Char} {x t : Char} {rest : List Char}
    (hc : c.rest = s ++ t :: rest) (hs : s.take 3 ≠ [x, x, x]) (ht : t ≠ x) :
    c.atDocumentMark x = false := by
  have htake : (s ++ t :: rest).take 3 ≠ [x, x, x] := by
    match s with
    | [] => simp [ht]
    | [_] => simp [ht]
    | [_, _] => simp [ht]
    | _ :: _ :: _ :: _ => simpa using hs
  rw [Cursor.atDocumentMark, hc, beq_eq_false_iff_ne.2 htake]
  simp

/-- A plain scalar is read as the text that it was written for. -/
theorem readPlain_append {indent : Nat} {s rest : List Char} {t : Char} {ended : Bool}
    {c after : Cursor} (hplain : (shape s).plain = true) (hne : s ≠ []) (hc : c.rest = s ++ t :: rest)
    (ht : t ≠ '-' ∧ t ≠ '.') (hindent : indent ≤ c.column + 1)
    (hend : PlainOn indent (c.advance s.length) [] ended after) {fuel : Nat}
    (hfuel : c.rest.length < fuel) :
    readPlain false indent fuel [] {} c = .ok ⟨s, ended, after⟩ := by
  obtain ⟨x, xs, rfl, hmark, hbars, hinner, hspace, hlast, hprintable⟩ := plain_cases hplain hne
  obtain ⟨fuel, rfl⟩ := Nat.exists_eq_succ_of_ne_zero (Nat.ne_zero_of_lt hfuel)
  simp only [barsStart, Bool.or_eq_false_iff, Bool.and_eq_false_iff] at hbars
  have hmarks : hasInnerMark 'a' (x :: xs) = false := by
    simp only [hasInnerMark, hinner, Bool.or_false, Bool.or_eq_false_iff]
    refine ⟨?_, Bool.and_eq_false_iff.2 (.inr (by decide))⟩
    rw [Bool.and_eq_false_iff]
    exact hbars.2.imp_left fun h => h.1.2
  have hhash : x ≠ '#' := by
    rintro rfl
    exact absurd hbars.1 (by decide)
  simp only [startsLikeMark, Bool.or_eq_false_iff, beq_eq_false_iff_ne] at hmark
  have hword := inWord_of_marks hmarks
    (isSolid_of_isPrintable (hprintable x List.mem_cons_self).1 hspace
      (hprintable x List.mem_cons_self).2) (t :: rest)
  have hon : PlainOn indent (c.advance 1) xs ended after :=
    (plainOn_append xs (fun y hy => hprintable y (List.mem_cons_of_mem x hy)) (getLast?_ne_of_cons hlast)
      x (c.advance 1) after hinner (Cursor.rest_advance_one hc) (by rw [Cursor.column_advance]; omega)
      (by rw [Cursor.column_advance]; omega) (by rwa [Cursor.advance_append, Nat.add_comm])).1
  rw [readPlain_word hc hword hhash (atDocumentMark_append hc hmark.1 ht.1)
    (atDocumentMark_append hc hmark.2 ht.2), hon]
  · rfl
  · have hrest : (c.advance 1).rest = xs ++ t :: rest := Cursor.rest_advance_one hc
    rw [hc, List.cons_append, List.length_cons] at hfuel
    rw [hrest]
    omega

end Groundwork.Yaml
