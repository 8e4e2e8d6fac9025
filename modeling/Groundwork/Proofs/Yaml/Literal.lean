/-
Reading literal blocks.

A literal block is read by lines: the indentation and the empty lines before a line, then
the line and its end. The text of the block is what was written, but for the line end before
the next part: the signs of the block say what becomes of the line ends at its end
(`Block.AtLineStart.chomped`).
-/
import Groundwork.Proofs.Yaml.Cursor

set_option autoImplicit false

namespace Groundwork.Yaml

/-! ## Lines -/

/-- Reading on in a literal block, from inside a line, with what is read before. -/
def literalFromLine (indent fuel : Nat) (blankStart : Bool) (text : List Char) (c : Cursor) :
    Except Error Block := do
  let (line, c) := c.takeWhile (!isBreak ·)
  let (lineEnd, c) := c.readBreak
  let (empties, _, c) ← readEmptyLines indent (fuel + 1) 0 [] c
  readBlockLines true indent fuel
    { text := line.reverseAux text, lineEnd, empties, blankStart, after := c }

/-- Reading on in a literal block, from the start of a line. -/
def literalFromStart (indent lineFuel fuel widest : Nat) (b : Block) : Except Error Block := do
  let (empties, _, c) ← readEmptyLines indent lineFuel widest b.empties b.after
  readBlockLines true indent fuel { b with empties, after := c }

/-- The text of a block, with all line ends at its end. -/
def Block.whole (b : Block) : List Char :=
  b.text.reverse ++ b.lineEnd ++ b.empties.reverse

/-- A block at the start of a line: its text ends in a line, of which the line end is known,
and empty lines follow. -/
structure Block.AtLineStart (b : Block) : Prop where
  text : (b.text = [] ∧ b.lineEnd = []) ∨
    (∃ y ys, b.text = y :: ys ∧ isBreak y = false) ∧ ∃ x, isBreak x = true ∧ b.lineEnd = [x]
  empties : ∀ x ∈ b.empties, isBreak x = true

/-- A block is read as a text, up to what is less indented. -/
def ReadsBlock (result : Except Error Block) (text next : List Char) (n : Nat) : Prop :=
  ∃ b, result = .ok b ∧ b.whole = text ∧ b.AtLineStart ∧ b.after.rest = next ∧ b.after.column = n

section

variable {indent n fuel : Nat} {c : Cursor} {x : Char} {rest : List Char} {b : Block}

/-- The start of a line: spaces as far as the block is indented, or as far as there are any,
and the end of an empty line. -/
theorem readEmptyLines_succ (hc : c.rest = spaces n ++ rest) (hcolumn : c.column = 0)
    (hn : (n = indent ∧ indent ≠ 0) ∨ ((indent = 0 ∨ n < indent) ∧ rest.head? ≠ some ' '))
    (htab : rest.head? ≠ some '\t') (lineFuel widest : Nat) (empties : List Char) :
    readEmptyLines indent (lineFuel + 1) widest empties c =
      if rest.head?.any isBreak then
        readEmptyLines indent lineFuel (max widest n)
          ((c.advance n).readBreak.1.reverseAux empties) (c.advance n).readBreak.2
      else .ok (empties, max widest n, c.advance n) := by
  have hspaces : c.rest.takeWhile (· = ' ') = spaces n ++ rest.takeWhile (· = ' ') := by
    rw [hc]
    exact List.takeWhile_append_of_pos (by simp [spaces])
  have hwidth : (if indent = 0 then (c.rest.takeWhile (· = ' ')).length
      else min (c.rest.takeWhile (· = ' ')).length (indent - c.column)) = n := by
    rw [hspaces, List.length_append, length_spaces, hcolumn]
    rcases hn with ⟨rfl, hn⟩ | ⟨hn, hhead⟩
    · rw [if_neg hn]
      omega
    · have hnone : rest.takeWhile (· = ' ') = [] := by
        cases rest with
        | nil => rfl
        | cons x rest => exact List.takeWhile_cons_of_neg (by simpa using hhead)
      rw [hnone, List.length_nil]
      split <;> omega
  have hrest : (c.advance n).rest = rest := Cursor.rest_advance_spaces hc
  have htab' : (c.advance n).at? '\t' = false := by
    rwa [Cursor.at?, hrest, beq_eq_false_iff_ne]
  rw [readEmptyLines]
  simp only [hwidth, htab', Bool.and_false, Bool.false_eq_true, if_false, Cursor.head?, hrest,
    Cursor.column_advance]
  rw [hcolumn, Nat.zero_add]
  cases rest.head?.any isBreak <;> rfl

/-- An empty line. -/
theorem readEmptyLines_empty (hc : c.rest = x :: rest) (hcolumn : c.column = 0)
    (hprintable : isPrintable x = true) (hx : isBreak x = true) (lineFuel widest : Nat)
    (empties : List Char) :
    readEmptyLines indent (lineFuel + 1) widest empties c =
      readEmptyLines indent lineFuel (max widest 0) (x :: empties)
        ⟨rest, c.index + 1, c.line + 1, 0⟩ := by
  have hblank := isBlank_of_isBreak hx
  simp only [isBlank, Bool.or_eq_false_iff, decide_eq_false_iff_not] at hblank
  rw [readEmptyLines_succ (n := 0) hc hcolumn
    (.inr ⟨Nat.eq_zero_or_pos indent, by simpa using hblank.1⟩) (by simpa using hblank.2),
    Cursor.advance_zero, readBreak_of_isPrintable hc hprintable hx, List.head?_cons, Option.any_some,
    if_pos hx]
  rfl

/-- A character of a line. -/
theorem literalFromLine_cons (hc : c.rest = x :: rest) (hx : isBreak x = false) (blankStart : Bool)
    (text : List Char) :
    literalFromLine indent fuel blankStart text c =
      literalFromLine indent fuel blankStart (x :: text) (c.advance 1) := by
  have htake : c.takeWhile (!isBreak ·) =
      (x :: rest.takeWhile (!isBreak ·), c.advance ((rest.takeWhile (!isBreak ·)).length + 1)) := by
    rw [Cursor.takeWhile, hc, List.takeWhile_cons_of_pos (by simp [hx]), List.length_cons]
  have htake' : (c.advance 1).takeWhile (!isBreak ·) =
      (rest.takeWhile (!isBreak ·), c.advance ((rest.takeWhile (!isBreak ·)).length + 1)) := by
    rw [Cursor.takeWhile, Cursor.rest_advance_one hc, Cursor.advance_append, Nat.add_comm]
  rw [literalFromLine, htake, literalFromLine, htake']
  rfl

/-- The end of a line. -/
theorem literalFromLine_break (hc : c.rest = x :: rest) (hprintable : isPrintable x = true)
    (hx : isBreak x = true) (blankStart : Bool) (text : List Char) :
    literalFromLine indent fuel blankStart text c =
      literalFromStart indent (fuel + 1) fuel 0
        ⟨text, [x], [], blankStart, ⟨rest, c.index + 1, c.line + 1, 0⟩⟩ := by
  have htake : c.takeWhile (!isBreak ·) = ([], c) := by
    rw [Cursor.takeWhile, hc, List.takeWhile_cons_of_neg (by simp [hx])]
    rfl
  rw [literalFromLine, htake]
  simp only [readBreak_of_isPrintable hc hprintable hx]
  rfl

theorem readBlockLines_end (h : b.after.column ≠ indent) (fuel : Nat) :
    readBlockLines true indent fuel b = .ok b := by
  cases fuel with
  | zero => rfl
  | succ fuel =>
    rw [readBlockLines]
    simp [h]
    rfl

/-- A line that is indented as the block is belongs to it. -/
theorem readBlockLines_succ (h : b.after.column = indent) (hrest : b.after.rest ≠ []) (fuel : Nat) :
    readBlockLines true indent (fuel + 1) b =
      literalFromLine indent fuel (b.after.head?.any isBlank) (b.empties ++ b.lineEnd.reverseAux b.text)
        b.after := by
  rw [readBlockLines]
  simp only [h, ne_eq, not_true_eq_false, decide_false, Bool.false_or,
    List.isEmpty_eq_false_iff.2 hrest, Bool.false_eq_true, if_false, Bool.not_true, Bool.false_and]
  rfl

end

/-! ## The text of a block -/

/-- What is written for a text in a literal block, with the gap before the next part. -/
def literalLines (indent n : Nat) (next s : List Char) (broken : Bool) : List Char :=
  brokenLines (fun c => [c]) indent [] s broken ++ lineEnd (endsBroken broken s) ++ spaces n ++ next

/-- From the start of a line, the rest of a block is read as the text that it was written
for, whatever was read before. -/
def LiteralAtLine (indent n : Nat) (next s : List Char) : Prop :=
  ∀ (b : Block) (lineFuel fuel widest : Nat), b.after.rest = literalLines indent n next s true →
    b.after.column = 0 → b.after.rest.length < lineFuel → b.after.rest.length < fuel → b.AtLineStart →
    ReadsBlock (literalFromStart indent lineFuel fuel widest b)
      (b.whole ++ s ++ lineEnd (endsBroken true s)) next n

/-- So from inside a line. -/
def LiteralInLine (indent n : Nat) (next s : List Char) : Prop :=
  ∀ (fuel : Nat) (blankStart : Bool) (y : Char) (text : List Char) (c : Cursor),
    c.rest = literalLines indent n next s false → c.rest.length ≤ fuel → isBreak y = false →
    ReadsBlock (literalFromLine indent fuel blankStart (y :: text) c)
      ((y :: text).reverse ++ s ++ lineEnd (endsBroken false s)) next n

section

variable {indent n : Nat} {x : Char} {next s : List Char}

theorem literalLines_break (hx : isBreak x = true) (broken : Bool) :
    literalLines indent n next (x :: s) broken = x :: literalLines indent n next s true := by
  rw [literalLines, brokenLines, if_pos hx, endsBroken_cons, hx]
  rfl

theorem literalLines_char (hx : isBreak x = false) (broken : Bool) :
    literalLines indent n next (x :: s) broken =
      (if broken then spaces indent else []) ++ x :: literalLines indent n next s false := by
  rw [literalLines, brokenLines, hx, endsBroken_cons, hx, literalLines]
  cases broken <;> simp

/-- A block ends before what is less indented. -/
theorem literalAtLine_nil (hn : n < indent) (hnext : NoGap next) : LiteralAtLine indent n next [] := by
  intro b lineFuel fuel widest hc hcolumn hline _ hb
  obtain ⟨lineFuel, rfl⟩ := Nat.exists_eq_succ_of_ne_zero (Nat.ne_zero_of_lt hline)
  have hspaces : b.after.rest = spaces n ++ next := hc
  have hlines : readEmptyLines indent (lineFuel + 1) widest b.empties b.after =
      .ok (b.empties, max widest n, b.after.advance n) := by
    rw [readEmptyLines_succ hspaces hcolumn (.inr ⟨.inr hn, fun h => (hnext.head h).1.1 rfl⟩)
      fun h => (hnext.head h).1.2.1 rfl, hnext.any_isBreak]
    rfl
  refine ⟨{ b with after := b.after.advance n }, ?_, by simp [Block.whole, lineEnd, endsBroken],
    ⟨hb.text, hb.empties⟩, Cursor.rest_advance_spaces hspaces, ?_⟩
  · rw [literalFromStart, hlines]
    exact readBlockLines_end (by simp [hcolumn]; omega) fuel
  · simp [hcolumn]

/-- A line ends before one that is not part of the text, and the text ends with it. -/
theorem LiteralAtLine.lastLine (h : LiteralAtLine indent n next []) :
    LiteralInLine indent n next [] := by
  intro fuel blankStart y text c hc hfuel hy
  have hc' : c.rest = '\n' :: literalLines indent n next [] true := hc
  rw [hc', List.length_cons] at hfuel
  rw [literalFromLine_break hc' (by decide) (by decide)]
  have hnext := h ⟨y :: text, ['\n'], [], blankStart,
    ⟨literalLines indent n next [] true, c.index + 1, c.line + 1, 0⟩⟩ (fuel + 1) fuel 0 rfl rfl
    (by simp only; omega) (by simp only; omega) ⟨.inr ⟨⟨y, text, rfl, hy⟩, '\n', by decide, rfl⟩, by simp⟩
  simpa [Block.whole, lineEnd, endsBroken] using hnext

/-- At the start of a line, a line end is that of an empty one. -/
theorem LiteralAtLine.emptyLine (hprintable : isPrintable x = true) (hx : isBreak x = true)
    (h : LiteralAtLine indent n next s) : LiteralAtLine indent n next (x :: s) := by
  intro b lineFuel fuel widest hc hcolumn hline hfuel hb
  obtain ⟨lineFuel, rfl⟩ := Nat.exists_eq_succ_of_ne_zero (Nat.ne_zero_of_lt hline)
  rw [literalLines_break hx] at hc
  rw [hc, List.length_cons] at hline hfuel
  rw [literalFromStart, readEmptyLines_empty hc hcolumn hprintable hx]
  have hnext := h ⟨b.text, b.lineEnd, x :: b.empties, b.blankStart,
    ⟨literalLines indent n next s true, b.after.index + 1, b.after.line + 1, 0⟩⟩ lineFuel fuel
    (max widest 0) rfl rfl
    (by simp only; omega) (by simp only; omega) ⟨hb.text, by simpa [hx] using hb.empties⟩
  simpa [endsBroken_cons, hx, Block.whole, literalFromStart] using hnext

/-- Inside a line, it is its end. -/
theorem LiteralAtLine.newline (hprintable : isPrintable x = true) (hx : isBreak x = true)
    (h : LiteralAtLine indent n next s) : LiteralInLine indent n next (x :: s) := by
  intro fuel blankStart y text c hc hfuel hy
  rw [literalLines_break hx] at hc
  rw [hc, List.length_cons] at hfuel
  rw [literalFromLine_break hc hprintable hx]
  have hnext := h ⟨y :: text, [x], [], blankStart,
    ⟨literalLines indent n next s true, c.index + 1, c.line + 1, 0⟩⟩ (fuel + 1) fuel 0 rfl rfl
    (by simp only; omega) (by simp only; omega) ⟨.inr ⟨⟨y, text, rfl, hy⟩, x, hx, rfl⟩, by simp⟩
  simpa [endsBroken_cons, hx, Block.whole] using hnext

/-- Any other character belongs to a line. -/
theorem LiteralInLine.char (hx : isBreak x = false) (h : LiteralInLine indent n next s) :
    LiteralInLine indent n next (x :: s) := by
  intro fuel blankStart y text c hc hfuel _
  rw [literalLines_char hx] at hc
  have hc' : c.rest = x :: literalLines indent n next s false := hc
  rw [hc', List.length_cons] at hfuel
  rw [literalFromLine_cons hc' hx]
  have hnext := h fuel blankStart x (y :: text) (c.advance 1) (Cursor.rest_advance_one hc')
    (by rw [Cursor.rest_advance_one hc']; omega) hx
  simpa [endsBroken_cons, hx] using hnext

/-- At the start of a line it stands after the indentation of the block. -/
theorem LiteralInLine.firstChar (hindent : indent ≠ 0) (hx : isBreak x = false) (htab : x ≠ '\t')
    (h : LiteralInLine indent n next s) : LiteralAtLine indent n next (x :: s) := by
  intro b lineFuel fuel widest hc hcolumn hline hfuel _
  obtain ⟨lineFuel, rfl⟩ := Nat.exists_eq_succ_of_ne_zero (Nat.ne_zero_of_lt hline)
  obtain ⟨fuel, rfl⟩ := Nat.exists_eq_succ_of_ne_zero (Nat.ne_zero_of_lt hfuel)
  rw [literalLines_char hx, if_pos rfl] at hc
  have hlines := readEmptyLines_succ hc hcolumn (.inl ⟨rfl, hindent⟩) (by simpa using htab)
    lineFuel widest b.empties
  have hafter : (b.after.advance indent).rest = x :: literalLines indent n next s false :=
    Cursor.rest_advance_spaces hc
  rw [hc, List.length_append, length_spaces, List.length_cons] at hfuel
  have hnext := h fuel ((b.after.advance indent).head?.any isBlank) x
    (b.empties ++ b.lineEnd.reverseAux b.text) ((b.after.advance indent).advance 1)
    (Cursor.rest_advance_one hafter) (by rw [Cursor.rest_advance_one hafter]; omega) hx
  rw [← literalFromLine_cons hafter hx] at hnext
  have hline : readBlockLines true indent (fuel + 1) { b with after := b.after.advance indent } = _ :=
    readBlockLines_succ (by simp [hcolumn]) (by simp [hafter]) fuel
  rw [literalFromStart, hlines]
  simp only [List.head?_cons, Option.any_some, hx, Bool.false_eq_true, if_false, bind, Except.bind]
  rw [hline]
  simpa [endsBroken_cons, hx, Block.whole] using hnext

/-- The lines of a literal block are read as the text that they were written for. -/
theorem literal_reads (hn : n < indent) (hnext : NoGap next) (s : List Char)
    (hs : ∀ x ∈ s, isPrintable x = true) :
    LiteralAtLine indent n next s ∧ LiteralInLine indent n next s := by
  induction s with
  | nil =>
    have hend : LiteralAtLine indent n next [] := literalAtLine_nil hn hnext
    exact ⟨hend, hend.lastLine⟩
  | cons x s ih =>
    obtain ⟨ihStart, ihLine⟩ := ih fun y hy => hs y (List.mem_cons_of_mem x hy)
    have hprintable := hs x List.mem_cons_self
    by_cases hx : isBreak x = true
    · exact ⟨ihStart.emptyLine hprintable hx, ihStart.newline hprintable hx⟩
    · have hbreak := Bool.eq_false_iff.2 hx
      refine ⟨ihLine.firstChar (by omega) hbreak ?_, ihLine.char hbreak⟩
      rintro rfl
      exact absurd hprintable (by decide)

end

/-! ## The signs of a block -/

/-- What is to become of the line ends at the end of a text that is written as a block. -/
def chomping (s : List Char) : Chomping :=
  match s.reverse with
  | [] => .strip
  | x :: rest =>
    if !isBreak x then .strip
    else if rest.isEmpty || rest.head?.any isBreak then .keep
    else .clip

/-- Whether the first line of a text would be taken for further indentation. -/
def startsIndented (s : List Char) : Bool :=
  s.head?.any fun x => x = ' ' || isBreak x

/-- The sign for what is to become of the line ends. -/
def Chomping.sign : Chomping → List Char
  | .strip => ['-']
  | .clip => []
  | .keep => ['+']

theorem literalHints_eq (s : List Char) :
    Page.literalHints s = (if startsIndented s then ['2'] else []) ++ (chomping s).sign := by
  rw [Page.literalHints, chomping, startsIndented]
  cases s.reverse with
  | nil => rfl
  | cons x before =>
    by_cases hx : isBreak x = true
    · by_cases hbefore : (before.isEmpty || before.head?.any isBreak) = true
      · simp only [hx, hbefore, Bool.not_true, Bool.false_eq_true, if_false, if_true]
        rfl
      · simp only [hx, hbefore, Bool.not_true, Bool.false_eq_true, if_false]
        rfl
    · simp only [hx, Bool.not_false, if_true]
      rfl

/-- The signs of a block are read as what they were written for. -/
theorem readBlockHeader_literalHints {c : Cursor} {s rest : List Char}
    (hc : c.rest = Page.literalHints s ++ '\n' :: rest) :
    ∃ index, readBlockHeader c =
      .ok (chomping s, if startsIndented s then 2 else 0, ⟨rest, index, c.line + 1, 0⟩) := by
  refine ⟨c.index + (Page.literalHints s).length + 1, ?_⟩
  rw [literalHints_eq] at hc ⊢
  generalize startsIndented s = indented at hc ⊢
  generalize chomping s = last at hc ⊢
  cases indented <;> cases last <;> (
    simp only [Chomping.sign, Bool.false_eq_true, if_false, if_true, List.nil_append,
      List.cons_append] at hc
    simp [readBlockHeader, readChomping, readIncrement, Chomping.sign, Cursor.head?, Cursor.at?,
      Cursor.advance, hc, Cursor.skipWhile, Cursor.takeWhile, isBlank, atLineEnd, isBreak,
      Cursor.skipBreak, Cursor.readBreak, bind, Except.bind, pure, Except.pure])

/-- Where a line is known to end right before the last line end, no empty lines follow. -/
theorem Block.AtLineStart.eq_of_whole {b : Block} (hb : b.AtLineStart) {before : List Char} {y z : Char}
    (h : b.whole = before ++ [y, z]) (hy : isBreak y = false) :
    b.text.reverse = before ++ [y] ∧ b.lineEnd = [z] ∧ b.empties = [] := by
  have hreverse := congrArg List.reverse h
  simp only [whole, List.reverse_append, List.reverse_reverse, List.reverse_cons, List.reverse_nil,
    List.nil_append, List.singleton_append] at hreverse
  have hnot : y ∉ b.empties := fun hmem => by
    rw [hb.empties y hmem] at hy
    cases hy
  rcases hb.text with ⟨htext, hline⟩ | ⟨⟨t, ts, htext, -⟩, x, hx, hline⟩
  · rw [htext, hline] at hreverse
    simp only [List.reverse_nil, List.append_nil] at hreverse
    exact absurd (hreverse ▸ by simp) hnot
  · rw [htext, hline] at hreverse
    have hxy : x ≠ y := by
      rintro rfl
      rw [hx] at hy
      cases hy
    match hempties : b.empties with
    | [] =>
      rw [hempties] at hreverse
      simp only [List.reverse_singleton, List.nil_append, List.cons_append,
        List.cons.injEq] at hreverse
      obtain ⟨rfl, rfl, rfl⟩ := hreverse
      exact ⟨by simp [htext], hline, rfl⟩
    | [e] =>
      rw [hempties] at hreverse
      simp only [List.reverse_singleton, List.cons_append, List.nil_append,
        List.cons.injEq] at hreverse
      exact absurd hreverse.2.1 hxy
    | e :: e' :: es =>
      rw [hempties] at hreverse hnot
      simp only [List.cons_append, List.cons.injEq] at hreverse
      exact absurd (hreverse.2.1 ▸ by simp) hnot

/-- The text of a block is what it was written for. -/
theorem Block.AtLineStart.chomped {b : Block} (hb : b.AtLineStart) {s : List Char} (hs : s ≠ [])
    (h : b.whole = s ++ Yaml.lineEnd (endsBroken true s)) :
    (match chomping s with
      | .strip => b.text
      | .clip => b.lineEnd.reverseAux b.text
      | .keep => b.empties ++ b.lineEnd.reverseAux b.text).reverse = s := by
  obtain ⟨before, x, rfl⟩ : ∃ before x, s = before ++ [x] :=
    ⟨_, _, (List.dropLast_append_getLast hs).symm⟩
  have hends : endsBroken true (before ++ [x]) = isBreak x := by simp [endsBroken]
  rw [hends] at h
  rw [chomping, List.reverse_append, List.reverse_singleton, List.singleton_append]
  by_cases hx : isBreak x = true
  · rw [hx] at h
    have hwhole : b.whole = before ++ [x] := by simpa [Yaml.lineEnd] using h
    by_cases hkeep : (before.reverse.isEmpty || before.reverse.head?.any isBreak) = true
    · simp only [hx, Bool.not_true, Bool.false_eq_true, if_false, hkeep, if_true]
      rw [← hwhole]
      simp [whole]
    · simp only [hx, Bool.not_true, Bool.false_eq_true, if_false, hkeep]
      rw [Bool.not_eq_true, Bool.or_eq_false_iff] at hkeep
      obtain ⟨y, ys, hbefore⟩ := List.exists_cons_of_ne_nil (List.isEmpty_eq_false_iff.1 hkeep.1)
      have hy : isBreak y = false := by
        have := hkeep.2
        rwa [hbefore] at this
      have heq : before = ys.reverse ++ [y] := by
        rw [← List.reverse_cons, ← hbefore, List.reverse_reverse]
      have hlast : b.whole = ys.reverse ++ [y, x] := by
        rw [hwhole, heq, List.append_assoc]
        rfl
      obtain ⟨htext, hline, -⟩ := hb.eq_of_whole hlast hy
      rw [hline, heq, ← htext]
      simp
  · rw [Bool.not_eq_true] at hx
    rw [hx] at h
    have hlast : b.whole = before ++ [x, '\n'] := by simpa [Yaml.lineEnd] using h
    obtain ⟨htext, -, -⟩ := hb.eq_of_whole hlast hx
    simp only [hx, Bool.not_false, if_true]
    exact htext

/-- What is asked of a text that is written as a literal block. -/
theorem literal_cases {s : List Char} (h : (shape s).literal = true) :
    s ≠ [] ∧ ∀ x ∈ s, isPrintable x = true := by
  cases s with
  | nil => cases h
  | cons x rest =>
    simp only [shape, Bool.and_eq_true, Bool.not_eq_true', Bool.or_eq_false_iff] at h
    refine ⟨List.cons_ne_nil _ _, ?_⟩
    simpa using h.1.2

/-- The indentation of a block is given by its signs, or shown by its first line. Either way
the block is read from there. -/
theorem exists_indentation {column n fuel : Nat} {s next : List Char} {c : Cursor} {b : Block}
    (hne : s ≠ []) (hprintable : ∀ x ∈ s, isPrintable x = true) (hcolumn : column ≠ 0)
    (hc : c.rest = literalLines column n next s true) (hstart : c.column = 0)
    (hb : literalFromStart column (fuel + 1) (fuel + 1) 0 { empties := [], after := c } = .ok b) :
    ∃ empties widest start,
      readEmptyLines (if startsIndented s then column else 0) (fuel + 1) 0 [] c =
        .ok (empties, widest, start) ∧
      readBlockLines true column (fuel + 1) { empties, after := start } = .ok b ∧
      (startsIndented s = false → widest = column) := by
  rw [literalFromStart] at hb
  cases hstarts : startsIndented s with
  | true =>
    rw [if_pos rfl]
    cases hlines : readEmptyLines column (fuel + 1) 0 [] c with
    | error e =>
      rw [hlines] at hb
      cases hb
    | ok lines =>
      rw [hlines] at hb
      exact ⟨lines.1, lines.2.1, lines.2.2, rfl, hb, nofun⟩
  | false =>
    obtain ⟨x, rest, rfl⟩ := List.exists_cons_of_ne_nil hne
    simp only [startsIndented, List.head?_cons, Option.any_some, Bool.or_eq_false_iff,
      decide_eq_false_iff_not] at hstarts
    have htab : x ≠ '\t' := by
      rintro rfl
      exact absurd (hprintable _ List.mem_cons_self) (by decide)
    rw [literalLines_char hstarts.2, if_pos rfl] at hc
    -- The first line is passed over up to its text, whether its indentation is known or not.
    have hlines (indent : Nat) (hindent : indent = column ∨ indent = 0) :
        readEmptyLines indent (fuel + 1) 0 [] c = .ok ([], max 0 column, c.advance column) := by
      have hplace : (column = indent ∧ indent ≠ 0) ∨ ((indent = 0 ∨ column < indent) ∧
          (x :: literalLines column n next rest false).head? ≠ some ' ') := by
        rcases hindent with rfl | rfl
        · exact .inl ⟨rfl, hcolumn⟩
        · exact .inr ⟨.inl rfl, by simpa using hstarts.1⟩
      rw [readEmptyLines_succ hc hstart hplace (by simpa using htab), List.head?_cons, Option.any_some,
        hstarts.2]
      rfl
    rw [hlines column (.inl rfl)] at hb
    exact ⟨_, _, _, hlines 0 (.inr rfl), hb, fun _ => Nat.zero_max column⟩

/-- A literal block is read as the text that it was written for. -/
theorem readBlock_literal {column n : Nat} {parent : Int} {s next : List Char} {c : Cursor}
    (hliteral : (shape s).literal = true)
    (hparent : (parent = -1 ∧ column = 2) ∨ ∃ k : Nat, parent = k ∧ column = k + 2)
    (hc : c.rest = Page.literalHints s ++ '\n' :: literalLines column n next s true)
    (hn : n < column) (hnext : NoGap next) {fuel : Nat} (hfuel : c.rest.length < fuel) :
    ∃ after : Cursor, readBlock true parent fuel c = .ok (s, after) ∧ after.rest = next ∧
      after.column = n := by
  obtain ⟨hne, hprintable⟩ := literal_cases hliteral
  obtain ⟨index, hheader⟩ := readBlockHeader_literalHints hc
  obtain ⟨fuel, rfl⟩ : ∃ f, fuel = f + 1 := ⟨fuel - 1, by omega⟩
  rw [hc, List.length_append, List.length_cons] at hfuel
  have hlength : (literalLines column n next s true).length < fuel + 1 := by omega
  obtain ⟨b, hb, hwhole, hstart, hafter, hend⟩ := (literal_reads hn hnext s hprintable).1
    { empties := [], after := ⟨_, index, c.line + 1, 0⟩ } (fuel + 1) (fuel + 1) 0 rfl rfl hlength hlength
    ⟨.inl ⟨rfl, rfl⟩, by simp⟩
  obtain ⟨empties, widest, start, hlines, hrest, hwidest⟩ :=
    exists_indentation (c := ⟨literalLines column n next s true, index, c.line + 1, 0⟩) hne hprintable
      (by omega) rfl rfl hb
  have hgiven : (if (if startsIndented s then 2 else 0) = 0 then 0
      else if 0 ≤ parent then parent.toNat + (if startsIndented s then 2 else 0)
      else if startsIndented s then 2 else 0) = if startsIndented s then column else 0 := by
    cases startsIndented s with
    | false => rfl
    | true => rcases hparent with ⟨rfl, rfl⟩ | ⟨k, rfl, rfl⟩ <;> simp
  have hindent : (if (if startsIndented s then column else 0) = 0 then
      max (max widest (parent + 1).toNat) 1 else if startsIndented s then column else 0) = column := by
    cases hstarts : startsIndented s with
    | true =>
      simp only [if_true]
      rw [if_neg (by omega)]
    | false =>
      rw [if_pos (by simp), hwidest hstarts]
      omega
  refine ⟨b.after, ?_, hafter, hend⟩
  rw [readBlock, hheader]
  simp only [bind, Except.bind, hgiven, hlines, hindent, hrest]
  exact congrArg (fun text => Except.ok (text, b.after)) (hstart.chomped hne hwhole)

end Groundwork.Yaml
