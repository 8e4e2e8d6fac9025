/-
Reading what stands between quotes.

A quoted scalar is read by words and gaps. `ReadsOn` and `ReadsOver` say that from a place
inside a word, or inside a gap, the rest is read as a text. They go backwards over what is
written, character by character, and between double quotes over the escapes.
-/
import Groundwork.Proofs.Yaml.Cursor
import Mathlib.Tactic.IntervalCases

set_option autoImplicit false

namespace Groundwork.Yaml

/-! ## Codes -/

theorem hexDigit?_digitChar {d : Nat} (h : d < 16) : hexDigit? d.digitChar.toUpper = some d := by
  interval_cases d <;> rfl

theorem hexNumber?_toDigits (n : Nat) :
    hexNumber? ((Nat.toDigits 16 n).map Char.toUpper) = some n := by
  induction n using Nat.strong_induction_on with
  | _ n ih =>
    rw [Nat.toDigits_eq_if (by decide)]
    split
    · next h => simp [hexNumber?, hexDigit?_digitChar h]
    · next h =>
      have hrest := ih (n / 16) (by omega)
      rw [hexNumber?] at hrest ⊢
      rw [List.map_append, List.foldlM_append, hrest]
      simp [hexDigit?_digitChar (Nat.mod_lt n (by decide : 16 > 0))]
      omega

/-- A code is read as it was written. -/
theorem hexNumber?_hex (width n : Nat) : hexNumber? (Page.hex width n) = some n := by
  have hzeros (k : Nat) : (List.replicate k '0').foldlM
      (fun n d => (hexDigit? d).map (n * 16 + ·)) 0 = some 0 := by
    induction k with
    | zero => rfl
    | succ k ih => exact ih
  rw [Page.hex, hexNumber?, List.foldlM_append, hzeros]
  exact hexNumber?_toDigits n

theorem length_hex {width n : Nat} (hwidth : 0 < width) (hn : n < 16 ^ width) :
    (Page.hex width n).length = width := by
  have hlength := (Nat.length_toDigits_le_iff (by decide : 1 < 16) hwidth).2 hn
  rw [Page.hex, List.length_append, List.length_replicate, List.length_map]
  omega

/-! ## Between double quotes -/

/-- Every character has a code that may be written. -/
theorem toNat_code (x : Char) :
    ¬ (0xD800 ≤ x.toNat ∧ x.toNat ≤ 0xDFFF) ∧ ¬ 0x10FFFF < x.toNat := by
  rcases x.valid with hvalid | hvalid
  · have hlt : x.toNat < 0xD800 := hvalid
    omega
  · have hlt : 0xDFFF < x.toNat ∧ x.toNat < 0x110000 := hvalid
    omega

theorem readEscape_code {x : Char} {letter : Char} {width : Nat} (hwidth : 0 < width)
    (hletter : escapeOf? letter = some (.inr width)) (hx : x.toNat < 16 ^ width) {c : Cursor}
    {rest : List Char} (hc : c.rest = letter :: Page.hex width x.toNat ++ rest) :
    readEscape c = .ok (x, c.advance ((Page.hex width x.toNat).length + 1)) := by
  have hlength := length_hex hwidth hx
  have hdigits : (c.rest.drop 1).take width = Page.hex width x.toNat := by
    rw [hc, List.cons_append, List.drop_one, List.tail_cons]
    exact List.take_left' hlength
  have hhead : c.head?.bind escapeOf? = some (.inr width) := by
    rw [Cursor.head?, hc]
    exact hletter
  rw [readEscape, hhead]
  simp only [hdigits, hexNumber?_hex, hlength, Nat.lt_irrefl, decide_false, Bool.false_or]
  rw [if_neg (by simpa using toNat_code x), Char.ofNat_toNat]

/-- How a character stands between double quotes: as itself, or as an escape. -/
theorem doubleChar_cases (x : Char) :
    (Page.doubleChar x = [x] ∧ isPrintable x = true ∧ x ≠ '"' ∧ x ≠ '\\' ∧ isBreak x = false) ∨
    ∃ letter code, Page.doubleChar x = '\\' :: letter :: code ∧ isBreak letter = false ∧
      ∀ (c : Cursor) (rest : List Char), c.rest = letter :: code ++ rest →
        readEscape c = .ok (x, c.advance (code.length + 1)) := by
  unfold Page.doubleChar
  split
  case h_15 hnul _ _ _ hline _ _ hreturn _ hquote hslash hnext hseparator hparagraph =>
    split
    · next hprintable =>
      refine .inl ⟨rfl, hprintable, hquote, hslash, ?_⟩
      simp only [isBreak, Bool.or_eq_false_iff, decide_eq_false_iff_not]
      exact ⟨⟨⟨⟨hline, hreturn⟩, hnext⟩, hseparator⟩, hparagraph⟩
    · refine .inr ?_
      split
      · exact ⟨'x', Page.hex 2 x.toNat, rfl, by decide,
          fun c rest => readEscape_code (by decide) rfl (by omega)⟩
      · split
        · exact ⟨'u', Page.hex 4 x.toNat, rfl, by decide,
            fun c rest => readEscape_code (by decide) rfl (by omega)⟩
        · have hcode := (toNat_code x).2
          exact ⟨'U', Page.hex 8 x.toNat, rfl, by decide,
            fun c rest => readEscape_code (by decide) rfl (by omega)⟩
  all_goals
    refine .inr ⟨_, _, rfl, by decide, fun c rest hc => ?_⟩
    rw [readEscape, Cursor.head?, hc]
    rfl

/-! ## Words and gaps -/

/-- Reading on from inside a word. -/
def quotedFromWord (single : Bool) (runFuel fuel : Nat) (text : List Char) (c : Cursor) :
    Except Error (List Char × Cursor) := do
  let (text, ending, c) ← quotedRun single runFuel text c
  if c.at? (if single then '\'' else '"') then
    return (text.reverse, c.advance 1)
  let start : Gap := { broken := ending = .escapedBreak }
  let (g, c) ← readGap 0 (fuel + 1) start c
  readQuoted single fuel (g.foldedOnto text) c

/-- Reading on from inside a gap. -/
def quotedFromGap (single : Bool) (gapFuel fuel : Nat) (text : List Char) (g : Gap) (c : Cursor) :
    Except Error (List Char × Cursor) := do
  let (g, c) ← readGap 0 gapFuel g c
  readQuoted single fuel (g.foldedOnto text) c

/-- From a place inside a word, a text is read up to the place after the closing quote. -/
def ReadsOn (single : Bool) (c : Cursor) (s : List Char) (after : Cursor) : Prop :=
  ∀ text runFuel fuel, c.rest.length < runFuel → c.rest.length ≤ fuel →
    quotedFromWord single runFuel fuel text c = .ok (text.reverse ++ s, after)

/-- So from a place inside a gap; the gap itself comes before the text. -/
def ReadsOver (single : Bool) (g : Gap) (c : Cursor) (s : List Char) (after : Cursor) : Prop :=
  ∀ text gapFuel fuel, c.rest.length < gapFuel → c.rest.length < fuel →
    quotedFromGap single gapFuel fuel text g c = .ok ((g.foldedOnto text).reverse ++ s, after)

section

variable {single : Bool} {c after : Cursor} {g : Gap} {x : Char} {s rest : List Char}

theorem readQuoted_of_readsOn (h : ReadsOn single c s after) (hcolumn : c.column ≠ 0)
    (hrest : c.rest ≠ []) (text : List Char) {fuel : Nat} (hfuel : c.rest.length < fuel) :
    readQuoted single fuel text c = .ok (text.reverse ++ s, after) := by
  obtain ⟨fuel, rfl⟩ := Nat.exists_eq_succ_of_ne_zero (Nat.ne_zero_of_lt hfuel)
  have hread : readQuoted single (fuel + 1) text c = quotedFromWord single (fuel + 1) fuel text c := by
    rw [readQuoted, c.atDocumentMark_of_column hcolumn, c.atDocumentMark_of_column hcolumn,
      List.isEmpty_eq_false_iff.2 hrest]
    rfl
  rw [Nat.succ_eq_add_one, hread]
  exact h text (fuel + 1) fuel hfuel (by omega)

/-- The closing quote. -/
theorem ReadsOn.quote (hc : c.rest = (if single then '\'' else '"') :: rest)
    (hrest : single = true → rest.head? ≠ some '\'') : ReadsOn single c [] (c.advance 1) := by
  intro text runFuel fuel hrun _
  obtain ⟨runFuel, rfl⟩ := Nat.exists_eq_succ_of_ne_zero (Nat.ne_zero_of_lt hrun)
  have hend : quotedRun single (runFuel + 1) text c = .ok (text, .quote, c) := by
    rw [quotedRun, hc]
    cases single with
    | false => rfl
    | true =>
      have hnot : (rest.head? == some '\'') = false := beq_eq_false_iff_ne.2 (hrest rfl)
      simp [hnot, isSolid, isBlank, isBreak]
  have hquote : c.at? (if single then '\'' else '"') = true := by
    rw [Cursor.at?, hc, List.head?_cons, beq_self_eq_true]
  rw [quotedFromWord, hend]
  simp only [bind, Except.bind, hquote]
  rw [List.append_nil]
  rfl

/-- A character of a word, as it is written. -/
theorem ReadsOn.char {shown : List Char} (hc : c.rest = shown ++ rest) (hshown : shown ≠ [])
    (hx : ∀ fuel text, quotedRun single (fuel + 1) text c =
      quotedRun single fuel (x :: text) (c.advance shown.length))
    (h : ReadsOn single (c.advance shown.length) s after) : ReadsOn single c (x :: s) after := by
  intro text runFuel fuel hrun hfuel
  obtain ⟨runFuel, rfl⟩ := Nat.exists_eq_succ_of_ne_zero (Nat.ne_zero_of_lt hrun)
  have hnext := h (x :: text) runFuel fuel
  rw [Cursor.rest_advance hc] at hnext
  have hpos := List.length_pos_of_ne_nil hshown
  rw [hc, List.length_append] at hrun hfuel
  rw [quotedFromWord] at hnext ⊢
  rw [hx, hnext (by omega) (by omega), List.reverse_cons, List.append_assoc]
  rfl

/-- A gap starts. -/
theorem ReadsOn.gap (hc : c.rest = x :: rest) (hx : isSolid x = false)
    (h : ∀ text gapFuel fuel, c.rest.length < gapFuel → c.rest.length ≤ fuel →
      quotedFromGap single gapFuel fuel text {} c = .ok (text.reverse ++ s, after)) :
    ReadsOn single c s after := by
  intro text runFuel fuel hrun hfuel
  obtain ⟨runFuel, rfl⟩ := Nat.exists_eq_succ_of_ne_zero (Nat.ne_zero_of_lt hrun)
  have hend : quotedRun single (runFuel + 1) text c = .ok (text, .gap, c) := by
    rw [quotedRun, hc]
    simp [hx]
  have hquote : c.at? (if single then '\'' else '"') = false := by
    rw [Cursor.at?, hc, List.head?_cons, beq_eq_false_iff_ne]
    rintro ⟨⟩
    cases single <;> exact absurd hx (by decide)
  rw [← h text (fuel + 1) fuel (by omega) hfuel, quotedFromWord, hend, quotedFromGap]
  simp only [bind, Except.bind, hquote]
  rfl

/-- A gap ends. -/
theorem ReadsOver.word (h : ReadsOn single c s after) (hcolumn : c.column ≠ 0)
    (hc : c.rest = x :: rest) (hx : isSolid x = true) : ReadsOver single g c s after := by
  intro text gapFuel fuel _ hfuel
  rw [quotedFromGap, readGap_end (by simp [hc, hx])]
  exact readQuoted_of_readsOn h hcolumn (by simp [hc]) _ hfuel

/-- A space in a gap. -/
theorem ReadsOver.blank {blanks : List Char} (hc : c.rest = ' ' :: rest)
    (h : ReadsOver single { blanks := ' ' :: blanks } (c.advance 1) s after) :
    ReadsOver single { blanks } c (' ' :: s) after := by
  intro text gapFuel fuel hgap hfuel
  obtain ⟨gapFuel, rfl⟩ := Nat.exists_eq_succ_of_ne_zero (Nat.ne_zero_of_lt hgap)
  have hnext := h text gapFuel fuel
  rw [Cursor.rest_advance_one hc] at hnext
  rw [hc, List.length_cons] at hgap hfuel
  rw [quotedFromGap] at hnext ⊢
  rw [readGap_blank hc rfl, hnext (by omega) (by omega)]
  simp [Gap.foldedOnto]

/-- A space after a word. -/
theorem ReadsOn.blank (hc : c.rest = ' ' :: rest)
    (h : ReadsOver single { blanks := [' '] } (c.advance 1) s after) :
    ReadsOn single c (' ' :: s) after := by
  refine .gap hc (by decide) fun text gapFuel fuel hgap hfuel => ?_
  obtain ⟨gapFuel, rfl⟩ := Nat.exists_eq_succ_of_ne_zero (Nat.ne_zero_of_lt hgap)
  have hnext := h text gapFuel fuel
  rw [Cursor.rest_advance_one hc] at hnext
  rw [hc, List.length_cons] at hgap hfuel
  rw [quotedFromGap] at hnext ⊢
  rw [readGap_blank hc rfl, hnext (by omega) (by omega)]
  simp [Gap.foldedOnto]

end

/-! ## Texts on one line -/

/-- What is written for a character is read as that character, inside a word or at its
start. -/
structure IsShown (single : Bool) (x : Char) (shown : List Char) : Prop where
  starts : ∃ y ys, shown = y :: ys ∧ isSolid y = true
  reads : ∀ (c : Cursor) (rest : List Char), c.rest = shown ++ rest → ∀ fuel text,
    quotedRun single (fuel + 1) text c = quotedRun single fuel (x :: text) (c.advance shown.length)

theorem isShown_double {x : Char} (hx : x ≠ ' ') : IsShown false x (Page.doubleChar x) := by
  rcases doubleChar_cases x with
    ⟨heq, hprintable, hquote, hslash, hbreak⟩ | ⟨letter, code, heq, hletter, hread⟩
  · have hsolid := isSolid_of_isPrintable hprintable hx hbreak
    refine ⟨⟨x, [], heq, hsolid⟩, fun c rest hc fuel text => ?_⟩
    rw [heq] at hc ⊢
    rw [quotedRun, hc, List.singleton_append]
    simp [hsolid, hquote, hslash]
  · have hsolid : isSolid '\\' = true := by decide
    refine ⟨⟨'\\', _, heq, hsolid⟩, fun c rest hc fuel text => ?_⟩
    rw [heq] at hc ⊢
    have hescape := hread (c.advance 1) rest (Cursor.rest_advance_one hc)
    rw [Cursor.advance_append] at hescape
    rw [quotedRun, hc, List.cons_append, List.cons_append]
    simp [hsolid, hletter, hescape, bind, Except.bind, Nat.add_comm 1]

theorem isShown_single {x : Char} (hprintable : isPrintable x = true) (hx : x ≠ ' ')
    (hbreak : isBreak x = false) : IsShown true x (singleChar x) := by
  have hsolid := isSolid_of_isPrintable hprintable hx hbreak
  rw [singleChar]
  split
  · next hquote =>
    subst hquote
    refine ⟨⟨_, _, rfl, hsolid⟩, fun c rest hc fuel text => ?_⟩
    rw [quotedRun, hc]
    simp [hsolid]
  · next hquote =>
    refine ⟨⟨_, _, rfl, hsolid⟩, fun c rest hc fuel text => ?_⟩
    rw [quotedRun, hc]
    simp [hsolid, hquote]

/-- What stands between quotes on one line is read as the text that it was written for. -/
theorem readsOn_flatMap {single : Bool} {shown : Char → List Char} (hspace : shown ' ' = [' '])
    {rest : List Char} (hrest : single = true → rest.head? ≠ some '\'') (s : List Char)
    (hs : ∀ x ∈ s, x ≠ ' ' → IsShown single x (shown x)) : ∀ c : Cursor,
    c.rest = s.flatMap shown ++ (if single then '\'' else '"') :: rest → c.column ≠ 0 →
      ReadsOn single c s (c.advance ((s.flatMap shown).length + 1)) ∧
      ∀ blanks, ReadsOver single { blanks } c s (c.advance ((s.flatMap shown).length + 1)) := by
  induction s with
  | nil =>
    intro c hc hcolumn
    have hend : ReadsOn single c [] (c.advance 1) := .quote hc hrest
    exact ⟨hend, fun blanks => .word hend hcolumn hc (by cases single <;> decide)⟩
  | cons x s ih =>
    intro c hc hcolumn
    rw [List.flatMap_cons, List.append_assoc] at hc
    obtain ⟨hword, hgap⟩ := ih (fun y hy => hs y (List.mem_cons_of_mem x hy))
      (c.advance (shown x).length) (Cursor.rest_advance hc) (by rw [Cursor.column_advance]; omega)
    rw [Cursor.advance_append, ← Nat.add_assoc, ← List.length_append] at hword hgap
    rw [List.flatMap_cons]
    by_cases hx : x = ' '
    · subst hx
      rw [hspace] at hc hgap ⊢
      exact ⟨.blank hc (hgap _), fun blanks => .blank hc (hgap _)⟩
    · obtain ⟨⟨y, ys, hy, hsolid⟩, hreads⟩ := hs x List.mem_cons_self hx
      have hchar : ReadsOn single c (x :: s) _ :=
        .char hc (by simp [hy]) (hreads c _ hc) hword
      rw [hy, List.cons_append] at hc
      exact ⟨hchar, fun blanks => .word hchar hcolumn hc hsolid⟩

/-! ## Texts with line ends -/

section

variable {single : Bool} {c after : Cursor} {x first : Char} {s rest others : List Char}

/-- A line end after a word. -/
theorem ReadsOn.newline (hc : c.rest = x :: rest) (hprintable : isPrintable x = true)
    (hbreak : isBreak x = true) (hline : x ≠ '\n')
    (h : ReadsOver single { broken := true, first := [x] } ⟨rest, c.index + 1, c.line + 1, 0⟩ s after) :
    ReadsOn single c (x :: s) after := by
  have hsolid : isSolid x = false := by simp [isSolid, hbreak]
  refine .gap hc hsolid fun text gapFuel fuel hgap hfuel => ?_
  obtain ⟨gapFuel, rfl⟩ := Nat.exists_eq_succ_of_ne_zero (Nat.ne_zero_of_lt hgap)
  have hnext := h text gapFuel fuel
  rw [hc, List.length_cons] at hgap hfuel
  rw [quotedFromGap] at hnext ⊢
  rw [readGap_break hc hprintable hbreak]
  refine (hnext (by simp only; omega) (by simp only; omega)).trans ?_
  simp [Gap.foldedOnto, hline]

/-- A line end after another one. -/
theorem ReadsOver.newline (hc : c.rest = x :: rest) (hprintable : isPrintable x = true)
    (hbreak : isBreak x = true) (hfirst : first ≠ '\n')
    (h : ReadsOver single { broken := true, first := [first], others := x :: others }
      ⟨rest, c.index + 1, c.line + 1, 0⟩ s after) :
    ReadsOver single { broken := true, first := [first], others } c (x :: s) after := by
  intro text gapFuel fuel hgap hfuel
  obtain ⟨gapFuel, rfl⟩ := Nat.exists_eq_succ_of_ne_zero (Nat.ne_zero_of_lt hgap)
  have hnext := h text gapFuel fuel
  rw [hc, List.length_cons] at hgap hfuel
  rw [quotedFromGap] at hnext ⊢
  rw [readGap_break hc hprintable hbreak]
  refine (hnext (by simp only; omega) (by simp only; omega)).trans ?_
  simp [Gap.foldedOnto, hfirst]

/-- The indentation after a line end. -/
theorem ReadsOver.indentation {g : Gap} {n : Nat} (hc : c.rest = spaces n ++ rest)
    (hg : g.broken = true) (h : ReadsOver single g (c.advance n) s after) :
    ReadsOver single g c s after := by
  intro text gapFuel fuel hgap hfuel
  have hnext := h text (gapFuel - n) fuel
  rw [Cursor.rest_advance_spaces hc] at hnext
  rw [hc, List.length_append, length_spaces] at hgap hfuel
  rw [quotedFromGap] at hnext ⊢
  rw [← Nat.add_sub_of_le (by omega : n ≤ gapFuel), readGap_spaces hc hg]
  exact hnext (by omega) (by omega)

end

/-! ## Between single quotes -/

/-- From inside a line, what is written for a text between single quotes is read as that
text; so it is from inside a gap, if no line end comes first. -/
def SingleInLine (column : Nat) (rest s : List Char) : Prop :=
  ∀ c : Cursor, c.rest = brokenLines singleChar column (spaces column) s false ++ '\'' :: rest →
    c.column ≠ 0 →
    ∃ after : Cursor, after.rest = rest ∧ c.line ≤ after.line ∧ ReadsOn true c s after ∧
      (s.head?.all (!isBreak ·) = true → ∀ blanks, ReadsOver true { blanks } c s after)

/-- So from the start of a line, after some line ends. -/
def SingleAtLine (column : Nat) (rest s : List Char) : Prop :=
  ∀ c : Cursor, c.rest = brokenLines singleChar column (spaces column) s true ++ '\'' :: rest →
    ∃ after : Cursor, after.rest = rest ∧ c.line ≤ after.line ∧
      ∀ first others, first ≠ '\n' →
        ReadsOver true { broken := true, first := [first], others } c s after

/-- What is asked of a text that is written between single quotes. -/
theorem single_cases {s : List Char} (h : (shape s).single = true) :
    (∀ x ∈ s, isPrintable x = true) ∧ hasSpaceBreak s = false ∧ hasBreakSpace s = false := by
  cases s with
  | nil => exact ⟨by simp, rfl, rfl⟩
  | cons x rest =>
    simp only [shape, Bool.and_eq_true, Bool.not_eq_true', Bool.or_eq_false_iff,
      Bool.not_eq_false', List.all_eq_true] at h
    exact ⟨h.1.2, h.1.1, h.2⟩

section

variable {column : Nat} {x : Char} {s rest : List Char}

theorem singleInLine_nil (hrest : rest.head? ≠ some '\'') : SingleInLine column rest [] := by
  intro c hc hcolumn
  have hc' : c.rest = '\'' :: rest := hc
  have hend : ReadsOn true c [] (c.advance 1) := .quote hc' fun _ => hrest
  exact ⟨c.advance 1, Cursor.rest_advance_one hc', Nat.le_refl _, hend,
    fun _ blanks => .word hend hcolumn hc' (by decide)⟩

theorem singleAtLine_nil (hcolumn : 0 < column) (hrest : rest.head? ≠ some '\'') :
    SingleAtLine column rest [] := by
  intro c hc
  have hclose : (c.advance column).rest = '\'' :: rest := Cursor.rest_advance_spaces hc
  have hend : ReadsOn true (c.advance column) [] ((c.advance column).advance 1) :=
    .quote hclose fun _ => hrest
  refine ⟨(c.advance column).advance 1, Cursor.rest_advance_one hclose, Nat.le_refl _,
    fun first others _ => .indentation hc rfl ?_⟩
  exact .word hend (by rw [Cursor.column_advance]; omega) hclose (by decide)

/-- A line end is the first of a gap, or one more. -/
theorem SingleAtLine.newline (hprintable : isPrintable x = true) (hbreak : isBreak x = true)
    (hline : x ≠ '\n') (h : SingleAtLine column rest s) :
    SingleInLine column rest (x :: s) ∧ SingleAtLine column rest (x :: s) := by
  constructor
  · intro c hc _
    rw [brokenLines, if_pos hbreak] at hc
    obtain ⟨after, hafter, hlines, hover⟩ := h ⟨_, c.index + 1, c.line + 1, 0⟩ rfl
    refine ⟨after, hafter, Nat.le_of_succ_le hlines, ?_, fun h => by simp [hbreak] at h⟩
    exact .newline hc hprintable hbreak hline (hover x [] hline)
  · intro c hc
    rw [brokenLines, if_pos hbreak] at hc
    obtain ⟨after, hafter, hlines, hover⟩ := h ⟨_, c.index + 1, c.line + 1, 0⟩ rfl
    refine ⟨after, hafter, Nat.le_of_succ_le hlines, fun first others hfirst => ?_⟩
    exact .newline hc hprintable hbreak hfirst (hover first (x :: others) hfirst)

/-- A space belongs to a gap on its line, so no line end may follow. -/
theorem SingleInLine.blank (hhead : s.head?.all (!isBreak ·) = true) (h : SingleInLine column rest s) :
    SingleInLine column rest (' ' :: s) := by
  intro c hc _
  obtain ⟨after, hafter, hlines, -, hover⟩ := h (c.advance 1) (Cursor.rest_advance_one hc)
    (by rw [Cursor.column_advance]; omega)
  exact ⟨after, hafter, hlines, .blank hc (hover hhead _), fun _ blanks => .blank hc (hover hhead _)⟩

/-- Any other character belongs to a word. -/
theorem SingleInLine.word (hx : IsShown true x (singleChar x)) (h : SingleInLine column rest s)
    {c : Cursor} (hc : c.rest = singleChar x ++
      (brokenLines singleChar column (spaces column) s false ++ '\'' :: rest)) (hcolumn : c.column ≠ 0) :
    ∃ after : Cursor, after.rest = rest ∧ c.line ≤ after.line ∧ ReadsOn true c (x :: s) after ∧
      ∀ g, ReadsOver true g c (x :: s) after := by
  obtain ⟨y, ys, hy, hsolid⟩ := hx.starts
  obtain ⟨after, hafter, hlines, hon, -⟩ := h (c.advance (singleChar x).length)
    (Cursor.rest_advance hc) (by rw [Cursor.column_advance]; omega)
  have hchar : ReadsOn true c (x :: s) after := .char hc (by simp [hy]) (hx.reads c _ hc) hon
  rw [hy, List.cons_append] at hc
  exact ⟨after, hafter, hlines, hchar, fun g => .word hchar hcolumn hc hsolid⟩

theorem SingleInLine.char (hcolumn : 0 < column) (hprintable : isPrintable x = true) (hx : x ≠ ' ')
    (hbreak : isBreak x = false) (h : SingleInLine column rest s) :
    SingleInLine column rest (x :: s) ∧ SingleAtLine column rest (x :: s) := by
  have hshown := isShown_single hprintable hx hbreak
  constructor
  · intro c hc hplace
    rw [brokenLines, hbreak] at hc
    simp only [Bool.false_eq_true, if_false, List.nil_append, List.append_assoc] at hc
    obtain ⟨after, hafter, hlines, hon, hover⟩ := h.word hshown hc hplace
    exact ⟨after, hafter, hlines, hon, fun _ blanks => hover _⟩
  · intro c hc
    rw [brokenLines, hbreak] at hc
    simp only [Bool.false_eq_true, if_false, if_true, List.append_assoc] at hc
    obtain ⟨after, hafter, hlines, -, hover⟩ := h.word hshown (Cursor.rest_advance_spaces hc)
      (by rw [Cursor.column_advance]; omega)
    exact ⟨after, hafter, hlines, fun first others _ => .indentation hc rfl (hover _)⟩

/-- What stands between single quotes is read as the text that it was written for, if that
has no space at a line end. -/
theorem single_reads (hcolumn : 0 < column) (hrest : rest.head? ≠ some '\'') (s : List Char)
    (hprintable : ∀ x ∈ s, isPrintable x = true) (hline : '\n' ∉ s)
    (hspaceBreak : hasSpaceBreak s = false) (hbreakSpace : hasBreakSpace s = false) :
    SingleInLine column rest s ∧ (s.head? ≠ some ' ' → SingleAtLine column rest s) := by
  induction s with
  | nil => exact ⟨singleInLine_nil hrest, fun _ => singleAtLine_nil hcolumn hrest⟩
  | cons x s ih =>
    rw [hasSpaceBreak, Bool.or_eq_false_iff] at hspaceBreak
    rw [hasBreakSpace, Bool.or_eq_false_iff] at hbreakSpace
    rw [List.mem_cons, not_or] at hline
    obtain ⟨ihLine, ihStart⟩ := ih (fun y hy => hprintable y (List.mem_cons_of_mem x hy)) hline.2
      hspaceBreak.2 hbreakSpace.2
    have hx := hprintable x List.mem_cons_self
    by_cases hbreak : isBreak x = true
    · have hhead : s.head? ≠ some ' ' := by simpa [hbreak] using hbreakSpace.1
      obtain ⟨hinLine, hatLine⟩ := (ihStart hhead).newline hx hbreak (Ne.symm hline.1)
      exact ⟨hinLine, fun _ => hatLine⟩
    · by_cases hspace : x = ' '
      · subst hspace
        have hhead : s.head?.all (!isBreak ·) = true := by
          have := hspaceBreak.1
          cases hs : s.head? with
          | none => rfl
          | some y => simpa [hs] using this
        exact ⟨ihLine.blank hhead, fun h => absurd rfl h⟩
      · obtain ⟨hinLine, hatLine⟩ := ihLine.char hcolumn hx hspace (Bool.eq_false_iff.2 hbreak)
        exact ⟨hinLine, fun _ => hatLine⟩

end

end Groundwork.Yaml
