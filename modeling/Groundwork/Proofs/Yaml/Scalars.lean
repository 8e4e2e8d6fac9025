/-
Reading scalars as tokens.

A scalar that stands as a value is one token, and the next part starts on a line after it
(`Lexes.scalar`). A name that stands on one line is a key: the colon behind it comes before
its place is given up, so the key's token is put in before the name (`Lexes.simpleKey`).
-/
import Groundwork.Proofs.Text.ByteOrder
import Groundwork.Proofs.Yaml.Literal
import Groundwork.Proofs.Yaml.Plain
import Groundwork.Proofs.Yaml.Quoted
import Groundwork.Proofs.Yaml.Signs

set_option autoImplicit false

namespace Groundwork.Yaml

/-! ## How scalars start -/

/-- The style of a scalar that is written in a form. -/
def Form.style : Form → Style
  | .plain => .plain
  | .single | .double => .quoted
  | .literal => .literal

/-- The sign before and after a quoted scalar. -/
def quoteSign (single : Bool) : Char :=
  if single then '\'' else '"'

theorem noGap_quoteSign (single : Bool) (rest : List Char) : NoGap (quoteSign single :: rest) := by
  cases single <;> exact ⟨rfl, by decide, by decide⟩

theorem ne_of_barsStart {x : Char} {s : List Char} (hbars : barsStart x s = false) {m : Char}
    (hm : startMarks.contains m = true) : x ≠ m := by
  rintro rfl
  rw [barsStart, hm] at hbars
  cases hbars

/-- Nothing stands before the text of a scalar. -/
theorem noGap_body {f : Form} {s : List Char} (hsuits : f.Suits s) (column : Nat) (rest : List Char) :
    NoGap (f.body column s ++ rest) := by
  cases f with
  | plain =>
    obtain ⟨hplain, hne⟩ := hsuits
    obtain ⟨x, xs, rfl, -, hbars, -, hspace, -, hprintable⟩ := plain_cases hplain hne
    obtain ⟨hxprintable, hbreak⟩ := hprintable x List.mem_cons_self
    refine ⟨isSolid_of_isPrintable hxprintable hspace hbreak, ne_of_barsStart hbars (by decide), ?_⟩
    rintro rfl
    exact absurd hxprintable (by decide)
  | single => exact noGap_quoteSign true _
  | double => exact noGap_quoteSign false _
  | literal => exact ⟨rfl, by decide, by decide⟩

namespace Lexer

section

variable {c after : Cursor} {ts : List Token} {columns : List Nat} {keyAllowed : Bool} {fuel : Nat}
  {x t : Char} {s rest : List Char}

theorem mem_indicators :
    ∀ m ∈ indicators, startMarks.contains m = true ∨ m = '-' ∨ m = '?' ∨ m = ':' := by
  have hall : indicators.all
      (fun m => startMarks.contains m || m = '-' || m = '?' || m = ':') = true := by decide
  intro m hm
  simpa [or_assoc] using List.all_eq_true.1 hall m hm

theorem startsPlain_of_barsStart (hbars : barsStart x s = false)
    (hgap : x = '-' ∨ x = '?' ∨ x = ':' → atGap rest = false) : startsPlain false x rest = true := by
  rw [startsPlain, Bool.or_eq_true, Bool.or_eq_true]
  by_cases hmem : x ∈ indicators
  · rcases mem_indicators x hmem with hmark | hdash | hsign
    · exact absurd rfl (ne_of_barsStart hbars hmark)
    · refine .inl (.inr ?_)
      have hnot := hgap (.inl hdash)
      cases rest with
      | nil => simp [hdash]
      | cons y rest =>
        simp only [atGap, isSolid, Bool.not_eq_false', Bool.and_eq_true, Bool.not_eq_true'] at hnot
        simp [hdash, hnot.1]
    · exact .inr (by simp [hsign, hgap (.inr hsign)])
  · exact .inl (.inl (by simpa using hmem))

/-- Where a plain scalar may start, one is read. -/
theorem readToken_of_barsStart (hbars : barsStart x s = false) (hx : isSolid x = true)
    (ht : t ≠ '-' ∧ t ≠ '.') (hmark : startsLikeMark (x :: s) = false)
    (hc : c.rest = x :: s ++ t :: rest) (fuel : Nat) :
    readToken fuel x (s ++ t :: rest) (inBlocks c ts columns keyAllowed none) =
      (inBlocks c ts columns keyAllowed none).plain fuel := by
  have hne (m : Char) (hm : startMarks.contains m = true) : x ≠ m := ne_of_barsStart hbars hm
  have hgap : x = '-' ∨ x = '?' ∨ x = ':' → atGap (s ++ t :: rest) = false := by
    intro hsign
    have hnext : gapNext s = false := by
      rw [barsStart, Bool.or_eq_false_iff] at hbars
      have := hbars.2
      rcases hsign with rfl | rfl | rfl <;> simpa using this
    cases s with
    | nil => cases hnext
    | cons y s => exact hnext
  have hstarts := startsPlain_of_barsStart hbars hgap
  rw [startsLikeMark, Bool.or_eq_false_iff, beq_eq_false_iff_ne, beq_eq_false_iff_ne] at hmark
  have hstart := atDocumentMark_append hc hmark.1 ht.1
  have hdots := atDocumentMark_append hc hmark.2 ht.2
  have hsign {m : Char} (hm : m = '-' ∨ m = '?' ∨ m = ':') :
      (decide (x = m) && atGap (s ++ t :: rest)) = false := by
    rw [Bool.and_eq_false_iff, decide_eq_false_iff_not]
    refine (em (x = m)).symm.imp id ?_
    rintro rfl
    exact hgap hm
  simp only [readToken, cursor_inBlocks, inFlow_inBlocks, hstart, hdots, hne '%' (by decide),
    hne '[' (by decide), hne ']' (by decide), hne '\x7b' (by decide), hne '\x7d' (by decide),
    hne ',' (by decide), hne '*' (by decide), hne '&' (by decide), hne '!' (by decide),
    hne '|' (by decide), hne '>' (by decide), hne '\'' (by decide), hne '"' (by decide),
    Bool.false_or, hsign (.inl rfl), hsign (.inr (.inl rfl)), hsign (.inr (.inr rfl)), hx, hstarts,
    decide_false, Bool.and_false, Bool.false_and, Bool.false_eq_true, if_false, Bool.and_self, if_true]

/-- A plain scalar is read as one token. -/
theorem run_plain {ended : Bool} (hplain : (shape s).plain = true) (hne : s ≠ [])
    (hc : c.rest = s ++ t :: rest) (ht : t = ':' ∨ t = '\n') (hcolumns : innerColumn columns ≤ c.column)
    (hend : PlainOn (innerColumn columns + 1).toNat (c.advance s.length) [] ended after)
    (hfuel : c.rest.length < fuel + 1) :
    run (fuel + 1) (inBlocks c ts columns keyAllowed none) =
      run fuel (inBlocks after (ts ++ [.scalar (String.ofList s) .plain]) columns ended
        (place c ts columns keyAllowed)) := by
  have hends : t ≠ '-' ∧ t ≠ '.' := by rcases ht with rfl | rfl <;> decide
  have hread := readPlain_append hplain hne hc hends (by omega) hend hfuel
  have hgap : NoGap (s ++ t :: rest) := noGap_body (f := .plain) ⟨hplain, hne⟩ 0 (t :: rest)
  obtain ⟨x, xs, rfl, hmark, hbars, hinner, hspace, hlast, hprintable⟩ := plain_cases hplain hne
  have hc' : c.rest = x :: (xs ++ t :: rest) := hc
  have hsolid : isSolid x = true :=
    isSolid_of_isPrintable (hprintable x List.mem_cons_self).1 hspace (hprintable x List.mem_cons_self).2
  have htoken : readToken (fuel + 1) x (xs ++ t :: rest) (inBlocks c ts columns keyAllowed none) =
      .ok (inBlocks after (ts ++ [.scalar (String.ofList (x :: xs)) .plain]) columns ended
        (place c ts columns keyAllowed)) := by
    rw [readToken_of_barsStart hbars hsolid hends hmark hc, plain, markKey_inBlocks]
    simp only [bind, Except.bind, inFlow_inBlocks, indent_inBlocks, cursor_inBlocks, hread]
    change Except.ok (((inBlocks c ts columns ended (place c ts columns keyAllowed)).push
      (.scalar (String.ofList (x :: xs)) .plain)).move after) = _
    rw [push_inBlocks, move_inBlocks]
  rw [run_inBlocks hc' hgap hcolumns, htoken]
  rfl

/-- So is a quoted one. -/
theorem run_quoted {single : Bool} (hc : c.rest = quoteSign single :: rest) (hrest : rest ≠ [])
    (hcolumns : innerColumn columns ≤ c.column) (h : ReadsOn single (c.advance 1) s after)
    (hfuel : c.rest.length < fuel + 1) :
    run (fuel + 1) (inBlocks c ts columns keyAllowed none) =
      run fuel (inBlocks after (ts ++ [.scalar (String.ofList s) .quoted]) columns false
        (place c ts columns keyAllowed)) := by
  have hnext := Cursor.rest_advance_one hc
  have hread : readQuoted single (fuel + 1) [] (c.advance 1) = .ok (s, after) :=
    readQuoted_of_readsOn h (by rw [Cursor.column_advance]; omega) (by rwa [hnext]) []
      (by rw [hnext]; rw [hc, List.length_cons] at hfuel; omega)
  have hstart : readToken (fuel + 1) (quoteSign single) rest (inBlocks c ts columns keyAllowed none) =
      (inBlocks c ts columns keyAllowed none).quoted single (fuel + 1) := by
    cases single <;> simp [readToken, quoteSign, Cursor.atDocumentMark, hc]
  have htoken : readToken (fuel + 1) (quoteSign single) rest (inBlocks c ts columns keyAllowed none) =
      .ok (inBlocks after (ts ++ [.scalar (String.ofList s) .quoted]) columns false
        (place c ts columns keyAllowed)) := by
    rw [hstart, quoted, keyToken, markKey_inBlocks]
    simp only [bind, Except.bind, cursor_inBlocks, hread]
    change Except.ok (((inBlocks c ts columns false (place c ts columns keyAllowed)).push
      (.scalar (String.ofList s) .quoted)).move after) = _
    rw [push_inBlocks, move_inBlocks]
  rw [run_inBlocks hc (noGap_quoteSign single rest) hcolumns, htoken]
  rfl

/-- A literal block is no key. -/
theorem run_literal (hc : c.rest = '|' :: rest) (hcolumns : innerColumn columns ≤ c.column)
    (h : readBlock true (innerColumn columns) (fuel + 1) (c.advance 1) = .ok (s, after)) :
    run (fuel + 1) (inBlocks c ts columns keyAllowed none) =
      run fuel (inBlocks after (ts ++ [.scalar (String.ofList s) .literal]) columns true none) := by
  have hstart : readToken (fuel + 1) '|' rest (inBlocks c ts columns keyAllowed none) =
      (inBlocks c ts columns keyAllowed none).block true (fuel + 1) := by
    simp [readToken, Cursor.atDocumentMark, hc]
  have htoken : readToken (fuel + 1) '|' rest (inBlocks c ts columns keyAllowed none) =
      .ok (inBlocks after (ts ++ [.scalar (String.ofList s) .literal]) columns true none) := by
    rw [hstart, block, dropKey_inBlocks]
    simp only [bind, Except.bind, indent_inBlocks, cursor_inBlocks, h]
    change Except.ok (((inBlocks c ts columns true none).push
      (.scalar (String.ofList s) .literal)).move after) = _
    rw [push_inBlocks, move_inBlocks]
  rw [run_inBlocks hc ⟨rfl, by decide, by decide⟩ hcolumns, htoken]
  rfl

end

/-! ## Values -/

section

variable {keyAllowed : Bool} {start column n : Nat} {next s : List Char} {ts : List Token}
  {columns : List Nat} {out : List Token}

/-- Where a scalar may stand whose further lines are at a column, and what comes next: it is
all that is written, or stands in a block that is less indented. -/
inductive Stands : List Nat → Nat → Nat → List Char → Prop
  | alone : Stands [] 2 0 []
  | inside {k n : Nat} {around : List Nat} {next : List Char} (hn : n ≤ k) :
    Stands (k :: around) (k + 2) n next

theorem Stands.lt (h : Stands columns column n next) : n < column := by
  cases h <;> omega

theorem Stands.outside (h : Stands columns column n next) :
    n < (innerColumn columns + 1).toNat ∨ next = [] := by
  cases h with
  | alone => exact .inr rfl
  | inside hn =>
    simp only [innerColumn]
    omega

theorem Stands.parent (h : Stands columns column n next) :
    (innerColumn columns = -1 ∧ column = 2) ∨ ∃ k : Nat, innerColumn columns = k ∧ column = k + 2 := by
  cases h with
  | alone => exact .inl ⟨rfl, rfl⟩
  | @inside k => exact .inr ⟨k, rfl, rfl⟩

theorem Lexes.plain (hplain : (shape s).plain = true) (hne : s ≠ [])
    (hplace : innerColumn columns < start) (hnext : NoGap next) (hend : n < (innerColumn columns + 1).toNat ∨ next = [])
    (h : Lexes true n next (ts ++ [.scalar (String.ofList s) .plain]) columns out) :
    Lexes keyAllowed start (s ++ '\n' :: (spaces n ++ next)) ts columns out := by
  intro c hc hcolumn fuel hfuel
  obtain ⟨fuel, rfl⟩ : ∃ f, fuel = f + 1 := ⟨fuel - 1, by omega⟩
  have hline := PlainOn.line (Cursor.rest_advance hc) hnext hend
  rw [run_plain hplain hne hc (.inr rfl) (by omega) hline (by rwa [hc])]
  rw [List.length_append, List.length_cons, List.length_append] at hfuel
  refine run_of_later h hnext rfl rfl (fun p hp => ?_) (by omega)
  obtain ⟨hrequired, hkept⟩ := required_place (fun _ => by omega) hp
  exact ⟨hrequired, by rw [hkept]; exact Nat.lt_succ_self _⟩

/-- A quoted scalar, before a new line. -/
theorem run_of_quoted {c after : Cursor} {single : Bool} {rest : List Char} {fuel : Nat}
    (hc : c.rest = quoteSign single :: rest) (hplace : innerColumn columns < c.column)
    (hreads : ReadsOn single (c.advance 1) s after) (hlines : c.line ≤ after.line)
    (hafter : after.rest = '\n' :: (spaces n ++ next)) (hlength : after.rest.length < rest.length)
    (hnext : NoGap next)
    (h : Lexes true n next (ts ++ [.scalar (String.ofList s) .quoted]) columns out)
    (hfuel : c.rest.length < fuel) :
    run fuel (inBlocks c ts columns keyAllowed none) = .ok out.toArray := by
  obtain ⟨fuel, rfl⟩ : ∃ f, fuel = f + 1 := ⟨fuel - 1, by omega⟩
  rw [run_quoted hc (List.ne_nil_of_length_pos (by omega)) (by omega) hreads hfuel]
  rw [hc, List.length_cons] at hfuel
  refine run_of_line h hnext hafter (fun p hp => ?_) (by omega)
  obtain ⟨hrequired, hkept⟩ := required_place (fun _ => by omega) hp
  exact ⟨hrequired, by rwa [hkept]⟩

theorem Lexes.single (hsingle : (shape s).single = true) (hline : '\n' ∉ s) (hcolumn : 0 < column)
    (hplace : innerColumn columns < start) (hnext : NoGap next)
    (h : Lexes true n next (ts ++ [.scalar (String.ofList s) .quoted]) columns out) :
    Lexes keyAllowed start (quoteSign true ::
      (brokenLines singleChar column (spaces column) s false ++ '\'' :: '\n' :: (spaces n ++ next)))
      ts columns out := by
  intro c hc hplaced fuel hfuel
  obtain ⟨hprintable, hspaceBreak, hbreakSpace⟩ := single_cases hsingle
  have hreads : SingleInLine column ('\n' :: (spaces n ++ next)) s :=
    (single_reads hcolumn (by simp) s hprintable hline hspaceBreak hbreakSpace).1
  obtain ⟨after, hafter, hlines, hon, -⟩ := hreads (c.advance 1) (Cursor.rest_advance_one hc)
    (by rw [Cursor.column_advance]; omega)
  refine run_of_quoted hc (by omega) hon hlines hafter ?_ hnext h (by rwa [hc])
  rw [hafter, List.length_append]
  simp only [List.length_cons]
  omega

theorem Lexes.double (hplace : innerColumn columns < start) (hnext : NoGap next)
    (h : Lexes true n next (ts ++ [.scalar (String.ofList s) .quoted]) columns out) :
    Lexes keyAllowed start (quoteSign false ::
      (s.flatMap Page.doubleChar ++ '"' :: '\n' :: (spaces n ++ next))) ts columns out := by
  intro c hc hplaced fuel hfuel
  have hinside := Cursor.rest_advance_one hc
  obtain ⟨hreads, -⟩ := readsOn_flatMap rfl (by simp) s (fun x _ hx => isShown_double hx)
    (c.advance 1) hinside (by rw [Cursor.column_advance]; omega)
  have hafter : ((c.advance 1).advance ((s.flatMap Page.doubleChar).length + 1)).rest =
      '\n' :: (spaces n ++ next) := by
    rw [← Cursor.advance_append]
    exact Cursor.rest_advance_one (Cursor.rest_advance hinside)
  refine run_of_quoted hc (by omega) hreads (Nat.le_refl _) hafter ?_ hnext h (by rwa [hc])
  rw [hafter, List.length_append]
  simp only [List.length_cons]
  omega

theorem Lexes.literal (hliteral : (shape s).literal = true) (hstands : Stands columns column n next)
    (hplace : innerColumn columns < start) (hnext : NoGap next)
    (h : Lexes true n next (ts ++ [.scalar (String.ofList s) .literal]) columns out) :
    Lexes keyAllowed start ('|' :: (Page.literalHints s ++ '\n' :: literalLines column n next s true))
      ts columns out := by
  intro c hc hplaced fuel hfuel
  obtain ⟨fuel, rfl⟩ : ∃ f, fuel = f + 1 := ⟨fuel - 1, by omega⟩
  have hinside := Cursor.rest_advance_one hc
  rw [List.length_cons] at hfuel
  have hlength : (c.advance 1).rest.length < fuel + 1 := by
    rw [hinside]
    omega
  obtain ⟨after, hread, hafter, hend⟩ :=
    readBlock_literal hliteral hstands.parent hinside hstands.lt hnext hlength
  rw [run_literal hc (by omega) hread]
  refine run_of_later h hnext hafter hend (by simp) ?_
  rw [literalLines, List.length_append, List.length_cons, List.length_append] at hfuel
  omega

/-- A scalar is read as one token, up to the next part. -/
theorem Lexes.scalar {s : String} {f : Form} (hsuits : f.Suits s.toList)
    (hstands : Stands columns column n next) (hplace : innerColumn columns < start) (hnext : NoGap next)
    (h : Lexes true n next (ts ++ [.scalar s f.style]) columns out) :
    Lexes keyAllowed start
      (f.body column s.toList ++ (lineEnd (f.endsLine s.toList) ++ (spaces n ++ next))) ts columns
      out := by
  have hpos : 0 < column := Nat.zero_lt_of_lt hstands.lt
  have htext : String.ofList s.toList = s := String.ofList_toList
  rw [← htext] at h
  cases f with
  | plain => exact .plain hsuits.1 hsuits.2 hplace hnext hstands.outside h
  | single => simpa [Form.body, Form.endsLine, lineEnd, quoteSign] using
      Lexes.single hsuits.1 hsuits.2 hpos hplace hnext h
  | double => simpa [Form.body, Form.endsLine, lineEnd, quoteSign] using Lexes.double hplace hnext h
  | literal => simpa [Form.body, Form.endsLine, literalLines] using
      Lexes.literal hsuits.1 hstands hplace hnext h

end

end Lexer

/-! ## Keys on one line -/

theorem brokenLines_of_not_break {shown : Char → List Char} {column : Nat} {last s : List Char}
    (hs : ∀ x ∈ s, isBreak x = false) : brokenLines shown column last s false = s.flatMap shown := by
  induction s with
  | nil => rfl
  | cons x s ih =>
    rw [brokenLines, hs x List.mem_cons_self, ih fun y hy => hs y (List.mem_cons_of_mem x hy)]
    rfl

theorem length_flatMap_le {shown : Char → List Char} {bound : Nat}
    (hshown : ∀ x, (shown x).length ≤ bound) (s : List Char) : (s.flatMap shown).length ≤ bound * s.length := by
  induction s with
  | nil => simp
  | cons x s ih =>
    rw [List.flatMap_cons, List.length_append, List.length_cons, Nat.mul_succ]
    have := hshown x
    omega

theorem length_singleChar_le (x : Char) : (singleChar x).length ≤ 2 := by
  rw [singleChar]
  split <;> simp

theorem length_doubleChar_le (x : Char) : (Page.doubleChar x).length ≤ 6 := by
  unfold Page.doubleChar
  split
  case h_15 =>
    split
    · simp
    · next hprintable =>
      have hcode : x.toNat ≤ 0xFFFF := by
        by_contra hcode
        refine hprintable ?_
        rw [isPrintable]
        simp
        omega
      split
      · rw [List.length_append, length_hex (by decide) (by omega)]
        decide
      · rw [List.length_append, length_hex (by decide) (by omega)]
        decide
  all_goals decide

theorem length_le_utf8ByteSize (s : String) : s.toList.length ≤ s.utf8ByteSize := by
  have hsize : s.utf8ByteSize = s.toUTF8.data.toList.length := rfl
  rw [hsize, Text.bytes_eq]
  induction s.toList with
  | nil => simp
  | cons x xs ih =>
    have := x.utf8Size_pos
    rw [List.flatMap_cons, List.length_append, String.length_utf8EncodeChar, List.length_cons]
    omega

theorem isSimpleKey_cases {name : String} (h : Page.isSimpleKey name = true) :
    (∀ x ∈ name.toList, isBreak x = false) ∧ name.toList.length ≤ 128 := by
  rw [Page.isSimpleKey, Bool.and_eq_true, Bool.not_eq_true', decide_eq_true_eq] at h
  refine ⟨?_, (length_le_utf8ByteSize name).trans h.2⟩
  have hbreaks := h.1
  cases hname : name.toList with
  | nil => simp
  | cons x rest =>
    rw [hname] at hbreaks
    rw [shape, List.any_eq_false] at hbreaks
    exact fun y hy => Bool.eq_false_iff.2 (hbreaks y hy)

namespace Lexer

section

variable {c : Cursor} {column n : Nat} {rest s : List Char} {ts : List Token} {columns : List Nat}
  {out : List Token}

/-- A token that ends on the line where it starts is a key if a colon stands behind it. -/
theorem run_key {t : Token} {fuel : Nat} (hn : n ≤ 1024) (hafter : (c.advance n).rest = ':' :: rest)
    (hrest : atGap rest = true) (hcolumns : innerColumn columns ≤ c.column)
    (h : ∀ after, c.column < after → Lexes false after rest
      (ts ++ opening .blockMapping c.column columns ++ [.key, t, .value]) (within c.column columns) out)
    (hfuel : (c.advance n).rest.length < fuel) :
    run fuel (inBlocks (c.advance n) (ts ++ [t]) columns false (place c ts columns true)) =
      .ok out.toArray := by
  have hplace : place c ts columns true =
      some ⟨ts.length, innerColumn columns == c.column, c.index, c.line, c.column⟩ := rfl
  have hopen := isOpen_place hplace hn
  rw [hplace]
  refine run_colon hafter hrest hopen rfl ?_ (h _ ?_) hfuel
  · rw [Cursor.column_advance]
    omega
  · rw [Cursor.column_advance]
    omega

theorem Lexes.plainKey (hplain : (shape s).plain = true) (hne : s ≠ []) (hbound : s.length ≤ 1024)
    (hcolumns : innerColumn columns ≤ column) (hrest : atGap rest = true)
    (h : ∀ after, column < after → Lexes false after rest (ts ++ opening .blockMapping column columns ++
      [.key, .scalar (String.ofList s) .plain, .value]) (within column columns) out) :
    Lexes true column (s ++ ':' :: rest) ts columns out := by
  intro c hc hcolumn fuel hfuel
  subst hcolumn
  obtain ⟨fuel, rfl⟩ : ∃ f, fuel = f + 1 := ⟨fuel - 1, by omega⟩
  have hafter : (c.advance s.length).rest = ':' :: rest := Cursor.rest_advance hc
  rw [run_plain hplain hne hc (.inl rfl) hcolumns (.colon hafter hrest) (by rwa [hc])]
  refine run_key hbound hafter hrest hcolumns h ?_
  have hpos := List.length_pos_of_ne_nil hne
  rw [List.length_append] at hfuel
  rw [hafter]
  omega

theorem Lexes.quotedKey (single : Bool) (shown : Char → List Char) (hspace : shown ' ' = [' '])
    (hshown : ∀ x ∈ s, x ≠ ' ' → IsShown single x (shown x)) (hbound : (s.flatMap shown).length ≤ 1000)
    (hcolumns : innerColumn columns ≤ column) (hrest : atGap rest = true)
    (h : ∀ after, column < after → Lexes false after rest (ts ++ opening .blockMapping column columns ++
      [.key, .scalar (String.ofList s) .quoted, .value]) (within column columns) out) :
    Lexes true column (quoteSign single :: (s.flatMap shown ++ quoteSign single :: ':' :: rest))
      ts columns out := by
  intro c hc hcolumn fuel hfuel
  subst hcolumn
  obtain ⟨fuel, rfl⟩ : ∃ f, fuel = f + 1 := ⟨fuel - 1, by omega⟩
  have hinside := Cursor.rest_advance_one hc
  obtain ⟨hreads, -⟩ := readsOn_flatMap hspace (by simp) s hshown (c.advance 1) hinside
    (by rw [Cursor.column_advance]; omega)
  rw [Cursor.advance_append] at hreads
  have hafter : (c.advance (1 + ((s.flatMap shown).length + 1))).rest = ':' :: rest := by
    rw [← Cursor.advance_append, ← Cursor.advance_append]
    exact Cursor.rest_advance_one (Cursor.rest_advance hinside)
  rw [run_quoted hc (by simp) hcolumns hreads (by rwa [hc])]
  refine run_key (by omega) hafter hrest hcolumns h ?_
  rw [List.length_cons, List.length_append, List.length_cons] at hfuel
  rw [hafter]
  omega

/-- A name that is written on one line is read as a key with the colon behind it. -/
theorem Lexes.simpleKey {name : String} (hname : Page.isSimpleKey name = true)
    (hcolumns : innerColumn columns ≤ column) (hrest : atGap rest = true)
    (h : ∀ after, column < after → Lexes false after rest (ts ++ opening .blockMapping column columns ++
      [.key, .scalar name (form name true).style, .value]) (within column columns) out) :
    Lexes true column ((form name true).body (column + 2) name.toList ++ ':' :: rest) ts columns
      out := by
  obtain ⟨hbreaks, hlength⟩ := isSimpleKey_cases hname
  have hsuits := suits_form name true
  have htext : String.ofList name.toList = name := String.ofList_toList
  -- The bound on a key's bytes leaves room for the escapes.
  have hbound {shown : Char → List Char} (hshown : ∀ x, (shown x).length ≤ 6) :
      (name.toList.flatMap shown).length ≤ 1000 := by
    have hle := length_flatMap_le hshown name.toList
    omega
  cases hform : form name true with
  | plain =>
    rw [hform] at hsuits
    rw [hform, ← htext] at h
    exact .plainKey hsuits.1 hsuits.2 (hlength.trans (by decide)) hcolumns hrest h
  | single =>
    rw [hform] at hsuits
    rw [hform, ← htext] at h
    obtain ⟨hprintable, -, -⟩ := single_cases hsuits.1
    rw [Form.body, brokenLines_of_not_break hbreaks]
    simpa [quoteSign] using Lexes.quotedKey true singleChar rfl
      (fun x hx hspace => isShown_single (hprintable x hx) hspace (hbreaks x hx))
      (hbound fun x => (length_singleChar_le x).trans (by decide)) hcolumns hrest h
  | double =>
    rw [hform, ← htext] at h
    rw [Form.body]
    simpa [quoteSign] using Lexes.quotedKey false Page.doubleChar rfl
      (fun x _ hspace => isShown_double hspace) (hbound length_doubleChar_le) hcolumns hrest h
  | literal =>
    rw [hform] at hsuits
    exact absurd (hbreaks _ hsuits.2) (by decide)

end

end Lexer

end Groundwork.Yaml
