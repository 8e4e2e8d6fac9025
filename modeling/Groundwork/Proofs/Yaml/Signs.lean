/-
Reading signs. A dash, a question mark or the colon of a field stands in a block at its
column, which is opened there if it is not yet; a key on one line is known by the colon
behind it.
-/
import Groundwork.Proofs.Yaml.Blocks

set_option autoImplicit false

namespace Groundwork.Yaml.Lexer

/-! ## Blocks that are opened -/

/-- The token that opens a block at a column, unless it is open already. -/
def opening (t : Token) (column : Nat) (columns : List Nat) : List Token :=
  if column ≤ innerColumn columns then [] else [t]

/-- The blocks once one is open at a column. -/
def within (column : Nat) (columns : List Nat) : List Nat :=
  if column ≤ innerColumn columns then columns else column :: columns

variable {c : Cursor} {ts : List Token} {columns : List Nat} {out : List Token}
  {keyAllowed : Bool} {column n : Nat} {rest : List Char} {key : Option KeyPlace} {x : Char}

@[simp] theorem opening_self (t : Token) : opening t column (column :: columns) = [] :=
  if_pos (Int.le_refl _)

@[simp] theorem within_self : within column (column :: columns) = column :: columns :=
  if_pos (Int.le_refl _)

theorem opening_of_lt (t : Token) (h : innerColumn columns < column) : opening t column columns = [t] :=
  if_neg (by omega)

theorem within_of_lt (h : innerColumn columns < column) : within column columns = column :: columns :=
  if_neg (by omega)

theorem exists_within (h : innerColumn columns ≤ column) :
    ∃ around, within column columns = column :: around := by
  rw [within]
  split
  · next hle =>
    cases columns with
    | nil => simp only [innerColumn] at hle; omega
    | cons k around =>
      obtain rfl : k = column := by simp only [innerColumn] at h hle; omega
      exact ⟨around, rfl⟩
  · exact ⟨columns, rfl⟩

theorem insertIdx_length_append {α : Type} (xs ys : List α) (a : α) :
    (xs ++ ys).insertIdx xs.length a = xs ++ a :: ys := by
  induction xs with
  | nil => rfl
  | cons x xs ih => rw [List.cons_append, List.length_cons, List.insertIdx_succ_cons, ih]; rfl

theorem insert_inBlocks (us : List Token) (t : Token) :
    (inBlocks c (ts ++ us) columns keyAllowed key).insert ts.length t =
      inBlocks c (ts ++ t :: us) columns keyAllowed key := by
  rw [insert, inBlocks, List.insertIdxIfInBounds_toArray, insertIdx_length_append]
  rfl

/-- A block is opened with its token before some others. -/
theorem openBlock_inBlocks (us : List Token) (t : Token) :
    openBlock column ts.length t (inBlocks c (ts ++ us) columns keyAllowed key) =
      inBlocks c (ts ++ opening t column columns ++ us) (within column columns) keyAllowed key := by
  rw [openBlock, insert_inBlocks, inFlow_inBlocks, indent_inBlocks]
  by_cases h : (column : Int) ≤ innerColumn columns
  · simp [opening, within, h]
  · simp [opening, within, h]
    rfl

theorem openBlockHere_inBlocks (t : Token) :
    openBlockHere t (inBlocks c ts columns true key) =
      .ok (inBlocks c (ts ++ opening t c.column columns) (within c.column columns) true key) := by
  have hopen := @openBlock_inBlocks c ts columns true c.column key [] t
  rw [List.append_nil, List.append_nil] at hopen
  rw [openBlockHere, inFlow_inBlocks, keyAllowed_inBlocks, size_inBlocks, cursor_inBlocks, hopen]
  rfl

/-! ## Signs of blocks -/

/-- A lexer at a token, inside the blocks that it is in. -/
theorem run_inBlocks (hc : c.rest = x :: rest) (hx : NoGap (x :: rest))
    (hcolumns : innerColumn columns ≤ c.column) (fuel : Nat) :
    run (fuel + 1) (inBlocks c ts columns keyAllowed none) =
      (inBlocks c ts columns keyAllowed none).readToken (fuel + 1) x rest >>= run fuel := by
  have hgap : NoGap c.rest := by rwa [hc]
  have hclose : closeBlocks c.column (inBlocks c ts columns keyAllowed none) =
      inBlocks c ts columns keyAllowed none := closeBlocks_of_le hcolumns
  rw [run_succ (dropStaleKeys_skipGap hgap _), cursor_inBlocks, hclose, cursor_inBlocks, hc]

/-- Reading a token that leaves no place kept for a key. -/
theorem Lexes.of_readToken {us : List Token} {columns' : List Nat} {allowed : Bool}
    {fuel : Nat} (hc : c.rest = x :: rest) (hx : NoGap (x :: rest))
    (hcolumns : innerColumn columns ≤ c.column)
    (hread : readToken fuel x rest (inBlocks c ts columns keyAllowed none) =
      .ok (inBlocks (c.advance 1) us columns' allowed none))
    (h : Lexes allowed (c.column + 1) rest us columns' out) (hfuel : (x :: rest).length < fuel) :
    run fuel (inBlocks c ts columns keyAllowed none) = .ok out.toArray := by
  obtain ⟨fuel, rfl⟩ := Nat.exists_eq_succ_of_ne_zero (Nat.ne_zero_of_lt hfuel)
  rw [List.length_cons] at hfuel
  rw [Nat.succ_eq_add_one, run_inBlocks hc hx hcolumns, hread]
  exact h _ (Cursor.rest_advance_one hc) rfl _ (by omega)

/-- The dash of an item. -/
theorem Lexes.dash (hcolumns : innerColumn columns ≤ column)
    (h : Lexes true (column + 1) (' ' :: rest)
      (ts ++ opening .blockSequence column columns ++ [.blockEntry]) (within column columns) out) :
    Lexes true column ('-' :: ' ' :: rest) ts columns out := by
  intro c hc hcolumn fuel hfuel
  subst hcolumn
  refine Lexes.of_readToken hc ⟨rfl, by decide, by decide⟩ hcolumns ?_ h hfuel
  have hread : readToken fuel '-' (' ' :: rest) (inBlocks c ts columns true none) =
      (inBlocks c ts columns true none).blockEntry := by
    simp [readToken, Cursor.atDocumentMark, hc, atGap, isSolid, isBlank]
  rw [hread, blockEntry, openBlockHere_inBlocks]
  change Except.ok (((inBlocks c _ _ true none).push .blockEntry).move (c.advance 1)) = _
  rw [push_inBlocks, move_inBlocks]

/-- The sign of a complex key. -/
theorem Lexes.question (hcolumns : innerColumn columns ≤ column)
    (h : Lexes true (column + 1) (' ' :: rest)
      (ts ++ opening .blockMapping column columns ++ [.key]) (within column columns) out) :
    Lexes true column ('?' :: ' ' :: rest) ts columns out := by
  intro c hc hcolumn fuel hfuel
  subst hcolumn
  refine Lexes.of_readToken hc ⟨rfl, by decide, by decide⟩ hcolumns ?_ h hfuel
  have hread : readToken fuel '?' (' ' :: rest) (inBlocks c ts columns true none) =
      (inBlocks c ts columns true none).complexKey := by
    simp [readToken, Cursor.atDocumentMark, hc, atGap, isSolid, isBlank]
  rw [hread, complexKey, openBlockHere_inBlocks]
  change Except.ok (((inBlocks c _ _ true none).push .key).move (c.advance 1)) = _
  rw [push_inBlocks, move_inBlocks]

theorem readToken_colon {fuel : Nat} (hc : c.rest = ':' :: rest) (hgap : atGap rest = true) :
    readToken fuel ':' rest (inBlocks c ts columns keyAllowed key) =
      (inBlocks c ts columns keyAllowed key).value := by
  simp [readToken, Cursor.atDocumentMark, hc, hgap]

/-- The colon after a complex key. -/
theorem Lexes.colon (hgap : atGap rest = true)
    (h : Lexes true (column + 1) rest (ts ++ [.value]) (column :: columns) out) :
    Lexes true column (':' :: rest) ts (column :: columns) out := by
  intro c hc hcolumn fuel hfuel
  subst hcolumn
  refine Lexes.of_readToken hc ⟨rfl, by decide, by decide⟩ (Int.le_refl _) ?_ h hfuel
  rw [readToken_colon hc hgap, value, keys_inBlocks]
  simp only [openBlockHere_inBlocks, opening_self, within_self, List.append_nil]
  change Except.ok (((inBlocks c ts (c.column :: columns) true none).push .value).move
    (c.advance 1)) = _
  rw [push_inBlocks, move_inBlocks]

/-! ## Tokens that may be keys -/

/-- The place that is kept for a key at a token. -/
def place (c : Cursor) (ts : List Token) (columns : List Nat) (keyAllowed : Bool) :
    Option KeyPlace :=
  if keyAllowed then
    some ⟨ts.length, innerColumn columns == c.column, c.index, c.line, c.column⟩
  else none

theorem markKey_inBlocks (c : Cursor) (ts : List Token) (columns : List Nat) (keyAllowed : Bool) :
    (inBlocks c ts columns keyAllowed none).markKey =
      .ok (inBlocks c ts columns keyAllowed (place c ts columns keyAllowed)) := by
  cases keyAllowed with
  | false => rfl
  | true =>
    rw [markKey, dropKey_inBlocks, keyAllowed_inBlocks]
    simp only [bind, Except.bind, size_inBlocks, inFlow_inBlocks, indent_inBlocks, cursor_inBlocks]
    rfl

/-- Where no key is required, none is. -/
theorem required_place (h : keyAllowed = true → innerColumn columns ≠ c.column) {p : KeyPlace}
    (hp : place c ts columns keyAllowed = some p) : p.required = false ∧ p.line = c.line := by
  rw [place] at hp
  split at hp
  · next hallowed =>
    cases hp
    exact ⟨beq_eq_false_iff_ne.2 (h hallowed), rfl⟩
  · cases hp

/-- A key may end on the same line, and not too far away. -/
theorem isOpen_place {p : KeyPlace} (hp : place c ts columns keyAllowed = some p) {n : Nat}
    (hn : n ≤ 1024) : KeyPlace.isOpen p (c.advance n) = true := by
  rw [place] at hp
  split at hp
  · cases hp
    simp [KeyPlace.isOpen, Cursor.advance, hn]
  · cases hp

/-- The colon right behind a key. -/
theorem run_colon {t : Token} {fuel : Nat} (hc : c.rest = ':' :: rest) (hgap : atGap rest = true)
    {p : KeyPlace} (hp : KeyPlace.isOpen p c = true) (htoken : p.token = ts.length)
    (hcolumns : innerColumn columns ≤ c.column)
    (h : Lexes false (c.column + 1) rest
      (ts ++ opening .blockMapping p.column columns ++ [.key, t, .value]) (within p.column columns) out)
    (hfuel : c.rest.length < fuel) :
    run fuel (inBlocks c (ts ++ [t]) columns false (some p)) = .ok out.toArray := by
  obtain ⟨fuel, rfl⟩ := Nat.exists_eq_succ_of_ne_zero (Nat.ne_zero_of_lt hfuel)
  have hnext : NoGap c.rest := by
    rw [hc]
    exact ⟨rfl, by decide, by decide⟩
  have hkept : (skipGap (fuel + 1) (inBlocks c (ts ++ [t]) columns false (some p))).dropStaleKeys =
      .ok (inBlocks c (ts ++ [t]) columns false (some p)) := by
    rw [skipGap_of_noGap (s := inBlocks c (ts ++ [t]) columns false (some p)) hnext, dropStaleKeys]
    simp [hp, inBlocks]
  have hclose : closeBlocks c.column (inBlocks c (ts ++ [t]) columns false (some p)) =
      inBlocks c (ts ++ [t]) columns false (some p) := closeBlocks_of_le hcolumns
  rw [Nat.succ_eq_add_one, run_succ hkept, cursor_inBlocks, hclose, cursor_inBlocks, hc]
  simp only
  have hvalue : (inBlocks c (ts ++ [t]) columns false (some p)).value =
      .ok (inBlocks (c.advance 1)
        (ts ++ opening .blockMapping p.column columns ++ [.key, t, .value])
        (within p.column columns) false none) := by
    rw [value, keys_inBlocks]
    simp only [htoken, insert_inBlocks, openBlock_inBlocks]
    change Except.ok (((inBlocks c _ _ false none).push .value).move (c.advance 1)) = _
    rw [push_inBlocks, move_inBlocks, List.append_assoc]
    rfl
  rw [readToken_colon hc hgap, hvalue]
  rw [hc, List.length_cons] at hfuel
  exact h _ (Cursor.rest_advance_one hc) rfl _ (by omega)

/-! ## Empty collections -/

/-- The signs around a collection that is written on a line, and their tokens. -/
inductive Brackets : Char → Char → Token → Token → Prop
  | sequence : Brackets '[' ']' .flowSequence .flowSequenceEnd
  | mapping : Brackets '\x7b' '\x7d' .flowMapping .flowMappingEnd

/-- A lexer inside a flow collection in some blocks. The collection may be a key itself. -/
def inCollection (c : Cursor) (ts : List Token) (columns : List Nat) (key : Option KeyPlace) :
    Lexer where
  cursor := c
  tokens := ts.toArray
  indent := innerColumn columns
  indents := outerColumns columns
  flowLevel := 1
  keys := [none, key]

variable {opens closes : Token} {y : Char}

@[simp] theorem cursor_inCollection : (inCollection c ts columns key).cursor = c := rfl

/-- No block is closed inside a flow collection. -/
theorem closeBlocks_inCollection (upto : Int) :
    closeBlocks upto (inCollection c ts columns key) = inCollection c ts columns key := rfl

theorem openFlow_inBlocks (t : Token) : (inBlocks c ts columns keyAllowed none).openFlow t =
    .ok (inCollection (c.advance 1) (ts ++ [t]) columns (place c ts columns keyAllowed)) := by
  rw [openFlow, markKey_inBlocks]
  simp [bind, Except.bind, pure, Except.pure, push, move, inBlocks, inCollection]

theorem closeFlow_inCollection (t : Token) : (inCollection c ts columns key).closeFlow t =
    .ok (inBlocks (c.advance 1) (ts ++ [t]) columns false key) := by
  simp [closeFlow, dropKey, inCollection, inFlow, bind, Except.bind, pure, Except.pure, push, move,
    inBlocks]

theorem readToken_opens (h : Brackets x y opens closes) (hc : c.rest = x :: rest) (fuel : Nat) :
    readToken fuel x rest (inBlocks c ts columns keyAllowed none) =
      .ok (inCollection (c.advance 1) (ts ++ [opens]) columns (place c ts columns keyAllowed)) := by
  rw [← openFlow_inBlocks]
  cases h <;> simp [readToken, Cursor.atDocumentMark, hc]

theorem readToken_closes (h : Brackets x y opens closes) (hc : c.rest = y :: rest) (fuel : Nat) :
    readToken fuel y rest (inCollection c ts columns key) =
      .ok (inBlocks (c.advance 1) (ts ++ [closes]) columns false key) := by
  rw [← closeFlow_inCollection]
  cases h <;> simp [readToken, Cursor.atDocumentMark, inCollection, hc]

theorem Brackets.noGap (h : Brackets x y opens closes) (rest : List Char) :
    NoGap (x :: rest) ∧ NoGap (y :: rest) := by
  cases h <;> exact ⟨⟨rfl, by decide, by decide⟩, rfl, by decide, by decide⟩

/-- The two signs of an empty collection, before a new line. -/
theorem Lexes.empty (hbrackets : Brackets x y opens closes) (hcolumns : innerColumn columns < column)
    (h : Lexes true n rest (ts ++ [opens, closes]) columns out) (hrest : NoGap rest) :
    Lexes keyAllowed column (x :: y :: '\n' :: (spaces n ++ rest)) ts columns out := by
  intro c hc hcolumn fuel hfuel
  obtain ⟨fuel, rfl⟩ : ∃ f, fuel = f + 2 := by
    rw [List.length_cons, List.length_cons] at hfuel
    exact ⟨fuel - 2, by omega⟩
  have hinside : (c.advance 1).rest = y :: '\n' :: (spaces n ++ rest) := Cursor.rest_advance_one hc
  have hafter : ((c.advance 1).advance 1).rest = '\n' :: (spaces n ++ rest) :=
    Cursor.rest_advance_one hinside
  -- The place before the collection is still on the same line at its end.
  have hkept : (skipGap (fuel + 1) (inCollection (c.advance 1) (ts ++ [opens]) columns
      (place c ts columns keyAllowed))).dropStaleKeys =
      .ok (inCollection (c.advance 1) (ts ++ [opens]) columns (place c ts columns keyAllowed)) := by
    have hgap : NoGap (c.advance 1).rest := by
      rw [hinside]
      exact (hbrackets.noGap _).2
    rw [skipGap_of_noGap (s := inCollection (c.advance 1) _ _ _) hgap, dropStaleKeys]
    cases hkey : place c ts columns keyAllowed with
    | none => simp [inCollection]
    | some p => simp [inCollection, isOpen_place hkey (by decide : 1 ≤ 1024)]
  rw [run_inBlocks hc (hbrackets.noGap _).1 (by omega), readToken_opens hbrackets hc]
  change run (fuel + 1) (inCollection (c.advance 1) _ _ _) = _
  rw [run_succ hkept, closeBlocks_inCollection, cursor_inCollection, hinside]
  simp only
  rw [readToken_closes hbrackets hinside, List.append_assoc]
  refine run_of_line h hrest hafter (fun p hp => ?_) ?_
  · obtain ⟨hrequired, hline⟩ := required_place (fun _ => by omega) hp
    exact ⟨hrequired, by rw [hline]; exact Nat.le_refl _⟩
  · rw [hafter]
    simpa using hfuel

end Groundwork.Yaml.Lexer
