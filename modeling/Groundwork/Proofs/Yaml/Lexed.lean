/-
The tokens of what is written for a tree.

A list or a record opens a block at its column, with one token before its first part and one
after its last; only a list that is the value of a field and not further in than the field
has no block of its own. Going backwards from the end of a text, every part is read as its
tokens before those of what comes next, up to the whole of it (`tokens_print`).
-/
import Groundwork.Proofs.Yaml.Characters
import Groundwork.Proofs.Yaml.Scalars

set_option autoImplicit false

namespace Groundwork.Yaml

open Lexer

/-! ## Tokens of values -/

/-- The token of a field's name. -/
def nameToken (name : String) : Token :=
  .scalar name (form name (Page.isSimpleKey name)).style

mutual

/-- The tokens of a tree, after a sign on the line of which a collection may start or not. -/
def Tree.tokens (onLine : Bool) : Tree → List Token
  | .text s => [.scalar s (form s false).style]
  | .flag b => [.scalar (if b then "true" else "false") .plain]
  | .list [] => [.flowSequence, .flowSequenceEnd]
  | .record [] => [.flowMapping, .flowMappingEnd]
  | .list (t :: ts) =>
    if onLine then .blockSequence :: itemTokens (t :: ts) ++ [.blockEnd] else itemTokens (t :: ts)
  | .record (f :: fs) => .blockMapping :: fieldTokens (f :: fs) ++ [.blockEnd]

/-- The tokens of the items of a list. -/
def itemTokens : List Tree → List Token
  | [] => []
  | t :: ts => .blockEntry :: t.tokens true ++ itemTokens ts

/-- The tokens of the fields of a record. -/
def fieldTokens : List (String × Tree) → List Token
  | [] => []
  | (name, t) :: fs =>
    .key :: nameToken name :: .value :: t.tokens (!Page.isSimpleKey name) ++ fieldTokens fs

end

/-- A truth value is written as a plain scalar. -/
theorem suits_flag (b : Bool) : Form.plain.Suits (if b then "true" else "false").toList := by
  cases b <;> exact ⟨by decide, by decide⟩

theorem valueText_onLine (column : Nat) (t : Tree) : ∃ rest, valueText true column t = ' ' :: rest := by
  cases t with
  | text | flag => exact ⟨_, rfl⟩
  | list items => cases items <;> exact ⟨_, rfl⟩
  | record fields => cases fields <;> exact ⟨_, rfl⟩

theorem atGap_valueText (onLine : Bool) (column : Nat) (t : Tree) (rest : List Char) :
    atGap (valueText onLine column t ++ rest) = true := by
  cases t with
  | text | flag => rfl
  | list items => cases items <;> cases onLine <;> rfl
  | record fields => cases fields <;> cases onLine <;> rfl

theorem noGap_itemsText (column : Nat) (t : Tree) (ts : List Tree) (rest : List Char) :
    NoGap (itemsText column (t :: ts) ++ rest) := by
  rw [itemsText]
  exact ⟨rfl, by decide, by decide⟩

theorem noGap_fieldsText (column : Nat) (f : String × Tree) (fs : List (String × Tree))
    (rest : List Char) : NoGap (fieldsText column (f :: fs) ++ rest) := by
  obtain ⟨name, t⟩ := f
  rw [fieldsText, keyText]
  split
  · simp only [List.append_assoc]
    exact noGap_body (suits_form name true) _ _
  · exact ⟨rfl, by decide, by decide⟩

section

variable {n : Nat} {next : List Char} {out : List Token}

/-- The name of a field and the colon after it. -/
theorem Lexer.Lexes.key {column : Nat} {ts : List Token} {columns : List Nat} {name : String}
    {rest : List Char} (hcolumns : innerColumn columns ≤ column) (hrest : atGap rest = true)
    (h : ∀ place, column < place → (Page.isSimpleKey name = false → place = column + 1) →
      Lexes (!Page.isSimpleKey name) place rest (ts ++ opening .blockMapping column columns ++
        [.key, nameToken name, .value]) (within column columns) out) :
    Lexes true column (keyText column name ++ rest) ts columns out := by
  rw [keyText]
  cases hname : Page.isSimpleKey name with
  | true =>
    rw [if_pos rfl, List.append_assoc]
    refine Lexes.simpleKey hname hcolumns hrest fun place hplace => ?_
    simpa [nameToken, hname] using h place hplace
  | false =>
    obtain ⟨around, haround⟩ := exists_within hcolumns
    have hvalue := h (column + 1) (by omega) fun _ => rfl
    rw [hname, haround] at hvalue
    rw [if_neg (by decide)]
    simp only [List.append_assoc, List.cons_append]
    refine .question hcolumns (.space ?_ ?_)
    · rw [haround, List.nil_append]
      refine .scalar (suits_form name false) (.inside (Nat.le_refl _))
        (by simp only [innerColumn]; omega) ⟨rfl, by decide, by decide⟩ (.colon hrest ?_)
      simpa [nameToken, hname] using hvalue
    · exact noGap_body (suits_form name false) _ _

/-- A list or a record that is further in than the block around it is closed before the next
part. -/
theorem lexes_inner {k column : Nat} {around : List Nat} {ts us : List Token} (hk : k < column)
    (hn : n ≤ k) (hnext : NoGap next) (t : Token)
    (h : Lexes true n next (ts ++ (t :: us ++ [.blockEnd])) (k :: around) out) :
    Lexes true n next (ts ++ opening t column (k :: around) ++ us) (within column (k :: around))
      out := by
  have hlt : innerColumn (k :: around) < column := by
    simp only [innerColumn]
    omega
  rw [opening_of_lt t hlt, within_of_lt hlt]
  refine .dedent ?_ hnext (by omega)
  simpa using h

mutual

/-- The tokens of a value. -/
theorem lexes_value (onLine : Bool) (k place : Nat) (t : Tree) (around : List Nat) (ts : List Token)
    (n : Nat) (next : List Char) (hplace : k < place) (hon : onLine = true → place = k + 1)
    (hn : n ≤ k) (hnext : NoGap next)
    (h : Lexes true n next (ts ++ t.tokens onLine) (k :: around) out) :
    Lexes onLine place (valueText onLine k t ++ (lineEnd t.endsLine ++ (spaces n ++ next))) ts
      (k :: around) out := by
  have hinside : innerColumn (k :: around) < ((place + 1 : Nat) : Int) := by
    simp only [innerColumn]
    omega
  match t with
  | .text s =>
    exact .space (.scalar (suits_form s false) (.inside hn) hinside hnext h)
      (noGap_body (suits_form s false) _ _)
  | .flag b =>
    exact .space (.scalar (suits_flag b) (.inside hn) hinside hnext h)
      (noGap_body (suits_flag b) (k + 2) _)
  | .list [] =>
    exact .space (.empty .sequence hinside h hnext) ⟨rfl, by decide, by decide⟩
  | .record [] =>
    exact .space (.empty .mapping hinside h hnext) ⟨rfl, by decide, by decide⟩
  | .list (t :: rest) =>
    cases onLine with
    | true =>
      obtain rfl := hon rfl
      refine .space ?_ (noGap_itemsText (k + 2) t rest _)
      refine lexes_items (k + 2) false (t :: rest) (by simp) (k :: around) ts n next
        (by simp only [innerColumn]; omega) (by omega) hnext ?_
      exact lexes_inner (by omega) hn hnext .blockSequence h
    | false =>
      -- The list stands at the column of the record around it, so no block is opened.
      rw [valueText]
      simp only [openGap, Bool.false_eq_true, if_false, List.append_assoc, List.cons_append]
      refine .line ?_ (noGap_itemsText k t rest _)
      refine lexes_items k false (t :: rest) (by simp) (k :: around) ts n next (Int.le_refl _) hn
        hnext ?_
      rw [opening_self, within_self, List.append_nil]
      exact h
  | .record (f :: rest) =>
    have hfields := lexes_fields (k + 2) false (f :: rest) (by simp) (k :: around) ts n next
      (by simp only [innerColumn]; omega) (by omega) hnext
      (lexes_inner (by omega) hn hnext .blockMapping h)
    cases onLine with
    | true =>
      obtain rfl := hon rfl
      exact .space hfields (noGap_fieldsText (k + 2) f rest _)
    | false =>
      rw [valueText]
      simp only [openGap, Bool.false_eq_true, if_false, List.append_assoc, List.cons_append]
      exact .line hfields (noGap_fieldsText (k + 2) f rest _)

/-- The tokens of the items of a list. -/
theorem lexes_items (column : Nat) (before : Bool) (items : List Tree) (hne : items ≠ [])
    (columns : List Nat) (ts : List Token) (n : Nat) (next : List Char)
    (hcolumns : innerColumn columns ≤ column) (hn : n ≤ column) (hnext : NoGap next)
    (h : Lexes true n next
      (ts ++ opening .blockSequence column columns ++ itemTokens items) (within column columns) out) :
    Lexes true column
      (itemsText column items ++ (lineEnd (itemsEnd before items) ++ (spaces n ++ next))) ts columns
      out := by
  obtain ⟨around, haround⟩ := exists_within hcolumns
  -- The block is opened at the first dash only; behind any dash it is there.
  have hdash {t : Tree} {after : List Char}
      (hvalue : Lexes true (column + 1) (valueText true column t ++ after)
        (ts ++ opening .blockSequence column columns ++ [.blockEntry]) (column :: around) out) :
      Lexes true column ('-' :: (valueText true column t ++ after)) ts columns out := by
    obtain ⟨text, htext⟩ := valueText_onLine column t
    rw [htext] at hvalue ⊢
    refine .dash hcolumns ?_
    rw [haround]
    exact hvalue
  rw [haround] at h
  match items with
  | [] => exact absurd rfl hne
  | [t] =>
    rw [itemsText, itemsEnd, itemsEnd, List.isEmpty_nil, if_pos rfl, List.append_nil]
    refine hdash (lexes_value true column (column + 1) t around _ n next (by omega) (fun _ => rfl) hn
      hnext ?_)
    simpa [itemTokens] using h
  | t :: u :: rest =>
    rw [itemsText, itemsEnd, List.isEmpty_cons, if_neg (by decide)]
    simp only [List.append_assoc, List.cons_append]
    refine hdash (lexes_value true column (column + 1) t around _ column _ (by omega) (fun _ => rfl)
      (Nat.le_refl _) (noGap_itemsText column u rest _) ?_)
    refine lexes_items column t.endsLine (u :: rest) (by simp) (column :: around) _ n next
      (Int.le_refl _) hn hnext ?_
    rw [opening_self, within_self]
    simpa [itemTokens] using h

/-- The tokens of the fields of a record. -/
theorem lexes_fields (column : Nat) (before : Bool) (fields : List (String × Tree)) (hne : fields ≠ [])
    (columns : List Nat) (ts : List Token) (n : Nat) (next : List Char)
    (hcolumns : innerColumn columns ≤ column) (hn : n ≤ column) (hnext : NoGap next)
    (h : Lexes true n next
      (ts ++ opening .blockMapping column columns ++ fieldTokens fields) (within column columns) out) :
    Lexes true column
      (fieldsText column fields ++ (lineEnd (fieldsEnd before fields) ++ (spaces n ++ next))) ts columns
      out := by
  obtain ⟨around, haround⟩ := exists_within hcolumns
  rw [haround] at h
  match fields with
  | [] => exact absurd rfl hne
  | [(name, t)] =>
    rw [fieldsText, fieldsEnd, fieldsEnd, List.isEmpty_nil, if_pos rfl, List.append_nil,
      List.append_assoc]
    refine .key hcolumns (atGap_valueText _ _ _ _) fun place hplace hon => ?_
    rw [haround]
    refine lexes_value (!Page.isSimpleKey name) column place t around _ n next hplace
      (by simpa using hon) hn hnext ?_
    simpa [fieldTokens] using h
  | (name, t) :: g :: rest =>
    rw [fieldsText, fieldsEnd, List.isEmpty_cons, if_neg (by decide)]
    simp only [List.append_assoc]
    refine .key hcolumns (atGap_valueText _ _ _ _) fun place hplace hon => ?_
    rw [haround]
    refine lexes_value (!Page.isSimpleKey name) column place t around _ column _ hplace
      (by simpa using hon) (Nat.le_refl _) (noGap_fieldsText column g rest _) ?_
    refine lexes_fields column t.endsLine (g :: rest) (by simp) (column :: around) _ n next
      (Int.le_refl _) hn hnext ?_
    rw [opening_self, within_self]
    simpa [fieldTokens] using h

end

end

/-- What is written for a tree has the tokens of the tree. -/
theorem lexes_written (t : Tree) :
    Lexes true 0 (t.written ++ (lineEnd t.endsLine ++ (spaces 0 ++ []))) [] [] (t.tokens true) := by
  have hend (columns : List Nat) (hcolumns : innerColumn columns ≤ 0) (ts : List Token) :
      Lexes true 0 [] ts columns (ts ++ List.replicate columns.length .blockEnd) := Lexes.nil hcolumns
  have hclosed (ts : List Token) : Lexes true 0 [] ts [] ts := by simpa using hend [] (by decide) ts
  cases t with
  | text s => exact .scalar (suits_form s false) .alone (by decide) trivial (hclosed _)
  | flag b => exact .scalar (suits_flag b) .alone (by decide) trivial (hclosed _)
  | list items =>
    cases items with
    | nil => exact .empty .sequence (by decide) (hclosed _) trivial
    | cons t rest =>
      exact lexes_items 0 false (t :: rest) (by simp) [] [] 0 [] (by decide) (by decide) trivial
        (hend [0] (by decide) (.blockSequence :: itemTokens (t :: rest)))
  | record fields =>
    cases fields with
    | nil => exact .empty .mapping (by decide) (hclosed _) trivial
    | cons f rest =>
      exact lexes_fields 0 false (f :: rest) (by simp) [] [] 0 [] (by decide) (by decide) trivial
        (hend [0] (by decide) (.blockMapping :: fieldTokens (f :: rest)))

/-- **Tokens.** What is written for a tree is read as the tokens of the tree. -/
theorem tokens_print (t : Tree) : tokens t.print.toList = .ok (t.tokens true) := by
  have hallowed : t.print.toList.all isAllowed = true := by
    rw [List.all_eq_true]
    exact fun x hx => isAllowed_of_isPrintable (allPrintable_print t x hx)
  have hlexes := lexes_written t
  simp only [spaces, List.replicate_zero, List.append_nil] at hlexes
  rw [← Tree.toList_print] at hlexes
  have hrun : run (t.print.toList.length + 1) { cursor := { rest := t.print.toList } } =
      .ok (t.tokens true).toArray := hlexes { rest := t.print.toList } rfl rfl _ (Nat.lt_succ_self _)
  rw [tokens, if_pos hallowed, hrun]
  rfl

end Groundwork.Yaml
