/-
Reading what is written for a tree. The tokens of each part are read as its nodes, whatever
tokens come after them, and the node of the whole is taken for the tree that was written
(`Document.ofBytes_print`, `tree?_node`).
-/
import Groundwork.Proofs.Yaml.Lexed
import Groundwork.Proofs.Yaml.ReadBack

set_option autoImplicit false

namespace Groundwork.Yaml

namespace Read

variable {p : Progress} {more : List Token} {inBlock indentless : Bool}

theorem node_blockSequence (fuel : Nat) :
    (node true indentless (fuel + 1)).run { p with rest := .blockSequence :: more } =
      (.sequence <$> blockItems fuel).run { p with rest := more } := rfl

theorem node_blockMapping (fuel : Nat) :
    (node true indentless (fuel + 1)).run { p with rest := .blockMapping :: more } =
      (.mapping <$> blockEntries fuel).run { p with rest := more } := rfl

theorem node_blockEntry (fuel : Nat) :
    (node true true (fuel + 1)).run { p with rest := .blockEntry :: more } =
      (.sequence <$> indentlessItems fuel).run { p with rest := .blockEntry :: more } := rfl

theorem blockItems_entry (fuel : Nat) :
    (blockItems (fuel + 1)).run { p with rest := .blockEntry :: more } =
      (do
        let item ← nodeUnless [.blockEntry, .blockEnd] true false fuel
        return item :: (← blockItems fuel)).run { p with rest := more } := rfl

theorem indentlessItems_entry (fuel : Nat) :
    (indentlessItems (fuel + 1)).run { p with rest := .blockEntry :: more } =
      (do
        let item ← nodeUnless [.blockEntry, .key, .value, .blockEnd] true false fuel
        return item :: (← indentlessItems fuel)).run { p with rest := more } := rfl

theorem indentlessItems_end (hmore : more.head? ≠ some .blockEntry) (fuel : Nat) :
    (indentlessItems (fuel + 1)).run { p with rest := more } = .ok ([], { p with rest := more }) := by
  have haccept : (accept .blockEntry).run { p with rest := more } =
      (if more.head? == some Token.blockEntry then do skip; return true else return false).run
        { p with rest := more } := rfl
  have hread : (indentlessItems (fuel + 1)).run { p with rest := more } =
      (accept .blockEntry >>= fun accepted => if accepted then do
          let item ← nodeUnless [.blockEntry, .key, .value, .blockEnd] true false fuel
          return item :: (← indentlessItems fuel)
        else return []).run { p with rest := more } := rfl
  rw [hread, StateT.run_bind, haccept, beq_eq_false_iff_ne.2 hmore]
  rfl

theorem blockEntries_key (s : String) (style : Style) (fuel : Nat) :
    (blockEntries (fuel + 3)).run { p with rest := .key :: .scalar s style :: .value :: more } =
      (do
        let value ← nodeUnless [.key, .value, .blockEnd] true true (fuel + 1)
        return (Node.scalar s style none, value) :: (← blockEntries (fuel + 2))).run
          { p with rest := more } := by
  rfl

theorem nodeUnless_run {ts : List Token} {t : Token} (ht : ts.contains t = false) (fuel : Nat) :
    (nodeUnless ts inBlock indentless (fuel + 1)).run { p with rest := t :: more } =
      (node inBlock indentless fuel).run { p with rest := t :: more } := by
  have hread : (nodeUnless ts inBlock indentless (fuel + 1)).run { p with rest := t :: more } =
      (if ts.contains t then (return .empty) else node inBlock indentless fuel).run
        { p with rest := t :: more } := rfl
  rw [hread, ht]
  rfl

end Read

/-! ## Nodes of trees -/

mutual

/-- The node that a tree is read as. -/
def Tree.node : Tree → Node
  | .text s => .scalar s (form s false).style none
  | .flag b => .scalar (if b then "true" else "false") .plain none
  | .list items => .sequence (itemNodes items)
  | .record fields => .mapping (fieldNodes fields)

/-- The nodes of the items of a list. -/
def itemNodes : List Tree → List Node
  | [] => []
  | t :: ts => t.node :: itemNodes ts

/-- The nodes of the fields of a record. -/
def fieldNodes : List (String × Tree) → List (Node × Node)
  | [] => []
  | (name, t) :: fs =>
    (.scalar name (form name (Page.isSimpleKey name)).style none, t.node) :: fieldNodes fs

end

theorem needsQuotes_of_plain {s : String} {key : Bool} (h : form s key = .plain) :
    needsQuotes s = false := by
  by_contra hneeds
  rw [Bool.not_eq_false] at hneeds
  rw [form, hneeds] at h
  simp only [if_true] at h
  split at h
  · cases h
  · split at h
    · split at h <;> cases h
    · split at h <;> cases h

/-- A text that is written plain is taken for nothing else. -/
theorem tree?_scalar (s : String) (key : Bool) :
    (Node.scalar s (form s key).style none).tree? = some (.text s) := by
  rw [Node.tree?]
  cases hform : form s key with
  | plain =>
    have hquotes := needsQuotes_of_plain hform
    have hbool : bool? s = none := by
      simp only [needsQuotes, Bool.or_eq_false_iff] at hquotes
      simpa using hquotes.1.1.1.1.2
    simp [Form.style, hbool, hquotes]
  | single | double | literal => simp [Form.style]

mutual

theorem tree?_node (t : Tree) : t.node.tree? = some t := by
  match t with
  | .text s => exact tree?_scalar s false
  | .flag b => cases b <;> rfl
  | .list items => rw [Tree.node, Node.tree?, items?_itemNodes items]; rfl
  | .record fields => rw [Tree.node, Node.tree?, fields?_fieldNodes fields]; rfl

theorem items?_itemNodes (items : List Tree) : Node.items? (itemNodes items) = some items := by
  match items with
  | [] => rfl
  | t :: ts =>
    rw [itemNodes, Node.items?, tree?_node t, items?_itemNodes ts]
    rfl

theorem fields?_fieldNodes (fields : List (String × Tree)) :
    Node.fields? (fieldNodes fields) = some fields := by
  match fields with
  | [] => rfl
  | (name, t) :: fs =>
    rw [fieldNodes, Node.fields?, tree?_scalar, tree?_node t, fields?_fieldNodes fs]
    rfl

end

/-! ## Reading nodes -/

namespace Read

theorem tokens_head (onLine : Bool) (t : Tree) : ∃ u us, t.tokens onLine = u :: us ∧
    u ≠ .key ∧ u ≠ .value ∧ u ≠ .blockEnd ∧ (onLine = true → u ≠ .blockEntry) := by
  match t with
  | .text _ | .flag _ | .list [] | .record [] | .record (_ :: _) =>
    exact ⟨_, _, rfl, by simp, by simp, by simp, by simp⟩
  | .list (_ :: _) => cases onLine <;> exact ⟨_, _, rfl, by simp, by simp, by simp, by simp⟩

mutual

/-- The tokens of a tree are read as its node. -/
theorem node_tokens (onLine indentless : Bool) (t : Tree) (p : Progress) (more : List Token) (fuel : Nat)
    (hindentless : onLine = false → indentless = true)
    (hmore : onLine = false → more.head? ≠ some .blockEntry)
    (hfuel : 4 * (t.tokens onLine).length + 2 ≤ fuel) :
    (node true indentless fuel).run { p with rest := t.tokens onLine ++ more } =
      .ok (t.node, { p with rest := more }) := by
  obtain ⟨fuel, rfl⟩ : ∃ f, fuel = f + 2 := ⟨fuel - 2, by omega⟩
  match t with
  | .text s => rfl
  | .flag b => rfl
  | .list [] => rfl
  | .record [] => rfl
  | .list (t :: ts) =>
    cases onLine with
    | true =>
      have hitems := blockItems_tokens (t :: ts) p more (fuel + 1)
        (by simp only [Tree.tokens, if_true, List.length_cons, List.length_append] at hfuel; omega)
      simp only [Tree.tokens, if_true, List.cons_append, List.append_assoc, node_blockSequence,
        StateT.run_map, List.nil_append]
      rw [hitems]
      rfl
    | false =>
      obtain rfl := hindentless rfl
      have hitems := indentlessItems_tokens (t :: ts) p more (fuel + 1) (hmore rfl)
        (by simp only [Tree.tokens, Bool.false_eq_true, if_false] at hfuel; omega)
      simp only [Tree.tokens, Bool.false_eq_true, if_false, itemTokens, List.cons_append,
        node_blockEntry, StateT.run_map] at hitems ⊢
      rw [hitems]
      rfl
  | .record (f :: fs) =>
    have hfields := blockEntries_tokens (f :: fs) p more (fuel + 1)
      (by simp only [Tree.tokens, List.length_cons, List.length_append] at hfuel; omega)
    simp only [Tree.tokens, List.cons_append, List.append_assoc, node_blockMapping,
      StateT.run_map, List.nil_append]
    rw [hfields]
    rfl

/-- The tokens of the items of a list are read as its nodes, up to the end of their block. -/
theorem blockItems_tokens (items : List Tree) (p : Progress) (more : List Token) (fuel : Nat)
    (hfuel : 4 * (itemTokens items).length + 1 ≤ fuel) :
    (blockItems fuel).run { p with rest := itemTokens items ++ .blockEnd :: more } =
      .ok (itemNodes items, { p with rest := more }) := by
  match items with
  | [] =>
    obtain ⟨fuel, rfl⟩ : ∃ f, fuel = f + 1 := ⟨fuel - 1, by omega⟩
    rfl
  | t :: ts =>
    rw [itemTokens, List.length_append, List.length_cons] at hfuel
    obtain ⟨fuel, rfl⟩ : ∃ f, fuel = f + 2 := ⟨fuel - 2, by omega⟩
    obtain ⟨u, us, htokens, -, -, hend, hentry⟩ := tokens_head true t
    have hnode := node_tokens true false t p (itemTokens ts ++ .blockEnd :: more) fuel (by simp) (by simp)
      (by omega)
    have hrest := blockItems_tokens ts p more (fuel + 1) (by omega)
    rw [itemTokens, List.append_assoc, List.cons_append, blockItems_entry]
    rw [htokens, List.cons_append] at hnode ⊢
    rw [StateT.run_bind, nodeUnless_run (by simp [hend, hentry rfl]), hnode]
    change (blockItems (fuel + 1) >>= fun rest => pure (t.node :: rest)).run
      { p with rest := itemTokens ts ++ .blockEnd :: more } = _
    rw [StateT.run_bind, hrest]
    rfl

/-- So where they have no block of their own, up to what is no item. -/
theorem indentlessItems_tokens (items : List Tree) (p : Progress) (more : List Token) (fuel : Nat)
    (hmore : more.head? ≠ some .blockEntry) (hfuel : 4 * (itemTokens items).length + 1 ≤ fuel) :
    (indentlessItems fuel).run { p with rest := itemTokens items ++ more } =
      .ok (itemNodes items, { p with rest := more }) := by
  match items with
  | [] =>
    obtain ⟨fuel, rfl⟩ : ∃ f, fuel = f + 1 := ⟨fuel - 1, by omega⟩
    exact indentlessItems_end hmore fuel
  | t :: ts =>
    rw [itemTokens, List.length_append, List.length_cons] at hfuel
    obtain ⟨fuel, rfl⟩ : ∃ f, fuel = f + 2 := ⟨fuel - 2, by omega⟩
    obtain ⟨u, us, htokens, hkey, hvalue, hend, hentry⟩ := tokens_head true t
    have hnode := node_tokens true false t p (itemTokens ts ++ more) fuel (by simp) (by simp)
      (by omega)
    have hrest := indentlessItems_tokens ts p more (fuel + 1) hmore (by omega)
    rw [itemTokens, List.append_assoc, List.cons_append, indentlessItems_entry]
    rw [htokens, List.cons_append] at hnode ⊢
    rw [StateT.run_bind, nodeUnless_run (by simp [hkey, hvalue, hend, hentry rfl]), hnode]
    change (indentlessItems (fuel + 1) >>= fun rest => pure (t.node :: rest)).run
      { p with rest := itemTokens ts ++ more } = _
    rw [StateT.run_bind, hrest]
    rfl

/-- The tokens of the fields of a record are read as its nodes, up to the end of their block. -/
theorem blockEntries_tokens (fields : List (String × Tree)) (p : Progress) (more : List Token)
    (fuel : Nat) (hfuel : 4 * (fieldTokens fields).length + 1 ≤ fuel) :
    (blockEntries fuel).run { p with rest := fieldTokens fields ++ .blockEnd :: more } =
      .ok (fieldNodes fields, { p with rest := more }) := by
  match fields with
  | [] =>
    obtain ⟨fuel, rfl⟩ : ∃ f, fuel = f + 1 := ⟨fuel - 1, by omega⟩
    rfl
  | (name, t) :: fs =>
    rw [fieldTokens, List.length_append, List.length_cons, List.length_cons, List.length_cons] at hfuel
    obtain ⟨fuel, rfl⟩ : ∃ f, fuel = f + 3 := ⟨fuel - 3, by omega⟩
    obtain ⟨u, us, htokens, hkey, hvalue, hend, -⟩ := tokens_head (!Page.isSimpleKey name) t
    have hmore : (fieldTokens fs ++ .blockEnd :: more).head? ≠ some .blockEntry := by
      match fs with
      | [] => simp [fieldTokens]
      | (_, _) :: _ => simp [fieldTokens]
    have hnode := node_tokens (!Page.isSimpleKey name) true t p (fieldTokens fs ++ .blockEnd :: more) fuel
      (fun _ => rfl) (fun _ => hmore) (by omega)
    have hrest := blockEntries_tokens fs p more (fuel + 2) (by omega)
    rw [fieldTokens, List.append_assoc, List.cons_append, List.cons_append, List.cons_append,
      nameToken, blockEntries_key]
    rw [htokens, List.cons_append] at hnode ⊢
    rw [StateT.run_bind, nodeUnless_run (by simp [hkey, hvalue, hend]), hnode]
    change (blockEntries (fuel + 2) >>= fun rest => pure ((Node.scalar name _ none, t.node) :: rest)).run
      { p with rest := fieldTokens fs ++ .blockEnd :: more } = _
    rw [StateT.run_bind, hrest]
    rfl

end

/-- Whether a token needs no mark of the document's start before it. -/
def isBare : Token → Bool
  | .version .. | .tagPrefix .. | .documentStart => false
  | _ => true

theorem document_bare {u : Token} (hu : isBare u = true) (us : List Token) (fuel : Nat) :
    (document fuel).run { rest := u :: us } =
      (do
        let root ← content false fuel
        skipEnds fuel
        match ← peek with
        | none => return { root := some root, anchored := (← get).anchored }
        | some .documentStart | some (.version ..) | some (.tagPrefix ..) => throw .manyDocuments
        | _ => throw .documentStart : Read Document).run { rest := u :: us, tags := defaultTags } := by
  cases u <;> first | rfl | cases hu

/-- A document with the tokens of a tree has its node as its root. -/
theorem document_tokens (t : Tree) (fuel : Nat) (hfuel : 4 * (t.tokens true).length + 2 ≤ fuel) :
    ∃ p, (document fuel).run { rest := t.tokens true } = .ok ({ root := some t.node }, p) := by
  obtain ⟨u, us, htokens, hbare⟩ : ∃ u us, t.tokens true = u :: us ∧ isBare u = true := by
    match t with
    | .text _ | .flag _ | .list [] | .record [] | .list (_ :: _) | .record (_ :: _) =>
      exact ⟨_, _, rfl, rfl⟩
  have hnode := node_tokens true false t { rest := [], tags := defaultTags } [] fuel (by simp) (by simp)
    hfuel
  obtain ⟨fuel, rfl⟩ : ∃ f, fuel = f + 1 := ⟨fuel - 1, by omega⟩
  rw [List.append_nil, htokens] at hnode
  have hcontent : (content false (fuel + 1)).run { rest := u :: us, tags := defaultTags } =
      .ok (t.node, { rest := [], tags := defaultTags }) := by
    have hread : (content false (fuel + 1)).run { rest := u :: us, tags := defaultTags } =
        (node true false (fuel + 1) >>= fun root => do
          let _ ← accept .documentEnd
          return root).run { rest := u :: us, tags := defaultTags } := rfl
    rw [hread, StateT.run_bind, hnode]
    rfl
  refine ⟨{ rest := [], tags := defaultTags }, ?_⟩
  rw [htokens, document_bare hbare, StateT.run_bind, hcontent]
  rfl

end Read

/-- **Reading back.** What is written for a tree is read as a document with the node of the
tree, and nothing else. -/
theorem Document.ofBytes_print (t : Tree) :
    Document.ofBytes t.print.toUTF8 = .ok { root := some t.node } := by
  have hutf8 : String.fromUTF8? t.print.toUTF8 = some t.print := dif_pos t.print.isValidUTF8
  obtain ⟨p, hdocument⟩ := Read.document_tokens t (4 * (t.tokens true).length + 4) (by omega)
  rw [Document.ofBytes, hutf8]
  simp only [Document.ofText, tokens_print, bind, Except.bind, hdocument]
  rfl

end Groundwork.Yaml
