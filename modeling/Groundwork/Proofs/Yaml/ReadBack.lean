/-
Reading values back. A node is taken for a tree where no type is asked for (`Node.tree?`): a
plain scalar for what it spells, any other one for its text.

Readers of types get the value that the tree was made of (`Reads`). Fields that are
left out are the point: what is written for a record has only some of the names that its
reader knows, each once and in their order (`fields_of_record`), so a field that is left
out must be read as its default (`field_eq`).
-/
import Groundwork.Yaml.Printer
import Groundwork.Yaml.Reader
import Groundwork.Yaml.Typed
import Mathlib.Data.List.Forall2
import Mathlib.Data.List.Nodup

set_option autoImplicit false

namespace Groundwork.Yaml

/-! ## Nodes as trees -/

mutual

/-- The tree that a node is taken for where no type is asked for. What is written here
has no tags and no aliases, and no numbers. -/
def Node.tree? : Node → Option Tree
  | .scalar s style none =>
    if style ≠ .plain then some (.text s)
    else match bool? s with
      | some b => some (.flag b)
      | none => if needsQuotes s then none else some (.text s)
  | .scalar _ _ (some _) => none
  | .reference _ => none
  | .sequence nodes => (items? nodes).map .list
  | .mapping entries => (fields? entries).map .record

/-- The trees of some nodes. -/
def Node.items? : List Node → Option (List Tree)
  | [] => some []
  | n :: ns => do return (← n.tree?) :: (← items? ns)

/-- The trees of some nodes under names. -/
def Node.fields? : List (Node × Node) → Option (List (String × Tree))
  | [] => some []
  | (key, value) :: es => do
    match ← key.tree? with
    | .text name => return (name, ← value.tree?) :: (← fields? es)
    | _ => none

end

namespace Node

theorem forall₂_of_items? {ns : List Node} {ts : List Tree} (h : items? ns = some ts) :
    List.Forall₂ (fun n t => n.tree? = some t) ns ts := by
  induction ns generalizing ts with
  | nil =>
    cases h
    exact .nil
  | cons n ns ih =>
    simp only [items?, Option.bind_eq_bind, Option.bind_eq_some_iff, Option.pure_def,
      Option.some.injEq] at h
    obtain ⟨t, ht, rest, hrest, rfl⟩ := h
    exact .cons ht (ih hrest)

theorem forall₂_of_fields? {es : List (Node × Node)} {fs : List (String × Tree)}
    (h : fields? es = some fs) :
    List.Forall₂ (fun e f => e.1.tree? = some (.text f.1) ∧ e.2.tree? = some f.2) es fs := by
  induction es generalizing fs with
  | nil =>
    cases h
    exact .nil
  | cons e es ih =>
    obtain ⟨key, value⟩ := e
    simp only [fields?, Option.bind_eq_bind, Option.bind_eq_some_iff, Option.pure_def] at h
    obtain ⟨k, hk, h⟩ := h
    split at h
    · simp only [Option.bind_eq_some_iff, Option.some.injEq] at h
      obtain ⟨t, ht, rest, hrest, rfl⟩ := h
      exact .cons ⟨hk, ht⟩ (ih hrest)
    · cases h

/-- What a node is, by the tree that it is taken for. -/
theorem eq_of_tree? {n : Node} {t : Tree} (h : n.tree? = some t) :
    match t with
    | .text s => ∃ style, n = .scalar s style none ∧ (style = .plain → needsQuotes s = false)
    | .flag b => ∃ s, n = .scalar s .plain none ∧ bool? s = some b
    | .list ts => ∃ ns, n = .sequence ns ∧ List.Forall₂ (fun n t => n.tree? = some t) ns ts
    | .record fs => ∃ es, n = .mapping es ∧
      List.Forall₂ (fun e f => e.1.tree? = some (.text f.1) ∧ e.2.tree? = some f.2) es fs := by
  cases n with
  | reference => cases h
  | sequence nodes =>
    rw [tree?, Option.map_eq_some_iff] at h
    obtain ⟨ts, hts, rfl⟩ := h
    exact ⟨nodes, rfl, forall₂_of_items? hts⟩
  | mapping entries =>
    rw [tree?, Option.map_eq_some_iff] at h
    obtain ⟨fs, hfs, rfl⟩ := h
    exact ⟨entries, rfl, forall₂_of_fields? hfs⟩
  | scalar text style tag =>
    cases tag with
    | some tag => cases h
    | none =>
      rw [tree?] at h
      split at h
      · next hstyle =>
        cases h
        exact ⟨style, rfl, fun hplain => absurd hplain hstyle⟩
      · next hstyle =>
        split at h
        · next b hb =>
          cases h
          exact ⟨text, by rw [not_not.1 hstyle], hb⟩
        · split at h
          · cases h
          · next hquotes =>
            cases h
            exact ⟨style, rfl, fun _ => Bool.eq_false_iff.2 hquotes⟩

end Node

/-! ## Reading values of types -/

/-- A reader gets a value from whatever is taken for a tree. -/
def Reads {α : Type} (read : Document → Node → Except Error α) (t : Tree) (a : α) : Prop :=
  ∀ (d : Document) (n : Node), n.tree? = some t → read d n = .ok a

variable {α : Type}

/-- What is taken for a tree is no alias. -/
theorem resolve_of_tree? {d : Document} {n : Node} {t : Tree} (h : n.tree? = some t) :
    d.resolve n = n := by
  refine Document.resolve_of_ne_reference fun number hn => ?_
  rw [hn] at h
  cases h

theorem reads_text (s : String) : Reads Document.text (.text s) s := by
  intro d n h
  obtain ⟨style, rfl, -⟩ := Node.eq_of_tree? h
  rfl

theorem reads_flag (b : Bool) : Reads Document.flag (.flag b) b := by
  intro d n h
  obtain ⟨s, rfl, hb⟩ := Node.eq_of_tree? h
  rw [Document.flag, resolve_of_tree? h]
  simp only [hb]
  rfl

/-- A text that is optional is read as one that is there, whatever it says. -/
theorem reads_optionText (s : String) :
    Reads (Document.option Document.text) (.text s) (some s) := by
  intro d n h
  have htext := reads_text s d n h
  obtain ⟨style, rfl, hplain⟩ := Node.eq_of_tree? h
  rw [Document.option, resolve_of_tree? h]
  cases style with
  | plain =>
    have hquotes := hplain rfl
    simp only [needsQuotes, Bool.or_eq_false_iff, decide_eq_false_iff_not] at hquotes
    simp only [hquotes, decide_false, Bool.or_self, Bool.false_eq_true, if_false, htext]
    rfl
  | quoted | literal | folded => simp only [htext]; rfl

/-- So is a record. -/
theorem reads_optionRecord {read : Document → Node → Except Error α} {fs : List (String × Tree)}
    {a : α} (hread : Reads read (.record fs) a) :
    Reads (Document.option read) (.record fs) (some a) := by
  intro d n h
  have hrecord := hread d n h
  obtain ⟨es, rfl, -⟩ := Node.eq_of_tree? h
  rw [Document.option, resolve_of_tree? h]
  simp only [hrecord]
  rfl

theorem mapM_of_forall₂ {β γ : Type} {f : β → Except Error γ} {bs : List β} {cs : List γ}
    (h : List.Forall₂ (fun b c => f b = .ok c) bs cs) : bs.mapM f = .ok cs := by
  induction h with
  | nil => rfl
  | cons hhead _ ih =>
    rw [List.mapM_cons, hhead, ih]
    rfl

theorem reads_list {read : Document → Node → Except Error α} {ts : List Tree} {as : List α}
    (hread : List.Forall₂ (Reads read) ts as) : Reads (Document.list read) (.list ts) as := by
  intro d n h
  obtain ⟨ns, rfl, hns⟩ := Node.eq_of_tree? h
  have hitems : d.items (.sequence ns) = .ok ns := by
    rw [Document.items, resolve_of_tree? h]
  rw [Document.list, hitems]
  refine mapM_of_forall₂ ?_
  clear h hitems
  induction hns generalizing as with
  | nil =>
    cases hread
    exact .nil
  | cons hnode _ ih =>
    cases hread with
    | cons hhead htail => exact .cons (hhead d _ hnode) (ih htail)

/-- The entries of a mapping that is taken for a record. -/
theorem entries_of_record {d : Document} {n : Node} {fs : List (String × Tree)}
    (h : n.tree? = some (.record fs)) :
    ∃ es, d.entries n = .ok es ∧
      List.Forall₂ (fun e f => e.1 = f.1 ∧ e.2.tree? = some f.2) es fs := by
  obtain ⟨es, rfl, hes⟩ := Node.eq_of_tree? h
  rw [Document.entries, resolve_of_tree? h]
  clear h
  induction hes with
  | nil => exact ⟨[], rfl, .nil⟩
  | @cons e f es fs hhead _ ih =>
    obtain ⟨rest, hrest, hall⟩ := ih
    refine ⟨(f.1, e.2) :: rest, ?_, .cons ⟨rfl, hhead.2⟩ hall⟩
    simp only at hrest ⊢
    rw [List.mapM_cons, reads_text f.1 d e.1 hhead.1, hrest]
    rfl

theorem values_of_entries {read : Document → Node → Except Error α} {d : Document}
    {es : List (String × Node)} {fs : List (String × Tree)} {as : List (String × α)}
    (hes : List.Forall₂ (fun e f => e.1 = f.1 ∧ e.2.tree? = some f.2) es fs)
    (hread : List.Forall₂ (fun f a => f.1 = a.1 ∧ Reads read f.2 a.2) fs as) :
    List.Forall₂ (fun e a => (do return (e.1, ← read d e.2) : Except Error (String × α)) = .ok a)
      es as := by
  induction hes generalizing as with
  | nil =>
    cases hread
    exact .nil
  | @cons e f _ _ hhead _ ih =>
    cases hread with
    | @cons _ a _ _ hfirst hrest =>
      refine .cons ?_ (ih hrest)
      rw [hfirst.2 d e.2 hhead.2, hhead.1, hfirst.1]
      rfl

/-- The entries of a table, written under their names, are read as the table. -/
theorem reads_table {read : Document → Node → Except Error α} {fs : List (String × Tree)}
    {t : Table α} (hread : List.Forall₂ (fun f a => f.1 = a.1 ∧ Reads read f.2 a.2) fs t.entries) :
    Reads (Document.table read) (.record fs) t := by
  intro d n h
  obtain ⟨es, hes, hall⟩ := entries_of_record (d := d) h
  have hvalues := mapM_of_forall₂ (values_of_entries (d := d) hall hread)
  rw [Document.table, hes]
  refine Eq.trans (congrArg (fun r => Except.bind r fun es => .ok (Table.ofList es)) hvalues) ?_
  exact congrArg Except.ok (Table.ofList_entries t)

/-! ## Reading fields -/

/-- The fields that a record is read from: of the names that its reader knows, those that
are written, in order. -/
theorem fields_of_record (d : Document) {n : Node} {fs : List (String × Tree)}
    (h : n.tree? = some (.record fs)) (names : List String)
    (hnames : (fs.map (·.1)).Sublist names) (hnodup : names.Nodup) :
    ∃ es, d.fields names n = .ok es ∧
      List.Forall₂ (fun e f => e.1 = f.1 ∧ e.2.tree? = some f.2) es fs := by
  obtain ⟨es, hes, hall⟩ := entries_of_record (d := d) h
  have hkeys : es.map (·.1) = fs.map (·.1) := by
    clear hes h hnames
    induction hall with
    | nil => rfl
    | cons hhead _ ih => rw [List.map_cons, List.map_cons, hhead.1, ih]
  have hknown : es.filter (fun e => names.contains e.1) = es := by
    rw [List.filter_eq_self]
    intro e he
    rw [List.contains_iff_mem]
    refine hnames.subset ?_
    rw [← hkeys]
    exact List.mem_map_of_mem he
  refine ⟨es, ?_, hall⟩
  rw [Document.fields, hes]
  simp only [bind, Except.bind, hknown]
  rw [if_pos]
  · rfl
  · rw [hkeys]
    exact hnames.nodup hnodup

section

variable (d : Document) {es : List (String × Node)} {fs : List (String × Tree)}
  {read : Document → Node → Except Error α} {a dflt : α}
  (hes : List.Forall₂ (fun e f => e.1 = f.1 ∧ e.2.tree? = some f.2) es fs) (name : String)

include hes

/-- A field is read as what is written for it, and one that is left out as its default. -/
theorem field_eq
    (h : match fs.lookup name with | some t => Reads read t a | none => a = dflt) :
    d.field es name dflt read = .ok a := by
  rw [Document.field]
  induction hes with
  | nil => exact congrArg Except.ok h.symm
  | @cons e f _ _ hhead _ ih =>
    rw [List.lookup_cons] at h ⊢
    rw [hhead.1]
    by_cases hname : name = f.1
    · rw [hname, beq_self_eq_true] at h ⊢
      exact h d e.2 hhead.2
    · rw [beq_eq_false_iff_ne.2 hname] at h ⊢
      exact ih h

theorem field_written (dflt : α) {t : Tree} (hread : Reads read t a)
    (h : fs.lookup name = some t) : d.field es name dflt read = .ok a := by
  refine field_eq d hes name ?_
  rw [h]
  exact hread

theorem field_text (s : String) (h : fs.lookup name = (Tree.textField name s).lookup name) :
    d.field es name "" Document.text = .ok s := by
  refine field_eq d hes name ?_
  rw [h, Tree.textField]
  by_cases hs : s = ""
  · rw [if_pos hs]
    exact hs
  · rw [if_neg hs, List.lookup_cons_self]
    exact reads_text s

theorem field_flag (b : Bool) (h : fs.lookup name = (Tree.flagField name b).lookup name) :
    d.field es name false Document.flag = .ok b := by
  refine field_eq d hes name ?_
  rw [h, Tree.flagField]
  cases b with
  | false => rfl
  | true =>
    rw [if_pos rfl, List.lookup_cons_self]
    exact reads_flag true

theorem field_option (o : Option α) {tree : α → Tree} {read : Document → Node → Except Error (Option α)}
    (hread : ∀ a, Reads read (tree a) (some a))
    (h : fs.lookup name = (o.toList.map fun a => (name, tree a)).lookup name) :
    d.field es name none read = .ok o := by
  refine field_eq d hes name ?_
  rw [h]
  cases o with
  | none => rfl
  | some a =>
    simp only [Option.toList_some, List.map_cons, List.lookup_cons_self]
    exact hread a

theorem field_optionText (s : Option String)
    (h : fs.lookup name = (Tree.optionField name s).lookup name) :
    d.field es name none (Document.option Document.text) = .ok s :=
  field_option d hes name s reads_optionText h

theorem field_table (t : Table String)
    (h : fs.lookup name = (Tree.tableField name t).lookup name) :
    d.field es name .empty (Document.table Document.text) = .ok t := by
  refine field_eq d hes name ?_
  rw [h, Tree.tableField]
  by_cases ht : t.isEmpty = true
  · rw [if_pos ht]
    exact Table.ext (List.isEmpty_iff.1 ht)
  · rw [if_neg ht, List.lookup_cons_self]
    refine reads_table ?_
    rw [List.forall₂_map_left_iff, List.forall₂_same]
    exact fun e _ => ⟨rfl, reads_text e.2⟩

theorem field_list (as : List α) {tree : α → Tree} (hread : ∀ a, Reads read (tree a) a)
    (h : fs.lookup name = (Tree.listField name (as.map tree)).lookup name) :
    d.field es name [] (Document.list read) = .ok as := by
  refine field_eq d hes name ?_
  rw [h, Tree.listField]
  by_cases has : as = []
  · rw [has]
    rfl
  · rw [if_neg (by simpa using has), List.lookup_cons_self]
    refine reads_list ?_
    rw [List.forall₂_map_left_iff, List.forall₂_same]
    exact fun a _ => hread a

end

/-! ## Which names are written -/

namespace Tree

theorem keys_textField (name s : String) : ((textField name s).map (·.1)).Sublist [name] := by
  rw [textField]
  split
  · exact List.nil_sublist _
  · exact List.Sublist.refl _

theorem keys_option (name : String) (tree : α → Tree) (o : Option α) :
    ((o.toList.map fun a => (name, tree a)).map (·.1)).Sublist [name] := by
  cases o with
  | none => exact List.nil_sublist _
  | some a => exact List.Sublist.refl _

theorem keys_optionField (name : String) (s : Option String) :
    ((optionField name s).map (·.1)).Sublist [name] :=
  keys_option name .text s

theorem keys_flagField (name : String) (b : Bool) :
    ((flagField name b).map (·.1)).Sublist [name] := by
  rw [flagField]
  split
  · exact List.Sublist.refl _
  · exact List.nil_sublist _

theorem keys_tableField (name : String) (t : Table String) :
    ((tableField name t).map (·.1)).Sublist [name] := by
  rw [tableField]
  split
  · exact List.nil_sublist _
  · exact List.Sublist.refl _

theorem keys_listField (name : String) (items : List Tree) :
    ((listField name items).map (·.1)).Sublist [name] := by
  rw [listField]
  split
  · exact List.nil_sublist _
  · exact List.Sublist.refl _

/-- A field is not found under another name. -/
theorem lookup_of_keys {fs : List (String × Tree)} {name k : String}
    (h : (fs.map (·.1)).Sublist [name]) (hk : k ≠ name) : fs.lookup k = none := by
  rw [List.lookup_eq_none_iff]
  intro f hf
  have hname := h.subset (List.mem_map_of_mem hf)
  rw [List.mem_singleton] at hname
  rw [bne_iff_ne, hname]
  exact hk

variable {name k : String} (hk : k ≠ name)

include hk

@[simp] theorem lookup_textField_of_ne (s : String) : (textField name s).lookup k = none :=
  lookup_of_keys (keys_textField name s) hk

@[simp] theorem lookup_option_of_ne (tree : α → Tree) (o : Option α) :
    (o.toList.map fun a => (name, tree a)).lookup k = none :=
  lookup_of_keys (keys_option name tree o) hk

@[simp] theorem lookup_optionField_of_ne (s : Option String) :
    (optionField name s).lookup k = none :=
  lookup_of_keys (keys_optionField name s) hk

@[simp] theorem lookup_flagField_of_ne (b : Bool) : (flagField name b).lookup k = none :=
  lookup_of_keys (keys_flagField name b) hk

@[simp] theorem lookup_tableField_of_ne (t : Table String) : (tableField name t).lookup k = none :=
  lookup_of_keys (keys_tableField name t) hk

@[simp] theorem lookup_listField_of_ne (items : List Tree) : (listField name items).lookup k = none :=
  lookup_of_keys (keys_listField name items) hk

end Tree

end Groundwork.Yaml
