/-
Tables: texts under keys, kept in the order of the keys. A table has one value for
a key, and two tables with the same values are equal.
-/
set_option autoImplicit false

namespace Groundwork

/-- Values under keys, in the order of the keys. -/
structure Table (α : Type) where
  entries : List (String × α) := []
  sorted : entries.Pairwise (fun a b => a.1 < b.1) := by simp

namespace Table

variable {α β : Type}

theorem ext {s t : Table α} (h : s.entries = t.entries) : s = t := by
  cases s; cases t; cases h; rfl

instance [DecidableEq α] : DecidableEq (Table α) := fun s t =>
  if h : s.entries = t.entries then isTrue (ext h)
  else isFalse fun heq => h (congrArg entries heq)

instance [Repr α] : Repr (Table α) := ⟨fun t n => reprPrec t.entries n⟩

/-- The table without values. -/
def empty : Table α := {}

instance : Inhabited (Table α) := ⟨empty⟩

/-- Whether a table has no values. -/
def isEmpty (t : Table α) : Bool :=
  t.entries.isEmpty

/-- The number of keys. -/
def size (t : Table α) : Nat :=
  t.entries.length

/-- The keys in order. -/
def keys (t : Table α) : List String :=
  t.entries.map (·.1)

/-- The value under a key. -/
def find? (t : Table α) (key : String) : Option α :=
  t.entries.lookup key

/-! ## Setting a value -/

/-- Entries with a value set. -/
def insertEntry (key : String) (value : α) : List (String × α) → List (String × α)
  | [] => [(key, value)]
  | (k, v) :: rest =>
    if key < k then (key, value) :: (k, v) :: rest
    else if key = k then (key, value) :: rest
    else (k, v) :: insertEntry key value rest

theorem mem_insertEntry {key : String} {value : α} {es : List (String × α)} {e : String × α}
    (h : e ∈ insertEntry key value es) : e = (key, value) ∨ e ∈ es := by
  induction es with
  | nil => simpa [insertEntry] using h
  | cons kv rest ih =>
    obtain ⟨k, v⟩ := kv
    simp only [insertEntry] at h
    split at h
    · simpa using h
    · split at h
      · rcases List.mem_cons.1 h with h | h
        · exact .inl h
        · exact .inr (List.mem_cons_of_mem _ h)
      · rcases List.mem_cons.1 h with h | h
        · exact .inr (by simp [h])
        · exact (ih h).imp id (List.mem_cons_of_mem _)

theorem lt_of_not_lt_of_ne {a b : String} (hlt : ¬ a < b) (hne : a ≠ b) : b < a :=
  String.not_le.1 fun h => hne (String.le_antisymm h (String.not_lt.1 hlt))

theorem pairwise_insertEntry {key : String} {value : α} {es : List (String × α)}
    (h : es.Pairwise (fun a b => a.1 < b.1)) :
    (insertEntry key value es).Pairwise (fun a b => a.1 < b.1) := by
  induction es with
  | nil => simp [insertEntry]
  | cons kv rest ih =>
    obtain ⟨k, v⟩ := kv
    obtain ⟨hk, hrest⟩ := List.pairwise_cons.1 h
    simp only [insertEntry]
    split
    · next hlt =>
      refine List.pairwise_cons.2 ⟨fun e he => ?_, h⟩
      rcases List.mem_cons.1 he with rfl | he
      · exact hlt
      · exact String.lt_trans hlt (hk e he)
    · next hnlt =>
      split
      · next heq => exact List.pairwise_cons.2 ⟨fun e he => heq ▸ hk e he, hrest⟩
      · next hne =>
        refine List.pairwise_cons.2 ⟨fun e he => ?_, ih hrest⟩
        rcases mem_insertEntry he with rfl | he
        · exact lt_of_not_lt_of_ne hnlt hne
        · exact hk e he

/-- The table with a value set. -/
def insert (t : Table α) (key : String) (value : α) : Table α :=
  ⟨insertEntry key value t.entries, pairwise_insertEntry t.sorted⟩

/-- The table of some values; of two under one key the later is kept. -/
def ofList (es : List (String × α)) : Table α :=
  es.foldl (fun t e => t.insert e.1 e.2) empty

/-- The table with the values of another set in it. -/
def override (t other : Table α) : Table α :=
  other.entries.foldl (fun t e => t.insert e.1 e.2) t

/-- The table with a function applied to its values. -/
def map (f : α → β) (t : Table α) : Table β :=
  ⟨t.entries.map fun e => (e.1, f e.2), by simpa [List.pairwise_map] using t.sorted⟩

/-! ## Reading the values of a table -/

/-- Applies a function that may fail to the values of some entries, in order. -/
def traverseEntries {ε : Type} (f : String → α → Except ε β) :
    List (String × α) → Except ε (List (String × β))
  | [] => .ok []
  | (key, value) :: rest => do
    let read ← f key value
    let others ← traverseEntries f rest
    return (key, read) :: others

theorem keys_traverseEntries {ε : Type} {f : String → α → Except ε β} {es : List (String × α)}
    {rs : List (String × β)} (h : traverseEntries f es = .ok rs) :
    rs.map (·.1) = es.map (·.1) := by
  induction es generalizing rs with
  | nil => cases h; rfl
  | cons e rest ih =>
    obtain ⟨key, value⟩ := e
    rw [traverseEntries] at h
    cases hf : f key value with
    | error x => rw [hf] at h; cases h
    | ok read =>
      rw [hf] at h
      cases hr : traverseEntries f rest with
      | error x => rw [hr] at h; cases h
      | ok others =>
        rw [hr] at h
        cases h
        simp [ih hr]

/-- Applies a function that may fail to the values, in the order of the keys; the
first failure counts. -/
def traverse {ε : Type} (f : String → α → Except ε β) (t : Table α) : Except ε (Table β) :=
  match h : traverseEntries f t.entries with
  | .error e => .error e
  | .ok rs => .ok ⟨rs, by
      have hs := List.pairwise_map.2 t.sorted
      rw [← keys_traverseEntries h] at hs
      exact List.pairwise_map.1 hs⟩

/-- What `traverse` makes of the entries. -/
theorem entries_traverse {ε : Type} (f : String → α → Except ε β) (t : Table α) :
    (t.traverse f).map entries = traverseEntries f t.entries := by
  unfold traverse
  split
  · next h => simp [Except.map, h]
  · next h => simp [Except.map, h]

/-! ## What is found in a table -/

theorem lookup_insertEntry (key k : String) (value : α) (es : List (String × α)) :
    (insertEntry key value es).lookup k = if k = key then some value else es.lookup k := by
  have beq_of (a b : String) : (a == b) = decide (a = b) := rfl
  induction es with
  | nil =>
    by_cases h : k = key
    · simp [insertEntry, h]
    · simp [insertEntry, List.lookup_cons, beq_of, h]
  | cons kv rest ih =>
    obtain ⟨k', v⟩ := kv
    simp only [insertEntry]
    split
    · by_cases h : k = key
      · simp [h]
      · simp [List.lookup_cons, beq_of, h]
    · split
      · next hne heq =>
        subst heq
        by_cases h : k = key
        · simp [h]
        · simp [List.lookup_cons, beq_of, h]
      · next hne =>
        rw [List.lookup_cons, List.lookup_cons, ih]
        by_cases h : k = k'
        · subst h
          simp [Ne.symm hne]
        · simp [beq_of, h]

/-- A table holds what was set last. -/
@[simp] theorem find?_insert (t : Table α) (key k : String) (value : α) :
    (t.insert key value).find? k = if k = key then some value else t.find? k :=
  lookup_insertEntry key k value t.entries

@[simp] theorem find?_empty (k : String) : (empty : Table α).find? k = none := rfl

theorem mem_of_find? {t : Table α} {k : String} {a : α} (h : t.find? k = some a) :
    (k, a) ∈ t.entries := by
  rw [find?, List.lookup_eq_some_iff] at h
  obtain ⟨before, after, hentries, -⟩ := h
  rw [hentries]
  exact List.mem_append_right _ List.mem_cons_self

theorem find?_map (f : α → β) (t : Table α) (k : String) :
    (t.map f).find? k = (t.find? k).map f := by
  have hentries : (t.map f).entries = t.entries.map fun e => (e.1, f e.2) := rfl
  rw [find?, find?, hentries]
  induction t.entries with
  | nil => rfl
  | cons e rest ih =>
    rw [List.map_cons, List.lookup_cons, List.lookup_cons]
    cases k == e.1 with
    | true => rfl
    | false => exact ih

/-! ## Tables from entries -/

theorem insertEntry_of_forall_lt {key : String} {value : α} {es : List (String × α)}
    (h : ∀ e ∈ es, e.1 < key) : insertEntry key value es = es ++ [(key, value)] := by
  induction es with
  | nil => rfl
  | cons e rest ih =>
    have hlt : e.1 < key := h e List.mem_cons_self
    have hnlt : ¬ key < e.1 := fun hgt => String.lt_irrefl _ (String.lt_trans hlt hgt)
    have hne : key ≠ e.1 := fun heq => String.lt_irrefl key (by rwa [← heq] at hlt)
    rw [insertEntry, if_neg hnlt, if_neg hne, ih fun x hx => h x (List.mem_cons_of_mem _ hx)]
    rfl

theorem entries_foldl_insert {es : List (String × α)} {t : Table α}
    (h : (t.entries ++ es).Pairwise fun a b => a.1 < b.1) :
    (es.foldl (fun t e => t.insert e.1 e.2) t).entries = t.entries ++ es := by
  induction es generalizing t with
  | nil => exact (List.append_nil _).symm
  | cons e rest ih =>
    have hlast : ∀ x ∈ t.entries, x.1 < e.1 := fun x hx =>
      (List.pairwise_append.1 h).2.2 x hx e List.mem_cons_self
    have hinsert : (t.insert e.1 e.2).entries = t.entries ++ [e] :=
      insertEntry_of_forall_lt hlast
    rw [List.foldl_cons, ih (by rw [hinsert, List.append_assoc]; exact h), hinsert,
      List.append_assoc]
    rfl

/-- A table is the table of its entries. -/
theorem ofList_entries (t : Table α) : ofList t.entries = t := by
  refine ext ?_
  rw [ofList, entries_foldl_insert (by simpa [empty] using t.sorted)]
  rfl

theorem find?_foldl_insert {es : List (String × α)} (hes : (es.map (·.1)).Nodup)
    (t : Table α) (k : String) :
    (es.foldl (fun t e => t.insert e.1 e.2) t).find? k = (es.lookup k).or (t.find? k) := by
  induction es generalizing t with
  | nil => rfl
  | cons e rest ih =>
    rw [List.map_cons, List.nodup_cons] at hes
    rw [List.foldl_cons, ih hes.2, find?_insert, List.lookup_cons]
    by_cases hk : k = e.1
    · have hlater : rest.lookup k = none := by
        rw [List.lookup_eq_none_iff]
        intro x hx
        rw [bne_iff_ne, hk]
        exact fun heq => hes.1 (List.mem_map.2 ⟨x, hx, heq.symm⟩)
      rw [hlater, if_pos hk, beq_iff_eq.2 hk]
      rfl
    · rw [if_neg hk, beq_eq_false_iff_ne.2 hk]

theorem nodup_keys (t : Table α) : t.keys.Nodup := by
  rw [keys, List.Nodup, List.pairwise_map]
  refine t.sorted.imp ?_
  intro a b hlt heq
  rw [← heq] at hlt
  exact String.lt_irrefl _ hlt

/-- A table with another set in it holds what the other one does, and else what it held. -/
theorem find?_override (t other : Table α) (k : String) :
    (t.override other).find? k = (other.find? k).or (t.find? k) :=
  find?_foldl_insert other.nodup_keys t k

/-- The table of values whose keys differ holds just those. -/
theorem find?_ofList_eq_some_iff {es : List (String × α)} (hes : (es.map (·.1)).Nodup)
    {k : String} {v : α} : (ofList es).find? k = some v ↔ (k, v) ∈ es := by
  rw [ofList, find?_foldl_insert hes, find?_empty, Option.or_none]
  induction es with
  | nil => simp
  | cons e rest ih =>
    rw [List.map_cons, List.nodup_cons] at hes
    rw [List.lookup_cons, List.mem_cons]
    by_cases hk : k = e.1
    · have hlater : (k, v) ∉ rest := fun hmem =>
        hes.1 (List.mem_map.2 ⟨(k, v), hmem, hk⟩)
      rw [beq_iff_eq.2 hk, or_iff_left hlater, Prod.ext_iff]
      simp [hk, eq_comm]
    · have hother : (k, v) ≠ e := fun heq => hk (congrArg Prod.fst heq)
      rw [beq_eq_false_iff_ne.2 hk, or_iff_right hother]
      exact ih hes.2

end Table

end Groundwork
