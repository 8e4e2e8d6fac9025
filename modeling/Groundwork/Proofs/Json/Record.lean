/-
Records that are read, field by field. What is read of a record names each field once, and
holds under its name what was read of the member that was written (`get?_of_readFields?`). A
record is read if each of its fields is (`isSome_read?_record`).
-/
import Groundwork.Json.Shape

set_option autoImplicit false

namespace Groundwork.Json

theorem lookup_filter_of_keeps {name : String} {keeps : String → Bool} (h : keeps name = true)
    (members : List (String × Json)) :
    (members.filter fun m => keeps m.1).lookup name = members.lookup name := by
  induction members with
  | nil => rfl
  | cons m members ih =>
    rw [List.filter_cons]
    by_cases hm : name = m.1
    · subst hm
      rw [if_pos h, List.lookup_cons_self, List.lookup_cons_self]
    · have hne : (name == m.1) = false := beq_false_of_ne hm
      by_cases hkeeps : keeps m.1 = true
      · rw [if_pos hkeeps, List.lookup_cons, List.lookup_cons, hne, ih]
      · rw [if_neg hkeeps, List.lookup_cons, hne, ih]

theorem get?_cons {name : String} {value : Json} {members : List (String × Json)} (wanted : String) :
    (object ((name, value) :: members)).get? wanted =
      ((object members).get? wanted).or (if name = wanted then some value else none) := by
  simp only [get?, List.reverse_cons, List.find?_append, List.find?_singleton]
  by_cases h : name = wanted <;> cases members.reverse.find? (·.1 = wanted) <;> simp [h]

theorem get?_of_notMem {members : List (String × Json)} {name : String}
    (h : name ∉ members.map (·.1)) : (object members).get? name = none := by
  rw [get?, Option.map_eq_none_iff, List.find?_eq_none]
  intro m hm heq
  rw [decide_eq_true_iff] at heq
  exact h (heq ▸ List.mem_map_of_mem (List.mem_reverse.1 hm))

/-- The fields of an object are its members. -/
theorem fields?_object {names : List String} {members : List (String × Json)} {fs : Fields}
    (h : fields? names (.object members) = some fs) : fs.positional = false ∧
      ∀ name ∈ names, fs.find? name = members.lookup name := by
  rw [fields?] at h
  split at h
  · cases h
    refine ⟨rfl, fun name hname => ?_⟩
    exact lookup_filter_of_keeps (List.contains_iff_mem.2 hname) members
  · cases h

namespace Shape

/-- A field in the form of its shape, if it has it. -/
def readField? (fs : Fields) (name : String) (shape : Shape) : Option Json :=
  match fs.find? name with
  | some v => shape.read? v
  | none => if shape.isOptional && !fs.positional then some .null else none

variable {fs : Fields} {fields : List (String × Shape)} {vs : List (String × Json)} {name : String}
  {shape : Shape}

theorem readFields?_cons_eq_some_iff :
    readFields? fs ((name, shape) :: fields) = some vs ↔
      ∃ value rest, readField? fs name shape = some value ∧ readFields? fs fields = some rest ∧
        vs = (name, value) :: rest := by
  simp only [readFields?, readField?]
  cases fs.find? name with
  | some v =>
    dsimp only
    cases shape.read? v <;> cases readFields? fs fields <;> simp [eq_comm]
  | none =>
    cases shape.isOptional && !fs.positional <;> cases readFields? fs fields <;> simp [eq_comm]

/-- What is read has the names of the fields, in their order. -/
theorem map_fst_of_readFields? (h : readFields? fs fields = some vs) :
    vs.map (·.1) = fields.map (·.1) := by
  induction fields generalizing vs with
  | nil =>
    rw [readFields?] at h
    cases h
    rfl
  | cons field fields ih =>
    obtain ⟨value, rest, -, hrest, rfl⟩ := readFields?_cons_eq_some_iff.1 h
    rw [List.map_cons, List.map_cons, ih hrest]

/-- What is read holds under the name of a field what was read of it. -/
theorem get?_of_readFields? (h : readFields? fs fields = some vs)
    (hnames : (fields.map (·.1)).Nodup) (hmem : (name, shape) ∈ fields) :
    (Json.object vs).get? name = readField? fs name shape := by
  induction fields generalizing vs with
  | nil => cases hmem
  | cons field fields ih =>
    obtain ⟨value, rest, hvalue, hrest, rfl⟩ := readFields?_cons_eq_some_iff.1 h
    rw [List.map_cons] at hnames
    obtain ⟨hnotMem, hnames⟩ := List.nodup_cons.1 hnames
    rw [get?_cons]
    rcases List.mem_cons.1 hmem with rfl | hmem
    · rw [← map_fst_of_readFields? hrest] at hnotMem
      rw [get?_of_notMem hnotMem, Option.none_or, if_pos rfl, hvalue]
    · have hne : field.1 ≠ name := fun heq => hnotMem (heq ▸ List.mem_map_of_mem hmem)
      rw [ih hrest hnames hmem, if_neg hne, Option.or_none]

/-- A record of which each field is read is read. -/
theorem exists_readFields? (h : ∀ field ∈ fields, (readField? fs field.1 field.2).isSome) :
    ∃ vs, readFields? fs fields = some vs := by
  induction fields with
  | nil => exact ⟨[], by rw [readFields?]⟩
  | cons field fields ih =>
    obtain ⟨hfield, hfields⟩ := List.forall_mem_cons.1 h
    obtain ⟨value, hvalue⟩ := Option.isSome_iff_exists.1 hfield
    obtain ⟨rest, hrest⟩ := ih hfields
    exact ⟨_, readFields?_cons_eq_some_iff.2 ⟨value, rest, hvalue, hrest, rfl⟩⟩

theorem read?_record_eq_some_iff {v w : Json} : (record fields).read? v = some w ↔
    ∃ fs vs, v.fields? (fields.map (·.1)) = some fs ∧ readFields? fs fields = some vs ∧
      w = .object vs := by
  rw [read?]
  cases v.fields? (fields.map (·.1)) with
  | none => simp
  | some fs => simp only [Option.map_eq_some_iff, Option.some.injEq, exists_and_left,
      exists_eq_left', @eq_comm _ w]

/-- A record is read if it has fields and each of them is read. -/
theorem isSome_read?_record {v : Json} (hfs : v.fields? (fields.map (·.1)) = some fs)
    (h : ∀ field ∈ fields, (readField? fs field.1 field.2).isSome) :
    ((record fields).read? v).isSome := by
  obtain ⟨vs, hvs⟩ := exists_readFields? h
  exact Option.isSome_iff_exists.2 ⟨_, read?_record_eq_some_iff.2 ⟨fs, vs, hfs, hvs, rfl⟩⟩

end Shape

end Groundwork.Json
