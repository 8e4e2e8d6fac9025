/-
Spellings of a path. Empty parts and dots can be put in anywhere, and so can a name with
two dots after it, without a change to where the path leads. That is all there is to the
many spellings of one path: two paths that do not climb above their start have the same
parts exactly if one comes from the other by putting such parts in and taking them out
(`respelled_iff`).

One direction is that what is put in changes nothing (`Extra.resolve_eq`). For the other,
the parts that a path is left with are a spelling of it, because resolving takes out extra
parts one after the other (`extras_of_resolve`).
-/
import Groundwork.Proofs.Path.Resolution
import Mathlib.Logic.Relation

set_option autoImplicit false

namespace Groundwork.Path

/-- Some parts, and the same with something put in that leads nowhere. -/
inductive Extra : List (List Char) → List (List Char) → Prop
  /-- An empty part or a dot. -/
  | still (before after : List (List Char)) {part : List Char} (h : part = [] ∨ part = ['.']) :
    Extra (before ++ after) (before ++ part :: after)
  /-- A name that is taken back at once. -/
  | detour (before after : List (List Char)) {name : List Char} (h : isNaming name = true) :
    Extra (before ++ after) (before ++ name :: ['.', '.'] :: after)

/-- Two paths are spelled in different ways: one comes from the other by putting in and
taking out parts that lead nowhere. -/
def Respelled (a b : List Char) : Prop :=
  Relation.EqvGen Extra (Text.splitAll '/' a) (Text.splitAll '/' b)

/-- What is put in changes nothing. -/
theorem Extra.resolve_eq {ps qs : List (List Char)} (h : Extra ps qs) (above : List (List Char)) :
    resolve above ps = resolve above qs := by
  cases h with
  | still before after hstill =>
    rw [resolve_append, resolve_append]
    simp only [resolve_of_still _ _ hstill]
  | detour before after hname =>
    rw [resolve_append, resolve_append]
    simp only [resolve_of_isNaming _ _ hname, resolve_up_cons]

/-- Paths that are spelled in different ways are one. -/
theorem Respelled.components_eq {a b : List Char} (h : Respelled a b) :
    components a = components b := by
  have hresolve : ∀ ps qs, Relation.EqvGen Extra ps qs → resolve [] ps = resolve [] qs := by
    intro ps qs hextras
    induction hextras with
    | rel ps qs hextra => exact hextra.resolve_eq []
    | refl ps => rfl
    | symm ps qs _ ih => exact ih.symm
    | trans ps qs rs _ _ hfirst hsecond => exact hfirst.trans hsecond
  rw [components, components, hresolve _ _ h]

/-- What is left of some parts becomes them again when extra parts are put in. -/
theorem extras_of_resolve {above parts ps : List (List Char)} (h : resolve above parts = some ps)
    (habove : ∀ name ∈ above, isNaming name = true) :
    Relation.ReflTransGen Extra ps.reverse (above.reverse ++ parts) := by
  induction parts generalizing above with
  | nil =>
    cases h
    rw [List.append_nil]
  | cons part parts ih =>
    rcases part_cases part with hstill | rfl | hname
    · rw [resolve_of_still _ _ hstill] at h
      exact (ih h habove).tail (.still _ _ hstill)
    · cases above with
      | nil => cases h
      | cons name above =>
        -- the name that is taken off and the two dots are what was put in
        obtain ⟨hname, habove⟩ := List.forall_mem_cons.1 habove
        rw [resolve_up_cons] at h
        rw [List.reverse_cons, List.append_assoc]
        exact (ih h habove).tail (.detour _ _ hname)
    · rw [resolve_of_isNaming _ _ hname] at h
      have hextras := ih h (List.forall_mem_cons.2 ⟨hname, habove⟩)
      rwa [List.reverse_cons, List.append_assoc] at hextras

/-- The parts that a path is left with are names, and the path is a spelling of them. -/
theorem components_eq_some_iff {path : List Char} {parts : List (List Char)} :
    components path = some parts ↔
      (∀ part ∈ parts, isNaming part = true) ∧
        Relation.ReflTransGen Extra parts (Text.splitAll '/' path) := by
  constructor
  · intro h
    refine ⟨fun part hpart => (isName_of_mem_components h hpart).isNaming, ?_⟩
    obtain ⟨ps, hps, rfl⟩ := Option.map_eq_some_iff.1 h
    have hextras := extras_of_resolve hps fun name hname => absurd hname List.not_mem_nil
    rwa [List.reverse_nil, List.nil_append] at hextras
  · rintro ⟨hnames, hextras⟩
    have hresolve : resolve [] (Text.splitAll '/' path) = some parts.reverse := by
      generalize Text.splitAll '/' path = spelled at hextras
      induction hextras with
      | refl => rw [resolve_names hnames, List.append_nil]
      | tail _ hextra ih => rw [← hextra.resolve_eq, ih]
    rw [components, hresolve, Option.map_some, List.reverse_reverse]

/-- Two paths that do not climb above their start are one exactly if they are two
spellings. -/
theorem respelled_iff {a b : List Char} (h : ¬ Climbs a) :
    Respelled a b ↔ components a = components b := by
  constructor
  · exact Respelled.components_eq
  · intro heq
    obtain ⟨parts, hparts⟩ := exists_components_iff.2 h
    -- both are spellings of the parts that they are left with
    have ha := Relation.EqvGen.reflTransGen_le_eqvGen _ _ _ (components_eq_some_iff.1 hparts).2
    have hb := Relation.EqvGen.reflTransGen_le_eqvGen _ _ _
      (components_eq_some_iff.1 (heq.symm.trans hparts)).2
    exact (ha.symm _ _).trans _ _ _ hb

end Groundwork.Path
