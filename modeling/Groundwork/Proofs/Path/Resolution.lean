/-
How a path is resolved. Its parts are taken one after the other onto a stack of names,
and two dots take one off, so what happens to a path depends on how often it led down
and up at any point before, and on nothing else.

`resolve_eq_none_iff` says when there is nothing left to take off: at some point the path
has led up more often than down. `drop_suffix_of_resolve` says what two dots cannot reach:
of the names that were there before, all stay but as many as there are dots for.
`components_append_cons` says that to go on by a second path is to resolve it from where
the first one led.
-/
import Groundwork.Proofs.Path.Below
import Mathlib.Data.List.Infix

set_option autoImplicit false

namespace Groundwork.Path

/-! ## Up and down -/

/-- Whether a part leads down: it names what lies below. -/
def isNaming (part : List Char) : Bool :=
  decide (part ≠ [] ∧ part ≠ ['.'] ∧ part ≠ ['.', '.'])

/-- How often some parts lead down. -/
def downs (parts : List (List Char)) : Nat :=
  parts.countP isNaming

/-- How often some parts lead up. -/
def ups (parts : List (List Char)) : Nat :=
  parts.count ['.', '.']

/-- A path climbs above its start if at some point it has led up more often than down. -/
def Climbs (path : List Char) : Prop :=
  ∃ before, before <+: Text.splitAll '/' path ∧ downs before < ups before

theorem IsName.isNaming {part : List Char} (h : IsName part) : isNaming part = true :=
  decide_eq_true ⟨h.ne_nil, h.ne_dot, h.ne_up⟩

/-- A part leads nowhere, up or down. -/
theorem part_cases (part : List Char) :
    (part = [] ∨ part = ['.']) ∨ part = ['.', '.'] ∨ isNaming part = true := by
  by_cases hstill : part = [] ∨ part = ['.']
  · exact .inl hstill
  · by_cases hup : part = ['.', '.']
    · exact .inr (.inl hup)
    · rw [not_or] at hstill
      exact .inr (.inr (decide_eq_true ⟨hstill.1, hstill.2, hup⟩))

theorem isNaming_of_still {part : List Char} (h : part = [] ∨ part = ['.']) :
    isNaming part = false := by
  rcases h with rfl | rfl <;> decide

section

variable {part : List Char} (parts : List (List Char))

theorem downs_of_still (h : part = [] ∨ part = ['.']) : downs (part :: parts) = downs parts :=
  List.countP_cons_of_neg (by simp [isNaming_of_still h])

theorem ups_of_still (h : part = [] ∨ part = ['.']) : ups (part :: parts) = ups parts := by
  apply List.count_cons_of_ne
  rcases h with rfl | rfl <;> decide

theorem downs_up : downs (['.', '.'] :: parts) = downs parts :=
  List.countP_cons_of_neg (by decide)

theorem ups_up : ups (['.', '.'] :: parts) = ups parts + 1 :=
  List.count_cons_self

theorem downs_of_isNaming (h : isNaming part = true) : downs (part :: parts) = downs parts + 1 :=
  List.countP_cons_of_pos h

theorem ups_of_isNaming (h : isNaming part = true) : ups (part :: parts) = ups parts :=
  List.count_cons_of_ne (of_decide_eq_true h).2.2

end

theorem ups_append (parts more : List (List Char)) : ups (parts ++ more) = ups parts + ups more :=
  List.count_append

theorem ups_of_names {parts : List (List Char)} (h : ∀ part ∈ parts, IsName part) : ups parts = 0 :=
  List.count_eq_zero.2 fun hmem => (h _ hmem).ne_up rfl

/-! ## One part -/

section

variable {part : List Char} (above parts : List (List Char))

theorem resolve_of_still (h : part = [] ∨ part = ['.']) :
    resolve above (part :: parts) = resolve above parts := by
  simp only [resolve, h, if_true]

theorem resolve_up_nil : resolve [] (['.', '.'] :: parts) = none :=
  rfl

theorem resolve_up_cons (name : List Char) :
    resolve (name :: above) (['.', '.'] :: parts) = resolve above parts :=
  rfl

theorem resolve_of_isNaming (h : isNaming part = true) :
    resolve above (part :: parts) = resolve (part :: above) parts := by
  obtain ⟨hnil, hdot, hup⟩ := of_decide_eq_true h
  simp only [resolve, hnil, hdot, hup, or_self, if_false]

end

/-! ## When there is nothing left to take off -/

/-- Parts lead above the start if at some point they have led up more often than there
were names above and names since. -/
theorem resolve_eq_none_iff {above parts : List (List Char)} :
    resolve above parts = none ↔
      ∃ before, before <+: parts ∧ above.length + downs before < ups before := by
  induction parts generalizing above with
  | nil =>
    constructor
    · intro h
      cases h
    · rintro ⟨before, hbefore, hlt⟩
      rw [List.prefix_nil.1 hbefore] at hlt
      exact absurd hlt (Nat.not_lt_zero _)
  | cons part parts ih =>
    -- before the first part nothing has led up yet
    have hfirst : (∃ before, before <+: part :: parts ∧ above.length + downs before < ups before) ↔
        ∃ before, before <+: parts ∧
          above.length + downs (part :: before) < ups (part :: before) := by
      constructor
      · rintro ⟨before, hbefore, hlt⟩
        rcases List.prefix_cons_iff.1 hbefore with rfl | ⟨rest, rfl, hrest⟩
        · exact absurd hlt (Nat.not_lt_zero _)
        · exact ⟨rest, hrest, hlt⟩
      · rintro ⟨rest, hrest, hlt⟩
        exact ⟨part :: rest, List.cons_prefix_cons.2 ⟨rfl, hrest⟩, hlt⟩
    rw [hfirst]
    rcases part_cases part with hstill | rfl | hname
    · rw [resolve_of_still _ _ hstill, ih]
      simp only [downs_of_still _ hstill, ups_of_still _ hstill]
    · cases above with
      | nil =>
        rw [resolve_up_nil]
        refine iff_of_true rfl ⟨[], List.nil_prefix, ?_⟩
        decide
      | cons name above =>
        rw [resolve_up_cons, ih]
        simp only [downs_up, ups_up, List.length_cons]
        refine exists_congr fun before => and_congr_right fun _ => ?_
        omega
    · rw [resolve_of_isNaming _ _ hname, ih]
      simp only [downs_of_isNaming _ hname, ups_of_isNaming _ hname, List.length_cons]
      refine exists_congr fun before => and_congr_right fun _ => ?_
      omega

/-- A path has no parts exactly if it climbs above its start. -/
theorem components_eq_none_iff {path : List Char} : components path = none ↔ Climbs path := by
  rw [components, Option.map_eq_none_iff, resolve_eq_none_iff]
  simp only [List.length_nil, Nat.zero_add]
  rfl

theorem exists_components_iff {path : List Char} :
    (∃ parts, components path = some parts) ↔ ¬ Climbs path := by
  rw [← components_eq_none_iff, ← Option.ne_none_iff_exists']

/-! ## Going on -/

/-- To take some parts and then others is to take the others from where the first led. -/
theorem resolve_append (above parts more : List (List Char)) :
    resolve above (parts ++ more) = (resolve above parts).bind fun ps => resolve ps more := by
  induction parts generalizing above with
  | nil => rfl
  | cons part parts ih =>
    rw [List.cons_append]
    rcases part_cases part with hstill | rfl | hname
    · rw [resolve_of_still _ _ hstill, resolve_of_still _ _ hstill, ih]
    · cases above with
      | nil => rfl
      | cons name above => rw [resolve_up_cons, resolve_up_cons, ih]
    · rw [resolve_of_isNaming _ _ hname, resolve_of_isNaming _ _ hname, ih]

/-- A path and a second one after it. -/
theorem components_append_cons {dir : List Char} {base : List (List Char)}
    (h : components dir = some base) (way : List Char) :
    components (dir ++ '/' :: way) =
      (resolve base.reverse (Text.splitAll '/' way)).map List.reverse := by
  obtain ⟨above, habove, rfl⟩ := Option.map_eq_some_iff.1 h
  rw [components, Text.splitAll_append_cons, resolve_append, habove, Option.bind_some,
    List.reverse_reverse]

/-- Names are taken on as they come. -/
theorem resolve_names {names : List (List Char)} (h : ∀ name ∈ names, isNaming name = true)
    (above : List (List Char)) : resolve above names = some (names.reverse ++ above) := by
  induction names generalizing above with
  | nil => rfl
  | cons name names ih =>
    obtain ⟨hname, hnames⟩ := List.forall_mem_cons.1 h
    rw [resolve_of_isNaming _ _ hname, ih hnames, List.reverse_cons, List.append_assoc]
    rfl

/-- Two dots some times over take off as many names. -/
theorem resolve_replicate {n : Nat} {above : List (List Char)} (h : n ≤ above.length)
    (parts : List (List Char)) :
    resolve above (List.replicate n ['.', '.'] ++ parts) = resolve (above.drop n) parts := by
  induction n generalizing above with
  | zero => rfl
  | succ n ih =>
    cases above with
    | nil => exact absurd h (Nat.not_succ_le_zero n)
    | cons name above =>
      rw [List.replicate_succ, List.cons_append, resolve_up_cons, ih (Nat.le_of_succ_le_succ h),
        List.drop_succ_cons]

/-- Of the names above, all stay but as many as two dots can take off. -/
theorem drop_suffix_of_resolve {above parts ps : List (List Char)}
    (h : resolve above parts = some ps) : above.drop (ups parts) <:+ ps := by
  induction parts generalizing above with
  | nil =>
    cases h
    exact List.drop_suffix _ _
  | cons part parts ih =>
    rcases part_cases part with hstill | rfl | hname
    · rw [resolve_of_still _ _ hstill] at h
      rw [ups_of_still _ hstill]
      exact ih h
    · cases above with
      | nil => cases h
      | cons name above =>
        rw [resolve_up_cons] at h
        rw [ups_up, List.drop_succ_cons]
        exact ih h
    · rw [resolve_of_isNaming _ _ hname] at h
      rw [ups_of_isNaming _ hname]
      -- the new name lies on top of those above
      have hbelow : above.drop (ups parts) <:+ (part :: above).drop (ups parts) :=
        List.drop_suffix_drop_left (part :: above) (Nat.le_succ (ups parts))
      exact hbelow.trans (ih h)

end Groundwork.Path
