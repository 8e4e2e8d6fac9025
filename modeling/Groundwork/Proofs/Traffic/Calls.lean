/-
The calls that an errand makes. Whatever else goes on, an errand whose work is a
recital has at any time made the calls at the front of it, and what is left to do
about it recites the others (`callsOf_append_left`). So it made all of its calls
exactly when there is nothing left to do.

The invariant speaks of one errand at a time. What carries it is that an answer
changes what is left of the errand that it is for, and of no other, and adds one note,
which is that errand's.
-/
import Groundwork.Proofs.Traffic.Basic

set_option autoImplicit false

namespace Groundwork.Traffic

open Groundwork.Service (Call Talk)
open Groundwork.Program (Recites)

/-- The calls that an errand made so far, in order. -/
def callsOf (x : Traffic) (i : Nat) : List Call :=
  (x.notes.filter (·.visit = i)).map (·.call)

/-! ## What each event does to one errand -/

theorem callsOf_answer (x : Traffic) (i j : Nat) (c : Call) (reply : c.Reply) (next : Talk Unit) :
    (x.answer i c reply next).callsOf j = x.callsOf j ++ if j = i then [c] else [] := by
  unfold callsOf answer
  rw [List.filter_append, List.map_append]
  by_cases h : j = i
  · simp [h]
  · have hne : ¬ i = j := fun heq => h heq.symm
    simp [h, hne]

theorem rest_answer (x : Traffic) (i j : Nat) (c : Call) (reply : c.Reply) (next : Talk Unit) :
    (x.answer i c reply next).rest j = if j = i then next else x.rest j := by
  simp only [answer, Function.update_apply]

theorem rest_come (x : Traffic) (e : Errand) (j : Nat) :
    (x.come e).rest j = if j = x.book.length then
      (⟨e, x.now, (e.enter x.reports x.now).1⟩ : Visit).work else x.rest j := by
  simp only [come, Function.update_apply]

theorem rest_breakOff (x : Traffic) (i j : Nat) :
    (x.breakOff i).rest j = if j = i then .done () else x.rest j := by
  simp only [breakOff, Function.update_apply]

/-- The errands that are in the book once one came: those before, and that one. -/
theorem book_come_eq_some {x : Traffic} {e : Errand} {i : Nat} {v : Visit} :
    (x.come e).book[i]? = some v ↔
      x.book[i]? = some v ∨ i = x.book.length ∧ v = ⟨e, x.now, (e.enter x.reports x.now).1⟩ := by
  simp only [come]
  rcases Nat.lt_trichotomy i x.book.length with hlt | rfl | hgt
  · rw [List.getElem?_append_left hlt]
    constructor
    · exact .inl
    · rintro (h | ⟨rfl, -⟩)
      · exact h
      · omega
  · rw [List.getElem?_concat_length, List.getElem?_eq_none (Nat.le_refl _)]
    constructor
    · intro h
      exact .inr ⟨rfl, (Option.some.inj h).symm⟩
    · rintro (h | ⟨-, rfl⟩)
      · cases h
      · rfl
  · rw [List.getElem?_eq_none (by simp; omega), List.getElem?_eq_none (by omega)]
    constructor
    · exact .inl
    · rintro (h | ⟨rfl, -⟩)
      · exact h
      · omega

/-- What came before an errand does so still once others came. -/
theorem book_come_of_lt {x : Traffic} {e : Errand} {i : Nat} {v : Visit} (hi : i < x.book.length) :
    (x.come e).book[i]? = some v ↔ x.book[i]? = some v := by
  rw [book_come_eq_some]
  constructor
  · rintro (hv | ⟨rfl, -⟩)
    · exact hv
    · omega
  · exact .inl

theorem lt_length_of_book {x : Traffic} {i : Nat} {v : Visit} (h : x.book[i]? = some v) :
    i < x.book.length :=
  (List.getElem?_eq_some_iff.1 h).1

/-! ## Errands that did not come yet -/

/-- Nothing is left to do about errands that did not come yet, and they made no calls. -/
theorem Reaches.not_come {may : Traffic → Event → Bool} {window : Nat} {x : Traffic}
    (h : Reaches may window x) {i : Nat} (hi : x.book.length ≤ i) :
    x.rest i = .done () ∧ x.callsOf i = [] := by
  refine Reaches.invariant
    (P := fun x => ∀ i, x.book.length ≤ i → x.rest i = .done () ∧ x.callsOf i = [])
    (fun i _ => ⟨rfl, rfl⟩) (fun _ _ ih => ih) ?_ ?_ ?_ h i hi
  · intro x e _ _ ih i hi
    have hlt : x.book.length + 1 ≤ i := by simpa [come] using hi
    rw [rest_come, if_neg (by omega)]
    exact ih i (by omega)
  · intro x j reply c next _ _ hrest ih i hi
    -- the errand that is answered waits for an answer, so it did come
    have hne : i ≠ j := by
      rintro rfl
      rw [(ih i hi).1] at hrest
      cases hrest
    rw [rest_answer, if_neg hne, callsOf_answer, if_neg hne, List.append_nil]
    exact ih i hi
  · intro x j _ ih i hi
    rw [rest_breakOff]
    refine ⟨?_, (ih i hi).2⟩
    split
    · rfl
    · exact (ih i hi).1

/-- An errand whose answered call is in the notes is in the book. -/
theorem Reaches.visit_lt {may : Traffic → Event → Bool} {window : Nat} {x : Traffic}
    (h : Reaches may window x) {n : Note} (hn : n ∈ x.notes) : n.visit < x.book.length := by
  by_contra hlen
  have hnone := (h.not_come (Nat.le_of_not_lt hlen)).2
  rw [callsOf, List.map_eq_nil_iff, List.filter_eq_nil_iff] at hnone
  exact hnone n hn (by simp)

/-! ## Errands that came -/

/-- Where nothing may be broken off, nothing is. -/
theorem Reaches.broken_eq_nil {may : Traffic → Event → Bool} {window : Nat} {x : Traffic}
    (hmay : ∀ x i, may x (.breakOff i) = false) (h : Reaches may window x) : x.broken = [] := by
  refine Reaches.invariant (P := fun x => x.broken = []) rfl (fun _ _ ih => ih)
    (fun _ _ _ _ ih => ih) (fun _ _ _ _ _ _ _ _ ih => ih) ?_ h
  intro x i hbreak
  rw [hmay x i] at hbreak
  cases hbreak

/-- An errand that is not broken off has made the calls at the front of its recital,
and recites the others. -/
theorem Reaches.callsOf_append_left {may : Traffic → Event → Bool} {window : Nat}
    {expected : (c : Call) → c.Reply → Prop}
    (hmay : ∀ x i reply c next, may x (.answer i reply) = true → x.rest i = .call c next →
      expected c (reply c))
    {x : Traffic} (h : Reaches may window x) {i : Nat} {v : Visit} (hv : x.book[i]? = some v)
    (hbroken : i ∉ x.broken) {cs : List Call} (hcs : Recites expected cs v.work) :
    ∃ left, Recites expected left (x.rest i) ∧ x.callsOf i ++ left = cs := by
  refine Reaches.invariant
    (P := fun x => ∀ (i : Nat) (v : Visit), x.book[i]? = some v → i ∉ x.broken →
      ∀ cs, Recites expected cs v.work →
      ∃ left, Recites expected left (x.rest i) ∧ x.callsOf i ++ left = cs)
    ?_ (fun _ _ ih => ih) ?_ ?_ ?_ h i v hv hbroken cs hcs
  · intro i v hv
    simp at hv
  · intro x e hx _ ih i v hv hbroken cs hcs
    rcases book_come_eq_some.1 hv with hv | ⟨rfl, rfl⟩
    · have hlt := lt_length_of_book hv
      rw [rest_come, if_neg (by omega)]
      exact ih i v hv hbroken cs hcs
    · rw [rest_come, if_pos rfl]
      exact ⟨cs, hcs, by rw [show (x.come e).callsOf x.book.length = x.callsOf x.book.length from rfl,
        (hx.not_come (Nat.le_refl _)).2, List.nil_append]⟩
  · intro x j reply c next _ hmay' hrest ih i v hv hbroken cs hcs
    obtain ⟨left, hleft, hall⟩ := ih i v hv hbroken cs hcs
    rw [rest_answer, callsOf_answer]
    by_cases hij : i = j
    · subst hij
      rw [hrest] at hleft
      obtain ⟨others, rfl, hothers⟩ := hleft.step
      rw [if_pos rfl, if_pos rfl]
      refine ⟨others, hothers _ (hmay x i reply c next hmay' hrest), ?_⟩
      rw [List.append_assoc]
      exact hall
    · rw [if_neg hij, if_neg hij, List.append_nil]
      exact ⟨left, hleft, hall⟩
  · intro x j _ ih i v hv hbroken cs hcs
    have hmem : i ∉ x.broken ∧ i ≠ j := by simpa [breakOff] using hbroken
    rw [rest_breakOff, if_neg hmem.2]
    exact ih i v hv hmem.1 cs hcs

/-- So it made all calls of its recital exactly when there is nothing left to do. -/
theorem Reaches.callsOf_spec {may : Traffic → Event → Bool} {window : Nat}
    {expected : (c : Call) → c.Reply → Prop}
    (hmay : ∀ x i reply c next, may x (.answer i reply) = true → x.rest i = .call c next →
      expected c (reply c))
    {x : Traffic} (h : Reaches may window x) {i : Nat} {v : Visit} (hv : x.book[i]? = some v)
    (hbroken : i ∉ x.broken) {cs : List Call} (hcs : Recites expected cs v.work) :
    x.callsOf i <+: cs ∧ ((x.rest i).isDone = true ↔ x.callsOf i = cs) := by
  obtain ⟨left, hleft, rfl⟩ := h.callsOf_append_left hmay hv hbroken hcs
  refine ⟨List.prefix_append _ _, ?_⟩
  rw [hleft.isDone_iff, List.self_eq_append_right]

end Groundwork.Traffic
