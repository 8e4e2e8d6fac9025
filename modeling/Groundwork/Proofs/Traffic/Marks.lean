/-
Who is turned away. A report that a job ended is turned away exactly if another one
with the same key was taken less than a window before it (`Reaches.taken_eq_false_iff`),
as long as no errand is broken off.

The memory forgets: it keeps one mark for a key, the last. What makes the statement
about all reports taken before is that marks are made in the order of time, so that if
any of them lasts, then the last one does. `Remembers` is the invariant: the mark on a
key is that of the last report taken with it, errands stand in the book in the order
of time, and none of them is in the future.
-/
import Groundwork.Proofs.Traffic.Calls

set_option autoImplicit false

namespace Groundwork

/-- Whether an errand marked a key when it came: it brought the report of a job's end
with this key, and was taken. -/
def Visit.marks (key : String) (v : Visit) : Bool :=
  v.taken && v.errand.finish?.any fun f => f.2.key == key

theorem Visit.marks_iff {key : String} {v : Visit} :
    v.marks key = true ↔
      v.taken = true ∧ ∃ job r, v.errand.finish? = some (job, r) ∧ r.key = key := by
  unfold Visit.marks
  rw [Bool.and_eq_true, Option.any_eq_true]
  constructor
  · rintro ⟨htaken, ⟨job, r⟩, hr, hkey⟩
    exact ⟨htaken, job, r, hr, by simpa using hkey⟩
  · rintro ⟨htaken, job, r, hr, hkey⟩
    exact ⟨htaken, (job, r), hr, by simpa using hkey⟩

/-! ## What the service does when an errand comes -/

namespace Report.Service

/-- A report that a job ended is worked on unless its key is marked. -/
theorem arrive_fst (s : Service) (now : Nat) (r : Finished) :
    (s.arrive now r).1 = !s.memory.isMarked s.window now r.key := by
  unfold arrive Memory.checkAndMark
  by_cases hm : s.memory.isMarked s.window now r.key = true <;> simp [hm]

/-- Afterwards its key bears a new mark if it is worked on, and is as before if not. -/
theorem markOf?_arrive (s : Service) (now : Nat) (r : Finished) (key : String) :
    (s.arrive now r).2.memory.markOf? key =
      if (s.arrive now r).1 = true ∧ r.key = key then some now else s.memory.markOf? key := by
  rw [arrive_fst]
  unfold arrive Memory.checkAndMark
  by_cases hm : s.memory.isMarked s.window now r.key = true
  · simp [hm]
  · by_cases hk : key = r.key
    · simp [hm, hk]
    · have hne : ¬ r.key = key := fun h => hk h.symm
      simp [hm, hk, hne]

end Report.Service

namespace Errand

theorem window_enter (s : Report.Service) (now : Nat) (e : Errand) :
    (e.enter s now).2.window = s.window := by
  cases e with
  | launch => rfl
  | report job notice => cases notice <;> rfl

/-- What an errand does to the marks when it comes: it marks the key that it marks. -/
theorem markOf?_enter (s : Report.Service) (now : Nat) (e : Errand) (key : String) :
    (e.enter s now).2.memory.markOf? key =
      if (⟨e, now, (e.enter s now).1⟩ : Visit).marks key = true then some now
      else s.memory.markOf? key := by
  cases e with
  | launch => simp [enter, Visit.marks, finish?]
  | report job notice =>
    cases notice with
    | started r => simp [enter, Visit.marks, finish?, Report.Service.receive]
    | finished r =>
      simp only [enter, Report.Service.receive, Report.Service.markOf?_arrive, Visit.marks, finish?,
        Option.any_some, Bool.and_eq_true, beq_iff_eq]

/-- The report that a job ended is turned away if its key is marked. -/
theorem enter_fst_of_finish? {e : Errand} {s : Report.Service} {now job : Nat} {r : Report.Finished}
    (h : e.finish? = some (job, r)) : (e.enter s now).1 = !s.memory.isMarked s.window now r.key := by
  rw [finish?_eq_some_iff.1 h]
  exact s.arrive_fst now r

/-- Nothing else is turned away. -/
theorem enter_fst_of_finish?_eq_none {e : Errand} {s : Report.Service} {now : Nat}
    (h : e.finish? = none) : (e.enter s now).1 = true := by
  cases e with
  | launch => rfl
  | report job notice =>
    cases notice with
    | started r => rfl
    | finished r => cases h

end Errand

/-! ## The last mark -/

/-- The time of the last errand in a book that marked a key. -/
def lastMark (book : List Visit) (key : String) : Option Nat :=
  (book.filter (·.marks key)).getLast?.map (·.time)

theorem lastMark_concat (book : List Visit) (v : Visit) (key : String) :
    lastMark (book ++ [v]) key = if v.marks key = true then some v.time else lastMark book key := by
  unfold lastMark
  rw [List.filter_append]
  by_cases h : v.marks key = true
  · simp [h]
  · simp [h]

/-- The last mark was made by some errand in the book. -/
theorem exists_of_lastMark {book : List Visit} {key : String} {t : Nat}
    (h : lastMark book key = some t) : ∃ v ∈ book, v.marks key = true ∧ v.time = t := by
  obtain ⟨v, hv, rfl⟩ := Option.map_eq_some_iff.1 h
  have hmem := List.mem_filter.1 (List.mem_of_getLast? hv)
  exact ⟨v, hmem.1, hmem.2, rfl⟩

/-- No errand in a book that is in the order of time marked a key after the last mark. -/
theorem le_lastMark {book : List Visit} (hsorted : book.Pairwise (fun a b => a.time ≤ b.time))
    {key : String} {v : Visit} (hv : v ∈ book) (hmarks : v.marks key = true) :
    ∃ t, lastMark book key = some t ∧ v.time ≤ t := by
  have hmem : v ∈ book.filter (·.marks key) := List.mem_filter.2 ⟨hv, hmarks⟩
  cases hu : (book.filter (·.marks key)).getLast? with
  | none =>
    rw [List.getLast?_eq_none_iff] at hu
    rw [hu] at hmem
    cases hmem
  | some u =>
    refine ⟨u.time, by rw [lastMark, hu]; rfl, ?_⟩
    obtain ⟨before, hbefore⟩ := List.getLast?_eq_some_iff.1 hu
    have hpair := hsorted.filter (·.marks key)
    rw [hbefore] at hpair hmem
    rcases List.mem_append.1 hmem with hin | hin
    · exact (List.pairwise_append.1 hpair).2.2 v hin u (List.mem_singleton.2 rfl)
    · obtain rfl := List.mem_singleton.1 hin
      exact Nat.le_refl _

namespace Traffic

/-! ## The memory and the book -/

/-- The memory knows of the book what it has to: the last mark on each key. -/
structure Remembers (window : Nat) (x : Traffic) : Prop where
  window_eq : x.reports.window = window
  mark_eq : ∀ key, x.reports.memory.markOf? key = lastMark x.book key
  sorted : x.book.Pairwise (fun a b => a.time ≤ b.time)
  past : ∀ v ∈ x.book, v.time ≤ x.now

theorem Remembers.opening (window : Nat) : Remembers window (opening window) :=
  ⟨rfl, fun _ => rfl, List.Pairwise.nil, fun _ hv => by cases hv⟩

theorem Remembers.pass {window : Nat} {x : Traffic} (h : Remembers window x) (ms : Nat) :
    Remembers window (x.pass ms) :=
  ⟨h.window_eq, h.mark_eq, h.sorted, fun v hv => Nat.le_add_right_of_le (h.past v hv)⟩

theorem Remembers.come {window : Nat} {x : Traffic} (h : Remembers window x) (e : Errand) :
    Remembers window (x.come e) where
  window_eq := (e.window_enter x.reports x.now).trans h.window_eq
  mark_eq key := by
    simp only [Traffic.come]
    rw [lastMark_concat, e.markOf?_enter, h.mark_eq]
  sorted := by
    simp only [Traffic.come]
    refine List.pairwise_append.2 ⟨h.sorted, List.pairwise_singleton _ _, ?_⟩
    intro a ha b hb
    rw [List.mem_singleton.1 hb]
    exact h.past a ha
  past v hv := by
    simp only [Traffic.come] at hv ⊢
    rcases List.mem_append.1 hv with hv | hv
    · exact h.past v hv
    · obtain rfl := List.mem_singleton.1 hv
      exact Nat.le_refl _

/-- Whether a key is marked is whether an errand in the book marked it less than a
window ago. -/
theorem Remembers.isMarked_iff {window : Nat} {x : Traffic} (h : Remembers window x)
    (key : String) : x.reports.memory.isMarked window x.now key = true ↔
      ∃ v ∈ x.book, v.marks key = true ∧ x.now < v.time + window := by
  unfold Report.Memory.isMarked
  rw [h.mark_eq]
  cases hlast : lastMark x.book key with
  | none =>
    simp only [Bool.false_eq_true, false_iff]
    rintro ⟨v, hv, hmarks, -⟩
    obtain ⟨t, ht, -⟩ := le_lastMark h.sorted hv hmarks
    rw [hlast] at ht
    cases ht
  | some t =>
    simp only [decide_eq_true_eq]
    constructor
    · intro hlt
      obtain ⟨v, hv, hmarks, rfl⟩ := exists_of_lastMark hlast
      exact ⟨v, hv, hmarks, hlt⟩
    · rintro ⟨v, hv, hmarks, hlt⟩
      obtain ⟨t', ht', hle⟩ := le_lastMark h.sorted hv hmarks
      have heq : t = t' := Option.some.inj (hlast.symm.trans ht')
      omega

theorem Reaches.remembers {window : Nat} {x : Traffic} (h : Reaches undisturbed window x) :
    Remembers window x :=
  Reaches.invariant (Remembers.opening window) (fun _ ms ih => ih.pass ms)
    (fun _ e _ _ ih => ih.come e)
    (fun _ _ _ _ _ _ _ _ ih => ⟨ih.window_eq, ih.mark_eq, ih.sorted, ih.past⟩)
    (fun _ _ hmay => by cases hmay) h

/-! ## Who is turned away -/

/-- The report that a job ended is turned away exactly if another with the same key was
taken before it, and less than a window before. -/
theorem Reaches.taken_eq_false_iff {window : Nat} {x : Traffic}
    (h : Reaches undisturbed window x) {j : Nat} {w : Visit} (hw : x.book[j]? = some w) {job : Nat}
    {r : Report.Finished} (hr : w.errand.finish? = some (job, r)) :
    w.taken = false ↔
      ∃ i v, i < j ∧ x.book[i]? = some v ∧ v.marks r.key = true ∧ w.time < v.time + window := by
  refine Reaches.invariant
    (P := fun x => ∀ (j : Nat) (w : Visit) (job : Nat) (r : Report.Finished),
      x.book[j]? = some w → w.errand.finish? = some (job, r) →
      (w.taken = false ↔
        ∃ (i : Nat) (v : Visit), i < j ∧ x.book[i]? = some v ∧ v.marks r.key = true ∧
          w.time < v.time + window))
    ?_ (fun _ _ ih => ih) ?_ (fun _ _ _ _ _ _ _ _ ih => ih) (fun _ _ hmay => by cases hmay)
    h j w job r hw hr
  · intro j w job r hw
    simp at hw
  · intro x e hx _ ih j w job r hw hr
    have hmarked := hx.remembers.isMarked_iff r.key
    rcases book_come_eq_some.1 hw with hw | ⟨rfl, rfl⟩
    · have hlt := lt_length_of_book hw
      rw [ih j w job r hw hr]
      constructor
      · rintro ⟨i, v, hij, hv, hrest⟩
        exact ⟨i, v, hij, (book_come_of_lt (by omega)).2 hv, hrest⟩
      · rintro ⟨i, v, hij, hv, hrest⟩
        exact ⟨i, v, hij, (book_come_of_lt (by omega)).1 hv, hrest⟩
    · have hentered : (e.enter x.reports x.now).1 =
          !x.reports.memory.isMarked x.reports.window x.now r.key := Errand.enter_fst_of_finish? hr
      simp only at hr ⊢
      rw [hentered, hx.remembers.window_eq, Bool.not_eq_false', hmarked]
      constructor
      · rintro ⟨v, hv, hmarks, hlt⟩
        obtain ⟨i, hi, rfl⟩ := List.mem_iff_getElem.1 hv
        exact ⟨i, x.book[i], hi, (book_come_of_lt hi).2 (List.getElem?_eq_getElem hi), hmarks, hlt⟩
      · rintro ⟨i, v, hi, hv, hmarks, hlt⟩
        exact ⟨v, List.mem_of_getElem? ((book_come_of_lt hi).1 hv), hmarks, hlt⟩

end Traffic

end Groundwork
