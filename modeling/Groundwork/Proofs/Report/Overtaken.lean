/-
Reports whose work is broken off. The mark on their key is taken back then, so that the
report can be made again. But a mark does not say who made it: what is taken back is
whatever mark is on the key at that time. A report that is slow can be overtaken. Its
own mark lapses, another report with its key is taken and marks the key anew, and that
mark goes when the slow one is broken off (`overtaken_break_forgets`).

The main statement is `marks_outlast_breaks_iff`. From the time when a report is taken,
its mark is safe from the others, and reports with its key are turned away for a whole
window once the work on it is done, exactly if no report with its key that was taken
before is still being worked on. What carries it is that a key that bears the mark of
an errand goes on to bear it (`Leads.bears`): as long as the mark lasts no other report
with the key is taken, so only those that were there before could take it away.
-/
import Groundwork.Proofs.Report.AtMostOnce
import Mathlib.Logic.Relation

set_option autoImplicit false

namespace Groundwork.Traffic

open Groundwork.Service (Call Talk)
open Groundwork.Program (Recites)
open Groundwork.Report (failedJob)

/-! ## Whose mark is on a key -/

/-- Every event is allowed. -/
def anything (_ : Traffic) (_ : Event) : Bool := true

/-- Some events lead from one state to another. -/
def Leads : Traffic → Traffic → Prop :=
  Relation.ReflTransGen fun x y => ∃ e, x.step e = some y

/-- A key bears the mark that an errand made when it came: the mark is there and lasts,
and no errand that came later marked the key. -/
structure Bears (x : Traffic) (key : String) (i : Nat) : Prop where
  marked : ∃ v, x.book[i]? = some v ∧ v.marks key = true ∧
    x.reports.memory.markOf? key = some v.time ∧ x.now < v.time + x.reports.window
  last : ∀ j w, x.book[j]? = some w → w.marks key = true → j ≤ i

/-- No report with a key that was taken is still being worked on. -/
def Quiet (x : Traffic) (key : String) : Prop :=
  ∀ j v, x.book[j]? = some v → v.marks key = true → (x.rest j).isDone = true

/-- A key that bears a mark is marked. -/
theorem Bears.isMarked {x : Traffic} {key : String} {i : Nat} (h : x.Bears key i) :
    x.reports.memory.isMarked x.reports.window x.now key = true := by
  obtain ⟨v, -, -, hmark, hlasts⟩ := h.marked
  unfold Report.Memory.isMarked
  rw [hmark]
  exact decide_eq_true hlasts

/-! ## What events do to marks -/

/-- The window stays as it is when work is broken off. -/
theorem window_afterBreak (s : Report.Service) (v : Visit) : (afterBreak s v).window = s.window := by
  unfold afterBreak
  split
  · rfl
  · rfl

theorem window_breakOff (x : Traffic) (i : Nat) :
    (x.breakOff i).reports.window = x.reports.window := by
  simp only [breakOff]
  cases x.book[i]? with
  | none => rfl
  | some v => exact window_afterBreak x.reports v

/-- Breaking off the work on a report takes back the mark on its key, whoever made it,
and leaves all other keys as they are. -/
theorem markOf?_breakOff {x : Traffic} {i : Nat} {v : Visit} (hv : x.book[i]? = some v) {job : Nat}
    {r : Report.Finished} (hr : v.errand.finish? = some (job, r)) (key : String) :
    (x.breakOff i).reports.memory.markOf? key =
      if key = r.key then none else x.reports.memory.markOf? key := by
  simp only [breakOff, hv, Option.map_some, Option.getD_some, afterBreak, hr]
  exact x.reports.memory.markOf?_forget r.key key

/-- So a key is left as it is if no report with this key is broken off. -/
theorem markOf?_breakOff_of_ne {x : Traffic} {i : Nat} {key : String}
    (h : ∀ v job r, x.book[i]? = some v → v.errand.finish? = some (job, r) → r.key ≠ key) :
    (x.breakOff i).reports.memory.markOf? key = x.reports.memory.markOf? key := by
  cases hv : x.book[i]? with
  | none => simp only [breakOff, hv, Option.map_none, Option.getD_none]
  | some v =>
    cases hr : v.errand.finish? with
    | none => simp only [breakOff, hv, Option.map_some, Option.getD_some, afterBreak, hr]
    | some f =>
      obtain ⟨job, r⟩ := f
      rw [markOf?_breakOff hv hr, if_neg (h v job r hv hr).symm]

theorem Bears.breakOff {x : Traffic} {key : String} {i j : Nat} (h : x.Bears key i)
    (hne : ∀ v job r, x.book[j]? = some v → v.errand.finish? = some (job, r) → r.key ≠ key) :
    (x.breakOff j).Bears key i where
  marked := by
    rw [markOf?_breakOff_of_ne hne, window_breakOff]
    exact h.marked
  last := h.last

/-- A report that is taken marks its key. -/
theorem bears_come {x : Traffic} {e : Errand} {job : Nat} {r : Report.Finished}
    (hr : e.finish? = some (job, r)) (htaken : (e.enter x.reports x.now).1 = true)
    (hwindow : 0 < x.reports.window) : (x.come e).Bears r.key x.book.length where
  marked := by
    have hmarks : (⟨e, x.now, (e.enter x.reports x.now).1⟩ : Visit).marks r.key = true :=
      Visit.marks_iff.2 ⟨htaken, job, r, hr, rfl⟩
    refine ⟨_, book_come_eq_some.2 (.inr ⟨rfl, rfl⟩), hmarks, ?_, ?_⟩
    · exact (e.markOf?_enter x.reports x.now r.key).trans (if_pos hmarks)
    · simp only [come, e.window_enter]
      omega
  last j w hw _ := by
    have hlt := lt_length_of_book hw
    simp only [come, List.length_append, List.length_singleton] at hlt
    omega

/-- While a mark lasts no other report with its key is taken, so the key goes on to bear
that mark when errands come. -/
theorem Bears.come {x : Traffic} {key : String} {i : Nat} (h : x.Bears key i) (e : Errand) :
    (x.come e).Bears key i := by
  have hturned : (⟨e, x.now, (e.enter x.reports x.now).1⟩ : Visit).marks key = false := by
    rw [Bool.eq_false_iff]
    intro hmarks
    obtain ⟨htaken, job, r, hr, hkey⟩ := Visit.marks_iff.1 hmarks
    rw [Errand.enter_fst_of_finish? hr, hkey, h.isMarked] at htaken
    cases htaken
  obtain ⟨v, hv, hmarks, hmark, hlasts⟩ := h.marked
  refine ⟨⟨v, book_come_eq_some.2 (.inl hv), hmarks, ?_, ?_⟩, ?_⟩
  · rw [← hmark]
    exact (e.markOf?_enter x.reports x.now key).trans (if_neg (by rw [hturned]; exact Bool.noConfusion))
  · simp only [Traffic.come, e.window_enter]
    exact hlasts
  · intro j w hw hmarks'
    rcases book_come_eq_some.1 hw with hw | ⟨-, rfl⟩
    · exact h.last j w hw hmarks'
    · rw [hturned] at hmarks'
      cases hmarks'

/-! ## Errands that are worked on -/

theorem Reaches.window_eq {may : Traffic → Event → Bool} {window : Nat} {x : Traffic}
    (h : Reaches may window x) : x.reports.window = window :=
  Reaches.invariant (P := fun x => x.reports.window = window) rfl (fun _ _ ih => ih)
    (fun x e _ _ ih => (e.window_enter x.reports x.now).trans ih) (fun _ _ _ _ _ _ _ _ ih => ih)
    (fun x i _ ih => (x.window_breakOff i).trans ih) h

/-- There is nothing left to do about errands that were turned away. -/
theorem Reaches.isDone_of_taken_eq_false {may : Traffic → Event → Bool} {window : Nat} {x : Traffic}
    (h : Reaches may window x) {i : Nat} {v : Visit} (hv : x.book[i]? = some v)
    (hturned : v.taken = false) : (x.rest i).isDone = true := by
  refine Reaches.invariant (P := fun x => ∀ (i : Nat) (v : Visit), x.book[i]? = some v →
    v.taken = false → (x.rest i).isDone = true) ?_ (fun _ _ ih => ih) ?_ ?_ ?_ h i v hv hturned
  · intro i v hv
    simp at hv
  · intro x e _ _ ih i v hv hturned
    rcases book_come_eq_some.1 hv with hv | ⟨rfl, rfl⟩
    · have hlt := lt_length_of_book hv
      rw [rest_come, if_neg (by omega)]
      exact ih i v hv hturned
    · rw [rest_come, if_pos rfl, Visit.work, if_neg (by simp only at hturned; simp [hturned])]
      rfl
  · intro x j reply c next _ _ hrest ih i v hv hturned
    -- the errand that is answered waits for an answer, so it was not turned away
    have hne : i ≠ j := by
      rintro rfl
      have hdone := ih i v hv hturned
      rw [hrest] at hdone
      cases hdone
    rw [rest_answer, if_neg hne]
    exact ih i v hv hturned
  · intro x j _ ih i v hv hturned
    rw [rest_breakOff]
    split
    · rfl
    · exact ih i v hv hturned

/-- Only errands that came are broken off. -/
theorem Reaches.lt_of_mem_broken {may : Traffic → Event → Bool} {window : Nat} {x : Traffic}
    (h : Reaches may window x) {i : Nat} (hi : i ∈ x.broken) : i < x.book.length := by
  induction h with
  | opening => cases hi
  | step hx _ hstep ih =>
    rcases step_cases hstep with ⟨ms, -, rfl⟩ | ⟨d, -, rfl⟩ | ⟨j, reply, c, next, -, -, rfl⟩ |
      ⟨j, -, hwaits, rfl⟩
    · exact ih hi
    · have hlt := ih hi
      simp only [come, List.length_append]
      omega
    · exact ih hi
    · rcases List.mem_append.1 hi with hin | hin
      · exact ih hin
      · rw [List.mem_singleton.1 hin]
        by_contra hlen
        rw [(hx.not_come (Nat.le_of_not_lt hlen)).1] at hwaits
        cases hwaits

/-- A report that is still being worked on marked its key when it came. -/
theorem Reaches.marks_of_waiting {may : Traffic → Event → Bool} {window : Nat} {x : Traffic}
    (h : Reaches may window x) {i : Nat} {v : Visit} (hv : x.book[i]? = some v)
    (hwaits : (x.rest i).isDone = false) {job : Nat} {r : Report.Finished}
    (hr : v.errand.finish? = some (job, r)) : v.marks r.key = true := by
  refine Visit.marks_iff.2 ⟨?_, job, r, hr, rfl⟩
  by_contra hturned
  have hdone := h.isDone_of_taken_eq_false hv (Bool.eq_false_iff.2 hturned)
  rw [hwaits] at hdone
  cases hdone

/-! ## What comes later -/

section

variable {x y : Traffic}

theorem Leads.reaches {window : Nat} (h : Leads x y) (hx : Reaches anything window x) :
    Reaches anything window y := by
  induction h with
  | refl => exact hx
  | tail _ hstep ih =>
    obtain ⟨e, he⟩ := hstep
    exact .step ih rfl he

theorem Reaches.come {window : Nat} (h : Reaches anything window x) (e : Errand) :
    Reaches anything window (x.come e) :=
  h.step (e := .come e) rfl rfl

/-- What holds of a state holds later if each kind of event keeps it. -/
theorem Leads.invariant {P : Traffic → Prop} (h : Leads x y) (hx : P x)
    (pass : ∀ z ms, Leads x z → P z → P (z.pass ms))
    (come : ∀ z e, Leads x z → P z → P (z.come e))
    (answer : ∀ (z : Traffic) (i : Nat) (reply : (c : Call) → c.Reply) (c : Call)
      (next : c.Reply → Talk Unit), z.rest i = .call c next → P z →
      P (z.answer i c (reply c) (next (reply c))))
    (breakOff : ∀ z i, Leads x z → (z.rest i).isDone = false → P z → P (z.breakOff i)) : P y := by
  induction h with
  | refl => exact hx
  | tail hz hstep ih =>
    obtain ⟨e, he⟩ := hstep
    rcases step_cases he with ⟨ms, -, rfl⟩ | ⟨d, -, rfl⟩ | ⟨i, reply, c, next, -, hrest, rfl⟩ |
      ⟨i, -, hwaits, rfl⟩
    · exact pass _ ms hz ih
    · exact come _ d hz ih
    · exact answer _ i reply c next hrest ih
    · exact breakOff _ i hz hwaits ih

/-- What is in the book stays there. -/
theorem Leads.book {i : Nat} {v : Visit} (h : Leads x y) (hv : x.book[i]? = some v) :
    y.book[i]? = some v :=
  h.invariant (P := fun z => z.book[i]? = some v) hv (fun _ _ _ ih => ih)
    (fun _ _ _ ih => book_come_eq_some.2 (.inl ih)) (fun _ _ _ _ _ _ ih => ih)
    (fun _ _ _ _ ih => ih)

/-- What is done with stays so. -/
theorem Leads.isDone {i : Nat} (h : Leads x y) (hi : i < x.book.length)
    (hdone : (x.rest i).isDone = true) : (y.rest i).isDone = true := by
  refine (h.invariant (P := fun z => i < z.book.length ∧ (z.rest i).isDone = true) ⟨hi, hdone⟩
    (fun _ _ _ ih => ih) ?_ ?_ ?_).2
  · intro z e _ ih
    rw [rest_come, if_neg (Nat.ne_of_lt ih.1)]
    exact ⟨by simp only [Traffic.come, List.length_append]; omega, ih.2⟩
  · intro z j reply c next hrest ih
    refine ⟨ih.1, ?_⟩
    rw [rest_answer, if_neg]
    · exact ih.2
    · rintro rfl
      rw [hrest] at ih
      cases ih.2
  · intro z j _ _ ih
    refine ⟨ih.1, ?_⟩
    rw [rest_breakOff]
    split
    · rfl
    · exact ih.2

theorem Leads.now_le (h : Leads x y) : x.now ≤ y.now :=
  h.invariant (P := fun z => x.now ≤ z.now) (Nat.le_refl _)
    (fun _ _ _ ih => Nat.le_add_right_of_le ih) (fun _ _ _ ih => ih) (fun _ _ _ _ _ _ ih => ih)
    (fun _ _ _ _ ih => ih)

/-- The work on an errand can be done with while nothing else happens. -/
theorem exists_leads_isDone {i : Nat} {cs : List Call}
    (h : Recites (fun _ _ => True) cs (x.rest i)) :
    ∃ z, Leads x z ∧ (z.rest i).isDone = true ∧ (∀ j, j ≠ i → z.rest j = x.rest j) ∧
      z.book = x.book ∧ z.now = x.now ∧ z.broken = x.broken := by
  induction cs generalizing x with
  | nil =>
    obtain ⟨a, ha⟩ := h
    exact ⟨x, .refl, by rw [ha]; rfl, fun _ _ => rfl, rfl, rfl, rfl⟩
  | cons c cs ih =>
    obtain ⟨next, hrest, hnext⟩ := h
    have hanswered : Recites (fun _ _ => True) cs
        ((x.answer i c c.granted (next c.granted)).rest i) := by
      rw [rest_answer, if_pos rfl]
      exact hnext c.granted trivial
    obtain ⟨z, hleads, hdone, hothers, hbook, hnow, hbroken⟩ := ih hanswered
    refine ⟨z, hleads.head ⟨.answer i Call.granted, by simp only [step, hrest]⟩, hdone, ?_, hbook,
      hnow, hbroken⟩
    intro j hj
    rw [hothers j hj, rest_answer, if_neg hj]

end

/-! ## Marks that are safe -/

section

variable {window : Nat} {x y : Traffic} {e : Errand} {job : Nat} {r : Report.Finished}

/-- Where a key was quiet when a report was taken, none but this report can take its mark
away: the reports with the key that came before are done with, and none came later. -/
theorem Quiet.key_ne (hquiet : x.Quiet r.key) (h : Reaches anything window x)
    (hleads : Leads (x.come e) y) (hbears : y.Bears r.key x.book.length) {j : Nat}
    (hj : j ≠ x.book.length) (hwaits : (y.rest j).isDone = false) {v : Visit} {job' : Nat}
    {q : Report.Finished} (hv : y.book[j]? = some v) (hq : v.errand.finish? = some (job', q)) :
    q.key ≠ r.key := by
  intro hkey
  have hy : Reaches anything window y := hleads.reaches (h.come e)
  have hmarks := hy.marks_of_waiting hv hwaits hq
  rw [hkey] at hmarks
  have hlt : j < x.book.length := Nat.lt_of_le_of_ne (hbears.last j v hv hmarks) hj
  have hbefore := List.getElem?_eq_getElem hlt
  have hsame : x.book[j] = v := by
    have hlater := hleads.book (book_come_eq_some.2 (.inl hbefore))
    rw [hv] at hlater
    exact (Option.some.inj hlater).symm
  have hdone : ((x.come e).rest j).isDone = true := by
    rw [rest_come, if_neg hj]
    exact hquiet j v (by rw [hbefore, hsame]) hmarks
  have hlonger : j < (x.come e).book.length := by
    simp only [come, List.length_append]
    omega
  rw [hleads.isDone hlonger hdone] at hwaits
  cases hwaits

/-- A key that was quiet when a report was taken bears the mark of this report until the
report is broken off or the window is over. -/
theorem Leads.bears (hleads : Leads (x.come e) y) (h : Reaches anything window x)
    (hr : e.finish? = some (job, r)) (htaken : (e.enter x.reports x.now).1 = true)
    (hquiet : x.Quiet r.key) (hbroken : x.book.length ∉ y.broken) (hnow : y.now < x.now + window) :
    y.Bears r.key x.book.length := by
  have hwindow : 0 < x.reports.window := by
    have hlater := hleads.now_le
    have hcame : (x.come e).now = x.now := rfl
    rw [h.window_eq]
    omega
  have hvisit : (x.come e).book[x.book.length]? = some ⟨e, x.now, (e.enter x.reports x.now).1⟩ :=
    book_come_eq_some.2 (.inr ⟨rfl, rfl⟩)
  have hkept : x.book.length ∈ y.broken ∨ x.now + window ≤ y.now ∨ y.Bears r.key x.book.length := by
    refine hleads.invariant (P := fun z => x.book.length ∈ z.broken ∨ x.now + window ≤ z.now ∨
      z.Bears r.key x.book.length) (.inr (.inr (bears_come hr htaken hwindow))) ?_ ?_ ?_ ?_
    · rintro z ms hz (hbroken | hover | hbears)
      · exact .inl hbroken
      · exact .inr (.inl (Nat.le_add_right_of_le hover))
      · by_cases hlasts : z.now + ms < x.now + window
        · obtain ⟨v, hv, hmarks, hmark, -⟩ := hbears.marked
          rw [hz.book hvisit] at hv
          cases hv
          refine .inr (.inr ⟨⟨_, hz.book hvisit, hmarks, hmark, ?_⟩, hbears.last⟩)
          have hreports : z.reports.window = window := (hz.reaches (h.come e)).window_eq
          simp only [pass, hreports]
          exact hlasts
        · exact .inr (.inl (Nat.le_of_not_lt hlasts))
    · rintro z d - (hbroken | hover | hbears)
      · exact .inl hbroken
      · exact .inr (.inl hover)
      · exact .inr (.inr (hbears.come d))
    · rintro z i reply c next - (hbroken | hover | hbears)
      · exact .inl hbroken
      · exact .inr (.inl hover)
      · exact .inr (.inr ⟨hbears.marked, hbears.last⟩)
    · rintro z i hz hwaits (hbroken | hover | hbears)
      · exact .inl (List.mem_append_left _ hbroken)
      · exact .inr (.inl hover)
      · by_cases hi : i = x.book.length
        · exact .inl (List.mem_append_right _ (List.mem_singleton.2 hi.symm))
        · exact .inr (.inr (hbears.breakOff fun _ _ _ hv hq => hquiet.key_ne h hz hbears hi hwaits hv hq))
  rcases hkept with hin | hover | hbears
  · exact absurd hin hbroken
  · omega
  · exact hbears

/-- Then none takes the mark away that is not its own. -/
theorem Quiet.bears_breakOff (hquiet : x.Quiet r.key) (h : Reaches anything window x)
    (hleads : Leads (x.come e) y) (hbears : y.Bears r.key x.book.length) {j : Nat}
    (hj : j ≠ x.book.length) (hwaits : (y.rest j).isDone = false) :
    (y.breakOff j).Bears r.key x.book.length :=
  hbears.breakOff fun _ _ _ hv hq => hquiet.key_ne h hleads hbears hj hwaits hv hq

/-- Where a key was not quiet, an older report can be broken off at once, and takes the
new mark away. -/
theorem quiet_of_bears_breakOff
    (hsafe : ∀ j, j ≠ x.book.length → ((x.come e).rest j).isDone = false →
      ((x.come e).breakOff j).Bears r.key x.book.length) : x.Quiet r.key := by
  intro j v hv hmarks
  by_contra hwaits
  obtain ⟨-, job', q, hq, hkey⟩ := Visit.marks_iff.1 hmarks
  have hj : j ≠ x.book.length := Nat.ne_of_lt (lt_length_of_book hv)
  have hwaits' : ((x.come e).rest j).isDone = false := by
    rw [rest_come, if_neg hj]
    exact Bool.eq_false_iff.2 hwaits
  obtain ⟨w, -, -, hmark, -⟩ := (hsafe j hj hwaits').marked
  rw [markOf?_breakOff (book_come_eq_some.2 (.inl hv)) hq, if_pos hkey.symm] at hmark
  cases hmark

/-- While a key bears a mark, reports with this key are turned away. -/
theorem Bears.turned_away {key : String} {i : Nat} (hbears : y.Bears key i) {d : Errand} {job' : Nat}
    {q : Report.Finished} (hq : d.finish? = some (job', q)) (hkey : q.key = key) :
    (d.enter y.reports y.now).1 = false := by
  rw [Errand.enter_fst_of_finish? hq, hkey, hbears.isMarked]
  rfl

/-- Where a key was not quiet, an older report can be broken off once the new one is
done with, and the next one is taken. -/
theorem quiet_of_turned_away (h : Reaches anything window x) (hwindow : 0 < window)
    (hr : e.finish? = some (job, r)) (htaken : (e.enter x.reports x.now).1 = true)
    (hturned : ∀ y, Leads (x.come e) y → x.book.length ∉ y.broken →
      (y.rest x.book.length).isDone = true → y.now < x.now + window →
      (e.enter y.reports y.now).1 = false) : x.Quiet r.key := by
  intro j v hv hmarks
  by_contra hwaits
  obtain ⟨-, job', q, hq, hkey⟩ := Visit.marks_iff.1 hmarks
  have hj : j ≠ x.book.length := Nat.ne_of_lt (lt_length_of_book hv)
  -- the new report is worked on to its end
  have hwork : Recites (fun _ _ => True) r.calls ((x.come e).rest x.book.length) := by
    rw [rest_come, if_pos rfl]
    have hrecites : Recites (fun _ _ => True)
        (if (e.enter x.reports x.now).1 = true then r.calls else [])
        (⟨e, x.now, (e.enter x.reports x.now).1⟩ : Visit).work :=
      Visit.work_recites_finish (v := ⟨e, x.now, (e.enter x.reports x.now).1⟩) hr
    rwa [if_pos htaken] at hrecites
  obtain ⟨z, hz, hdone, hothers, hbook, hnow, hbroken⟩ := exists_leads_isDone hwork
  -- and the older one is broken off then
  have hwaits' : (z.rest j).isDone = false := by
    rw [hothers j hj, rest_come, if_neg hj]
    exact Bool.eq_false_iff.2 hwaits
  have hbreak : Leads (x.come e) (z.breakOff j) :=
    hz.tail ⟨.breakOff j, by simp only [step, hwaits', Bool.false_eq_true, if_false]⟩
  have hspared : x.book.length ∉ (z.breakOff j).broken := by
    simp only [breakOff, hbroken, List.mem_append, List.mem_singleton, not_or]
    exact ⟨fun hin => Nat.lt_irrefl _ (h.lt_of_mem_broken hin), hj.symm⟩
  have hdone' : ((z.breakOff j).rest x.book.length).isDone = true := by
    rw [rest_breakOff, if_neg hj.symm]
    exact hdone
  have hnow' : (z.breakOff j).now < x.now + window := by
    simp only [breakOff, hnow, come]
    omega
  have hfalse := hturned _ hbreak hspared hdone' hnow'
  have hv' : z.book[j]? = some v := by
    rw [hbook]
    exact book_come_eq_some.2 (.inl hv)
  have hunmarked : (z.breakOff j).reports.memory.markOf? r.key = none := by
    rw [markOf?_breakOff hv' hq, if_pos hkey.symm]
  rw [Errand.enter_fst_of_finish? hr, Report.Memory.isMarked, hunmarked] at hfalse
  cases hfalse

/-- **A mark is safe unless a report was overtaken.** Let a report be taken. If the work
on it is broken off, the mark on its key is taken back, and no other. As long as its own
mark is on the key, no other errand that is broken off takes it away, exactly if no
report with the key that was taken before is still being worked on. In the same case,
and only then, reports with the key that come less than a window later are turned away
once the work on it is done, whatever else comes and is broken off. -/
theorem marks_outlast_breaks_iff (h : Reaches anything window x) (hwindow : 0 < window)
    (hr : e.finish? = some (job, r)) (htaken : (e.enter x.reports x.now).1 = true) :
    (∀ y, Leads (x.come e) y → ∀ key,
      (y.breakOff x.book.length).reports.memory.markOf? key =
        if key = r.key then none else y.reports.memory.markOf? key) ∧
    ((∀ y, Leads (x.come e) y → y.Bears r.key x.book.length → ∀ j, j ≠ x.book.length →
      (y.rest j).isDone = false → (y.breakOff j).Bears r.key x.book.length) ↔ x.Quiet r.key) ∧
    ((∀ y, Leads (x.come e) y → x.book.length ∉ y.broken → (y.rest x.book.length).isDone = true →
      y.now < x.now + window → ∀ (d : Errand) (job' : Nat) (q : Report.Finished),
      d.finish? = some (job', q) → q.key = r.key → (d.enter y.reports y.now).1 = false) ↔ x.Quiet r.key) := by
  refine ⟨?_, ⟨?_, ?_⟩, ⟨?_, ?_⟩⟩
  · intro y hleads key
    exact markOf?_breakOff (hleads.book (book_come_eq_some.2 (.inr ⟨rfl, rfl⟩))) hr key
  · intro hsafe
    refine quiet_of_bears_breakOff (hsafe _ .refl ?_)
    exact bears_come hr htaken (by rw [h.window_eq]; exact hwindow)
  · intro hquiet y hleads hbears j hj hwaits
    exact hquiet.bears_breakOff h hleads hbears hj hwaits
  · intro hturned
    refine quiet_of_turned_away h hwindow hr htaken ?_
    intro y hleads hbroken hdone hnow
    exact hturned y hleads hbroken hdone hnow e job r hr rfl
  · intro hquiet y hleads hbroken _ hnow d job' q hq hkey
    exact (hleads.bears h hr htaken hquiet hbroken hnow).turned_away hq hkey

end

/-! ## A report that is made again -/

/-- The report that the job of a project failed comes. -/
def failedAgain : Errand :=
  .report 0 (.finished failedJob)

/-- The report comes, its status is posted, and then it is broken off. -/
def brokenOff : List Event :=
  [.come failedAgain, .answer 0 Call.granted, .breakOff 0]

/-- It can be made again at once, and is not taken a third time once the work on it was
done: not for half a minute, whatever else comes and is broken off. -/
theorem marks_outlast_breaks_brokenOff :
    ∃ x, Reaches anything 30000 x ∧ x.book = [⟨failedAgain, 0, true⟩] ∧ x.broken = [0] ∧
      (failedAgain.enter x.reports x.now).1 = true ∧
      ∀ y, Leads (x.come failedAgain) y → 1 ∉ y.broken → (y.rest 1).isDone = true →
        y.now < x.now + 30000 → (failedAgain.enter y.reports y.now).1 = false := by
  obtain ⟨x, hrun⟩ : ∃ x, run? anything (opening 30000) brokenOff = some x :=
    Option.isSome_iff_exists.1 (by decide +kernel)
  have hstates : (run? anything (opening 30000) brokenOff).map (fun x => (x.book, x.broken)) =
      some ([⟨failedAgain, 0, true⟩], [0]) := by decide +kernel
  have htakens : (run? anything (opening 30000) brokenOff).map (fun x =>
      ((failedAgain.enter x.reports x.now).1, (x.rest 0).isDone)) = some (true, true) := by
    decide +kernel
  rw [hrun] at hstates htakens
  have hbook : x.book = [⟨failedAgain, 0, true⟩] := congrArg Prod.fst (Option.some.inj hstates)
  have hbroken : x.broken = [0] := congrArg Prod.snd (Option.some.inj hstates)
  have htaken : (failedAgain.enter x.reports x.now).1 = true :=
    congrArg Prod.fst (Option.some.inj htakens)
  have hdone : (x.rest 0).isDone = true := congrArg Prod.snd (Option.some.inj htakens)
  have hquiet : x.Quiet failedJob.key := by
    intro j v hv _
    have hlt := lt_length_of_book hv
    rw [hbook, List.length_singleton, Nat.lt_one_iff] at hlt
    rw [hlt]
    exact hdone
  have hsafe := (marks_outlast_breaks_iff (Reaches.opening.run? hrun) (by decide)
    (e := failedAgain) (r := failedJob) rfl htaken).2.2.2 hquiet
  rw [hbook] at hsafe
  exact ⟨x, Reaches.opening.run? hrun, hbook, hbroken, htaken, fun y hleads hspared hdone' hnow =>
    hsafe y hleads hspared hdone' hnow failedAgain 0 failedJob rfl rfl⟩

/-- The report comes and is slow, its mark lapses, and it comes again and is worked on to
its end. -/
def overtaken : List Event :=
  [.come failedAgain, .pass 35000, .come failedAgain, .answer 1 Call.granted,
    .answer 1 Call.granted, .pass 5000]

/-- When the slow one is broken off, the mark of the other is taken away: five seconds
after it was made, the report is taken a third time. -/
theorem overtaken_break_forgets :
    ∃ x y, Reaches anything 30000 x ∧
      x.book = [⟨failedAgain, 0, true⟩, ⟨failedAgain, 35000, true⟩] ∧
      x.Bears failedJob.key 1 ∧ (x.rest 1).isDone = true ∧ x.broken = [] ∧
      x.step (.breakOff 0) = some y ∧ y.now < 35000 + 30000 ∧ ¬ y.Bears failedJob.key 1 ∧
      (failedAgain.enter y.reports y.now).1 = true := by
  obtain ⟨x, hrun⟩ : ∃ x, run? anything (opening 30000) overtaken = some x :=
    Option.isSome_iff_exists.1 (by decide +kernel)
  have hstates : (run? anything (opening 30000) overtaken).map
      (fun x => (x.book, x.broken, x.now, x.reports.memory.markOf? failedJob.key)) =
        some ([⟨failedAgain, 0, true⟩, ⟨failedAgain, 35000, true⟩], [], 40000, some 35000) := by
    decide +kernel
  have hrests : (run? anything (opening 30000) overtaken).map (fun x =>
      ((x.rest 0).isDone, (x.rest 1).isDone,
        (failedAgain.enter (x.breakOff 0).reports (x.breakOff 0).now).1)) =
      some (false, true, true) := by
    decide +kernel
  rw [hrun] at hstates hrests
  obtain ⟨hbook, hbroken, hnow, hmark⟩ :
      x.book = [⟨failedAgain, 0, true⟩, ⟨failedAgain, 35000, true⟩] ∧ x.broken = [] ∧
        x.now = 40000 ∧ x.reports.memory.markOf? failedJob.key = some 35000 := by
    simpa only [Option.map_some, Option.some.injEq, Prod.mk.injEq] using hstates
  obtain ⟨hwaits, hdone, htaken⟩ : (x.rest 0).isDone = false ∧ (x.rest 1).isDone = true ∧
      (failedAgain.enter (x.breakOff 0).reports (x.breakOff 0).now).1 = true := by
    simpa only [Option.map_some, Option.some.injEq, Prod.mk.injEq] using hrests
  have hx : Reaches anything 30000 x := Reaches.opening.run? hrun
  have hbears : x.Bears failedJob.key 1 := by
    refine ⟨⟨⟨failedAgain, 35000, true⟩, by rw [hbook]; rfl, by decide +kernel, hmark, ?_⟩, ?_⟩
    · rw [hx.window_eq, hnow]
      decide
    · intro j w hw _
      have hlt := lt_length_of_book hw
      rw [hbook] at hlt
      exact Nat.le_of_lt_succ hlt
  refine ⟨x, x.breakOff 0, hx, hbook, hbears, hdone, hbroken, ?_, ?_, ?_, htaken⟩
  · simp only [step, hwaits, Bool.false_eq_true, if_false]
  · simp only [breakOff, hnow]
    decide
  · intro hstill
    rw [hstill.turned_away (d := failedAgain) rfl rfl] at htaken
    cases htaken

end Groundwork.Traffic
