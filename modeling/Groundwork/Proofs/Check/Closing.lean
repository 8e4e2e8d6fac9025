/-
How checks are left. When all is over and every job has reported its end, the last
status of a check says that it succeeded or failed, unless the job that posted it had
its end ignored: then the check is left pending. An end is ignored if that of another
job with the same key was taken less than a window before, as when one project is
launched twice in a row on the same commit (`left_pending_by_second_launch`).

`Orderly` is the invariant of jobs that keep to their protocol. Its heart is that the
statuses of a job are posted in order: once the end of a job was reported, the launch
of the job and its start have nothing left to post.
-/
import Groundwork.Proofs.Traffic.Protocol

set_option autoImplicit false

namespace Groundwork

open Groundwork.Service (Call Talk)
open Groundwork.Report (failedJob)

/-- A launch and a start leave their check pending. -/
theorem Errand.posted_state_of_finish?_eq_none {e : Errand} (h : e.finish? = none) :
    e.state.posted = "pending" := by
  cases e with
  | launch => rfl
  | report job n =>
    cases n with
    | started r => rfl
    | finished r => cases h

/-- The end of a job closes its check. -/
theorem Check.Conclusion.posted_state (c : Conclusion) :
    c.state.posted = "success" ∨ c.state.posted = "failure" := by
  cases c with
  | success => exact .inl rfl
  | failure => exact .inr rfl

namespace Traffic

/-! ## What the protocol asks of reports -/

theorem knows_of_protocol {x : Traffic} {job : Nat} {n : Report.Notice}
    (h : protocol x (.come (.report job n)) = true) :
    x.knows job n.checkUrl n.checkName = true := by
  cases n with
  | started r =>
    simp only [protocol, Bool.and_eq_true] at h
    exact h.1
  | finished r =>
    simp only [protocol, Bool.and_eq_true] at h
    exact h.1.1.1

/-- The report that a job started is the first of the job. -/
theorem first_of_protocol {x : Traffic} {job : Nat} {r : Report.Started}
    (h : protocol x (.come (.report job (.started r))) = true) {i : Nat} {v : Visit}
    (hv : x.book[i]? = some v) (n : Report.Notice) : v.errand ≠ .report job n := by
  intro hn
  simp only [protocol, Bool.and_eq_true, List.isEmpty_iff] at h
  have hmem : i ∈ x.reportsOf job fun _ => true := mem_reportsOf.2 ⟨v, n, hv, hn, rfl⟩
  rw [h.2] at hmem
  cases hmem

/-- When a job reports its end, its start was reported and answered, and its end was
not. -/
theorem finished_of_protocol {x : Traffic} {job : Nat} {r : Report.Finished}
    (h : protocol x (.come (.report job (.finished r))) = true) {i : Nat} {v : Visit}
    (hv : x.book[i]? = some v) :
    (∀ q, v.errand = .report job (.started q) → (x.rest i).isDone = true) ∧
      ∀ q, v.errand ≠ .report job (.finished q) := by
  simp only [protocol, Bool.and_eq_true, List.all_eq_true, List.isEmpty_iff] at h
  obtain ⟨⟨-, hstarts⟩, hends⟩ := h
  refine ⟨fun q hq => hstarts i (mem_reportsOf.2 ⟨v, .started q, hv, hq, rfl⟩), fun q hq => ?_⟩
  have hmem : i ∈ x.reportsOf job (·.isFinished) := mem_reportsOf.2 ⟨v, .finished q, hv, hq, rfl⟩
  rw [hends] at hmem
  cases hmem

/-! ## What is so at any time -/

/-- What jobs that keep to their protocol make sure of. -/
structure Orderly (x : Traffic) : Prop where
  /-- Every errand is about a job that was launched, and about the check of this job. -/
  launched : ∀ (i : Nat) (v : Visit), x.book[i]? = some v →
    ∃ u : Visit, x.book[v.errand.job i]? = some u ∧ u.errand.isLaunch = true ∧
      u.errand.checkUrl = v.errand.checkUrl ∧ u.errand.checkName = v.errand.checkName
  /-- Only the end of a job can be turned away. -/
  taken : ∀ (i : Nat) (v : Visit), x.book[i]? = some v → v.errand.finish? = none → v.taken = true
  /-- The end of a job is reported once. -/
  once : ∀ (i j : Nat) (v w : Visit) (job : Nat) (r q : Report.Finished),
    x.book[i]? = some v → x.book[j]? = some w → v.errand = .report job (.finished r) →
    w.errand = .report job (.finished q) → i = j
  /-- When the end of a job was reported, all else was posted that there is to post
  about the job. -/
  posted : ∀ (i j : Nat) (v w : Visit) (r : Report.Finished), x.book[i]? = some v →
    v.errand.finish? = none → x.book[j]? = some w →
    w.errand = .report (v.errand.job i) (.finished r) → x.posted i ≠ []
  /-- So nothing about a job but its end is posted after its end. -/
  inOrder : x.notes.Pairwise fun m n => ∀ (v w : Visit) (r : Report.Finished),
    x.book[n.visit]? = some v → v.errand.finish? = none → x.book[m.visit]? = some w →
    w.errand = .report (v.errand.job n.visit) (.finished r) → n.call.status? = none

theorem Orderly.opening (window : Nat) : Orderly (opening window) where
  launched i v hv := by simp at hv
  taken i v hv := by simp at hv
  once i j v w job r q hv := by simp at hv
  posted i j v w r hv := by simp at hv
  inOrder := List.Pairwise.nil

variable {window : Nat} {x : Traffic}

theorem posted_answer (x : Traffic) (i j : Nat) (c : Call) (reply : c.Reply) (next : Talk Unit) :
    (x.answer i c reply next).posted j = x.posted j ++ if j = i then c.status?.toList else [] := by
  unfold posted
  rw [callsOf_answer, List.filterMap_append]
  by_cases h : j = i
  · rw [if_pos h, if_pos h]
    cases hc : c.status? <;> simp [hc]
  · rw [if_neg h, if_neg h, List.filterMap_nil]

/-- When the end of a job comes, all else about it was posted: its launch asked for it
after the post, and its start was answered. -/
theorem Orderly.posted_of_end (h : Orderly x) (hx : Reaches protocol window x) {i : Nat}
    {v : Visit} {r : Report.Finished}
    (hmay : protocol x (.come (.report (v.errand.job i) (.finished r))) = true)
    (hv : x.book[i]? = some v) (hend : v.errand.finish? = none) : x.posted i ≠ [] := by
  cases herrand : v.errand with
  | launch s t c p =>
    rw [herrand] at hmay
    obtain ⟨-, -, -, -, -, hne⟩ := hx.launched_of_knows (knows_of_protocol hmay)
    exact hne
  | report job n =>
    cases n with
    | finished q =>
      rw [herrand] at hend
      cases hend
    | started q =>
      rw [herrand] at hmay
      have hdone := (finished_of_protocol hmay hv).1 q herrand
      rw [hx.posted_of_isDone hv (h.taken i v hv hend) hdone]
      exact List.cons_ne_nil _ _

/-- When a launch or a start comes, the job that it is about was not reported to have
ended. -/
theorem Orderly.not_ended (h : Orderly x) {e : Errand} (hmay : protocol x (.come e) = true)
    (hend : e.finish? = none) {j : Nat} {w : Visit} (hw : x.book[j]? = some w)
    {r : Report.Finished} : w.errand ≠ .report (e.job x.book.length) (.finished r) := by
  intro hr
  cases e with
  | launch s t c p =>
    -- the job of a report is one that was launched before
    obtain ⟨u, hu, -⟩ := h.launched j w hw
    rw [hr] at hu
    have hlt := lt_length_of_book hu
    exact absurd hlt (Nat.lt_irrefl _)
  | report job n =>
    cases n with
    | finished q => cases hend
    | started q => exact first_of_protocol hmay hw _ hr

/-- An errand came that keeps to the protocol. -/
theorem Orderly.come (h : Orderly x) (hx : Reaches protocol window x) {e : Errand}
    (hmay : protocol x (.come e) = true) : Orderly (x.come e) where
  launched i v hv := by
    rcases book_come_eq_some.1 hv with hv | ⟨rfl, rfl⟩
    · obtain ⟨u, hu, hlaunch⟩ := h.launched i v hv
      exact ⟨u, book_come_eq_some.2 (.inl hu), hlaunch⟩
    · cases e with
      | launch s t c p => exact ⟨_, hv, rfl, rfl, rfl⟩
      | report job n =>
        obtain ⟨u, hu, hlaunch, hurl, hname, -⟩ := hx.launched_of_knows (knows_of_protocol hmay)
        exact ⟨u, book_come_eq_some.2 (.inl hu), hlaunch, hurl, hname⟩
  taken i v hv hend := by
    rcases book_come_eq_some.1 hv with hv | ⟨rfl, rfl⟩
    · exact h.taken i v hv hend
    · exact Errand.enter_fst_of_finish?_eq_none hend
  once i j v w job r q hv hw hr hq := by
    rcases book_come_eq_some.1 hv with hv' | ⟨rfl, rfl⟩
    · rcases book_come_eq_some.1 hw with hw' | ⟨rfl, rfl⟩
      · exact h.once i j v w job r q hv' hw' hr hq
      · rw [show e = .report job (.finished q) from hq] at hmay
        exact absurd hr ((finished_of_protocol hmay hv').2 r)
    · rcases book_come_eq_some.1 hw with hw' | ⟨rfl, rfl⟩
      · rw [show e = .report job (.finished r) from hr] at hmay
        exact absurd hq ((finished_of_protocol hmay hw').2 q)
      · rfl
  posted i j v w r hv hend hw hr := by
    rw [show (x.come e).posted i = x.posted i from rfl]
    rcases book_come_eq_some.1 hv with hv' | ⟨rfl, rfl⟩
    · rcases book_come_eq_some.1 hw with hw' | ⟨rfl, rfl⟩
      · exact h.posted i j v w r hv' hend hw' hr
      · rw [show e = .report (v.errand.job i) (.finished r) from hr] at hmay
        exact h.posted_of_end hx hmay hv' hend
    · rcases book_come_eq_some.1 hw with hw' | ⟨rfl, rfl⟩
      · exact absurd hr (h.not_ended hmay hend hw')
      · simp only at hr hend
        rw [hr] at hend
        cases hend
  inOrder := by
    refine h.inOrder.imp_of_mem ?_
    intro m n hm hn hmn v w r hv hend hw hr
    rw [book_come_of_lt (hx.visit_lt hn)] at hv
    rw [book_come_of_lt (hx.visit_lt hm)] at hw
    exact hmn v w r hv hend hw hr

/-- A call of an errand was answered. -/
theorem Orderly.answer (h : Orderly x) {i : Nat} {c : Call} {reply : c.Reply} {next : Talk Unit}
    (hy : Reaches protocol window (x.answer i c reply next)) :
    Orderly (x.answer i c reply next) where
  launched := h.launched
  taken := h.taken
  once := h.once
  posted j k v w r hv hend hw hr := by
    rw [posted_answer]
    exact List.append_ne_nil_of_left_ne_nil (h.posted j k v w r hv hend hw hr) _
  inOrder := by
    refine List.pairwise_append.2 ⟨h.inOrder, List.pairwise_singleton _ _, ?_⟩
    intro m _ n hn v w r hv hend hw hr
    obtain rfl := List.mem_singleton.1 hn
    -- the errand posted its one status before, so this call posts none
    have hne := h.posted i m.visit v w r hv hend hw hr
    have hprefix := (hy.posted_prefix (i := i) hv).length_le
    rw [posted_answer, if_pos rfl, List.length_append, List.length_singleton] at hprefix
    have hpos := List.length_pos_iff.2 hne
    cases hc : c.status? with
    | none => rfl
    | some p =>
      rw [hc, Option.toList_some, List.length_singleton] at hprefix
      omega

theorem Reaches.orderly (h : Reaches protocol window x) : Orderly x := by
  refine Reaches.invariant (Orderly.opening window) ?_ ?_ ?_ ?_ h
  · intro x ms ih
    exact ⟨ih.launched, ih.taken, ih.once, ih.posted, ih.inOrder⟩
  · intro x e hx hmay ih
    exact ih.come hx hmay
  · intro x i reply c next hx hmay hrest ih
    have hstep : x.step (.answer i reply) = some (x.answer i c (reply c) (next (reply c))) := by
      simp only [Traffic.step, hrest]
    exact ih.answer (.step hx hmay hstep)
  · intro x i hmay
    cases hmay

/-! ## The last status of a check -/

/-- What an errand posted is in the notes. -/
theorem mem_posted {i : Nat} {p : String × CommitStatus} :
    p ∈ x.posted i ↔ ∃ n ∈ x.notes, n.visit = i ∧ n.call.status? = some p := by
  unfold posted callsOf
  rw [List.mem_filterMap]
  constructor
  · rintro ⟨c, hc, hp⟩
    obtain ⟨n, hn, rfl⟩ := List.mem_map.1 hc
    have hmem := List.mem_filter.1 hn
    exact ⟨n, hmem.1, by simpa using hmem.2, hp⟩
  · rintro ⟨n, hn, hvisit, hp⟩
    exact ⟨n.call, List.mem_map.2 ⟨n, List.mem_filter.2 ⟨hn, by simpa using hvisit⟩, rfl⟩, hp⟩

/-- A status in a note is that of the errand which made the call. -/
theorem Reaches.status_of_note (h : Reaches protocol window x) {n : Note} (hn : n ∈ x.notes)
    {v : Visit} (hv : x.book[n.visit]? = some v) {p : String × CommitStatus}
    (hp : n.call.status? = some p) : v.errand.status = p := by
  have hmem : p ∈ x.posted n.visit := mem_posted.2 ⟨n, hn, rfl, hp⟩
  exact (List.mem_singleton.1 ((h.posted_prefix hv).subset hmem)).symm

/-- The statuses that were posted for a check, each with the errand that posted it. -/
def statusesOf (x : Traffic) (url context : String) : List (Nat × CommitStatus) :=
  x.notes.filterMap fun n => (n.call.statusFor? url context).map fun s => (n.visit, s)

/-- The last status is in a note after which there is none about the check. -/
theorem exists_last_note {url context : String} {i : Nat} {s : CommitStatus}
    (h : (x.statusesOf url context).getLast? = some (i, s)) :
    ∃ before n after, x.notes = before ++ n :: after ∧ n.visit = i ∧
      n.call.statusFor? url context = some s ∧
      ∀ m ∈ after, m.call.statusFor? url context = none := by
  obtain ⟨others, hothers⟩ := List.getLast?_eq_some_iff.1 h
  obtain ⟨front, back, hnotes, -, hback⟩ := List.filterMap_eq_append_iff.1 hothers
  obtain ⟨skipped, n, after, rfl, -, hn, hafter⟩ := List.filterMap_eq_cons_iff.1 hback
  obtain ⟨t, ht, hpair⟩ := Option.map_eq_some_iff.1 hn
  cases hpair
  refine ⟨front ++ skipped, n, after, by rw [hnotes, List.append_assoc], rfl, ht, ?_⟩
  intro m hm
  have hnone := List.filterMap_eq_nil_iff.1 hafter m hm
  exact Option.map_eq_none_iff.1 hnone

/-- When all is over, nothing is left to do about an errand, and the job of a launch
reported its end. -/
theorem over_of_isOver (h : x.isOver = true) {i : Nat} {v : Visit} (hv : x.book[i]? = some v) :
    (x.rest i).isDone = true ∧ (v.errand.isLaunch = true →
      ∃ (j : Nat) (w : Visit) (r : Report.Finished),
        x.book[j]? = some w ∧ w.errand = .report i (.finished r)) := by
  have hi := List.all_eq_true.1 h i (List.mem_range.2 (lt_length_of_book hv))
  rw [hv, Option.all_some, Bool.and_eq_true, Bool.or_eq_true, Bool.not_eq_true',
    Bool.not_eq_true', List.isEmpty_eq_false_iff_exists_mem] at hi
  refine ⟨hi.1, fun hlaunch => ?_⟩
  rcases hi.2 with hno | ⟨j, hj⟩
  · rw [hlaunch] at hno
    cases hno
  · obtain ⟨w, n, hw, hn, hkind⟩ := mem_reportsOf.1 hj
    cases n with
    | started r => cases hkind
    | finished r => exact ⟨j, w, r, hw, hn⟩

/-- The end of a job on a check was ignored, for the end of another job with the same
key had been taken less than a window before. -/
def EndIgnored (x : Traffic) (window job : Nat) (url context : String) : Prop :=
  ∃ (j : Nat) (w : Visit) (r : Report.Finished), x.book[j]? = some w ∧
    w.errand = .report job (.finished r) ∧ r.checkUrl = url ∧ r.checkName = context ∧
    w.taken = false ∧
    ∃ (k : Nat) (u : Visit) (other : Nat) (q : Report.Finished), k < j ∧ x.book[k]? = some u ∧
      u.errand = .report other (.finished q) ∧ other ≠ job ∧ q.key = r.key ∧ u.taken = true ∧
      w.time < u.time + window

/-- The end of a job that was turned away was ignored: no job stands in its own way. -/
theorem Reaches.endIgnored (h : Reaches protocol window x) {j job : Nat} {w : Visit}
    {r : Report.Finished} (hw : x.book[j]? = some w) (hr : w.errand = .report job (.finished r))
    (htaken : w.taken = false) : x.EndIgnored window job r.checkUrl r.checkName := by
  have hundisturbed : Reaches undisturbed window x := h.mono fun _ _ => undisturbed_of_protocol
  obtain ⟨k, u, hkj, hu, hmarks, htime⟩ :=
    (hundisturbed.taken_eq_false_iff hw (Errand.finish?_eq_some_iff.2 hr)).1 htaken
  obtain ⟨hutaken, other, q, hq, hkey⟩ := Visit.marks_iff.1 hmarks
  have hq' := Errand.finish?_eq_some_iff.1 hq
  refine ⟨j, w, r, hw, hr, rfl, rfl, htaken, k, u, other, q, hkj, hu, hq', ?_, hkey, hutaken, htime⟩
  rintro rfl
  have heq := h.orderly.once k j u w other q r hu hw hq' hr
  omega

/-- The last status of a check is not that of a launch or a start whose job had its end
taken: this posted a status after it. -/
theorem Reaches.taken_eq_false_of_last (h : Reaches protocol window x) (hover : x.isOver = true)
    {before after : List Note} {n : Note} (hnotes : x.notes = before ++ n :: after) {v w : Visit}
    (hv : x.book[n.visit]? = some v) (hend : v.errand.finish? = none)
    {p : String × CommitStatus} (hp : n.call.status? = some p) {j : Nat} {r : Report.Finished}
    (hw : x.book[j]? = some w) (hr : w.errand = .report (v.errand.job n.visit) (.finished r))
    (hafter : ∀ m ∈ after, m.call.statusFor? r.checkUrl r.checkName = none) :
    w.taken = false := by
  by_contra htaken
  rw [Bool.not_eq_false] at htaken
  have hposted := h.posted_of_isDone hw htaken (over_of_isOver hover hw).1
  have hmem : w.errand.status ∈ x.posted j := by
    rw [hposted]
    exact List.mem_singleton.2 rfl
  obtain ⟨m, hm, rfl, hstatus⟩ := mem_posted.1 hmem
  have horder := h.orderly.inOrder
  rw [hnotes] at hm horder
  rcases List.mem_append.1 hm with hbefore | hrest
  · have hnone := (List.pairwise_append.1 horder).2.2 m hbefore n List.mem_cons_self v w r hv hend hw hr
    rw [hp] at hnone
    cases hnone
  · rcases List.mem_cons.1 hrest with rfl | hlater
    · rw [hv] at hw
      cases hw
      rw [hr] at hend
      cases hend
    · have hnone := hafter m hlater
      have hsome : m.call.statusFor? r.checkUrl r.checkName = some w.errand.status.2 :=
        Call.statusFor?_eq_some_iff.2 ⟨by rw [hstatus, hr]; rfl, by rw [hr]; rfl⟩
      rw [hsome] at hnone
      cases hnone

/-- **How checks are left.** When all is over, the last status of a check says that it
succeeded or failed, unless it was posted by a launch or a start whose job had its end
ignored; then it is pending. -/
theorem last_status_closed_or_ignored (h : Reaches protocol window x) (hover : x.isOver = true)
    {url context : String} {i : Nat} {s : CommitStatus}
    (hlast : (x.statusesOf url context).getLast? = some (i, s)) :
    s.state = "success" ∨ s.state = "failure" ∨
      (s.state = "pending" ∧ ∃ v, x.book[i]? = some v ∧
        x.EndIgnored window (v.errand.job i) url context) := by
  obtain ⟨before, n, after, hnotes, rfl, hn, hafter⟩ := exists_last_note hlast
  obtain ⟨hp, hcontext⟩ := Call.statusFor?_eq_some_iff.1 hn
  have hmem : n ∈ x.notes := by
    rw [hnotes]
    exact List.mem_append_right _ List.mem_cons_self
  obtain ⟨v, hv⟩ : ∃ v, x.book[n.visit]? = some v :=
    ⟨_, List.getElem?_eq_getElem (h.visit_lt hmem)⟩
  obtain ⟨hurl, rfl⟩ := Prod.mk.inj (h.status_of_note hmem hv hp)
  cases hend : v.errand.finish? with
  | some f =>
    have hreport : v.errand = .report f.1 (.finished f.2) := Errand.finish?_eq_some_iff.1 hend
    rw [hreport]
    rcases f.2.status.conclusion.posted_state with hsuccess | hfailure
    · exact .inl hsuccess
    · exact .inr (.inl hfailure)
  | none =>
    refine .inr (.inr ⟨Errand.posted_state_of_finish?_eq_none hend, v, hv, ?_⟩)
    obtain ⟨u, hu, hlaunch, huUrl, huName⟩ := h.orderly.launched n.visit v hv
    obtain ⟨j, w, r, hw, hr⟩ := (over_of_isOver hover hu).2 hlaunch
    -- the end of the job is reported on the check of its launch
    obtain ⟨u', hu', -, hwUrl, hwName⟩ := h.orderly.launched j w hw
    rw [hr] at hu' hwUrl hwName
    obtain rfl : u = u' := Option.some.inj (hu.symm.trans hu')
    have hrUrl : r.checkUrl = url := by
      rw [← hurl, ← huUrl, hwUrl]
      rfl
    have hname : v.errand.checkName = context := hcontext
    have hrName : r.checkName = context := by
      rw [← hname, ← huName, hwName]
      rfl
    have htaken : w.taken = false := by
      refine h.taken_eq_false_of_last hover hnotes hv hend hp hw hr ?_
      rw [hrUrl, hrName]
      exact hafter
    rw [← hrUrl, ← hrName]
    exact h.endIgnored hw hr htaken

/-! ## One project, launched once and launched twice -/

/-- The launch of the project whose job fails. -/
def infraLaunch : Errand :=
  .launch
    { server := { port := 50000 }
      github := { token := "secret" }
      scheduler := { url := "http://scheduler", namespaceName := "jobs" } }
    { repo := .ofFullName "acme/infra"
      source := .ofFullName "acme/infra"
      headRef := "main"
      sha := "abc"
      commentsUrl := failedJob.commentsUrl }
    .plot
    { dir := "infra"
      workspace := "staging"
      workflowName := "tf"
      workflow := { adapter := ⟨.terraform, { version := some "1.0.0" }⟩ } }

/-- The project is launched as errand `i`, and its job starts and fails. -/
def untilEnd (i : Nat) : List Event :=
  [.come infraLaunch, .answer i Call.granted, .answer i Call.granted,
    .come (.report i (.started ⟨failedJob.checkUrl, failedJob.checkName⟩)),
    .answer (i + 1) Call.granted, .come (.report i (.finished failedJob))]

/-- The end of the job is posted and told. -/
def closing (i : Nat) : List Event :=
  [.answer (i + 2) Call.granted, .answer (i + 2) Call.granted]

/-- One launch leaves its check closed. -/
theorem last_status_closed_of_one_launch :
    ∃ x s, Reaches protocol 30000 x ∧ x.isOver = true ∧
      (x.statusesOf failedJob.checkUrl failedJob.checkName).getLast? = some (2, s) ∧
      (s.state = "success" ∨ s.state = "failure") := by
  have hrun : (run? protocol (opening 30000) (untilEnd 0 ++ closing 0)).map
      (fun x => (x.isOver, (x.statusesOf failedJob.checkUrl failedJob.checkName).getLast?)) =
      some (true, some (2, Check.statusOf failedJob.checkName .failed none)) := by decide +kernel
  obtain ⟨x, hx, hlast⟩ := Option.map_eq_some_iff.1 hrun
  obtain ⟨hover, hlast⟩ := Prod.mk.inj hlast
  have hreaches : Reaches protocol 30000 x := Reaches.opening.run? hx
  refine ⟨x, _, hreaches, hover, hlast, ?_⟩
  rcases last_status_closed_or_ignored hreaches hover hlast with h | h | ⟨h, -⟩
  · exact .inl h
  · exact .inr h
  · exact absurd h (by decide)

/-- Two launches in a row on the same commit leave the check pending: the end of the
second job comes while the mark that the first one made lasts. -/
theorem left_pending_by_second_launch :
    ∃ x, Reaches protocol 30000 x ∧ x.isOver = true ∧
      (x.statusesOf failedJob.checkUrl failedJob.checkName).getLast? =
        some (4, ⟨"pending", "Turnip is running", failedJob.checkName⟩) := by
  have hrun : (run? protocol (opening 30000) (untilEnd 0 ++ closing 0 ++ untilEnd 3)).map
      (fun x => (x.isOver, (x.statusesOf failedJob.checkUrl failedJob.checkName).getLast?)) =
      some (true, some (4, ⟨"pending", "Turnip is running", failedJob.checkName⟩)) := by
    decide +kernel
  obtain ⟨x, hx, hlast⟩ := Option.map_eq_some_iff.1 hrun
  obtain ⟨hover, hlast⟩ := Prod.mk.inj hlast
  exact ⟨x, Reaches.opening.run? hx, hover, hlast⟩

end Traffic

end Groundwork
