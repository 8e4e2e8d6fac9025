/-
Jobs that keep to their protocol. A job is there once the launch asked for it. It then
reports that it started, and when that was answered and the job is over it reports so;
both reports bear the check that the record of the job names. `protocol` allows what
can happen then if every call succeeds and nothing is broken off.

Launches and reports alike post one status each, on one check (`statuses_calls`). So
what an errand posted so far is nothing or that status (`Reaches.posted_prefix`), and
the check of a job that reports is the one that its launch posted as queued
(`Reaches.launched_of_knows`).
-/
import Groundwork.Proofs.Launch.Fate
import Groundwork.Proofs.Traffic.Marks

set_option autoImplicit false

namespace Groundwork

open Groundwork.Service (Call Talk)
open Groundwork.Program (Recites)

/-! ## The calls of a launch -/

/-- What is expected of calls that succeed. -/
def Service.Call.Succeeds (c : Call) (r : c.Reply) : Prop :=
  r.isOk = true

namespace Launch

/-- The calls of a launch that goes well: the check is queued, and the job dispatched. -/
def calls (s : Settings) (t : Target) (c : Command) (p : Project) : List Call :=
  [.createStatus (check t c p).url (Check.statusOf (check t c p).context .queued none),
    .dispatch (job s t c p)]

theorem project_recites (s : Settings) (t : Target) (c : Command) (p : Project) :
    Recites Call.Succeeds (calls s t c p) ((project s t c p).bind fun _ => .done ()) := by
  refine ⟨_, rfl, fun r hr => ?_⟩
  cases r with
  | error failure => cases hr
  | ok =>
    refine ⟨_, rfl, fun r hr => ?_⟩
    cases r with
    | error failure => cases hr
    | ok name => exact Program.recites_done ()

end Launch

/-! ## The one status of an errand -/

namespace Errand

/-- The calls of an errand that goes well. -/
def calls : Errand → List Call
  | launch s t c p => Launch.calls s t c p
  | report _ n => n.calls

/-- Where the statuses of an errand's check are posted. -/
def checkUrl : Errand → String
  | launch _ t c p => (Launch.check t c p).url
  | report _ n => n.checkUrl

/-- The name of an errand's check. -/
def checkName : Errand → String
  | launch _ t c p => (Launch.check t c p).context
  | report _ n => n.checkName

/-- Where the check stands by an errand. -/
def state : Errand → Check.State
  | launch .. => .queued
  | report _ n => n.state

/-- The status that an errand posts, and where. -/
def status (e : Errand) : String × CommitStatus :=
  (e.checkUrl, Check.statusOf e.checkName e.state none)

theorem work_recites (e : Errand) : Recites Call.Succeeds e.calls e.work := by
  cases e with
  | launch s t c p => exact Launch.project_recites s t c p
  | report job n => exact n.work_recites

/-- An errand that goes well posts its status, and no other. -/
theorem statuses_calls (e : Errand) : e.calls.filterMap Call.status? = [e.status] := by
  cases e with
  | launch s t c p => rfl
  | report job n => exact n.statuses_calls

/-- The number of the job that an errand is about; `i` is that of the errand itself. -/
def job (i : Nat) : Errand → Nat
  | launch .. => i
  | report job _ => job

/-- Whether an errand is a report of a job, of some kind. -/
def isReportOf (job : Nat) (kind : Report.Notice → Bool) : Errand → Bool
  | launch .. => false
  | report j n => j == job && kind n

theorem isReportOf_iff {job : Nat} {kind : Report.Notice → Bool} {e : Errand} :
    e.isReportOf job kind = true ↔ ∃ n, e = .report job n ∧ kind n = true := by
  cases e with
  | launch => simp [isReportOf]
  | report j n =>
    simp only [isReportOf, Bool.and_eq_true, beq_iff_eq, report.injEq]
    constructor
    · rintro ⟨rfl, hkind⟩
      exact ⟨n, ⟨rfl, rfl⟩, hkind⟩
    · rintro ⟨m, ⟨rfl, rfl⟩, hkind⟩
      exact ⟨rfl, hkind⟩

end Errand

/-- The calls of an errand that came, if all goes well. -/
def Visit.calls (v : Visit) : List Call :=
  if v.taken then v.errand.calls else []

theorem Visit.work_recites (v : Visit) : Recites Call.Succeeds v.calls v.work := by
  unfold Visit.calls Visit.work
  split
  · exact v.errand.work_recites
  · exact Program.recites_done ()

/-- The call that a program waits to be answered. -/
def Program.pending {C : Type} {R : C → Type} {α : Type} : Program C R α → List C
  | done _ => []
  | call c _ => [c]

theorem Program.Recites.pending_prefix {C : Type} {R : C → Type} {α : Type}
    {expected : (c : C) → R c → Prop} {cs : List C} {p : Program C R α}
    (h : Recites expected cs p) : p.pending <+: cs := by
  cases p with
  | done a => exact List.nil_prefix
  | call c next =>
    obtain ⟨rest, rfl, -⟩ := h.step
    exact ⟨rest, rfl⟩

namespace Traffic

/-! ## What may happen -/

/-- The reports of a job, of some kind, that came so far. -/
def reportsOf (x : Traffic) (job : Nat) (kind : Report.Notice → Bool) : List Nat :=
  (List.range x.book.length).filter fun i =>
    x.book[i]?.any fun v => v.errand.isReportOf job kind

theorem mem_reportsOf {x : Traffic} {job : Nat} {kind : Report.Notice → Bool} {i : Nat} :
    i ∈ x.reportsOf job kind ↔
      ∃ v n, x.book[i]? = some v ∧ v.errand = .report job n ∧ kind n = true := by
  unfold reportsOf
  rw [List.mem_filter, List.mem_range, Option.any_eq_true]
  constructor
  · rintro ⟨-, v, hv, hreport⟩
    obtain ⟨n, hn, hkind⟩ := Errand.isReportOf_iff.1 hreport
    exact ⟨v, n, hv, hn, hkind⟩
  · rintro ⟨v, n, hv, hn, hkind⟩
    exact ⟨lt_length_of_book hv, v, hv, Errand.isReportOf_iff.2 ⟨n, hn, hkind⟩⟩

/-- The calls that an errand made so far, that which waits for its answer included. -/
def made (x : Traffic) (i : Nat) : List Call :=
  x.callsOf i ++ (x.rest i).pending

/-- Whether a call dispatches a job whose record names a check. -/
def isDispatchFor (url name : String) : Call → Bool
  | .dispatch j => j.checkUrl? == some url && j.checkName? == some name
  | _ => false

/-- Whether a launch asked for its job, and the record of the job names a check. -/
def knows (x : Traffic) (job : Nat) (url name : String) : Bool :=
  (x.made job).any (isDispatchFor url name)

/-- What may happen if every call succeeds, nothing is broken off, and jobs report as
they should: a job that was asked for reports first that it started, and once that was
answered it reports how it ended, each time with the check that its record names. -/
def protocol (x : Traffic) : Event → Bool
  | .pass _ => true
  | .come (.launch ..) => true
  | .come (.report job (.started r)) =>
    x.knows job r.checkUrl r.checkName && (x.reportsOf job fun _ => true).isEmpty
  | .come (.report job (.finished r)) =>
    x.knows job r.checkUrl r.checkName && !(x.reportsOf job (·.isStarted)).isEmpty &&
      (x.reportsOf job (·.isStarted)).all (fun i => (x.rest i).isDone) &&
      (x.reportsOf job (·.isFinished)).isEmpty
  | .answer i reply =>
    match x.rest i with
    | .done _ => false
    | .call c _ => (reply c).isOk
  | .breakOff _ => false

/-- Whether all is over: there is nothing left to do about any errand, and every job
reported that it ended. -/
def isOver (x : Traffic) : Bool :=
  (List.range x.book.length).all fun i => (x.rest i).isDone &&
    (x.book[i]?.all fun v => !v.errand.isLaunch || !(x.reportsOf i (·.isFinished)).isEmpty)

theorem protocol_answer {x : Traffic} {i : Nat} {reply : (c : Call) → c.Reply} {c : Call}
    {next : c.Reply → Talk Unit} (h : protocol x (.answer i reply) = true)
    (hrest : x.rest i = .call c next) : c.Succeeds (reply c) := by
  simp only [protocol, hrest] at h
  exact h

theorem undisturbed_of_protocol {x : Traffic} {e : Event} (h : protocol x e = true) :
    undisturbed x e = true := by
  cases e with
  | breakOff i => cases h
  | pass | come | answer => rfl

/-! ## What an errand posted so far -/

/-- The statuses that an errand posted so far, and where. -/
def posted (x : Traffic) (i : Nat) : List (String × CommitStatus) :=
  (x.callsOf i).filterMap Call.status?

variable {window : Nat} {x : Traffic} {i : Nat} {v : Visit}

theorem Reaches.notMem_broken (h : Reaches protocol window x) (i : Nat) : i ∉ x.broken := by
  rw [h.broken_eq_nil fun _ _ => rfl]
  exact List.not_mem_nil

theorem Reaches.calls_spec (h : Reaches protocol window x) (hv : x.book[i]? = some v) :
    x.callsOf i <+: v.calls ∧ ((x.rest i).isDone = true ↔ x.callsOf i = v.calls) :=
  h.callsOf_spec (fun _ _ _ _ _ => protocol_answer) hv (h.notMem_broken i) v.work_recites

/-- What an errand posted so far is nothing or its status. -/
theorem Reaches.posted_prefix (h : Reaches protocol window x) (hv : x.book[i]? = some v) :
    x.posted i <+: [v.errand.status] := by
  have hprefix := ((h.calls_spec hv).1).filterMap Call.status?
  unfold Visit.calls at hprefix
  split at hprefix
  · rw [v.errand.statuses_calls] at hprefix
    exact hprefix
  · unfold posted
    rw [List.prefix_nil.1 hprefix]
    exact List.nil_prefix

/-- An errand that was taken and is done with posted its status. -/
theorem Reaches.posted_of_isDone (h : Reaches protocol window x) (hv : x.book[i]? = some v)
    (htaken : v.taken = true) (hdone : (x.rest i).isDone = true) :
    x.posted i = [v.errand.status] := by
  unfold posted
  rw [(h.calls_spec hv).2.1 hdone, Visit.calls, if_pos htaken, v.errand.statuses_calls]

theorem Reaches.made_prefix (h : Reaches protocol window x) (hv : x.book[i]? = some v) :
    x.made i <+: v.calls := by
  obtain ⟨left, hleft, hall⟩ := h.callsOf_append_left (fun _ _ _ _ _ => protocol_answer) hv
    (h.notMem_broken i) v.work_recites
  rw [← hall]
  exact List.prefix_append_right_inj _ |>.2 hleft.pending_prefix

/-! ## The launch of a job that reports -/

/-- A launch dispatches a job whose record names the check of the launch. -/
theorem check_of_any_isDispatchFor {s : Settings} {t : Launch.Target} {c : Command} {p : Project}
    {url name : String} (h : (Launch.calls s t c p).any (isDispatchFor url name) = true) :
    (Launch.check t c p).url = url ∧ (Launch.check t c p).context = name := by
  have hnames : (Launch.job s t c p).checkUrl? = some url ∧
      (Launch.job s t c p).checkName? = some name := by
    simpa [Launch.calls, isDispatchFor] using h
  rw [Launch.job, Job.checkUrl?_ofOrder, Job.checkName?_ofOrder] at hnames
  exact ⟨Option.some.inj hnames.1, Option.some.inj hnames.2⟩

/-- Reports dispatch nothing. -/
theorem any_isDispatchFor_calls (n : Report.Notice) (url name : String) :
    n.calls.any (isDispatchFor url name) = false := by
  cases n with
  | started r => rfl
  | finished r =>
    simp only [Report.Notice.calls, Report.Finished.calls, List.any_cons, isDispatchFor,
      Bool.false_or]
    split
    · rfl
    · rfl

/-- An errand that made a call is in the book. -/
theorem Reaches.exists_visit (h : Reaches protocol window x) {d : Call} (hd : d ∈ x.made i) :
    ∃ v, x.book[i]? = some v := by
  by_contra hnone
  have hlen : x.book.length ≤ i :=
    List.getElem?_eq_none_iff.1 (Option.eq_none_iff_forall_not_mem.2 fun v hv => hnone ⟨v, hv⟩)
  rw [made, (h.not_come hlen).1, (h.not_come hlen).2] at hd
  cases hd

/-- An errand whose first call posts a status posted it before it made any other call. -/
theorem Reaches.posted_ne_nil (h : Reaches protocol window x) (hv : x.book[i]? = some v)
    {first : Call} {others : List Call} (hcalls : v.calls = first :: others)
    (hfirst : first.status?.isSome = true) {d : Call} (hd : d ∈ x.made i)
    (hne : d.status? = none) : x.posted i ≠ [] := by
  intro hnone
  have hmade := h.made_prefix hv
  have hprefix := (h.calls_spec hv).1
  rw [hcalls] at hmade hprefix
  cases hc : x.callsOf i with
  | cons c cs =>
    rw [hc] at hprefix
    obtain ⟨rfl, -⟩ := List.cons_prefix_cons.1 hprefix
    rw [posted, hc, List.filterMap_eq_nil_iff] at hnone
    rw [hnone c List.mem_cons_self] at hfirst
    cases hfirst
  | nil =>
    -- so nothing was answered, and the one call it made is the first
    rw [made, hc, List.nil_append] at hd hmade
    cases hrest : x.rest i with
    | done a =>
      rw [hrest] at hd
      cases hd
    | call c next =>
      rw [hrest] at hd hmade
      obtain ⟨rfl, -⟩ := List.cons_prefix_cons.1 hmade
      rw [← List.mem_singleton.1 hd, hne] at hfirst
      cases hfirst

/-- A job that knows its check was launched for this check, which is queued by then. -/
theorem Reaches.launched_of_knows (h : Reaches protocol window x) {job : Nat} {url name : String}
    (hknows : x.knows job url name = true) :
    ∃ u, x.book[job]? = some u ∧ u.errand.isLaunch = true ∧ u.errand.checkUrl = url ∧
      u.errand.checkName = name ∧ x.posted job ≠ [] := by
  obtain ⟨d, hd, hdispatch⟩ := List.any_eq_true.1 hknows
  obtain ⟨u, hu⟩ := h.exists_visit hd
  have hany : u.calls.any (isDispatchFor url name) = true :=
    List.any_eq_true.2 ⟨d, (h.made_prefix hu).subset hd, hdispatch⟩
  have hne : d.status? = none := by
    cases d with
    | createStatus => cases hdispatch
    | _ => rfl
  obtain ⟨errand, time, taken⟩ := u
  cases taken with
  | false => cases hany
  | true =>
    cases errand with
    | report j n =>
      rw [show (⟨.report j n, time, true⟩ : Visit).calls = n.calls from rfl,
        any_isDispatchFor_calls] at hany
      cases hany
    | launch s t c p =>
      obtain ⟨hurl, hname⟩ := check_of_any_isDispatchFor hany
      exact ⟨_, hu, rfl, hurl, hname, h.posted_ne_nil hu rfl rfl hd hne⟩

end Traffic

end Groundwork
