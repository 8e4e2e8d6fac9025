/-
What becomes of a project that is launched. It comes to one of three ends, and `Fate`
tells each with the exchanges that lead to it: the check could not be queued, and
nothing is dispatched; or the job was dispatched; or it was not, and the check that was
queued for it is failed. `yields_project_iff` says that these are all the ends.

A record that could not be made would be as one that cannot be dispatched
(`yields_settle_error_iff`).
-/
import Groundwork.Launch
import Groundwork.Proofs.Program.Exchange

set_option autoImplicit false

namespace Groundwork

open Groundwork.Service (Call Talk)

/-- A call to a service, and what it was answered. -/
abbrev Service.Exchange : Type := Groundwork.Exchange Call Call.Reply

/-- The record of the job that a call is to dispatch. -/
def Service.Call.job? : Call → Option Job
  | .dispatch job => some job
  | _ => none

theorem Job.checkUrl?_ofOrder (o : Job.Order) (s : Settings.Scheduler) (server : String) :
    (Job.ofOrder o s server).checkUrl? = some o.checkUrl := by
  cases h : o.moreArgs <;> simp [Job.ofOrder, Job.checkUrl?, Job.Order.env, Table.ofList, h]

theorem Job.checkName?_ofOrder (o : Job.Order) (s : Settings.Scheduler) (server : String) :
    (Job.ofOrder o s server).checkName? = some o.checkName := by
  cases h : o.moreArgs <;> simp [Job.ofOrder, Job.checkName?, Job.Order.env, Table.ofList, h]

/-! ## Checks -/

namespace Check

/-- A check is created with one status, and there is none if that fails. -/
theorem yields_create_iff {repo : Repository} {sha context : String} {log : List Service.Exchange}
    {r : Except Failure Run} :
    (create repo sha context).run.Yields log r ↔ ∃ reply : Except Failure Unit,
      log = [⟨.createStatus (repo.statusUrl sha) (statusOf context .queued none), reply⟩] ∧
      r = (reply.map fun _ => ⟨repo.statusUrl sha, context, sha, .queued⟩).mapError
        (·.within ("Failed to create check run " ++ context)) := by
  unfold create post Service.ask
  rw [Attempt.yields_bind_iff]
  simp only [Attempt.yields_within_iff, Attempt.yields_ask_iff, Attempt.yields_pure_iff]
  constructor
  · rintro (⟨e, rfl, reply, he, rfl⟩ | ⟨u, first, second, rfl, ⟨reply, hu, rfl⟩, rfl, rfl⟩)
    · cases reply with
      | ok u => cases he
      | error f =>
        cases he
        exact ⟨.error f, rfl, rfl⟩
    · cases reply with
      | ok u => exact ⟨.ok (), rfl, rfl⟩
      | error f => cases hu
  · rintro ⟨reply, rfl, rfl⟩
    cases reply with
    | ok u => exact .inr ⟨(), _, [], rfl, ⟨.ok (), rfl, rfl⟩, rfl, rfl⟩
    | error f => exact .inl ⟨_, rfl, .error f, rfl, rfl⟩

/-- A check that is not over is failed with one status. -/
theorem Run.yields_fail_iff {run : Run} {description : String} (h : run.state.isTerminal = false)
    {log : List Service.Exchange} {r : Except Failure Run} :
    (run.fail description).run.Yields log r ↔ ∃ reply : Except Failure Unit,
      log = [⟨.createStatus run.url (statusOf run.context .failed (some description)), reply⟩] ∧
      r = reply.map fun _ => { run with state := .failed } := by
  have hfails : run.state.canBecome .failed = true := by rw [State.canBecome_failed, h]; rfl
  unfold Run.fail post Service.ask
  rw [if_pos hfails, Attempt.yields_bind_iff]
  simp only [Attempt.yields_ask_iff, Attempt.yields_pure_iff]
  constructor
  · rintro (⟨e, rfl, rfl⟩ | ⟨u, first, second, rfl, rfl, rfl, rfl⟩)
    · exact ⟨.error e, rfl, rfl⟩
    · exact ⟨.ok u, rfl, rfl⟩
  · rintro ⟨reply, rfl, rfl⟩
    cases reply with
    | ok u => exact .inr ⟨u, _, [], rfl, rfl, rfl, rfl⟩
    | error f => exact .inl ⟨f, rfl, rfl⟩

end Check

namespace Launch

/-- The check of a project whose job is launched. -/
def check (t : Target) (c : Command) (p : Project) : Check.Run :=
  ⟨t.repo.statusUrl t.sha, p.checkContext c, t.sha, .queued⟩

/-- The record of the job of a project. -/
def job (s : Settings) (t : Target) (c : Command) (p : Project) : Job :=
  Job.ofOrder (order t c p (check t c p)) s.scheduler s.server.name

/-- The status that queues the check of a project, word by word. -/
def queueCall (t : Target) (c : Command) (p : Project) : Call :=
  .createStatus (t.repo.statusUrl t.sha)
    { state := "pending", description := "Queued", context := p.checkContext c }

/-- The status that fails the check of a project whose job cannot be dispatched. -/
def failCall (t : Target) (c : Command) (p : Project) : Call :=
  .createStatus (t.repo.statusUrl t.sha)
    { state := "failure", description := "Failed to dispatch job", context := p.checkContext c }

/-- These are the statuses of a check that is queued, with the usual description, and of one
that failed, with another. -/
theorem posted_statuses (context : String) :
    Check.statusOf context .queued none =
        { state := "pending", description := "Queued", context } ∧
      Check.statusOf context .failed (some dispatchFailedText) =
        { state := "failure", description := "Failed to dispatch job", context } :=
  ⟨rfl, rfl⟩

/-! ## The ends of one project -/

/-- What becomes of a project, with the exchanges that lead to it. -/
inductive Fate (s : Settings) (t : Target) (c : Command) (p : Project) :
    List Service.Exchange → Outcome → Prop
  /-- The check could not be queued, and that is all. -/
  | unchecked (failure : Failure) :
    Fate s t c p [⟨queueCall t c p, .error failure⟩]
      (.checkFailed (p.checkContext c)
        (failure.within ("Failed to create check run " ++ p.checkContext c)))
  /-- The check was queued, and the job was dispatched. -/
  | dispatched (name : String) :
    Fate s t c p [⟨queueCall t c p, .ok ()⟩, ⟨.dispatch (job s t c p), .ok name⟩]
      (.dispatched (check t c p) name)
  /-- The check was queued, and the job could not be dispatched; so the check is to fail, and
  it is held for failed if that could be posted. -/
  | undispatched (failure : Failure) (reply : Except Failure Unit) :
    Fate s t c p
      [⟨queueCall t c p, .ok ()⟩, ⟨.dispatch (job s t c p), .error failure⟩,
        ⟨failCall t c p, reply⟩]
      (.dispatchFailed { check t c p with state := if reply.isOk then .failed else .queued } failure)

variable {s : Settings} {t : Target} {c : Command} {p : Project} {log : List Service.Exchange}
  {o : Outcome}

/-- A check whose job is not dispatched is to fail, whatever the reason. -/
theorem yields_settle_iff {record : Except Failure Job} :
    (settle (check t c p) record).Yields log o ↔
      ∃ first sent, (submit record).Yields first sent ∧
        ((∃ name, sent = .ok name ∧ log = first ∧ o = .dispatched (check t c p) name) ∨
        ∃ failure, ∃ reply : Except Failure Unit, sent = .error failure ∧
          log = first ++ [⟨failCall t c p, reply⟩] ∧
          o = .dispatchFailed { check t c p with state := if reply.isOk then .failed else .queued }
            failure) := by
  have hfail (r : Except Failure Check.Run) (first : List Service.Exchange) :
      ((check t c p).fail dispatchFailedText).outcome.Yields first r ↔
        ∃ reply : Except Failure Unit, first = [⟨failCall t c p, reply⟩] ∧
          r = reply.map fun _ => { check t c p with state := .failed } := by
    unfold failCall
    rw [← (posted_statuses _).2]
    exact Check.Run.yields_fail_iff rfl
  unfold settle
  rw [Program.bind_eq, Program.yields_bind_iff]
  constructor
  · rintro ⟨sent, first, second, rfl, hfirst, hsecond⟩
    refine ⟨first, sent, hfirst, ?_⟩
    cases sent with
    | ok name =>
      obtain ⟨rfl, rfl⟩ := Program.yields_done_iff.1 hsecond
      exact .inl ⟨name, rfl, List.append_nil _, rfl⟩
    | error failure =>
      obtain ⟨failed, second, last, rfl, hsecond, hlast⟩ := Program.yields_bind_iff.1 hsecond
      obtain ⟨reply, rfl, rfl⟩ := (hfail failed second).1 hsecond
      cases reply with
      | ok u =>
        obtain ⟨rfl, rfl⟩ := Program.yields_done_iff.1 hlast
        exact .inr ⟨failure, .ok (), rfl, rfl, rfl⟩
      | error f =>
        obtain ⟨rfl, rfl⟩ := Program.yields_done_iff.1 hlast
        exact .inr ⟨failure, .error f, rfl, rfl, rfl⟩
  · rintro ⟨first, sent, hfirst, ⟨name, rfl, rfl, rfl⟩ | ⟨failure, reply, rfl, rfl, rfl⟩⟩
    · exact ⟨.ok name, _, [], (List.append_nil _).symm, hfirst, rfl⟩
    · refine ⟨.error failure, first, [⟨failCall t c p, reply⟩], rfl, hfirst,
        Program.yields_bind_iff.2 ⟨_, [⟨failCall t c p, reply⟩], [], rfl,
          (hfail _ _).2 ⟨reply, rfl, rfl⟩, ?_⟩⟩
      cases reply with
      | ok u => exact rfl
      | error f => exact rfl

theorem yields_dispatch_iff :
    (dispatch s t c p (check t c p)).Yields log o ↔
      (∃ name, log = [⟨.dispatch (job s t c p), .ok name⟩] ∧ o = .dispatched (check t c p) name) ∨
      ∃ failure, ∃ reply : Except Failure Unit,
        log = [⟨.dispatch (job s t c p), .error failure⟩, ⟨failCall t c p, reply⟩] ∧
        o = .dispatchFailed { check t c p with state := if reply.isOk then .failed else .queued }
          failure := by
  have hask (first : List Service.Exchange) (sent : Except Failure String) :
      (submit (.ok (job s t c p))).Yields first sent ↔
        first = [⟨.dispatch (job s t c p), sent⟩] := Attempt.yields_ask_iff
  show (settle (check t c p) (.ok (job s t c p))).Yields log o ↔ _
  rw [yields_settle_iff]
  constructor
  · rintro ⟨first, sent, hfirst, ⟨name, rfl, rfl, rfl⟩ | ⟨failure, reply, rfl, rfl, rfl⟩⟩
    · exact .inl ⟨name, (hask _ _).1 hfirst, rfl⟩
    · exact .inr ⟨failure, reply, by rw [(hask _ _).1 hfirst]; rfl, rfl⟩
  · rintro (⟨name, rfl, rfl⟩ | ⟨failure, reply, rfl, rfl⟩)
    · exact ⟨_, .ok name, (hask _ _).2 rfl, .inl ⟨name, rfl, rfl, rfl⟩⟩
    · exact ⟨_, .error failure, (hask _ _).2 rfl, .inr ⟨failure, reply, rfl, rfl, rfl⟩⟩

/-- A record that cannot be made is as one that cannot be dispatched, without the dispatch. -/
theorem yields_settle_error_iff {failure : Failure} :
    (settle (check t c p) (.error failure)).Yields log o ↔ ∃ reply : Except Failure Unit,
      log = [⟨failCall t c p, reply⟩] ∧
      o = .dispatchFailed { check t c p with state := if reply.isOk then .failed else .queued }
        failure := by
  rw [yields_settle_iff]
  constructor
  · rintro ⟨first, sent, hfirst, h⟩
    obtain ⟨rfl, rfl⟩ := Program.yields_done_iff.1 hfirst
    rcases h with ⟨name, hsent, -⟩ | ⟨_, reply, hsent, rfl, rfl⟩
    · cases hsent
    · cases hsent
      exact ⟨reply, rfl, rfl⟩
  · rintro ⟨reply, rfl, rfl⟩
    exact ⟨[], .error failure, rfl, .inr ⟨failure, reply, rfl, rfl, rfl⟩⟩

/-- The ends that a launch comes to are these, and no others. -/
theorem yields_project_iff : (project s t c p).Yields log o ↔ Fate s t c p log o := by
  have hcreate (r : Except Failure Check.Run) (first : List Service.Exchange) :
      (Check.create t.repo t.sha (p.checkContext c)).outcome.Yields first r ↔
        ∃ reply : Except Failure Unit, first = [⟨queueCall t c p, reply⟩] ∧
          r = (reply.map fun _ => check t c p).mapError
            (·.within ("Failed to create check run " ++ p.checkContext c)) := by
    unfold queueCall
    rw [← (posted_statuses _).1]
    exact Check.yields_create_iff
  unfold project
  rw [Program.bind_eq, Program.yields_bind_iff]
  constructor
  · rintro ⟨r, first, second, rfl, hfirst, hsecond⟩
    obtain ⟨reply, rfl, rfl⟩ := (hcreate r first).1 hfirst
    cases reply with
    | error failure =>
      obtain ⟨rfl, rfl⟩ := Program.yields_done_iff.1 hsecond
      exact .unchecked failure
    | ok u =>
      rcases yields_dispatch_iff.1 hsecond with ⟨name, rfl, rfl⟩ | ⟨failure, reply, rfl, rfl⟩
      · exact .dispatched name
      · exact .undispatched failure reply
  · rintro (failure | name | ⟨failure, reply⟩)
    · exact ⟨_, _, [], rfl, (hcreate _ _).2 ⟨.error failure, rfl, rfl⟩, rfl⟩
    · exact ⟨_, [⟨queueCall t c p, .ok ()⟩], _, rfl, (hcreate _ _).2 ⟨.ok (), rfl, rfl⟩,
        yields_dispatch_iff.2 (.inl ⟨name, rfl, rfl⟩)⟩
    · exact ⟨_, [⟨queueCall t c p, .ok ()⟩], _, rfl, (hcreate _ _).2 ⟨.ok (), rfl, rfl⟩,
        yields_dispatch_iff.2 (.inr ⟨failure, reply, rfl, rfl⟩)⟩

/-- Whatever becomes of a project, it is told under the name of its check. -/
theorem Fate.context (h : Fate s t c p log o) : o.context = p.checkContext c := by
  cases h with
  | unchecked => rfl
  | dispatched => rfl
  | undispatched => rfl

/-- The calls of a launch: two statuses that it may post, and the job that it may dispatch. -/
theorem Fate.call_cases (h : Fate s t c p log o) {e : Service.Exchange} (he : e ∈ log) :
    e.call = queueCall t c p ∨ e.call = .dispatch (job s t c p) ∨ e.call = failCall t c p := by
  cases h with
  | unchecked failure =>
    obtain rfl := List.mem_singleton.1 he
    exact .inl rfl
  | dispatched name =>
    simp only [List.mem_cons, List.not_mem_nil, or_false] at he
    rcases he with rfl | rfl
    · exact .inl rfl
    · exact .inr (.inl rfl)
  | undispatched failure reply =>
    simp only [List.mem_cons, List.not_mem_nil, or_false] at he
    rcases he with rfl | rfl | rfl
    · exact .inl rfl
    · exact .inr (.inl rfl)
    · exact .inr (.inr rfl)

/-- The jobs that a launch asks for: that of the project, or none. -/
theorem Fate.jobs (h : Fate s t c p log o) :
    log.filterMap (·.call.job?) = [] ∨ log.filterMap (·.call.job?) = [job s t c p] := by
  cases h with
  | unchecked failure => exact .inl rfl
  | dispatched name => exact .inr rfl
  | undispatched failure reply => exact .inr rfl

/-! ## What is said about projects that have no job -/

/-- A line among others is in the text of them all. -/
theorem infix_intercalate {line : String} {lines : List String} (h : line ∈ lines) (sep : String) :
    line.toList <:+: (String.intercalate sep lines).toList := by
  induction lines with
  | nil => cases h
  | cons first lines ih =>
    by_cases hlines : lines = []
    · subst hlines
      obtain rfl := List.mem_singleton.1 h
      rw [String.intercalate_singleton]
    · rw [String.intercalate_cons_of_ne_nil hlines, String.toList_append, String.toList_append]
      rcases List.mem_cons.1 h with rfl | h
      · rw [List.append_assoc]
        exact (List.prefix_append _ _).isInfix
      · exact (ih h).trans (List.suffix_append _ _).isInfix

/-- There is something to say about a project that has no job, and its check is named. -/
theorem exists_complaint (h : o.isDispatched = false) :
    ∃ text, o.complaint? = some text ∧ text ≠ "" ∧ o.context.toList <:+: text.toList := by
  have hnamed (before name colon after : String) :
      name.toList <:+: (before ++ name ++ colon ++ after).toList := by
    rw [String.append_assoc, String.toList_append, String.toList_append]
    exact List.infix_append _ _ _
  cases o with
  | dispatched check name => cases h
  | checkFailed context failure => exact ⟨_, rfl, by simp, hnamed _ _ _ _⟩
  | dispatchFailed check failure =>
    exact ⟨_, rfl, by simp [dispatchFailedText], hnamed (dispatchFailedText ++ " for ") _ _ _⟩

/-- Every project that has no job is named in the summary. -/
theorem context_infix_failureSummary {outcomes : List Outcome} (ho : o ∈ outcomes)
    (h : o.isDispatched = false) : o.context.toList <:+: (failureSummary outcomes).toList := by
  obtain ⟨text, htext, -, hnamed⟩ := exists_complaint h
  exact hnamed.trans (infix_intercalate (List.mem_filterMap.2 ⟨o, ho, htext⟩) _)

/-- There is nothing to say exactly if every project has its job. -/
theorem failureSummary_eq_empty_iff {outcomes : List Outcome} :
    failureSummary outcomes = "" ↔ ∀ o ∈ outcomes, o.isDispatched = true := by
  constructor
  · intro hempty o ho
    by_contra hnot
    obtain ⟨text, htext, hne, -⟩ := exists_complaint (Bool.not_eq_true _ ▸ hnot)
    have hin := infix_intercalate (List.mem_filterMap.2 ⟨o, ho, htext⟩) "\n"
    rw [show String.intercalate "\n" (outcomes.filterMap Outcome.complaint?) = "" from hempty] at hin
    exact hne (String.toList_eq_nil_iff.1 (List.infix_nil.1 hin))
  · intro hall
    have hnone : outcomes.filterMap Outcome.complaint? = [] := by
      refine List.filterMap_eq_nil_iff.2 fun o ho => ?_
      have hdispatched := hall o ho
      cases o with
      | dispatched => rfl
      | checkFailed => cases hdispatched
      | dispatchFailed => cases hdispatched
    rw [failureSummary, hnone]
    rfl

end Launch

end Groundwork
