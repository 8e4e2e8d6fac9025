/-
Requests of programs, from who may make them to what they are answered. A request that
does not carry the token is turned away before anything is asked of the services
(`api_of_not_authorized`). One that does comes to one of two ends (`Bot.Ending`): its job
was dispatched and it is told where the check is, or no job was dispatched and a check that
was queued was to be failed. The work on it has no other ends (`Bot.ending_of_yields`),
and the status of the answer tells the two apart.
-/
import Groundwork.Proofs.Web.BrokenOff

set_option autoImplicit false

namespace Groundwork

open Groundwork.Launch (Fate queued failed dispatchFailedText)
open Groundwork.Service (Call)

/-- The record of the job that was dispatched, if one was. -/
def Service.Exchange.dispatched? : Service.Exchange → Option Job
  | ⟨.dispatch job, .ok _⟩ => some job
  | _ => none

/-! ## How the work ends -/

namespace Service.Exchange

theorem dispatched?_of_isReading {e : Service.Exchange} (h : e.call.isReading = true) :
    e.dispatched? = none := by
  obtain ⟨call, reply⟩ := e
  cases call <;> first | rfl | cases h

theorem job?_of_isReading {e : Service.Exchange} (h : e.call.isReading = true) :
    e.call.job? = none := by
  obtain ⟨call, reply⟩ := e
  cases call <;> first | rfl | cases h

end Service.Exchange

namespace Bot

variable {s : Settings} {command : Command} {request : Api.Request} {log : List Service.Exchange}
  {r : Except Failure CheckAddress}

/-- What was done for a request by the time that its work is over, and what came of it. -/
inductive Ending (log : List Service.Exchange) : Except Failure CheckAddress → Prop
  /-- One job was dispatched. It reports to the check that was queued, and to no other. -/
  | dispatched (address : CheckAddress) (job : Job)
    (jobs : log.filterMap (·.dispatched?) = [job])
    (check : ∀ url context, queued url context ∈ log ↔ ⟨url, context⟩ = address)
    (url : job.checkUrl? = some address.url) (name : job.checkName? = some address.context) :
    Ending log (.ok address)
  /-- No job was dispatched, at most one was asked for, and a check that was queued was to be
  failed. -/
  | refused (failure : Failure)
    (jobs : log.filterMap (·.dispatched?) = [])
    (asked : (log.filterMap (·.call.job?)).length ≤ 1)
    (settled : ∀ url context, queued url context ∈ log →
      (failed url context (some dispatchFailedText)).call ∈ log.map (·.call)) :
    Ending log (.error failure)

theorem queued_not_mem_of_isReading {reading : List Service.Exchange}
    (h : ∀ y ∈ reading, y.call.isReading = true) (url context : String) :
    queued url context ∉ reading := by
  intro hmem
  cases h _ hmem

/-- What is only read first makes no difference to how the work ends. -/
theorem Ending.read_first {reading : List Service.Exchange}
    (hreading : ∀ y ∈ reading, y.call.isReading = true) (h : Ending log r) :
    Ending (reading ++ log) r := by
  have hjobs : (reading ++ log).filterMap (·.dispatched?) = log.filterMap (·.dispatched?) := by
    rw [List.filterMap_append, List.filterMap_eq_nil_iff.2, List.nil_append]
    exact fun e he => Service.Exchange.dispatched?_of_isReading (hreading e he)
  have hasked : (reading ++ log).filterMap (·.call.job?) = log.filterMap (·.call.job?) := by
    rw [List.filterMap_append, List.filterMap_eq_nil_iff.2, List.nil_append]
    exact fun e he => Service.Exchange.job?_of_isReading (hreading e he)
  have hqueued (url context : String) :
      queued url context ∈ reading ++ log ↔ queued url context ∈ log := by
    rw [List.mem_append, or_iff_right (queued_not_mem_of_isReading hreading url context)]
  cases h with
  | dispatched address job jobs check url name =>
    refine .dispatched address job (hjobs.trans jobs) ?_ url name
    intro url context
    rw [hqueued, check]
  | refused failure jobs asked settled =>
    refine .refused failure (hjobs.trans jobs) (by rwa [hasked]) ?_
    intro url context hmem
    rw [List.map_append]
    exact List.mem_append_right _ (settled url context ((hqueued url context).1 hmem))

/-- A queued check among the statuses of a launch is the one of its project. -/
theorem queued_eq_iff {t : Launch.Target} {c : Command} {p : Project} {url context : String} :
    queued url context = ⟨Launch.queueCall t c p, .ok ()⟩ ↔
      url = t.repo.statusUrl t.sha ∧ context = p.checkContext c := by
  constructor
  · intro h
    cases h
    exact ⟨rfl, rfl⟩
  · rintro ⟨rfl, rfl⟩
    rfl

/-- Each end of a launch is an end of the work that it was for. -/
theorem ending_of_fate {t : Launch.Target} {p : Project} {o : Launch.Outcome}
    (h : Fate s t command p log o) : Ending log (addressOf o) := by
  cases h with
  | unchecked failure =>
    refine .refused _ rfl (Nat.zero_le _) ?_
    intro url context hmem
    cases List.mem_singleton.1 hmem
  | dispatched name =>
    refine .dispatched _ (Launch.job s t command p) rfl ?_
      (Job.checkUrl?_ofOrder _ _ _) (Job.checkName?_ofOrder _ _ _)
    intro url context
    have hother : queued url context ≠ ⟨.dispatch (Launch.job s t command p), .ok name⟩ := by
      intro heq
      cases heq
    rw [List.mem_pair, or_iff_left hother, queued_eq_iff, CheckAddress.mk.injEq]
    exact Iff.rfl
  | undispatched failure reply =>
    refine .refused _ rfl (Nat.le_refl 1) ?_
    intro url context hmem
    -- the status that fails the check is for the same check as the one that queued it
    rcases List.mem_cons.1 hmem with heq | hmem
    · obtain ⟨rfl, rfl⟩ := queued_eq_iff.1 heq
      exact List.mem_cons_of_mem _ (List.mem_cons_of_mem _ List.mem_cons_self)
    rcases List.mem_cons.1 hmem with heq | hmem
    · cases heq
    · have hcall := congrArg Exchange.call (List.mem_singleton.1 hmem)
      exact absurd hcall.symm (Launch.failCall_ne_call_queued _ _ _ _ _)

/-- The work on a request has these ends, and no others. -/
theorem ending_of_yields (h : (onRequest s command request).run.Yields log r) : Ending log r := by
  obtain ⟨reading, launch, rfl, hreading, hlaunch⟩ := launch_of_yields_onRequest h
  refine Ending.read_first hreading ?_
  rcases hlaunch with ⟨rfl, failure, rfl⟩ | ⟨t, p, o, hfate, rfl⟩
  · exact .refused failure rfl (Nat.zero_le _) (by simp)
  · exact ending_of_fate hfate

end Bot

/-! ## Who may make a request -/

namespace Web

open Groundwork.Http (Refusal Response)

variable {s : Settings} {r : Request} {command : Command}

/-- A request carries the token of those who may run commands. -/
def Authorized (s : Settings) (r : Request) : Prop :=
  ∃ token given, s.server.apiToken = some token ∧
    r.header? "Authorization" = some ("Bearer " ++ given) ∧ Signature.sameToken token given = true

/-- Why a request is turned away that does not. -/
def refusalOf (s : Settings) : Refusal :=
  if s.server.apiToken = none then .message 501 "API is disabled" else .status 401

theorem tokenOf?_eq_some_iff {given : String} :
    tokenOf? r = some given ↔ r.header? "Authorization" = some ("Bearer " ++ given) := by
  unfold tokenOf?
  simp only [Option.bind_eq_some_iff, Option.map_eq_some_iff,
    Text.dropStart?_eq_some_iff]
  constructor
  · rintro ⟨value, hvalue, rest, hrest, rfl⟩
    have htext : value = "Bearer " ++ String.ofList rest := by
      apply String.toList_inj.1
      simp only [hrest, String.toList_append, String.toList_ofList]
    rw [hvalue, htext]
  · intro h
    exact ⟨_, h, given.toList, String.toList_append, String.ofList_toList⟩

theorem authorize_eq_ok_iff : authorize s r = .ok () ↔ Authorized s r := by
  unfold authorize Authorized
  cases s.server.apiToken with
  | none => simp
  | some token =>
    cases htoken : tokenOf? r with
    | none =>
      have hnot (given : String) : r.header? "Authorization" ≠ some ("Bearer " ++ given) := by
        intro hgiven
        rw [← tokenOf?_eq_some_iff, htoken] at hgiven
        cases hgiven
      simp [hnot]
    | some given =>
      have hgiven := tokenOf?_eq_some_iff.1 htoken
      simp [hgiven]

theorem authorize_of_not_authorized (h : ¬ Authorized s r) :
    authorize s r = .error (refusalOf s) := by
  rw [← authorize_eq_ok_iff] at h
  unfold authorize refusalOf at *
  cases htoken : s.server.apiToken with
  | none => rfl
  | some token =>
    simp only [htoken] at h ⊢
    rw [if_neg fun hsame => h (if_pos hsame)]
    rfl

/-! ## What it asks for -/

theorem taskOf_of_apiPath (hpath : r.path = "/api/plot" ∨ r.path = "/api/lift")
    (hmethod : r.method = "POST") : ∃ command, taskOf s .main r = api s command r := by
  have htask {command : Command} (hroute : route? .main r.path = some (.api command)) :
      taskOf s .main r = api s command r := by
    have hposts : (Route.api command).methods.contains r.method = true := by
      rw [hmethod]
      rfl
    unfold taskOf
    rw [hroute]
    exact if_pos hposts
  rcases hpath with hpath | hpath
  · exact ⟨.plot, htask (by rw [hpath]; rfl)⟩
  · exact ⟨.lift, htask (by rw [hpath]; rfl)⟩

/-- A request that may not be made is turned away, whatever it says. -/
theorem api_of_not_authorized (hsize : r.isTooLarge = false) (h : ¬ Authorized s r) :
    api s command r = refuse (refusalOf s) := by
  unfold api
  rw [hsize, authorize_of_not_authorized h]
  rfl

/-- One that may be made is worked on, unless it cannot be understood. -/
theorem api_of_authorized (hsize : r.isTooLarge = false) (h : Authorized s r) :
    (∃ request, api s command r = .run command request) ∨
      ∃ text, api s command r = refuse (.message 422 text) := by
  unfold api
  rw [hsize, authorize_eq_ok_iff.2 h]
  cases (Json.ofBytes? r.body.data.toList).bind Api.Request.ofJson? with
  | some request => exact .inl ⟨request, rfl⟩
  | none => exact .inr ⟨_, rfl⟩

/-! ## What it is answered -/

/-- What is asked of the services for a request to run a command, where `host` answers for
them, and what the request itself is answered. -/
inductive Served (s : Settings) (host : List Service.Exchange → (c : Call) → c.Reply)
    (r : Request) : List Service.Exchange → Response → Prop
  | atOnce {a : Response} (task : taskOf s .main r = .answer a) : Served s host r [] a
  | worked {command : Command} {request : Api.Request} {log : List Service.Exchange} {a : Response}
    (task : taskOf s .main r = .run command request)
    (work : Program.run (Program.noting host) [] (run s command request) = (log, some a)) :
    Served s host r log a

variable {host : List Service.Exchange → (c : Call) → c.Reply} {log : List Service.Exchange}
  {a : Response}

theorem served_iff_of_answer {b : Response} (htask : taskOf s .main r = .answer b) :
    Served s host r log a ↔ log = [] ∧ a = b := by
  constructor
  · rintro (htask' | ⟨htask', -⟩)
    · rw [htask'] at htask
      cases htask
      exact ⟨rfl, rfl⟩
    · rw [htask'] at htask
      cases htask
  · rintro ⟨rfl, rfl⟩
    exact .atOnce htask

theorem served_iff_of_run {request : Api.Request} (htask : taskOf s .main r = .run command request) :
    Served s host r log a ↔
      Program.run (Program.noting host) [] (run s command request) = (log, some a) := by
  constructor
  · rintro (htask' | ⟨htask', hwork⟩)
    · rw [htask'] at htask
      cases htask
    · rw [htask'] at htask
      cases htask
      exact hwork
  · exact .worked htask

/-- A request that is worked on is answered by how the work ends. -/
theorem exists_ending_of_run {request : Api.Request}
    (hwork : Program.run (Program.noting host) [] (run s command request) = (log, some a)) :
    ∃ result, Bot.Ending log result ∧ a = apiAnswer result := by
  obtain ⟨log', a', hrun, hyields⟩ := Program.run_noting host [] (run s command request)
  rw [hwork, List.nil_append, Prod.mk.injEq, Option.some.injEq] at hrun
  obtain ⟨rfl, rfl⟩ := hrun
  -- what was noted is a log of the work, and the answer adds no exchange to it
  obtain ⟨result, first, second, rfl, hfirst, hsecond⟩ := Program.yields_bind_iff.1 hyields
  obtain ⟨rfl, rfl⟩ := Program.yields_done_iff.1 hsecond
  rw [List.append_nil]
  exact ⟨result, Bot.ending_of_yields hfirst, rfl⟩

theorem exists_served (hpath : r.path = "/api/plot" ∨ r.path = "/api/lift")
    (hmethod : r.method = "POST") (hsize : r.isTooLarge = false)
    (host : List Service.Exchange → (c : Call) → c.Reply) : ∃ log a, Served s host r log a := by
  obtain ⟨command, htask⟩ := taskOf_of_apiPath hpath hmethod
  by_cases hauthorized : Authorized s r
  · rcases api_of_authorized hsize hauthorized with ⟨request, hrun⟩ | ⟨text, hrefuse⟩
    · obtain ⟨log, a, hwork, -⟩ := Program.run_noting host [] (run s command request)
      exact ⟨log, a, .worked (htask.trans hrun) hwork⟩
    · exact ⟨[], _, .atOnce (htask.trans hrefuse)⟩
  · exact ⟨[], _, .atOnce (htask.trans (api_of_not_authorized hsize hauthorized))⟩

/-- What a request is answered that may be made tells how the work on it ended. -/
theorem exists_ending_of_served (hpath : r.path = "/api/plot" ∨ r.path = "/api/lift")
    (hmethod : r.method = "POST") (hsize : r.isTooLarge = false) (hauthorized : Authorized s r)
    (h : Served s host r log a) :
    ∃ result, Bot.Ending log result ∧ a.status = (apiAnswer result).status ∧
      ∀ address, result = .ok address → a.body = .json address.toJson := by
  obtain ⟨command, htask⟩ := taskOf_of_apiPath hpath hmethod
  rcases api_of_authorized hsize hauthorized with ⟨request, hrun⟩ | ⟨text, hrefuse⟩
  · have hwork := (served_iff_of_run (htask.trans hrun)).1 h
    obtain ⟨result, hending, rfl⟩ := exists_ending_of_run hwork
    refine ⟨result, hending, rfl, ?_⟩
    rintro address rfl
    rfl
  · obtain ⟨rfl, rfl⟩ := (served_iff_of_answer (htask.trans hrefuse)).1 h
    -- nothing was done for a request that says nothing, as for one whose project is unknown
    exact ⟨.error ⟨text, []⟩, .refused _ rfl (Nat.zero_le _) (by simp), rfl, by simp⟩

/-- **The answer tells what was done.** A request to run a command is made by anyone, with
anything in it that is not too large, and the services answer as they like. It is answered.
If it does not carry the token then nothing is asked of the services, and it is turned away.
If it does then it is answered with 201 exactly if one job was dispatched. It is told the
check that was queued, the only one, and this is the check that the job reports to.
Otherwise it is answered with 422. No job was dispatched then, at most one was asked for,
and a check that was queued was to be failed. -/
theorem created_iff_dispatched (hpath : r.path = "/api/plot" ∨ r.path = "/api/lift")
    (hmethod : r.method = "POST") (hsize : r.isTooLarge = false)
    (host : List Service.Exchange → (c : Call) → c.Reply) :
    (∃ log a, Served s host r log a) ∧ ∀ log a, Served s host r log a →
      (¬ Authorized s r →
        log = [] ∧ a.status = if s.server.apiToken = none then 501 else 401) ∧
      (Authorized s r →
        (a.status = 201 ↔ (log.filterMap (·.dispatched?)).length = 1) ∧
        (a.status = 201 → ∃ url context job,
          (∀ url' context', queued url' context' ∈ log ↔ url' = url ∧ context' = context) ∧
          log.filterMap (·.dispatched?) = [job] ∧
          job.checkUrl? = some url ∧ job.checkName? = some context ∧
          a.body = .json (.object [("check_url", .string url), ("context", .string context)])) ∧
        (a.status ≠ 201 → a.status = 422 ∧ log.filterMap (·.dispatched?) = [] ∧
          (log.filterMap (·.call.job?)).length ≤ 1 ∧
          ∀ url context, queued url context ∈ log →
            (failed url context (some dispatchFailedText)).call ∈ log.map (·.call))) := by
  refine ⟨exists_served hpath hmethod hsize host, fun log a h => ⟨?_, ?_⟩⟩
  · intro hunauthorized
    obtain ⟨command, htask⟩ := taskOf_of_apiPath hpath hmethod
    rw [api_of_not_authorized hsize hunauthorized] at htask
    obtain ⟨rfl, rfl⟩ := (served_iff_of_answer htask).1 h
    refine ⟨rfl, ?_⟩
    unfold refusalOf
    split <;> rfl
  · intro hauthorized
    obtain ⟨result, hending, hstatus, hbody⟩ :=
      exists_ending_of_served hpath hmethod hsize hauthorized h
    -- the two ends have different answers, so each answer tells its end
    cases hending with
    | dispatched address job jobs check url name =>
      refine ⟨iff_of_true hstatus (by rw [jobs]; rfl), ?_, fun hnot => absurd hstatus hnot⟩
      intro _
      refine ⟨address.url, address.context, job, ?_, jobs, url, name, hbody address rfl⟩
      intro url' context'
      obtain ⟨url, context⟩ := address
      rw [check, Bot.CheckAddress.mk.injEq]
    | refused failure jobs asked settled =>
      have hother : a.status ≠ 201 := by
        rw [hstatus]
        show (422 : Nat) ≠ 201
        decide
      exact ⟨iff_of_false hother (by simp [jobs]), fun h => absurd h hother,
        fun _ => ⟨hstatus, jobs, asked, settled⟩⟩

/-! ## A request whose job is dispatched -/

/-- The services as `plotRequest` finds them: its commit is there, and so is what is
configured. -/
def plotHost : (c : Call) → c.Reply
  | .getCommit .. => .ok plottedCommit
  | .fetchFile .. => .ok Config.written.toUTF8
  | c => c.granted

/-- It is answered with 201, and its job is the one of its project. -/
theorem created_iff_dispatched_plotRequest :
    plotRequest.path = "/api/plot" ∧ plotRequest.method = "POST" ∧
      plotRequest.isTooLarge = false ∧ Authorized Launch.plainSettings plotRequest ∧
      ∃ log a, Served Launch.plainSettings (fun _ => plotHost) plotRequest log a ∧ a.status = 201 ∧
        log.filterMap (·.dispatched?) =
          [Launch.job Launch.plainSettings plottedTarget .plot plottedProject] := by
  let job := Launch.job Launch.plainSettings plottedTarget .plot plottedProject
  have hsize : plotRequest.isTooLarge = false := by decide +kernel
  have hfate : Fate Launch.plainSettings plottedTarget .plot plottedProject _ _ :=
    .dispatched job.baseName
  have hyields := yields_plotted hfate
  have hrun := hyields.run_noting plotHost
    (by simp [plottedReading, Launch.queueCall, plotHost, Call.granted, job]) []
  have hserved : Served Launch.plainSettings (fun _ => plotHost) plotRequest _ _ :=
    .worked taskOf_plotRequest hrun
  have hauthorized := authorize_eq_ok_iff.1 authorize_plotRequest
  have hanswer := (created_iff_dispatched (.inl path_plotRequest) rfl hsize _).2 _ _ hserved
  exact ⟨path_plotRequest, rfl, hsize, hauthorized, _, _, hserved, (hanswer.2 hauthorized).1.2 rfl,
    rfl⟩

end Web

end Groundwork
