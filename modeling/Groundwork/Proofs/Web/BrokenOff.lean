/-
Requests whose work is broken off. A request to run a command is worked on until it is
answered, and the work ends where it is when whoever asked hangs up or the time is over.
A `Cut` says where that is: what was heard by then, which call waits for its answer, and
whether this one was carried out.

A launch waits in three places (`Launch.Pending`), and in two of them its job was asked
for. In the third it waits to hear that its check is queued. If that was carried out, the
check stays queued and there is neither a job nor a failure: `settled_iff_heard` says
that this is so there and nowhere else.
-/
import Groundwork.Proofs.Bot.Configuration
import Groundwork.Proofs.Launch.Together
import Groundwork.Web.Service

set_option autoImplicit false

namespace Groundwork

open Groundwork.Launch (Fate)
open Groundwork.Service (Call)

/-- Whether a call only reads. -/
def Service.Call.isReading : Call → Bool
  | .fetchFile .. | .listFiles .. | .getPullRequest _ | .getCommit .. => true
  | _ => false

/-! ## Where a launch waits -/

namespace Launch

/-- Where a launch is while it waits for an answer: what it heard so far, and what it
asked for. -/
inductive Pending (s : Settings) (t : Target) (c : Command) (p : Project) :
    List Service.Exchange → Call → Prop
  | queueing : Pending s t c p [] (queueCall t c p)
  | dispatching : Pending s t c p [⟨queueCall t c p, .ok ()⟩] (.dispatch (job s t c p))
  | failing (failure : Failure) :
    Pending s t c p [⟨queueCall t c p, .ok ()⟩, ⟨.dispatch (job s t c p), .error failure⟩]
      (failCall t c p)

theorem Fate.pending {s : Settings} {t : Target} {c : Command} {p : Project}
    {log rest : List Service.Exchange} {call : Call} {reply : call.Reply} {o : Outcome}
    (h : Fate s t c p (log ++ ⟨call, reply⟩ :: rest) o) : Pending s t c p log call := by
  generalize hall : log ++ ⟨call, reply⟩ :: rest = all at h
  cases h with
  | unchecked failure =>
    cases log with
    | nil =>
      cases hall
      exact .queueing
    | cons x log => simp at hall
  | dispatched name =>
    cases log with
    | nil =>
      cases hall
      exact .queueing
    | cons x log =>
      obtain ⟨rfl, htail⟩ := List.cons.inj hall
      cases log with
      | nil =>
        cases htail
        exact .dispatching
      | cons y log => simp at htail
  | undispatched failure reply =>
    cases log with
    | nil =>
      cases hall
      exact .queueing
    | cons x log =>
      obtain ⟨rfl, htail⟩ := List.cons.inj hall
      cases log with
      | nil =>
        cases htail
        exact .dispatching
      | cons y log =>
        obtain ⟨rfl, htail⟩ := List.cons.inj htail
        cases log with
        | nil =>
          cases htail
          exact .failing failure
        | cons z log => simp at htail

/-- A check that is being queued. -/
def queued (url context : String) : Service.Exchange :=
  ⟨.createStatus url (Check.statusOf context .queued none), .ok ()⟩

/-- A check that is being failed. -/
def failed (url context : String) (text : Option String) : Service.Exchange :=
  ⟨.createStatus url (Check.statusOf context .failed text), .ok ()⟩

theorem call_failed_ne_call_queued (url context url' context' : String) (text : Option String) :
    (failed url context text).call ≠ (queued url' context').call := by
  simp [failed, queued, Check.statusOf, Check.State.posted]

theorem failCall_ne_call_queued (t : Target) (c : Command) (p : Project) (url context : String) :
    failCall t c p ≠ (queued url context).call :=
  call_failed_ne_call_queued (t.repo.statusUrl t.sha) (p.checkContext c) url context
    (some dispatchFailedText)

namespace Pending

variable {s : Settings} {t : Target} {c : Command} {p : Project} {log : List Service.Exchange}
  {call : Call} {url context : String}

/-- A launch that heard that its check is queued asked for its job. -/
theorem asked_of_queued (h : Pending s t c p log call) (hqueued : queued url context ∈ log) :
    Call.dispatch (job s t c p) ∈ log.map (·.call) ++ [call] ∧
      (job s t c p).checkUrl? = some url ∧ (job s t c p).checkName? = some context := by
  have hcheck (heq : queued url context = ⟨queueCall t c p, .ok ()⟩) :
      (job s t c p).checkUrl? = some url ∧ (job s t c p).checkName? = some context := by
    cases heq
    exact ⟨Job.checkUrl?_ofOrder _ _ _, Job.checkName?_ofOrder _ _ _⟩
  cases h with
  | queueing => cases hqueued
  | dispatching => exact ⟨by simp, hcheck (List.mem_singleton.1 hqueued)⟩
  | failing failure =>
    rcases List.mem_cons.1 hqueued with heq | hlast
    · exact ⟨by simp, hcheck heq⟩
    · cases List.mem_singleton.1 hlast

/-- One that waits to hear so heard nothing before. -/
theorem eq_nil_of_queueing (h : Pending s t c p log (queued url context).call) : log = [] := by
  generalize hcall : (queued url context).call = call at h
  cases h with
  | queueing => rfl
  | dispatching => cases hcall
  | failing failure => exact absurd hcall.symm (failCall_ne_call_queued _ _ _ _ _)

end Pending

end Launch

/-! ## Where the work on a request waits -/

namespace Bot

variable {s : Settings} {command : Command} {request : Api.Request} {log : List Service.Exchange}

theorem isReading_of_yields_loadConfig {repo : Repository} {sha : String} {r : Except Failure Config}
    (h : (loadConfig repo sha).run.Yields log r) : ∀ y ∈ log, y.call.isReading = true := by
  intro y hy
  cases r with
  | ok c =>
    obtain ⟨bytes, rfl, -⟩ := yields_loadConfig_ok_iff.1 h
    exact List.mem_singleton.1 hy ▸ rfl
  | error failure =>
    rcases yields_loadConfig_error_iff.1 h with ⟨f, rfl, -⟩ | ⟨bytes, e, rfl, -⟩
    · exact List.mem_singleton.1 hy ▸ rfl
    · exact List.mem_singleton.1 hy ▸ rfl

theorem isReading_of_yields_getCommit {repo : Repository} {ref doing : String}
    {r : Except Failure Commit}
    (h : ((Service.ask (.getCommit repo ref)).within doing).run.Yields log r) :
    ∀ y ∈ log, y.call.isReading = true := by
  intro y hy
  obtain ⟨reply, -, hask⟩ := Attempt.yields_within_iff.1 h
  obtain rfl := Attempt.yields_ask_iff.1 hask
  exact List.mem_singleton.1 hy ▸ rfl

/-- What a request needs is read first, and then its project is launched, if it comes to
that; the end of the launch is that of the request. -/
theorem launch_of_yields_onRequest {r : Except Failure CheckAddress}
    (h : (onRequest s command request).run.Yields log r) :
    ∃ reading launch, log = reading ++ launch ∧ (∀ y ∈ reading, y.call.isReading = true) ∧
      ((launch = [] ∧ ∃ failure, r = .error failure) ∨
        ∃ t p o, Fate s t command p launch o ∧ r = addressOf o) := by
  unfold onRequest at h
  rcases Attempt.yields_bind_iff.1 h with ⟨f, rfl, hknown⟩ | ⟨repo, known, rest, rfl, hknown, hrest⟩
  · obtain ⟨rfl, -⟩ := Attempt.yields_known_iff.1 hknown
    exact ⟨[], [], rfl, by simp, .inl ⟨rfl, f, rfl⟩⟩
  obtain ⟨rfl, -⟩ := Attempt.yields_known_iff.1 hknown
  rcases Attempt.yields_bind_iff.1 hrest with ⟨f, rfl, hcommit⟩ |
    ⟨commit, resolving, rest, rfl, hcommit, hrest⟩
  · exact ⟨rest, [], (List.append_nil _).symm, isReading_of_yields_getCommit hcommit,
      .inl ⟨rfl, f, rfl⟩⟩
  rcases Attempt.yields_bind_iff.1 hrest with ⟨f, rfl, hconfig⟩ |
    ⟨config, loading, rest, rfl, hconfig, hrest⟩
  · refine ⟨resolving ++ rest, [], (List.append_nil _).symm, ?_, .inl ⟨rfl, f, rfl⟩⟩
    exact List.forall_mem_append.2
      ⟨isReading_of_yields_getCommit hcommit, isReading_of_yields_loadConfig hconfig⟩
  have hreading : ∀ y ∈ resolving ++ loading, y.call.isReading = true :=
    List.forall_mem_append.2
      ⟨isReading_of_yields_getCommit hcommit, isReading_of_yields_loadConfig hconfig⟩
  rcases Attempt.yields_bind_iff.1 hrest with ⟨f, rfl, hknown⟩ |
    ⟨project, known, rest, rfl, hknown, hproject⟩
  · obtain ⟨rfl, -⟩ := Attempt.yields_known_iff.1 hknown
    exact ⟨resolving ++ loading, [], by simp, hreading, .inl ⟨rfl, f, rfl⟩⟩
  obtain ⟨rfl, -⟩ := Attempt.yields_known_iff.1 hknown
  obtain ⟨o, launch, last, rfl, hlaunch, hlast⟩ := Attempt.yields_lift_bind_iff.1 hproject
  obtain ⟨rfl, rfl⟩ := Attempt.yields_known_iff.1 hlast
  exact ⟨resolving ++ loading, launch, by simp, hreading,
    .inr ⟨_, project, o, Launch.yields_project_iff.1 hlaunch, rfl⟩⟩

/-- A request whose project is found comes to any end that a launch can come to. -/
theorem yields_onRequest {repo : Repository} {bytes : ByteArray} {config : Config} {p : Project}
    {launch : List Service.Exchange} {o : Launch.Outcome} (commit : Commit)
    (hrepo : repositoryOf request = .ok repo) (hload : Config.load bytes = .ok config)
    (hproject : projectOf request config = .ok p)
    (hfate : Fate s ⟨repo, repo, request.ref, commit.sha, commit.commentsUrl, request.extraArgs⟩
      command p launch o) :
    (onRequest s command request).run.Yields
      (⟨.getCommit repo request.ref, .ok commit⟩ ::
        ⟨.fetchFile repo Config.fileName commit.sha, .ok bytes⟩ :: launch) (addressOf o) := by
  have hcommit : ((Service.ask (.getCommit repo request.ref)).within
      ("Failed to resolve " ++ request.ref)).run.Yields
      [⟨.getCommit repo request.ref, .ok commit⟩] (.ok commit) :=
    Attempt.yields_within_iff.2 ⟨.ok commit, rfl, Attempt.yields_ask_iff.2 rfl⟩
  have hconfig : (loadConfig repo commit.sha).run.Yields
      [⟨.fetchFile repo Config.fileName commit.sha, .ok bytes⟩] (.ok config) :=
    yields_loadConfig_ok_iff.2 ⟨bytes, rfl, hload⟩
  unfold onRequest
  refine Attempt.yields_bind_iff.2 (.inr ⟨repo, [], _, rfl, ?_, ?_⟩)
  · exact Attempt.yields_known_iff.2 ⟨rfl, hrepo.symm⟩
  refine Attempt.yields_bind_iff.2 (.inr ⟨commit, [_], _, rfl, hcommit, ?_⟩)
  refine Attempt.yields_bind_iff.2 (.inr ⟨config, [_], launch, rfl, hconfig, ?_⟩)
  refine Attempt.yields_bind_iff.2 (.inr ⟨p, [], launch, rfl, ?_, ?_⟩)
  · exact Attempt.yields_known_iff.2 ⟨rfl, hproject.symm⟩
  exact Attempt.yields_lift_bind_iff.2 ⟨o, launch, [], (List.append_nil _).symm,
    Launch.yields_project_iff.2 hfate, Attempt.yields_known_iff.2 ⟨rfl, rfl⟩⟩

end Bot

namespace Web

variable {s : Settings} {command : Command} {request : Api.Request}

/-- Work on a request that waits either only read so far or waits in a launch. -/
theorem stands (k : Program.Cut (run s command request)) :
    (∀ c ∈ k.asked, c.isReading = true) ∨
      ∃ t p reading launch, k.log = reading ++ launch ∧ (∀ y ∈ reading, y.call.isReading = true) ∧
        Launch.Pending s t command p launch k.call := by
  obtain ⟨rest, answer, hyields⟩ := k.exists_yields Call.granted
  obtain ⟨r, first, second, hall, hfirst, hsecond⟩ := Program.yields_bind_iff.1 hyields
  obtain ⟨rfl, -⟩ := Program.yields_done_iff.1 hsecond
  rw [List.append_nil] at hall
  obtain ⟨reading, launch, rfl, hreading, hlaunch⟩ := Bot.launch_of_yields_onRequest hfirst
  -- the log ends within what is read or within the launch; `more` is what was left to read
  rcases List.append_eq_append_iff.1 hall with ⟨more, hmore, hrest⟩ | ⟨launched, hlog, hlaunched⟩
  · cases more with
    | nil =>
      rw [List.append_nil] at hmore
      rw [List.nil_append] at hrest
      rcases hlaunch with ⟨rfl, -⟩ | ⟨t, p, o, hfate, -⟩
      · cases hrest
      · rw [← hrest] at hfate
        exact .inr ⟨t, p, reading, [], by rw [hmore, List.append_nil], hreading, hfate.pending⟩
    | cons y more =>
      obtain ⟨rfl, -⟩ := List.cons.inj hrest
      refine .inl fun c hc => ?_
      rcases List.mem_append.1 hc with hc | hc
      · obtain ⟨y, hy, rfl⟩ := List.mem_map.1 hc
        exact hreading y (hmore ▸ List.mem_append_left _ hy)
      · obtain rfl := List.mem_singleton.1 hc
        exact hreading _ (hmore ▸ List.mem_append_right _ List.mem_cons_self)
  · rcases hlaunch with ⟨rfl, -⟩ | ⟨t, p, o, hfate, -⟩
    · simp at hlaunched
    · rw [hlaunched] at hfate
      exact .inr ⟨t, p, reading, launched, hlog, hreading, hfate.pending⟩

/-- **Work that is broken off leaves a check queued in one case.** Work on a request is
broken off anywhere, when a check was queued by then. Its job was asked for or the check
was failed exactly if the work heard that it is queued. -/
theorem settled_iff_heard (k : Program.Cut (run s command request)) {url context : String}
    (hqueued : Launch.queued url context ∈ k.carried) :
    ((∃ job, Call.dispatch job ∈ k.asked ∧ job.checkUrl? = some url ∧
        job.checkName? = some context) ∨
      ∃ text, Launch.failed url context text ∈ k.carried) ↔
    Launch.queued url context ∈ k.log := by
  rcases stands k with hreading | ⟨t, p, reading, launch, hlog, hreading, hpending⟩
  · cases hreading _ (Program.Cut.call_mem_asked hqueued)
  by_cases hheard : Launch.queued url context ∈ k.log
  · refine iff_of_true (.inl ⟨Launch.job s t command p, ?_⟩) hheard
    rw [hlog] at hheard
    rcases List.mem_append.1 hheard with hread | hheard
    · cases hreading _ hread
    · obtain ⟨hasked, hcheck⟩ := hpending.asked_of_queued hheard
      refine ⟨?_, hcheck⟩
      rw [Program.Cut.asked, hlog, List.map_append, List.append_assoc]
      exact List.mem_append_right _ hasked
  · refine iff_of_false ?_ hheard
    obtain ⟨reply, -, heq⟩ := (Program.Cut.mem_carried.1 hqueued).resolve_left hheard
    have hcall : k.call = (Launch.queued url context).call := by rw [heq]
    -- so nothing but what only reads was asked for before
    rw [hcall] at hpending
    rw [hpending.eq_nil_of_queueing, List.append_nil] at hlog
    have hasked : ∀ c ∈ k.asked, c.isReading = true ∨ c = (Launch.queued url context).call := by
      intro c hc
      rw [Program.Cut.asked, hlog, hcall] at hc
      rcases List.mem_append.1 hc with hc | hc
      · obtain ⟨y, hy, rfl⟩ := List.mem_map.1 hc
        exact .inl (hreading y hy)
      · exact .inr (List.mem_singleton.1 hc)
    rintro (⟨job, hjob, -⟩ | ⟨text, hfailed⟩)
    · rcases hasked _ hjob with hread | heq
      · cases hread
      · cases heq
    · rcases hasked _ (Program.Cut.call_mem_asked hfailed) with hread | heq
      · cases hread
      · exact Launch.call_failed_ne_call_queued _ _ _ _ _ heq

/-! ## One request, broken off at two places -/

/-- A request to plot a project. -/
def plotRequest : Request where
  method := "POST"
  target := "/api/plot"
  headers := [("Authorization", "Bearer api-token")]
  body := "\x7b\"repo\":\"acme/infra\",\"ref\":\"main\",\"dir\":\"d\"\x7d".toUTF8

/-- What it says. -/
def plotted : Api.Request where
  repo := "acme/infra"
  ref := "main"
  dir := "d"

theorem authorize_plotRequest : authorize Launch.plainSettings plotRequest = .ok () := by
  have htoken : tokenOf? plotRequest = some "api-token" := by decide +kernel
  have hsame : (tokenOf? plotRequest).any (Signature.sameToken "api-token") = true := by
    rw [htoken, Option.any_some, Signature.sameToken_self]
  exact if_pos hsame

theorem api_plotRequest : api Launch.plainSettings .plot plotRequest = .run .plot plotted := by
  have hsize : plotRequest.isTooLarge = false := by decide +kernel
  have hbody : (Json.ofBytes? plotRequest.body.data.toList).bind Api.Request.ofJson? = some plotted := by
    decide +kernel
  unfold api
  rw [hsize, authorize_plotRequest, hbody]
  simp only [Bool.false_eq_true, if_false]

theorem path_plotRequest : plotRequest.path = "/api/plot" := by
  decide +kernel

theorem taskOf_plotRequest :
    taskOf Launch.plainSettings .main plotRequest = .run .plot plotted := by
  have hroute : route? .main plotRequest.path = some (.api .plot) := by
    rw [path_plotRequest]
    rfl
  have hmethod : (Route.api .plot).methods.contains plotRequest.method = true := by decide
  rw [taskOf, hroute]
  simp only [hmethod, if_true]
  rw [Request.trimmed, Route.task_mapPath, Route.task, api_plotRequest]

/-- The commit that it is about. -/
def plottedCommit : Commit := ⟨"abc", "/c"⟩

/-- What its project is launched for. -/
def plottedTarget : Launch.Target where
  repo := .ofFullName "acme/infra"
  source := .ofFullName "acme/infra"
  headRef := "main"
  sha := "abc"
  commentsUrl := "/c"

/-- Its project. -/
def plottedProject : Project where
  dir := "d"
  autoPlot := true
  workflowName := "w"
  workflow := Config.sampleWorkflow

/-- What is read before the project is launched. -/
def plottedReading : List Service.Exchange := [
  ⟨.getCommit (.ofFullName "acme/infra") "main", .ok plottedCommit⟩,
  ⟨.fetchFile (.ofFullName "acme/infra") Config.fileName "abc", .ok Config.written.toUTF8⟩]

/-- The work on it ends as a launch of its project can end. -/
theorem yields_plotted {launch : List Service.Exchange} {o : Launch.Outcome}
    (hfate : Fate Launch.plainSettings plottedTarget .plot plottedProject launch o) :
    (run Launch.plainSettings .plot plotted).Yields (plottedReading ++ launch)
      (apiAnswer (Bot.addressOf o)) := by
  have hrepo : Bot.repositoryOf plotted = .ok (.ofFullName "acme/infra") := by decide +kernel
  have hproject : Bot.projectOf plotted Config.sample = .ok plottedProject := by decide +kernel
  have hyields := Bot.yields_onRequest plottedCommit hrepo Config.load_written hproject hfate
  exact Program.yields_bind_iff.2 ⟨_, _, [], (List.append_nil _).symm, hyields, rfl⟩

/-- It waits in each place where a launch of its project can wait. -/
theorem exists_goes_plotted {before after : List Service.Exchange} {e : Service.Exchange}
    {o : Launch.Outcome}
    (hfate : Fate Launch.plainSettings plottedTarget .plot plottedProject (before ++ e :: after) o) :
    ∃ next, (run Launch.plainSettings .plot plotted).Goes (plottedReading ++ before)
      (.call e.call next) := by
  have hyields := yields_plotted hfate
  rw [← List.append_assoc] at hyields
  exact hyields.goes

/-- Broken off while its job is being dispatched, it asked for the job. -/
theorem settled_while_dispatching : ∃ (k : Program.Cut (run Launch.plainSettings .plot plotted))
    (url context : String), Launch.queued url context ∈ k.carried ∧
      ((∃ job, Call.dispatch job ∈ k.asked ∧ job.checkUrl? = some url ∧
          job.checkName? = some context) ∨
        ∃ text, Launch.failed url context text ∈ k.carried) := by
  let check := Launch.check plottedTarget .plot plottedProject
  have hfate : Fate Launch.plainSettings plottedTarget .plot plottedProject
      ([Launch.queued check.url check.context] ++ _ :: []) _ := .dispatched "job"
  obtain ⟨next, hgoes⟩ := exists_goes_plotted hfate
  let k : Program.Cut (run Launch.plainSettings .plot plotted) := ⟨_, _, next, hgoes, none⟩
  have hheard : Launch.queued check.url check.context ∈ k.log := by simp [k]
  have hqueued : Launch.queued check.url check.context ∈ k.carried :=
    Program.Cut.mem_carried.2 (.inl hheard)
  exact ⟨k, check.url, check.context, hqueued, (settled_iff_heard k hqueued).2 hheard⟩

/-- **A check that stays queued.** A request to plot is broken off while the work waits to
hear that the check is queued, and it is. No job was asked for, and the check was not
failed. -/
theorem orphaned_while_queueing : plotRequest.method = "POST" ∧ plotRequest.path = "/api/plot" ∧
    taskOf Launch.plainSettings .main plotRequest = .run .plot plotted ∧
    ∃ (k : Program.Cut (run Launch.plainSettings .plot plotted)) (url context : String),
      Launch.queued url context ∈ k.carried ∧ (∀ job, Call.dispatch job ∉ k.asked) ∧
      ∀ text, (Launch.failed url context text).call ∉ k.asked := by
  let check := Launch.check plottedTarget .plot plottedProject
  have hfate : Fate Launch.plainSettings plottedTarget .plot plottedProject
      ([] ++ Launch.queued check.url check.context :: [_]) _ := .dispatched "job"
  obtain ⟨next, hgoes⟩ := exists_goes_plotted hfate
  let k : Program.Cut (run Launch.plainSettings .plot plotted) := ⟨_, _, next, hgoes, some (.ok ())⟩
  refine ⟨rfl, path_plotRequest, taskOf_plotRequest, k, check.url, check.context,
    Program.Cut.mem_carried.2 (.inr ⟨.ok (), rfl, rfl⟩), fun job hjob => ?_, fun text htext => ?_⟩
  · simp [k, Program.Cut.asked, plottedReading, Launch.queued] at hjob
  · rcases List.mem_append.1 htext with hread | hlast
    · simp [k, plottedReading, Launch.failed] at hread
    · exact Launch.call_failed_ne_call_queued _ _ _ _ _ (List.mem_singleton.1 hlast)

end Web

end Groundwork
