/-
What the bot does about a pull request. Before anything is launched it reads the
configuration and lists the changed files; `Reading` tells how that can end, and as long
as it has not ended well nothing is posted and nothing dispatched. Then the projects are
launched that the offline tool lists for the same configuration and the same paths.

`yields_onPullRequest_iff` takes the handler apart into these two, and
`onPullRequest_spec` is the statement about it: whoever answers its calls, and in
whatever order the calls of the launches are made.
-/
import Groundwork.Bot.PullRequest
import Groundwork.Cli.Run
import Groundwork.Proofs.Bot.Configuration
import Groundwork.Proofs.Job.Record
import Groundwork.Proofs.Launch.Together
import Groundwork.Proofs.Trigger.Selection

set_option autoImplicit false

namespace Groundwork

open Groundwork.Launch (Launched Outcome)
open Groundwork.Service (Call)

/-! ## The offline tool -/

namespace Cli

/-- What follows `match --` are paths. -/
theorem parse_matchPaths (paths : List String) :
    parse ("match" :: "--" :: paths) = .ok (.run { verb := .matchPaths, paths }) := by
  simp only [parse, parseFrom, isHelp, isDashed]
  rfl

/-- The tool prints the checks of the projects that pull requests with these paths would
plot, a line for each. -/
theorem run_matchPaths {read : String → Except String ByteArray} {bytes : ByteArray} {c : Config}
    (hread : read Config.fileName = .ok bytes) (hload : Config.load bytes = .ok c)
    (paths : List String) :
    run (m := Id) read ("match" :: "--" :: paths) =
      { stdout := String.join ((matchedContexts c paths .auto).map (· ++ "\n")) } := by
  unfold run
  rw [parse_matchPaths]
  show Plan.run _ (read Config.fileName) = _
  rw [hread, Plan.run, loadFile, hload]
  rfl

end Cli

namespace Bot

variable {repo : Repository} {log : List Service.Exchange}

/-! ## Whose the changes are -/

/-- The repository that the changes of a pull request come from: that of its head; if the
fork is gone, that of its base; and if that is missing too, the one that it was reported
in. -/
def sourceOf (pr : PullRequest) (repo : Repository) : Repository :=
  match pr.head.repository, pr.base.repository with
  | some r, _ => r
  | none, some r => r
  | none, none => repo

theorem getD_source (pr : PullRequest) (repo : Repository) :
    pr.source.getD repo = sourceOf pr repo := by
  unfold PullRequest.source sourceOf
  cases pr.head.repository with
  | some r => rfl
  | none => cases pr.base.repository <;> rfl

/-- Statuses are posted where the pull request was reported, and jobs clone where its
changes come from, both at the head of the changes. -/
theorem call_of_launched {s : Settings} {pr : PullRequest} {url : String} {command : Command}
    {ps : List Project} {x : Program.Joint Call Call.Reply Outcome} {outcomes : List Outcome}
    (h : Launched s (targetOf repo pr url) command ps x outcomes) {y : Service.Exchange}
    (hy : y ∈ x.exchanges) :
    (∃ status, y.call = .createStatus (repo.statusUrl pr.head.sha) status) ∨
      ∃ job, y.call = .dispatch job ∧
        job.env.find? "TURNIP_CLONE_URL" = some (sourceOf pr repo).cloneUrl ∧
        job.env.find? "TURNIP_HEAD_REF" = some pr.head.ref ∧
        job.checkUrl? = some (repo.statusUrl pr.head.sha) := by
  obtain ⟨p, -, hqueue | hdispatch | hfail⟩ := h.call_cases hy
  · exact .inl ⟨_, hqueue⟩
  · refine .inr ⟨_, hdispatch, ?_, ?_, Job.checkUrl?_ofOrder _ _ _⟩
    · rw [Launch.job, Job.env_ofOrder, Job.Order.find?_env_eq_some_iff, ← getD_source]
      exact .inl List.mem_cons_self
    · rw [Launch.job, Job.env_ofOrder, Job.Order.find?_env_eq_some_iff]
      exact .inl (List.mem_cons_of_mem _ List.mem_cons_self)
  · exact .inl ⟨_, hfail⟩

/-! ## Pull requests -/

variable {s : Settings} {e : PullRequestEvent} {order : List Nat}

/-- A pull request that is new to the bot is read, and then its projects are launched. -/
theorem yields_onPullRequest_iff {r : Except Failure (List Outcome)}
    (haction : e.action ∈ pullRequestActions) :
    (onPullRequest s e order).run.Yields log r ↔
      (∃ failure, Reading (sourceOf e.pullRequest e.repository) e.repository e.pullRequest.head.sha
        e.pullRequest.number log (.error failure) ∧ r = .error failure) ∨
      ∃ c changes first second outcomes, log = first ++ second ∧
        Reading (sourceOf e.pullRequest e.repository) e.repository e.pullRequest.head.sha
          e.pullRequest.number first (.ok (c, changes)) ∧ r = .ok outcomes ∧
        (Launch.projects s (targetOf e.repository e.pullRequest e.pullRequest.commentsUrl) .plot
          (Trigger.projects changes c.projects .auto) order).Yields second outcomes := by
  have hcontains : pullRequestActions.contains e.action = true := List.contains_iff_mem.2 haction
  unfold onPullRequest
  simp only [hcontains, Bool.not_true, Bool.false_eq_true, if_false, getD_source]
  refine yields_reading_iff.trans ?_
  simp only [Attempt.yields_lift_iff, exists_and_left]

theorem yields_onPullRequest_of_notMem {r : Except Failure (List Outcome)}
    (haction : e.action ∉ pullRequestActions) :
    (onPullRequest s e order).run.Yields log r ↔ log = [] ∧ r = .ok [] := by
  have hcontains : pullRequestActions.contains e.action = false := by
    rw [Bool.eq_false_iff, ne_eq, List.contains_iff_mem]
    exact haction
  unfold onPullRequest
  simp only [hcontains, Bool.not_false, if_true]
  exact Attempt.yields_pure_iff

/-- **Nothing before all is read, and then what the tool lists.** Whoever answers the calls
and in whatever order those of the launches come, the work on a pull request comes to its
end. It makes no call unless the pull request is new to the bot. If it fails, the
configuration could not be fetched or loaded or the files could not be listed, and that is
all that was asked for. Otherwise the projects are launched that changes of these files are
for, in the order in which they are declared, with one outcome each, and these are the
checks that the offline tool prints for the same configuration and paths. The
configuration is read where the changes come from and at their head; statuses are posted
about this commit to the repository of the event, and jobs clone the former. -/
theorem onPullRequest_spec (s : Settings) (e : PullRequestEvent) (order : List Nat)
    (host : List Service.Exchange → (c : Call) → c.Reply) :
    ∃ log result,
      Program.run (Program.noting host) [] (onPullRequest s e order).run = (log, some result) ∧
      (e.action ∉ ["opened", "synchronize", "reopened"] → log = [] ∧ result = .ok []) ∧
      (∀ failure, result = .error failure →
        Reading (sourceOf e.pullRequest e.repository) e.repository e.pullRequest.head.sha
          e.pullRequest.number log (.error failure) ∧
        ∀ y ∈ log,
          y.call = .fetchFile (sourceOf e.pullRequest e.repository) "turnip.yaml"
            e.pullRequest.head.sha ∨
          y.call = .listFiles e.repository e.pullRequest.number) ∧
      (e.action ∈ ["opened", "synchronize", "reopened"] → ∀ outcomes, result = .ok outcomes →
        ∃ bytes config changes x,
          log = ⟨.fetchFile (sourceOf e.pullRequest e.repository) "turnip.yaml"
              e.pullRequest.head.sha, .ok bytes⟩ ::
            ⟨.listFiles e.repository e.pullRequest.number, .ok changes⟩ :: x.exchanges ∧
          Config.load bytes = .ok config ∧
          Launched s (targetOf e.repository e.pullRequest e.pullRequest.commentsUrl) .plot
            (Trigger.projects changes config.projects .auto) x outcomes ∧
          (Trigger.projects changes config.projects .auto).Sublist config.projects ∧
          outcomes.map (·.context) =
            (Trigger.projects changes config.projects .auto).map (·.checkContext .plot) ∧
          (∀ read : String → Except String ByteArray, read "turnip.yaml" = .ok bytes →
            Cli.run (m := Id) read ("match" :: "--" :: changes.map Change.path) =
              { stdout := String.join (outcomes.map (·.context ++ "\n")) }) ∧
          ∀ y ∈ x.exchanges,
            (∃ status, y.call =
              .createStatus (e.repository.statusUrl e.pullRequest.head.sha) status) ∨
            ∃ job, y.call = .dispatch job ∧
              job.env.find? "TURNIP_CLONE_URL" =
                some (sourceOf e.pullRequest e.repository).cloneUrl ∧
              job.env.find? "TURNIP_HEAD_REF" = some e.pullRequest.head.ref ∧
              job.checkUrl? = some (e.repository.statusUrl e.pullRequest.head.sha)) := by
  obtain ⟨log, result, hrun, hyields⟩ := Program.run_noting host [] (onPullRequest s e order).run
  rw [List.nil_append] at hrun
  refine ⟨log, result, hrun, (yields_onPullRequest_of_notMem · |>.1 hyields), ?_, ?_⟩
  · rintro failure rfl
    by_cases haction : e.action ∈ pullRequestActions
    · rcases (yields_onPullRequest_iff haction).1 hyields with
        ⟨failure', hreading, hfailure⟩ | ⟨c, changes, first, second, outcomes, -, -, hresult, -⟩
      · cases hfailure
        exact ⟨hreading, fun y => hreading.call_cases⟩
      · cases hresult
    · cases ((yields_onPullRequest_of_notMem haction).1 hyields).2
  · rintro haction outcomes rfl
    rcases (yields_onPullRequest_iff haction).1 hyields with
      ⟨failure, -, hfailure⟩ | ⟨config, changes, first, second, outcomes', rfl, hreading, hresult, hlaunches⟩
    · cases hfailure
    · cases hresult
      cases hreading with
      | read bytes _ hload =>
        obtain ⟨x, hlaunched, rfl⟩ := Launch.exists_launched hlaunches
        have hcontexts := hlaunched.contexts
        refine ⟨bytes, config, changes, x, rfl, hload, hlaunched, Trigger.projects_sublist _ _ _,
          hcontexts, fun read hread => ?_, fun y => call_of_launched hlaunched⟩
        have hlines : outcomes.map (·.context ++ "\n") =
            (Cli.matchedContexts config (changes.map Change.path) .auto).map (· ++ "\n") := by
          rw [Cli.matchedContexts, Trigger.projects_modified_path, ← hcontexts, List.map_map]
          rfl
        rw [Cli.run_matchPaths hread hload, hlines]

end Bot

end Groundwork
