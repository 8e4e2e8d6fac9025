/-
What the bot does about a comment. A comment that asks for nothing is left alone. One
that asks for something is answered in the end with a reaction, and with a comment if
there is anything to tell; whatever happens before, and whether or not these two can be
posted, that is what the work comes down to (`onComment_spec`).

A command is pursued to one of four ends (`Pursued`): something that it needs cannot be
had, twice over, there is nothing for it to do, or its projects are launched. The latter
two are where all was obtained, and `Obtained` holds all that the answer depends on.
-/
import Groundwork.Bot.Comment
import Groundwork.Proofs.Bot.PullRequest

set_option autoImplicit false

namespace Groundwork

open Groundwork.Launch (Launched Outcome)
open Groundwork.Service (Call)

/-- Whether a call leaves a reaction or a comment. -/
def Service.Call.isFeedback : Call → Bool
  | .react .. | .createComment .. => true
  | _ => false

/-- Launches leave no reactions and no comments. -/
theorem Launch.Launched.isFeedback_eq_false {s : Settings} {t : Launch.Target} {c : Command}
    {ps : List Project} {x : Program.Joint Call Call.Reply Outcome} {outcomes : List Outcome}
    (h : Launched s t c ps x outcomes) {y : Service.Exchange} (hy : y ∈ x.exchanges) :
    y.call.isFeedback = false := by
  obtain ⟨p, -, hcall | hcall | hcall⟩ := h.call_cases hy
  · rw [hcall]
    rfl
  · rw [hcall]
    rfl
  · rw [hcall]
    rfl

namespace Bot

variable {s : Settings} {e : CommentEvent} {url : String} {run : Chat.Run} {order : List Nat}
  {log : List Service.Exchange}

/-! ## How a command is pursued -/

/-- What there is to tell of launches. It is a failure if no project has a job. -/
def verdict (outcomes : List Outcome) : Except Failure String :=
  if outcomes.any Outcome.isDispatched then .ok (Launch.failureSummary outcomes)
  else .error ⟨Launch.failureSummary outcomes, []⟩

/-- How it can end that a command is pursued, with what there is to tell. -/
inductive Pursued (s : Settings) (e : CommentEvent) (url : String) (run : Chat.Run) :
    List Service.Exchange → Except Failure String → Prop
  | unfetched (failure : Failure) :
    Pursued s e url run [⟨.getPullRequest url, .error failure⟩]
      (.error (failure.within "Failed to fetch pull request"))
  | unread (pr : PullRequest) (reading : List Service.Exchange) (failure : Failure)
      (hread : Reading (sourceOf pr e.repository) e.repository pr.head.sha pr.number reading
        (.error failure)) :
    Pursued s e url run (⟨.getPullRequest url, .ok pr⟩ :: reading) (.error failure)
  | idle (pr : PullRequest) (reading : List Service.Exchange) (c : Config) (changes : List Change)
      (hread : Reading (sourceOf pr e.repository) e.repository pr.head.sha pr.number reading
        (.ok (c, changes)))
      (hnone : selected run changes c.projects = []) :
    Pursued s e url run (⟨.getPullRequest url, .ok pr⟩ :: reading)
      (.ok ("No projects to " ++ run.command.word))
  | launched (pr : PullRequest) (reading : List Service.Exchange) (c : Config)
      (changes : List Change) (x : Program.Joint Call Call.Reply Outcome) (outcomes : List Outcome)
      (hread : Reading (sourceOf pr e.repository) e.repository pr.head.sha pr.number reading
        (.ok (c, changes)))
      (hsome : selected run changes c.projects ≠ [])
      (hlaunched : Launched s (targetOf e.repository pr e.issue.commentsUrl) run.command
        (selected run changes c.projects) x outcomes) :
    Pursued s e url run (⟨.getPullRequest url, .ok pr⟩ :: (reading ++ x.exchanges))
      (verdict outcomes)

theorem pursued_of_yields {r : Except Failure String}
    (h : (runChat s e url run order).run.Yields log r) : Pursued s e url run log r := by
  unfold runChat at h
  rw [Attempt.yields_bind_iff] at h
  simp only [Service.ask, Attempt.yields_within_iff, Attempt.yields_ask_iff] at h
  rcases h with ⟨failure, rfl, reply, hreply, rfl⟩ |
    ⟨pr, fetched, rest, rfl, ⟨reply, hreply, rfl⟩, hrest⟩
  · cases reply with
    | ok pr => cases hreply
    | error f =>
      cases hreply
      exact .unfetched f
  · cases reply with
    | error f => cases hreply
    | ok pr' =>
      cases hreply
      rw [getD_source] at hrest
      rcases yields_reading_iff.1 hrest with ⟨failure, hread, rfl⟩ |
        ⟨c, changes, reading, second, rfl, hread, hsecond⟩
      · exact .unread pr rest failure hread
      · -- all is there, and it depends on the projects whether there is anything to do
        by_cases hnone : selected run changes c.projects = []
        · simp only [hnone, List.isEmpty_nil, if_true, Attempt.yields_pure_iff] at hsecond
          obtain ⟨rfl, rfl⟩ := hsecond
          rw [List.append_nil]
          exact .idle pr reading c changes hread hnone
        · have hsome : (selected run changes c.projects).isEmpty = false := by
            rw [Bool.eq_false_iff, ne_eq, List.isEmpty_iff]
            exact hnone
          simp only [hsome, Bool.false_eq_true, if_false, Attempt.yields_lift_bind_iff] at hsecond
          obtain ⟨outcomes, launching, last, rfl, hlaunches, hlast⟩ := hsecond
          obtain ⟨x, hlaunched, rfl⟩ := Launch.exists_launched hlaunches
          have hverdict : last = [] ∧ r = verdict outcomes := by
            unfold verdict
            split at hlast
            · next hany =>
              rw [if_pos hany]
              exact Attempt.yields_pure_iff.1 hlast
            · next hnot =>
              rw [if_neg hnot]
              exact Attempt.yields_throw_iff.1 hlast
          obtain ⟨rfl, rfl⟩ := hverdict
          rw [List.append_nil]
          exact .launched pr reading c changes x outcomes hread hnone hlaunched

/-! ## What is said in the end -/

theorem leave_recites {expected : (c : Call) → c.Reply → Prop} (e : CommentEvent)
    (reaction : Reaction) (comment : Option String) :
    Program.Recites expected (.react e.comment.reactionsUrl reaction ::
      (comment.map (Call.createComment e.issue.commentsUrl)).toList) (leave e reaction comment) := by
  unfold leave
  cases comment with
  | none => exact (Report.recites_regardless _).bind fun _ => Program.recites_done ()
  | some body => exact (Report.recites_regardless _).bind fun _ => Report.recites_regardless _

/-- The comment with what there is to tell, if there is anything. -/
def told (output : String) : Option String :=
  if output.isEmpty then none else some ("```\n" ++ output ++ "\n```")

theorem yields_reply_ok {output : String} {r : Except Failure Unit}
    (h : (reply e (.ok output)).run.Yields log r) :
    r = .ok () ∧ log.map (·.call) = .react e.comment.reactionsUrl .thumbsUp ::
      ((told output).map (Call.createComment e.issue.commentsUrl)).toList := by
  obtain ⟨u, rfl, hleave⟩ := Attempt.yields_lift_iff.1 h
  exact ⟨rfl, (leave_recites e .thumbsUp (told output)).map_call hleave⟩

theorem yields_reply_error {wrong : String} {r : Except Failure Unit}
    (h : (reply e (.error wrong)).run.Yields log r) :
    r = .error ⟨"Command failed: " ++ wrong, []⟩ ∧
      log.map (·.call) = [.react e.comment.reactionsUrl .confused,
        .createComment e.issue.commentsUrl ("Error executing command: " ++ wrong)] := by
  obtain ⟨u, first, second, rfl, hleave, hthrow⟩ := Attempt.yields_lift_bind_iff.1 h
  obtain ⟨rfl, rfl⟩ := Attempt.yields_throw_iff.1 hthrow
  rw [List.append_nil]
  exact ⟨rfl, (leave_recites e .confused (some _)).map_call hleave⟩

/-- The bot does not do what it was asked for, and says so. -/
def Refuses (e : CommentEvent) (log : List Service.Exchange) (result : Except Failure Unit) : Prop :=
  ∃ wrong, (log.map (·.call)).filter Call.isFeedback =
      [.react e.comment.reactionsUrl .confused,
        .createComment e.issue.commentsUrl ("Error executing command: " ++ wrong)] ∧
    result = .error ⟨"Command failed: " ++ wrong, []⟩

/-- The bot does what it was asked for, and says so; with a comment if there is one. -/
def Accepts (e : CommentEvent) (log : List Service.Exchange) (result : Except Failure Unit)
    (comment : Option String) : Prop :=
  (log.map (·.call)).filter Call.isFeedback = .react e.comment.reactionsUrl .thumbsUp ::
      (comment.map (Call.createComment e.issue.commentsUrl)).toList ∧
    result = .ok ()

/-- The work before the answer neither reacts nor comments. -/
theorem filter_isFeedback_append {work second : List Service.Exchange}
    (hwork : ∀ y ∈ work, y.call.isFeedback = false) :
    ((work ++ second).map (·.call)).filter Call.isFeedback =
      (second.map (·.call)).filter Call.isFeedback := by
  have hnone : (work.map (·.call)).filter Call.isFeedback = [] := by
    rw [List.filter_eq_nil_iff]
    intro c hc
    obtain ⟨y, hy, rfl⟩ := List.mem_map.1 hc
    rw [hwork y hy]
    exact Bool.false_ne_true
  rw [List.map_append, List.filter_append, hnone, List.nil_append]

/-- The answer asks for no job. -/
theorem filterMap_job?_append {work second : List Service.Exchange}
    (hsecond : ∀ c ∈ second.map (·.call), c.isFeedback = true) :
    (work ++ second).filterMap (·.call.job?) = work.filterMap (·.call.job?) := by
  have hnone : second.filterMap (·.call.job?) = [] := by
    rw [List.filterMap_eq_nil_iff]
    intro y hy
    have hfeedback := hsecond y.call (List.mem_map_of_mem hy)
    cases hcall : y.call with
    | dispatch job =>
      rw [hcall] at hfeedback
      cases hfeedback
    | _ => rfl
  rw [List.filterMap_append, hnone, List.append_nil]

/-- Where the work ends with something to tell, the bot accepts. -/
theorem accepts_of_yields {work second : List Service.Exchange} {output : String}
    {r : Except Failure Unit} (hwork : ∀ y ∈ work, y.call.isFeedback = false)
    (h : (reply e (.ok output)).run.Yields second r) :
    Accepts e (work ++ second) r (told output) ∧
      (work ++ second).filterMap (·.call.job?) = work.filterMap (·.call.job?) := by
  obtain ⟨rfl, hcalls⟩ := yields_reply_ok h
  refine ⟨⟨?_, rfl⟩, filterMap_job?_append ?_⟩
  · rw [filter_isFeedback_append hwork, hcalls]
    cases told output <;> rfl
  · rw [hcalls]
    cases told output <;> simp [Call.isFeedback]

/-- Where it ends with something that went wrong, the bot refuses. -/
theorem refuses_of_yields {work second : List Service.Exchange} {wrong : String}
    {r : Except Failure Unit} (hwork : ∀ y ∈ work, y.call.isFeedback = false)
    (h : (reply e (.error wrong)).run.Yields second r) :
    Refuses e (work ++ second) r ∧
      (work ++ second).filterMap (·.call.job?) = work.filterMap (·.call.job?) := by
  obtain ⟨rfl, hcalls⟩ := yields_reply_error h
  refine ⟨⟨wrong, ?_, rfl⟩, filterMap_job?_append ?_⟩
  · rw [filter_isFeedback_append hwork, hcalls]
    rfl
  · rw [hcalls]
    simp [Call.isFeedback]

/-! ## Comments -/

/-- A comment that asks for nothing is left alone. -/
theorem yields_onComment_of_unasked {r : Except Failure Unit}
    (hunasked : e.action ≠ "created" ∨ e.issue.pullRequestUrl = none ∨
      Chat.parse e.comment.body = .ok none)
    (h : (onComment s e order).run.Yields log r) : log = [] ∧ r = .ok () := by
  unfold onComment at h
  by_cases haction : e.action = "created"
  · rw [if_neg (not_not_intro haction)] at h
    cases hurl : e.issue.pullRequestUrl with
    | none =>
      rw [hurl] at h
      exact Attempt.yields_pure_iff.1 h
    | some url =>
      have hnone : Chat.parse e.comment.body = .ok none :=
        (hunasked.resolve_left (not_not_intro haction)).resolve_left (by simp [hurl])
      rw [hurl, hnone] at h
      exact Attempt.yields_pure_iff.1 h
  · rw [if_pos haction] at h
    exact Attempt.yields_pure_iff.1 h

/-- One that asks for something, if only for something that makes no sense, is worked on
and then answered. -/
theorem yields_onComment {asked : Except Chat.Error Chat.Request} {r : Except Failure Unit}
    (haction : e.action = "created") (hurl : e.issue.pullRequestUrl = some url)
    (hasked : Chat.parse e.comment.body = asked.map some)
    (h : (onComment s e order).run.Yields log r) :
    ∃ answer work second, log = work ++ second ∧
      (answerChat s e url order asked).Yields work answer ∧ (reply e answer).run.Yields second r := by
  unfold onComment at h
  rw [if_neg (not_not_intro haction), hurl] at h
  cases asked with
  | error wrong =>
    rw [hasked] at h
    exact Attempt.yields_lift_bind_iff.1 h
  | ok request =>
    rw [hasked] at h
    exact Attempt.yields_lift_bind_iff.1 h

/-- What comes of a command is told on one line. -/
theorem yields_answerChat_run {answer : Except String String}
    (h : (answerChat s e url order (.ok (.run run))).Yields log answer) :
    ∃ r, Pursued s e url run log r ∧ answer = r.mapError Failure.line := by
  obtain ⟨r, first, second, rfl, hfirst, hsecond⟩ := Program.yields_bind_iff.1 h
  obtain ⟨rfl, rfl⟩ := Program.yields_done_iff.1 hsecond
  rw [List.append_nil]
  exact ⟨r, pursued_of_yields hfirst, rfl⟩

/-- All that a command needs was obtained, and its projects, if there are any, were
launched. -/
structure Obtained (s : Settings) (e : CommentEvent) (url : String) (run : Chat.Run)
    (log : List Service.Exchange) where
  pr : PullRequest
  bytes : ByteArray
  config : Config
  changes : List Change
  launches : Program.Joint Call Call.Reply Outcome
  outcomes : List Outcome
  /-- What was said in the end. -/
  feedback : List Service.Exchange
  load_eq : Config.load bytes = .ok config
  launched : Launched s (targetOf e.repository pr e.issue.commentsUrl) run.command
    ((Trigger.projects changes config.projects .explicit).filter run.selects) launches outcomes
  log_eq : log =
    ⟨.getPullRequest url, .ok pr⟩ ::
    ⟨.fetchFile (sourceOf pr e.repository) "turnip.yaml" pr.head.sha, .ok bytes⟩ ::
    ⟨.listFiles e.repository pr.number, .ok changes⟩ :: (launches.exchanges ++ feedback)

namespace Obtained

/-- The projects that the changes are for, as far as the command is for them. -/
def projects (g : Obtained s e url run log) : List Project :=
  (Trigger.projects g.changes g.config.projects .explicit).filter run.selects

end Obtained

/-- Pursuing a command neither reacts nor comments. -/
theorem Pursued.isFeedback_eq_false {work : List Service.Exchange} {r : Except Failure String}
    (h : Pursued s e url run work r) {y : Service.Exchange} (hy : y ∈ work) :
    y.call.isFeedback = false := by
  have hreading {source repo : Repository} {sha : String} {number : Nat}
      {reading : List Service.Exchange} {r : Except Failure (Config × List Change)}
      (hread : Reading source repo sha number reading r) (hy : y ∈ reading) :
      y.call.isFeedback = false := by
    rcases hread.call_cases hy with hcall | hcall
    · rw [hcall]
      rfl
    · rw [hcall]
      rfl
  cases h with
  | unfetched failure =>
    obtain rfl := List.mem_singleton.1 hy
    rfl
  | unread pr reading failure hread =>
    rcases List.mem_cons.1 hy with rfl | hy
    · rfl
    · exact hreading hread hy
  | idle pr reading c changes hread hnone =>
    rcases List.mem_cons.1 hy with rfl | hy
    · rfl
    · exact hreading hread hy
  | launched pr reading c changes x outcomes hread hsome hlaunched =>
    rcases List.mem_cons.1 hy with rfl | hy
    · rfl
    · rcases List.mem_append.1 hy with hy | hy
      · exact hreading hread hy
      · exact hlaunched.isFeedback_eq_false hy

/-- Where something that a command needs could not be had, no job was asked for. -/
theorem Pursued.cases_obtained {work : List Service.Exchange} {r : Except Failure String}
    (h : Pursued s e url run work r) (second : List Service.Exchange) :
    (IsEmpty (Obtained s e url run (work ++ second)) ∧ (∃ failure, r = .error failure) ∧
        work.filterMap (·.call.job?) = []) ∨
      ∃ g : Obtained s e url run (work ++ second),
        work.filterMap (·.call.job?) = g.launches.exchanges.filterMap (·.call.job?) ∧
        ((g.projects = [] ∧ g.outcomes = [] ∧ r = .ok ("No projects to " ++ run.command.word)) ∨
          g.projects ≠ [] ∧ r = verdict g.outcomes) := by
  cases h with
  | unfetched failure =>
    refine .inl ⟨⟨fun g => ?_⟩, ⟨_, rfl⟩, rfl⟩
    cases (List.cons.inj g.log_eq).1
  | unread pr reading failure hread =>
    refine .inl ⟨⟨fun g => ?_⟩, ⟨_, rfl⟩, ?_⟩
    · obtain ⟨pr', bytes', config', changes', x, outcomes, feedback, hload', -, hlog⟩ := g
      obtain ⟨hpr, hlog⟩ := List.cons.inj hlog
      cases hpr
      -- the reading fails at another point than what was obtained says
      cases hread with
      | unfetched failure => cases (List.cons.inj hlog).1
      | unloaded bytes wrong hload =>
        cases (List.cons.inj hlog).1
        rw [hload] at hload'
        cases hload'
      | unlisted bytes c hload failure =>
        obtain ⟨-, hlog⟩ := List.cons.inj hlog
        cases (List.cons.inj hlog).1
    · cases hread with
      | unfetched failure => rfl
      | unloaded bytes wrong hload => rfl
      | unlisted bytes c hload failure => rfl
  | idle pr reading c changes hread hnone =>
    cases hread with
    | read bytes c hload changes =>
      have hidle : Launched s (targetOf e.repository pr e.issue.commentsUrl) run.command
          (selected run changes c.projects) { rest := [] } [] := by
        rw [hnone]
        exact ⟨.opening, rfl⟩
      exact .inr ⟨⟨pr, bytes, c, changes, _, _, second, hload, hidle, rfl⟩, rfl,
        .inl ⟨hnone, rfl, rfl⟩⟩
  | launched pr reading c changes x outcomes hread hsome hlaunched =>
    cases hread with
    | read bytes c hload changes =>
      refine .inr ⟨⟨pr, bytes, c, changes, x, outcomes, second, hload, hlaunched, ?_⟩, rfl,
        .inr ⟨hsome, rfl⟩⟩
      rw [List.cons_append, List.append_assoc]
      rfl

/-! ## What comes of a command -/

theorem told_of_ne_empty {output : String} (h : output ≠ "") :
    told output = some ("```\n" ++ output ++ "\n```") := by
  unfold told
  rw [if_neg]
  rwa [String.isEmpty_iff]

/-- There is something to tell unless every project has its job, and every project that has
none is named. -/
theorem told_failureSummary (outcomes : List Outcome) :
    (told (Launch.failureSummary outcomes) = none ↔
      ∀ o ∈ outcomes, o.isDispatched = true) ∧
    ∀ text, told (Launch.failureSummary outcomes) = some text →
      ∀ o ∈ outcomes, o.isDispatched = false → o.context.toList <:+: text.toList := by
  rw [← Launch.failureSummary_eq_empty_iff]
  by_cases hempty : Launch.failureSummary outcomes = ""
  · rw [hempty]
    refine ⟨by simp [told], ?_⟩
    rintro text ⟨⟩
  · rw [told_of_ne_empty hempty]
    refine ⟨by simp [hempty], ?_⟩
    rintro text ⟨⟩ o ho hno
    refine (Launch.context_infix_failureSummary ho hno).trans ?_
    rw [String.toList_append, String.toList_append]
    exact List.infix_append _ _ _

/-- What is answered where all was obtained that a command needs. -/
theorem Obtained.answered {work second : List Service.Exchange} {r : Except Failure String}
    {result : Except Failure Unit} (g : Obtained s e url run (work ++ second))
    (hwork : ∀ y ∈ work, y.call.isFeedback = false)
    (hreply : (reply e (r.mapError Failure.line)).run.Yields second result)
    (hr : (g.projects = [] ∧ g.outcomes = [] ∧ r = .ok ("No projects to " ++ run.command.word)) ∨
      g.projects ≠ [] ∧ r = verdict g.outcomes) :
    (work ++ second).filterMap (·.call.job?) = work.filterMap (·.call.job?) ∧
    (g.projects = [] ∨ (∃ o ∈ g.outcomes, o.isDispatched = true) →
      ∃ comment, Accepts e (work ++ second) result comment ∧
        (comment = none ↔ g.projects ≠ [] ∧ ∀ o ∈ g.outcomes, o.isDispatched = true) ∧
        ∀ text, comment = some text → ∀ o ∈ g.outcomes, o.isDispatched = false →
          o.context.toList <:+: text.toList) ∧
    (g.projects ≠ [] ∧ (∀ o ∈ g.outcomes, o.isDispatched = false) →
      Refuses e (work ++ second) result) := by
  rcases hr with ⟨hnone, hidle, rfl⟩ | ⟨hsome, rfl⟩
  · obtain ⟨haccepts, hjobs⟩ := accepts_of_yields hwork hreply
    refine ⟨hjobs, fun _ => ⟨_, haccepts, ?_, ?_⟩, fun h => absurd hnone h.1⟩
    · rw [told_of_ne_empty (by simp)]
      simp [hnone]
    · rw [hidle]
      rintro text - o ⟨⟩
  · by_cases hany : g.outcomes.any Outcome.isDispatched = true
    · rw [verdict, if_pos hany] at hreply
      obtain ⟨haccepts, hjobs⟩ := accepts_of_yields hwork hreply
      obtain ⟨hnone, hnamed⟩ := told_failureSummary g.outcomes
      obtain ⟨o, ho, hdispatched⟩ := List.any_eq_true.1 hany
      refine ⟨hjobs, fun _ => ⟨_, haccepts, ?_, hnamed⟩, fun h => ?_⟩
      · rw [hnone]
        exact ⟨fun h => ⟨hsome, h⟩, fun h => h.2⟩
      · rw [h.2 o ho] at hdispatched
        cases hdispatched
    · rw [verdict, if_neg hany] at hreply
      obtain ⟨hrefuses, hjobs⟩ := refuses_of_yields hwork hreply
      refine ⟨hjobs, fun h => ?_, fun _ => hrefuses⟩
      exact absurd (List.any_eq_true.2 (h.resolve_left hsome)) hany

/-- **What comes of a comment.** Whoever answers the calls, and in whatever order those of
the launches come, the work on a comment comes to its end. A comment that is not new, not
on a pull request or not for the bot is left alone. Otherwise the bot leaves one reaction,
and one comment or none, and whether these can be posted makes no difference.

It refuses what it cannot make sense of, and shows how it is used when it is asked to. A
command is refused if the pull request, its configuration or its files cannot be had; no
job is asked for then. With all of them at hand, the bot accepts exactly if there is no
project that both is changed and was asked for, or if at least one of these has its job.
It then comments exactly if there is no such project or one of them has no job, and names
the checks of all that have none. Jobs are asked for only for such projects, for each at
most once. -/
theorem onComment_spec (s : Settings) (e : CommentEvent) (order : List Nat)
    (host : List Service.Exchange → (c : Call) → c.Reply) :
    ∃ log result,
      Program.run (Program.noting host) [] (onComment s e order).run = (log, some result) ∧
      (e.action ≠ "created" ∨ e.issue.pullRequestUrl = none ∨
        Chat.parse e.comment.body = .ok none → log = [] ∧ result = .ok ()) ∧
      (e.action = "created" → ∀ url, e.issue.pullRequestUrl = some url →
        (∀ wrong, Chat.parse e.comment.body = .error wrong →
          Refuses e log result ∧ log.filterMap (·.call.job?) = []) ∧
        (Chat.parse e.comment.body = .ok (some .help) →
          Accepts e log result (some ("```\n" ++ Chat.usage ++ "\n```")) ∧
          log.filterMap (·.call.job?) = []) ∧
        (∀ run, Chat.parse e.comment.body = .ok (some (.run run)) →
          (IsEmpty (Obtained s e url run log) ∧ Refuses e log result ∧
            log.filterMap (·.call.job?) = []) ∨
          ∃ g : Obtained s e url run log,
            (g.projects = [] ∨ (∃ o ∈ g.outcomes, o.isDispatched = true) →
              ∃ comment, Accepts e log result comment ∧
                (comment = none ↔ g.projects ≠ [] ∧ ∀ o ∈ g.outcomes, o.isDispatched = true) ∧
                ∀ text, comment = some text → ∀ o ∈ g.outcomes, o.isDispatched = false →
                  o.context.toList <:+: text.toList) ∧
            (g.projects ≠ [] ∧ (∀ o ∈ g.outcomes, o.isDispatched = false) →
              Refuses e log result) ∧
            ∃ asked : List Project, asked.Nodup ∧ asked ⊆ g.projects ∧
              log.filterMap (·.call.job?) = asked.map
                (Launch.job s (targetOf e.repository g.pr e.issue.commentsUrl) run.command))) := by
  obtain ⟨log, result, hrun, hyields⟩ := Program.run_noting host [] (onComment s e order).run
  rw [List.nil_append] at hrun
  refine ⟨log, result, hrun, (yields_onComment_of_unasked · hyields), fun haction url hurl => ⟨?_, ?_, ?_⟩⟩
  · intro wrong hparse
    have hasked : Chat.parse e.comment.body =
        (Except.error wrong : Except Chat.Error Chat.Request).map some := hparse
    obtain ⟨answer, work, second, rfl, hanswer, hreply⟩ :=
      yields_onComment haction hurl hasked hyields
    obtain ⟨rfl, rfl⟩ := Program.yields_done_iff.1 hanswer
    exact refuses_of_yields (by simp) hreply
  · intro hparse
    have hasked : Chat.parse e.comment.body = (Except.ok Chat.Request.help).map some := hparse
    obtain ⟨answer, work, second, rfl, hanswer, hreply⟩ :=
      yields_onComment haction hurl hasked hyields
    obtain ⟨rfl, rfl⟩ := Program.yields_done_iff.1 hanswer
    have husage : Chat.usage ≠ "" := by decide +kernel
    rw [← told_of_ne_empty husage]
    exact accepts_of_yields (by simp) hreply
  · intro run hparse
    have hasked : Chat.parse e.comment.body = (Except.ok (Chat.Request.run run)).map some := hparse
    obtain ⟨answer, work, second, rfl, hanswer, hreply⟩ :=
      yields_onComment haction hurl hasked hyields
    obtain ⟨r, hpursued, rfl⟩ := yields_answerChat_run hanswer
    have hwork : ∀ y ∈ work, y.call.isFeedback = false := fun y => hpursued.isFeedback_eq_false
    rcases hpursued.cases_obtained second with ⟨hempty, ⟨failure, rfl⟩, hjobs⟩ | ⟨g, hjobs, hr⟩
    · obtain ⟨hrefuses, hsame⟩ := refuses_of_yields hwork hreply
      exact .inl ⟨hempty, hrefuses, hsame.trans hjobs⟩
    · obtain ⟨hsame, haccepts, hrefuses⟩ := g.answered hwork hreply hr
      have hnodup : g.projects.Nodup := (Trigger.nodup_projects _ _ _).filter _
      obtain ⟨asked, hasked, hsubset, hmap⟩ := g.launched.jobs hnodup
      exact .inr ⟨g, haccepts, hrefuses, asked, hasked, hsubset, hsame.trans (hjobs.trans hmap)⟩

end Bot

end Groundwork
