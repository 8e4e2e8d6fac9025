/-
Projects that are launched at once. Between any two calls of one of them the others may
make theirs, and still each comes to its end by itself: its calls are those of a launch
of its own, and what it comes to depends on their answers only.

`Launched` says that some projects were launched to the end, with all that happened.
`fates_of_launches` is the statement about them, and what carries it is that the
exchanges of one among others are a run of its own (`Joint.Reaches.yields`).
-/
import Groundwork.Proofs.Launch.Fate
import Groundwork.Proofs.Program.Joint
import Groundwork.Proofs.Report.Notice
import Mathlib.Data.List.Nodup

set_option autoImplicit false

namespace Groundwork.Launch

open Groundwork.Service (Call Talk)
open Groundwork.Program (Joint)

/-- Some projects were launched at once, each to its end, and `x` is what happened. -/
structure Launched (s : Settings) (t : Target) (c : Command) (ps : List Project)
    (x : Joint Call Call.Reply Outcome) (outcomes : List Outcome) : Prop where
  reached : Joint.Reaches (ps.map (project s t c)) x
  rest_eq : x.rest = outcomes.map .done

variable {s : Settings} {t : Target} {c : Command} {ps : List Project}
  {x : Joint Call Call.Reply Outcome} {outcomes : List Outcome}

/-- Whatever can come of launches at once comes of what can happen. -/
theorem exists_launched {order : List Nat} {log : List Service.Exchange}
    (h : (projects s t c ps order).Yields log outcomes) :
    ∃ x, Launched s t c ps x outcomes ∧ x.exchanges = log := by
  obtain ⟨x, hx, hrest, hlog⟩ := Joint.Reaches.opening.of_yields_weave h
  exact ⟨x, ⟨hx, hrest⟩, hlog⟩

namespace Launched

/-- And what can happen comes of launches whose calls are in this order. -/
theorem yields (h : Launched s t c ps x outcomes) :
    (projects s t c ps (x.log.map (·.1))).Yields x.exchanges outcomes :=
  h.reached.woven h.rest_eq

/-- There is one outcome for each project. -/
theorem length_eq (h : Launched s t c ps x outcomes) : outcomes.length = ps.length := by
  have hlen := h.reached.length_rest
  rwa [h.rest_eq, List.length_map, List.length_map] at hlen

/-- Each project comes to an end of its own. -/
theorem fate (h : Launched s t c ps x outcomes) {i : Nat} {p : Project} (hp : ps[i]? = some p) :
    ∃ o, outcomes[i]? = some o ∧ Fate s t c p (x.logOf i) o := by
  have hproject : (ps.map (project s t c))[i]? = some (project s t c p) := by
    rw [List.getElem?_map, hp]
    rfl
  obtain ⟨o, ho, hyields⟩ := h.reached.yields h.rest_eq hproject
  exact ⟨o, ho, yields_project_iff.1 hyields⟩

/-- The outcomes are told in the order of the projects, by the names of their checks. -/
theorem contexts (h : Launched s t c ps x outcomes) :
    outcomes.map (·.context) = ps.map (·.checkContext c) := by
  refine List.ext_getElem? fun i => ?_
  rw [List.getElem?_map, List.getElem?_map]
  cases hp : ps[i]? with
  | none =>
    rw [List.getElem?_eq_none_iff, ← h.length_eq, ← List.getElem?_eq_none_iff] at hp
    rw [hp]
    rfl
  | some p =>
    obtain ⟨o, ho, hfate⟩ := h.fate hp
    rw [ho, Option.map_some, Option.map_some, hfate.context]

/-- An exchange is one of a project. -/
theorem exists_project (h : Launched s t c ps x outcomes) {e : Nat × Service.Exchange}
    (he : e ∈ x.log) : ∃ p, ps[e.1]? = some p ∧ e.2 ∈ x.logOf e.1 := by
  have hlt := h.reached.lt_length he
  rw [List.length_map] at hlt
  exact ⟨ps[e.1], List.getElem?_eq_getElem hlt, Joint.mem_logOf.2 he⟩

/-- The calls are those of launches of the projects. -/
theorem call_cases (h : Launched s t c ps x outcomes) {e : Service.Exchange}
    (he : e ∈ x.exchanges) : ∃ p ∈ ps,
      e.call = queueCall t c p ∨ e.call = .dispatch (job s t c p) ∨ e.call = failCall t c p := by
  obtain ⟨⟨i, e⟩, hlog, rfl⟩ := List.mem_map.1 he
  obtain ⟨p, hp, hmem⟩ := h.exists_project hlog
  obtain ⟨o, -, hfate⟩ := h.fate hp
  exact ⟨p, List.mem_of_getElem? hp, hfate.call_cases hmem⟩

/-- No project asks for its job twice. -/
theorem nodup_askers (h : Launched s t c ps x outcomes) :
    ((x.log.filter (·.2.call.job?.isSome)).map (·.1)).Nodup := by
  refine List.nodup_iff_count_le_one.2 fun i => ?_
  -- a number comes here as often as its own log asks for a job, which is once at most
  have hcount : ((x.log.filter (·.2.call.job?.isSome)).map (·.1)).count i =
      ((x.logOf i).filterMap (·.call.job?)).length := by
    unfold Joint.logOf
    induction x.log with
    | nil => rfl
    | cons e log ih =>
      cases hjob : e.2.call.job? with
      | none => by_cases hi : e.1 = i <;> simp [hjob, hi, ih]
      | some j => by_cases hi : e.1 = i <;> simp [hjob, hi, ih]
  rw [hcount]
  cases hp : ps[i]? with
  | none =>
    -- no exchange bears the number of no project
    have hnone : x.logOf i = [] := by
      refine List.eq_nil_iff_forall_not_mem.2 fun e he => ?_
      obtain ⟨p, hp', -⟩ := h.exists_project (Joint.mem_logOf.1 he)
      rw [hp] at hp'
      cases hp'
    rw [hnone]
    exact Nat.zero_le 1
  | some p =>
    obtain ⟨o, -, hfate⟩ := h.fate hp
    rcases hfate.jobs with hjobs | hjobs
    · rw [hjobs]
      exact Nat.zero_le 1
    · rw [hjobs]
      exact Nat.le_refl 1

/-- The jobs that are asked for are those of some of the projects, each of which is another
one. -/
theorem jobs (h : Launched s t c ps x outcomes) (hnodup : ps.Nodup) :
    ∃ asked : List Project, asked.Nodup ∧ asked ⊆ ps ∧
      x.exchanges.filterMap (·.call.job?) = asked.map (job s t c) := by
  refine ⟨((x.log.filter (·.2.call.job?.isSome)).map (·.1)).filterMap (ps[·]?), ?_, ?_, ?_⟩
  · refine h.nodup_askers.filterMap fun i j p hi hj => ?_
    exact (List.getElem?_inj (List.getElem?_eq_some_iff.1 hi).1 hnodup).1 (hi.trans hj.symm)
  · intro p hp
    obtain ⟨i, -, hi⟩ := List.mem_filterMap.1 hp
    exact List.mem_of_getElem? hi
  · -- a call that asks for a job asks for that of the project whose number it bears
    rw [List.filterMap_map, List.map_filterMap, List.filterMap_filter]
    unfold Joint.exchanges
    rw [List.filterMap_map]
    refine List.filterMap_congr fun e he => ?_
    obtain ⟨p, hp, hmem⟩ := h.exists_project he
    obtain ⟨o, -, hfate⟩ := h.fate hp
    have hcall := hfate.call_cases hmem
    simp only [Function.comp_apply, hp]
    rcases hcall with hcall | hcall | hcall
    · rw [hcall]
      rfl
    · rw [hcall]
      rfl
    · rw [hcall]
      rfl

end Launched

/-- Launches that were begun can be brought to their end. -/
theorem exists_launched_of_reaches (h : Joint.Reaches (ps.map (project s t c)) x) :
    ∃ y outcomes, Launched s t c ps y outcomes ∧ x.exchanges <+: y.exchanges := by
  obtain ⟨y, outcomes, hy, hrest, hlog⟩ := h.exists_done Call.granted
  exact ⟨y, outcomes, ⟨hy, hrest⟩, hlog⟩

/-- **No check is left behind by a launch.** Some projects are launched at once, with their
calls in any order and answered in any way. What was begun can always be brought to an end,
and the ends are what the launches yield, each in an order of the calls.

There is one outcome for each project, in their order, and each project comes to it by one
of three ways: its check could not be queued, and nothing is dispatched; its check was
queued and a job dispatched whose record names this check; or the dispatch failed, and one
status that fails the check was posted, or at least tried. A record that could not be made
would be as one that cannot be dispatched. Launch a project among others, and again among
other ones: it makes the same exchanges and comes to the same, unless one and the same call
of its own is answered differently. There is nothing to say exactly if every project has its
job. -/
theorem fates_of_launches (s : Settings) (t : Target) (c : Command) (ps : List Project) :
    (∀ x, Joint.Reaches (ps.map (project s t c)) x →
      ∃ y outcomes, Launched s t c ps y outcomes ∧ x.exchanges <+: y.exchanges) ∧
    (∀ log outcomes, (∃ order, (projects s t c ps order).Yields log outcomes) ↔
      ∃ x, Launched s t c ps x outcomes ∧ x.exchanges = log) ∧
    (∀ x outcomes, Launched s t c ps x outcomes →
      outcomes.length = ps.length ∧ (∀ e ∈ x.log, e.1 < ps.length) ∧
      (∀ i p, ps[i]? = some p → ∃ o, outcomes[i]? = some o ∧ o.context = p.checkContext c ∧
        Fate s t c p (x.logOf i) o ∧
        ∀ qs y others j, Launched s t c qs y others → qs[j]? = some p →
          (x.logOf i = y.logOf j ∧ others[j]? = some o) ∨
          ∃ past call r r', r ≠ r' ∧ past ++ [⟨call, r⟩] <+: x.logOf i ∧
            past ++ [⟨call, r'⟩] <+: y.logOf j) ∧
      (failureSummary outcomes = "" ↔ ∀ o ∈ outcomes, o.isDispatched = true)) ∧
    (∀ p, (job s t c p).checkUrl? = some (t.repo.statusUrl t.sha) ∧
      (job s t c p).checkName? = some (p.checkContext c)) ∧
    (∀ p failure log o, (settle (check t c p) (.error failure)).Yields log o ↔
      ∃ reply : Except Failure Unit, log = [⟨failCall t c p, reply⟩] ∧
        o = .dispatchFailed { check t c p with state := if reply.isOk then .failed else .queued }
          failure) := by
  refine ⟨fun x => exists_launched_of_reaches, fun log outcomes => ⟨?_, ?_⟩, ?_, ?_,
    fun p failure log o => yields_settle_error_iff⟩
  · rintro ⟨order, h⟩
    exact exists_launched h
  · rintro ⟨x, h, rfl⟩
    exact ⟨_, h.yields⟩
  · intro x outcomes h
    have hnumbers : ∀ e ∈ x.log, e.1 < ps.length := by
      intro e he
      have hlt := h.reached.lt_length he
      rwa [List.length_map] at hlt
    refine ⟨h.length_eq, hnumbers, ?_, failureSummary_eq_empty_iff⟩
    intro i p hp
    obtain ⟨o, ho, hfate⟩ := h.fate hp
    refine ⟨o, ho, hfate.context, hfate, fun qs y others j hy hq => ?_⟩
    obtain ⟨o', ho', hfate'⟩ := hy.fate hq
    rcases (yields_project_iff.2 hfate).eq_or_parts (yields_project_iff.2 hfate') with
      ⟨hlog, rfl⟩ | hparts
    · exact .inl ⟨hlog, ho'⟩
    · exact .inr hparts
  · intro p
    exact ⟨Job.checkUrl?_ofOrder _ _ _, Job.checkName?_ofOrder _ _ _⟩

/-! ## Two projects, one of them without its job -/

/-- The settings of a service that reaches a scheduler. -/
def plainSettings : Settings where
  server := { port := 50000, apiToken := some "api-token" }
  github := { token := "secret" }
  scheduler := { url := "http://scheduler", namespaceName := "jobs" }

/-- A commit that projects can be launched for. -/
def plainTarget : Target where
  repo := .ofFullName "acme/infra"
  source := .ofFullName "acme/infra"
  headRef := "main"
  sha := "abc"
  commentsUrl := "/c"

/-- A project in one of its workspaces. -/
def infra (workspace : String) : Project where
  dir := "infra"
  workspace := workspace
  workflowName := "tf"
  workflow := { adapter := ⟨.terraform, { version := some "1.7.5" }⟩ }

/-- One that takes whatever is posted, but dispatches nothing. -/
def busy : (c : Call) → c.Reply
  | .dispatch _ => .error ⟨"dispatch unavailable", []⟩
  | c => c.granted

/-- Two projects at once, each with its check queued before the job of the other is asked
for. The one job is dispatched, and the other is not. -/
theorem fates_of_two_launches : ∃ x outcomes,
    Launched plainSettings plainTarget .plot [infra "staging", infra "production"] x outcomes ∧
    x.log.map (·.1) = [0, 1, 1, 0, 0] ∧ outcomes.length = 2 ∧
    (∃ o, outcomes[0]? = some o ∧
      Fate plainSettings plainTarget .plot (infra "staging") (x.logOf 0) o) ∧
    ¬ ∀ o ∈ outcomes, o.isDispatched = true := by
  obtain ⟨-, -, hfates, -, -⟩ := fates_of_launches plainSettings plainTarget .plot
    [infra "staging", infra "production"]
  let start : Joint Call Call.Reply Outcome :=
    { rest := [infra "staging", infra "production"].map (project plainSettings plainTarget .plot) }
  let staging : Check.Run :=
    { check plainTarget .plot (infra "staging") with state := .failed }
  let outcomes : List Outcome :=
    [.dispatchFailed staging ⟨"dispatch unavailable", []⟩,
      .dispatched (check plainTarget .plot (infra "production"))
        (job plainSettings plainTarget .plot (infra "production")).baseName]
  obtain ⟨x, hrun, horder, hrest⟩ : ∃ x, start.run? [(0, Call.granted), (1, Call.granted),
      (1, Call.granted), (0, busy), (0, Call.granted)] = some x ∧
      x.log.map (·.1) = [0, 1, 1, 0, 0] ∧ x.rest = outcomes.map .done := ⟨_, rfl, rfl, rfl⟩
  have h : Launched plainSettings plainTarget .plot [infra "staging", infra "production"] x outcomes :=
    ⟨Joint.Reaches.opening.run? hrun, hrest⟩
  obtain ⟨hlen, -, hends, hsummary⟩ := hfates x outcomes h
  obtain ⟨o, ho, -, hfate, -⟩ := hends 0 _ rfl
  refine ⟨x, outcomes, h, horder, hlen, ⟨o, ho, hfate⟩, fun hall => ?_⟩
  cases hall _ List.mem_cons_self

end Groundwork.Launch
