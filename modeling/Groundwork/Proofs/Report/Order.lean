/-
The order of reports, and what it does to a check. The reports on one check are dealt
with one after the other, within one window, and each asks for statuses to be posted.
The states that are posted follow the life of a check exactly if no job is reported to
have started after one was reported to have ended (`lawful_iff_starts_first`).

The end of a job is posted once, for the first report marks the key and the mark lasts.
The start is posted whenever it is reported, and nothing is asked of the memory for it.
So a start that is reported late puts a check that is over back to where it runs.
-/
import Groundwork.Proofs.Traffic.Marks
import Mathlib.Data.List.Chain

set_option autoImplicit false

namespace Groundwork

open Groundwork.Service (Call)

/-! ## Which state a status shows -/

namespace Check

/-- All states. -/
def State.all : List State := [queued, running, succeeded, failed]

/-- The state that a status shows, if it has the usual description. -/
def State.ofStatus? (s : CommitStatus) : Option State :=
  State.all.find? fun state => s.state == state.posted && s.description == state.description

/-- The status that says where a check stands shows that. -/
theorem State.ofStatus?_statusOf (context : String) (state : State) :
    State.ofStatus? (statusOf context state none) = some state := by
  cases state <;> rfl

/-- The state that a call posts for a check, if it posts one for this check. -/
def shown? (url context : String) (c : Call) : Option State :=
  (c.statusFor? url context).bind State.ofStatus?

/-- The state in which the end of a job leaves its check is one in which it is over. -/
theorem Conclusion.isTerminal_state (c : Conclusion) : c.state.isTerminal = true := by
  cases c <;> rfl

/-- A check that runs may go on to any state but the first. -/
theorem State.canBecome_of_running {state : State} (h : state ≠ .queued) :
    State.running.canBecome state = true := by
  cases state with
  | queued => exact absurd rfl h
  | running | succeeded | failed => rfl

end Check

namespace Report

/-! ## What reports post -/

theorem Notice.state_ne_queued (n : Notice) : n.state ≠ .queued := by
  cases n with
  | started r =>
    intro h
    cases h
  | finished r =>
    intro h
    have hterminal := r.status.conclusion.isTerminal_state
    rw [Notice.state] at h
    rw [h] at hterminal
    cases hterminal

/-- The calls of a report show its state, and nothing else, for its check. -/
theorem Notice.shown_calls (n : Notice) :
    n.calls.filterMap (Check.shown? n.checkUrl n.checkName) = [n.state] := by
  have hshown : ∀ c, Check.shown? n.checkUrl n.checkName c = c.status?.bind fun p =>
      if p.1 = n.checkUrl ∧ p.2.context = n.checkName then Check.State.ofStatus? p.2 else none := by
    intro c
    unfold Check.shown? Call.statusFor?
    cases c.status? with
    | none => rfl
    | some p =>
      simp only [Option.bind_some]
      split
      · rfl
      · rfl
  rw [List.filterMap_congr fun c _ => hshown c, ← List.filterMap_filterMap, n.statuses_calls,
    List.filterMap_cons, if_pos ⟨rfl, rfl⟩, Check.State.ofStatus?_statusOf]
  rfl

/-- The key of a report is that of its check. -/
theorem Finished.key_eq (r : Finished) {url context : String} (hurl : r.checkUrl = url)
    (hname : r.checkName = context) : r.key = url ++ "/" ++ context := by
  subst hurl hname
  rfl

namespace Service

/-- The calls that reports lead to, each with the time at which it comes, if each is
dealt with before the next one comes and `host` answers the calls. -/
def callsFor (host : (c : Call) → c.Reply) : Service → List (Nat × Notice) → List Call
  | _, [] => []
  | s, (now, n) :: rest =>
    let received := s.receive now n
    (if received.1 then n.work.callsTo host else []) ++ callsFor host received.2 rest

/-- The states that reports post for a check. -/
def statesFor (host : (c : Call) → c.Reply) (s : Service) (url context : String)
    (reports : List (Nat × Notice)) : List Check.State :=
  (s.callsFor host reports).filterMap (Check.shown? url context)

variable {host : (c : Call) → c.Reply} {s : Service} {url context : String}

theorem statesFor_cons {now : Nat} {n : Notice} {rest : List (Nat × Notice)}
    (hurl : n.checkUrl = url) (hname : n.checkName = context) :
    s.statesFor host url context ((now, n) :: rest) =
      (if (s.receive now n).1 = true then [n.state] else []) ++
        (s.receive now n).2.statesFor host url context rest := by
  subst hurl hname
  unfold statesFor
  simp only [callsFor, List.filterMap_append, n.work_recites.callsTo_eq host]
  split
  · rw [n.shown_calls]
  · rfl

/-- The reports on one check. -/
def Concerns (url context : String) (reports : List (Nat × Notice)) : Prop :=
  ∀ p ∈ reports, p.2.checkUrl = url ∧ p.2.checkName = context

/-- While the key of a check is marked, its reports post that it runs, once for each
start, and nothing else. -/
theorem statesFor_of_marked {t : Nat} {reports : List (Nat × Notice)}
    (hmark : s.memory.markOf? (url ++ "/" ++ context) = some t)
    (hcheck : Concerns url context reports) (hwindow : ∀ p ∈ reports, p.1 < t + s.window) :
    s.statesFor host url context reports =
      (reports.filter (·.2.isStarted)).map fun _ => .running := by
  induction reports with
  | nil => rfl
  | cons p rest ih =>
    obtain ⟨now, n⟩ := p
    obtain ⟨⟨hurl, hname⟩, hcheck'⟩ := List.forall_mem_cons.1 hcheck
    obtain ⟨hnow, hwindow'⟩ := List.forall_mem_cons.1 hwindow
    rw [statesFor_cons hurl hname]
    cases n with
    | started r =>
      rw [List.filter_cons_of_pos rfl, List.map_cons, ← ih hcheck' hwindow']
      rfl
    | finished r =>
      have hkey := r.key_eq hurl hname
      have hmarked : s.memory.isMarked s.window now r.key = true := by
        rw [hkey, Memory.isMarked, hmark]
        simpa using hnow
      have harrive : s.arrive now r = (false, s) := by
        simp only [arrive, Memory.checkAndMark, hmarked, if_pos, Bool.not_true]
      rw [List.filter_cons_of_neg (by simp [Notice.isStarted]), ← ih hcheck' hwindow']
      simp only [receive, harrive, Bool.false_eq_true, if_false, List.nil_append]

/-- The states that reports on one check post within one window: that it runs for each
start, and how the job ended for the first end. -/
def statesWithinWindow : List Notice → List Check.State
  | [] => []
  | .started _ :: rest => .running :: statesWithinWindow rest
  | .finished r :: rest =>
    r.status.conclusion.state :: (rest.filter (·.isStarted)).map fun _ => .running

/-- That is what they post if the key of the check bears no mark. -/
theorem statesFor_of_unmarked {reports : List (Nat × Notice)}
    (hmark : s.memory.markOf? (url ++ "/" ++ context) = none)
    (hcheck : Concerns url context reports)
    (hwindow : ∀ p ∈ reports, ∀ q ∈ reports, q.1 < p.1 + s.window) :
    s.statesFor host url context reports = statesWithinWindow (reports.map (·.2)) := by
  induction reports with
  | nil => rfl
  | cons p rest ih =>
    obtain ⟨now, n⟩ := p
    obtain ⟨⟨hurl, hname⟩, hcheck'⟩ := List.forall_mem_cons.1 hcheck
    rw [statesFor_cons hurl hname]
    cases n with
    | started r =>
      have hrest := ih hcheck' fun p hp q hq =>
        hwindow p (List.mem_cons_of_mem _ hp) q (List.mem_cons_of_mem _ hq)
      simp only [receive, if_pos, Notice.state, List.map_cons, statesWithinWindow,
        List.singleton_append, hrest]
    | finished r =>
      have hkey := r.key_eq hurl hname
      have htaken : (s.arrive now r).1 = true := by
        rw [arrive_fst, hkey, Memory.isMarked, hmark]
        rfl
      have hmarked : (s.arrive now r).2.memory.markOf? (url ++ "/" ++ context) = some now := by
        rw [markOf?_arrive, if_pos ⟨htaken, hkey⟩]
      have hrest : (s.arrive now r).2.statesFor host url context rest =
          (rest.filter (·.2.isStarted)).map fun _ => .running :=
        statesFor_of_marked hmarked hcheck' fun p hp =>
          hwindow (now, .finished r) List.mem_cons_self p (List.mem_cons_of_mem _ hp)
      simp only [receive, htaken, if_pos, Notice.state, List.map_cons, statesWithinWindow,
        List.singleton_append, hrest, List.filter_map, List.map_map, Function.comp_def]

end Service

/-! ## When the states follow the life of a check -/

/-- No job is reported to have started after one was reported to have ended. -/
def StartsFirst (reports : List Notice) : Prop :=
  reports.Pairwise fun m n => ¬ (m.isFinished = true ∧ n.isStarted = true)

theorem startsFirst_started {r : Started} {rest : List Notice} :
    StartsFirst (.started r :: rest) ↔ StartsFirst rest := by
  unfold StartsFirst
  rw [List.pairwise_cons]
  refine and_iff_right fun n _ h => ?_
  cases h.1

theorem startsFirst_finished {r : Finished} {rest : List Notice} :
    StartsFirst (.finished r :: rest) ↔ rest.filter (·.isStarted) = [] := by
  unfold StartsFirst
  rw [List.pairwise_cons, List.filter_eq_nil_iff]
  constructor
  · rintro ⟨hfirst, -⟩ n hn hstarted
    exact hfirst n hn ⟨rfl, hstarted⟩
  · intro hnone
    refine ⟨fun n hn h => hnone n hn h.2, ?_⟩
    refine List.Pairwise.imp_of_mem (R := fun _ _ => True) ?_ (List.pairwise_of_forall fun _ _ => trivial)
    intro m n _ hn _ h
    exact hnone n hn h.2

/-- No report posts that a check is queued. -/
theorem queued_notMem_statesWithinWindow (reports : List Notice) :
    Check.State.queued ∉ Service.statesWithinWindow reports := by
  induction reports with
  | nil => exact List.not_mem_nil
  | cons n rest ih =>
    cases n with
    | started r =>
      simp only [Service.statesWithinWindow, List.mem_cons, not_or]
      exact ⟨by decide, ih⟩
    | finished r =>
      simp only [Service.statesWithinWindow, List.mem_cons, not_or]
      refine ⟨fun h => (Notice.finished r).state_ne_queued h.symm, ?_⟩
      intro hmem
      obtain ⟨-, -, h⟩ := List.mem_map.1 hmem
      cases h

/-- Each state may follow the one before exactly if the starts come first. -/
theorem isChain_statesWithinWindow_iff (reports : List Notice) :
    (Service.statesWithinWindow reports).IsChain (fun a b => a.canBecome b = true) ↔
      StartsFirst reports := by
  induction reports with
  | nil => exact ⟨fun _ => List.Pairwise.nil, fun _ => List.IsChain.nil⟩
  | cons n rest ih =>
    cases n with
    | started r =>
      rw [startsFirst_started, ← ih, Service.statesWithinWindow, List.isChain_cons]
      refine and_iff_right fun state hstate => Check.State.canBecome_of_running ?_
      rintro rfl
      exact queued_notMem_statesWithinWindow rest (List.mem_of_mem_head? hstate)
    | finished r =>
      rw [startsFirst_finished, Service.statesWithinWindow]
      have hover := r.status.conclusion.isTerminal_state
      cases rest.filter (·.isStarted) with
      | nil => simp
      | cons m ms => simp [Check.State.canBecome_of_isTerminal hover]

/-- No pending status follows one that shows the check over exactly if the starts come
first. -/
theorem pairwise_statesWithinWindow_iff (reports : List Notice) :
    (Service.statesWithinWindow reports).Pairwise
        (fun a b => a.isTerminal = true → b.posted ≠ "pending") ↔ StartsFirst reports := by
  induction reports with
  | nil => exact ⟨fun _ => List.Pairwise.nil, fun _ => List.Pairwise.nil⟩
  | cons n rest ih =>
    cases n with
    | started r =>
      rw [startsFirst_started, ← ih, Service.statesWithinWindow, List.pairwise_cons]
      refine and_iff_right fun state _ h => ?_
      cases h
    | finished r =>
      rw [startsFirst_finished, Service.statesWithinWindow, List.pairwise_cons]
      have hover := r.status.conclusion.isTerminal_state
      cases rest.filter (·.isStarted) with
      | nil => simp
      | cons m ms =>
        simp only [List.map_cons, reduceCtorEq, iff_false]
        rintro ⟨hnone, -⟩
        exact hnone .running List.mem_cons_self hover rfl

/-- **When a check that is over stays over.** Reports on one check come one after the
other, all within one window, to a service that bears no mark on it. The states that
they post follow each other as a check may go, and none is pending once one was posted
that shows the check over, exactly if no start is reported after an end. -/
theorem lawful_iff_starts_first {s : Service} {url context : String}
    (hmark : s.memory.markOf? (url ++ "/" ++ context) = none) {reports : List (Nat × Notice)}
    (hcheck : ∀ p ∈ reports, p.2.checkUrl = url ∧ p.2.checkName = context)
    (hwindow : ∀ p ∈ reports, ∀ q ∈ reports, q.1 < p.1 + s.window)
    (host : (c : Call) → c.Reply) :
    ((s.statesFor host url context reports).IsChain (fun a b => a.canBecome b = true) ↔
      reports.Pairwise fun p q => ¬ (p.2.isFinished = true ∧ q.2.isStarted = true)) ∧
    ((s.statesFor host url context reports).Pairwise
        (fun a b => a.isTerminal = true → b.posted ≠ "pending") ↔
      reports.Pairwise fun p q => ¬ (p.2.isFinished = true ∧ q.2.isStarted = true)) := by
  have hstates : s.statesFor host url context reports =
      Service.statesWithinWindow (reports.map (·.2)) :=
    Service.statesFor_of_unmarked hmark hcheck hwindow
  have horder : StartsFirst (reports.map (·.2)) ↔
      reports.Pairwise fun p q => ¬ (p.2.isFinished = true ∧ q.2.isStarted = true) :=
    List.pairwise_map
  rw [hstates, ← horder]
  exact ⟨isChain_statesWithinWindow_iff _, pairwise_statesWithinWindow_iff _⟩

/-- The report that the same job started. -/
def failedJobStart : Started := ⟨failedJob.checkUrl, failedJob.checkName⟩

/-- Both reports come twice, the starts first. -/
def twiceInOrder : List (Nat × Notice) :=
  [(0, .started failedJobStart), (10, .started failedJobStart), (20, .finished failedJob),
    (40, .finished failedJob)]

/-- The check goes as it may. -/
theorem lawful_twiceInOrder :
    (({ window := 30000 } : Service).statesFor Call.granted failedJob.checkUrl failedJob.checkName
      twiceInOrder).IsChain (fun a b => a.canBecome b = true) := by
  have hcheck : ∀ p ∈ twiceInOrder,
      p.2.checkUrl = failedJob.checkUrl ∧ p.2.checkName = failedJob.checkName := by decide
  have hwindow : ∀ p ∈ twiceInOrder, ∀ q ∈ twiceInOrder, q.1 < p.1 + 30000 := by decide
  have hlawful := lawful_iff_starts_first (s := { window := 30000 }) rfl hcheck hwindow Call.granted
  exact hlawful.1.2 (by decide)

/-- The report of the start is overtaken by that of the end. The check failed, and is
then put back to where it runs. -/
theorem overtaken_start_reopens :
    let states := ({ window := 30000 } : Service).statesFor Call.granted failedJob.checkUrl
      failedJob.checkName [(0, .finished failedJob), (1, .started failedJobStart)]
    states = [.failed, .running] ∧ ¬ states.IsChain (fun a b => a.canBecome b = true) ∧
      ¬ states.Pairwise (fun a b => a.isTerminal = true → b.posted ≠ "pending") := by
  intro states
  have hstates : states = [.failed, .running] := by decide +kernel
  rw [hstates]
  exact ⟨rfl, by decide, by decide⟩

end Report

end Groundwork
