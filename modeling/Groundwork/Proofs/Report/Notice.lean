/-
Reports of either kind, and the calls that the work on them makes. That a job started
is always worked on. That it ended is worked on unless its key is marked.

The main statements here are `Notice.work_recites`, that the work on a report makes the
same calls whatever becomes of them, and `Finished.calls`, which lists them: one
status, and one comment where there is a place for it. A failed post changes nothing,
for the work goes on regardless.

The lists give the statuses word by word, as whoever looks at the commit is shown them.
That these are the statuses of the states that the reports say is a fact of its own
(`Started.told_eq`, `Finished.told_eq`).
-/
import Groundwork.Proofs.Program.Recital
import Groundwork.Report.Service

set_option autoImplicit false

namespace Groundwork.Service

/-- The status that a call posts, and where it posts it. -/
def Call.status? : Call → Option (String × CommitStatus)
  | .createStatus url status => some (url, status)
  | _ => none

/-- The status that a call posts for one check. -/
def Call.statusFor? (url context : String) (c : Call) : Option CommitStatus :=
  c.status?.bind fun p => if p.1 = url ∧ p.2.context = context then some p.2 else none

theorem Call.statusFor?_eq_some_iff {url context : String} {c : Call} {s : CommitStatus} :
    c.statusFor? url context = some s ↔ c.status? = some (url, s) ∧ s.context = context := by
  unfold Call.statusFor?
  rw [Option.bind_eq_some_iff]
  constructor
  · rintro ⟨⟨u, t⟩, hp, hs⟩
    split at hs
    · next h =>
      cases hs
      obtain ⟨rfl, rfl⟩ := h
      exact ⟨hp, rfl⟩
    · cases hs
  · rintro ⟨hp, rfl⟩
    exact ⟨(url, s), hp, if_pos ⟨rfl, rfl⟩⟩

/-- The comment that a call makes, and where it makes it. -/
def Call.comment? : Call → Option (String × String)
  | .createComment url text => some (url, text)
  | _ => none

/-- What is answered by one who takes whatever is posted, runs whatever is dispatched,
and has nothing that could be read. -/
def Call.granted : (c : Call) → c.Reply
  | .fetchFile .. | .listFiles .. | .getPullRequest _ | .getCommit .. => .error ⟨"not found", []⟩
  | .createStatus .. | .createComment .. | .react .. => .ok ()
  | .dispatch job => .ok job.baseName

end Groundwork.Service

namespace Groundwork.Report

open Groundwork.Service (Call Talk)
open Groundwork.Program (Recites)

/-- What a job reports. -/
inductive Notice where
  | started (report : Started)
  | finished (report : Finished)
deriving DecidableEq, Repr

/-! ## The calls of the work -/

/-- The status that is posted when a job started. -/
def Started.told (r : Started) : CommitStatus where
  state := "pending"
  description := "Turnip is running"
  context := r.checkName

/-- The status that is posted when a job ended. -/
def Finished.told (r : Finished) : CommitStatus where
  state := if r.status = .succeeded then "success" else "failure"
  description := if r.status = .succeeded then "Turnip succeeded" else "Turnip failed"
  context := r.checkName

/-- A job that started has its check shown as running. -/
theorem Started.told_eq (r : Started) : r.told = Check.statusOf r.checkName .running none := rfl

/-- A job that ended has its check shown as what the job came to. -/
theorem Finished.told_eq (r : Finished) :
    r.told = Check.statusOf r.checkName r.status.conclusion.state none := by
  unfold told
  cases r.status with
  | succeeded => rfl
  | failed => rfl

/-- The calls of the work on a report that a job started. -/
def Started.calls (r : Started) : List Call :=
  [.createStatus r.checkUrl r.told]

/-- The calls of the work on a report that a job ended: the status, and the comment if
there is a place for it. -/
def Finished.calls (r : Finished) : List Call :=
  .createStatus r.checkUrl r.told ::
    if r.commentsUrl.isEmpty then [] else [.createComment r.commentsUrl r.comment]

theorem Finished.statuses_calls (r : Finished) :
    r.calls.filterMap Call.status? = [(r.checkUrl, r.told)] := by
  simp only [calls, List.filterMap_cons, Call.status?]
  split
  · rfl
  · rfl

theorem Finished.comments_calls (r : Finished) : r.calls.filterMap Call.comment? =
    if r.commentsUrl = "" then [] else [(r.commentsUrl, r.comment)] := by
  simp only [calls, List.filterMap_cons, Call.comment?, String.isEmpty_iff]
  split
  · rfl
  · rfl

/-- A call whose failure does not matter is made, and that is all. -/
theorem recites_regardless {expected : (c : Call) → c.Reply → Prop} (c : Call) :
    Recites expected [c] (Groundwork.Service.ask c).regardless :=
  ⟨fun _ => .done (), rfl, fun _ _ => ⟨(), rfl⟩⟩

/-- The same with an account of what was being done. -/
theorem recites_within_regardless {expected : (c : Call) → c.Reply → Prop} (c : Call)
    (doing : String) : Recites expected [c] ((Groundwork.Service.ask c).within doing).regardless :=
  ⟨fun _ => .done (), rfl, fun _ _ => ⟨(), rfl⟩⟩

theorem Started.work_recites {expected : (c : Call) → c.Reply → Prop} (r : Started) :
    Recites expected r.calls r.work := by
  unfold calls
  rw [r.told_eq]
  exact recites_regardless _

/-- The comment is made if there is a place for it, and nothing is otherwise. -/
theorem Finished.tell_recites {expected : (c : Call) → c.Reply → Prop} (r : Finished) :
    Recites expected (if r.commentsUrl.isEmpty then [] else [.createComment r.commentsUrl r.comment])
      r.tell := by
  unfold Finished.tell
  split
  · exact Program.recites_done ()
  · exact recites_regardless _

theorem Finished.work_recites {expected : (c : Call) → c.Reply → Prop} (r : Finished) :
    Recites expected r.calls r.work := by
  have hstatus : Recites expected [.createStatus r.checkUrl r.told]
      (Check.finish r.checkUrl r.checkName r.status.conclusion).regardless := by
    rw [r.told_eq]
    exact recites_within_regardless _ _
  exact hstatus.bind fun _ => r.tell_recites

namespace Notice

/-- Where the statuses of the check are posted. -/
def checkUrl : Notice → String
  | started r => r.checkUrl
  | finished r => r.checkUrl

/-- The name of the check. -/
def checkName : Notice → String
  | started r => r.checkName
  | finished r => r.checkName

/-- Where the check stands by a report. -/
def state : Notice → Check.State
  | started _ => .running
  | finished r => r.status.conclusion.state

/-- Whether a report says that the job started. -/
def isStarted : Notice → Bool
  | started _ => true
  | finished _ => false

/-- Whether a report says that the job ended. -/
def isFinished : Notice → Bool
  | started _ => false
  | finished _ => true

/-- The work on a report. -/
def work : Notice → Talk Unit
  | started r => r.work
  | finished r => r.work

/-- The calls of the work on a report. -/
def calls : Notice → List Call
  | started r => r.calls
  | finished r => r.calls

/-- The work on a report makes the same calls whatever becomes of them. -/
theorem work_recites {expected : (c : Call) → c.Reply → Prop} (n : Notice) :
    Recites expected n.calls n.work := by
  cases n with
  | started r => exact r.work_recites
  | finished r => exact r.work_recites

/-- They post where the check stands, and no other status. -/
theorem statuses_calls (n : Notice) :
    n.calls.filterMap Call.status? = [(n.checkUrl, Check.statusOf n.checkName n.state none)] := by
  cases n with
  | started r => rfl
  | finished r =>
    show r.calls.filterMap Call.status? = _
    rw [r.statuses_calls, r.told_eq]
    rfl

end Notice

/-- Whether a report that comes now is to be worked on, and the service after it came. -/
def Service.receive (s : Service) (now : Nat) : Notice → Bool × Service
  | .started _ => (true, s)
  | .finished r => s.arrive now r

/-- The report that the job of a project failed. -/
def failedJob : Finished where
  checkUrl := "/repos/acme/infra/statuses/abc"
  checkName := "turnip/terraform/plan/infra/staging"
  status := .failed
  commentsUrl := "/repos/acme/infra/issues/7/comments"
  command := "plan"
  projectDir := "infra"
  projectWorkspace := "staging"

end Groundwork.Report
