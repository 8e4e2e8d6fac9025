/-
The life of a check: queued when its job is triggered, running when the job says
so, and succeeded or failed for good.
-/
set_option autoImplicit false

namespace Groundwork.Check

/-- Where a check stands. -/
inductive State where
  | queued
  | running
  | succeeded
  | failed
deriving DecidableEq, Repr

/-- How a job ended. -/
inductive Conclusion where
  | success
  | failure
deriving DecidableEq, Repr

/-- Where a check stands once its job has ended. -/
def Conclusion.state : Conclusion → State
  | .success => .succeeded
  | .failure => .failed

/-- The name of a conclusion. -/
def Conclusion.name : Conclusion → String
  | .success => "success"
  | .failure => "failure"

namespace State

/-- Whether the check is over. -/
def isTerminal : State → Bool
  | succeeded | failed => true
  | queued | running => false

/-- Whether a check may go from one state to another. A job may end before its
start was reported, and its start may be reported again. -/
def canBecome : State → State → Bool
  | queued, running => true
  | queued, succeeded | queued, failed => true
  | running, succeeded | running, failed => true
  | running, running => true
  | _, _ => false

/-- The state that is posted as the commit status. -/
def posted : State → String
  | queued | running => "pending"
  | succeeded => "success"
  | failed => "failure"

/-- The description that is posted beside it. -/
def description : State → String
  | queued => "Queued"
  | running => "Turnip is running"
  | succeeded => "Turnip succeeded"
  | failed => "Turnip failed"

/-- A check that is over stays as it is. -/
theorem canBecome_of_isTerminal {s t : State} (h : s.isTerminal = true) : s.canBecome t = false := by
  cases s <;> cases t <;> simp_all [isTerminal, canBecome]

/-- A check that is not over can still fail. -/
theorem canBecome_failed {s : State} : s.canBecome failed = !s.isTerminal := by
  cases s <;> rfl

end State

end Groundwork.Check
