/-
Taking the reports of jobs. That a job started is posted and no more. That it ended is
posted and told once: whoever reports it first does the work, and the others find the
check marked. Work that is broken off takes the mark back, so that the report can be
made again.
-/
import Groundwork.Check.Run
import Groundwork.Report.Memory
import Groundwork.Report.Message

set_option autoImplicit false

namespace Groundwork.Report

open Groundwork.Service (Talk)

/-- One who takes reports: how long marks last, in milliseconds, and the marks. -/
structure Service where
  window : Nat
  memory : Memory := {}
deriving Repr

namespace Service

/-- The longest time that marks may last: a thousand years of 365 days. -/
def maxWindow : Nat := 31536000000 * 1000

/-- One who takes reports, if marks can last for so long. -/
def ofWindow? (window : Nat) : Option Service :=
  if window ≤ maxWindow then some { window } else none

/-- Whether a report that comes now is to be worked on. It is marked if so. -/
def arrive (s : Service) (now : Nat) (r : Finished) : Bool × Service :=
  let (marked, memory) := s.memory.checkAndMark s.window now r.key
  (!marked, { s with memory })

/-- The service once the work on a report was broken off. -/
def breakOff (s : Service) (r : Finished) : Service :=
  { s with memory := s.memory.forget r.key }

end Service

/-- Tells people how a job ended, where there is a place for it. -/
def Finished.tell (r : Finished) : Talk Unit :=
  if r.commentsUrl.isEmpty then return ()
  else (Groundwork.Service.ask (.createComment r.commentsUrl r.comment)).regardless

/-- The work on a report that a job ended. What fails of it does not matter to the job. -/
def Finished.work (r : Finished) : Talk Unit := do
  (Check.finish r.checkUrl r.checkName r.status.conclusion).regardless
  r.tell

/-- The work on a report that a job started. -/
def Started.work (r : Started) : Talk Unit :=
  Check.start r.checkUrl r.checkName

end Groundwork.Report
