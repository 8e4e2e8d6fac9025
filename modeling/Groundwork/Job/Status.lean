/-
How a job says that it ended.
-/
import Groundwork.Check.State
import Groundwork.Json.Variant

set_option autoImplicit false

namespace Groundwork.Job

/-- How a job says that it ended. -/
inductive Status where
  | succeeded
  | failed
deriving DecidableEq, Repr

namespace Status

/-- The conclusion of the job's check. -/
def conclusion : Status → Check.Conclusion
  | succeeded => .success
  | failed => .failure

/-- The status as people read it. -/
def display : Status → String
  | succeeded => "Succeeded"
  | failed => "Failed"

/-- The status as it is reported. -/
def wire : Status → String
  | succeeded => "SUCCEEDED"
  | failed => "FAILED"

/-- The status that a report holds. -/
def ofJson? (v : Json) : Option Status :=
  v.choice?.bind fun name => [succeeded, failed].find? (·.wire = name)

/-- What is written can be read. -/
theorem ofJson?_wire (s : Status) : ofJson? (.string s.wire) = some s := by
  cases s <;> rfl

end Status

end Groundwork.Job
