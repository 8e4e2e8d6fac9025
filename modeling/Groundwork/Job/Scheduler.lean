/-
Schedulers that are reached over HTTP: the record of a job is posted as JSON, and the
name that the job was given comes back.
-/
import Groundwork.Http.Request
import Groundwork.Job.Record
import Groundwork.Json.Reader
import Groundwork.Json.Record
import Groundwork.Url

set_option autoImplicit false

namespace Groundwork.Job

/-- The name of the bot and its version. -/
def userAgent : String := "turnip/0.1.0"

/-- Whether a text can be said in a header. -/
def isHeaderText (s : String) : Bool :=
  s.toList.all fun c => (0x20 ≤ c.toNat && c.toNat ≠ 0x7f) || c = '\t'

/-- The request that posts a job, if it can be sent. -/
def postRequest? (s : Settings.Scheduler) (job : Job) : Option Http.Request := do
  let url ← Url.parse? s.url
  let target ← Http.target? url.route
  let token := s.token.map fun token => ("authorization", "Bearer " ++ token)
  if token.all fun t => isHeaderText t.2 then
    return {
      method := .post
      target
      headers := token.toList ++ [("user-agent", userAgent), ("content-type", "application/json")]
      body := job.toJson }
  else none

/-- Reads the name that a job was given. -/
def nameOfJson? (v : Json) : Option String := do
  (← v.fields? ["name"]).required "name" Json.string?

/-- Posts a job, and reads the name that it was given. Only statuses of 400 and above
say that it was not taken. -/
def post (s : Settings.Scheduler) (job : Job) : Http.WireWork String := do
  let failed : Failure := ⟨"Failed to dispatch job " ++ job.baseName, []⟩
  let some request := postRequest? s job | throw failed
  match ← Http.send request with
  | .answer status bytes =>
    -- Any other status is fine as long as a name comes with it.
    if 400 ≤ status then throw failed
    match (Json.ofBytes? bytes.data.toList).bind nameOfJson? with
    | some name => return name
    | none => throw ⟨"Failed to parse scheduler response", []⟩
  | .silence => throw failed
  | .unreachable => throw failed

end Groundwork.Job
