/-
What a request asks the service for. Most requests are answered at once: those that no
route is for, those that are not well formed, and those that do not come from whom
they say. Only the others are worked on.
-/
import Groundwork.Api.Request
import Groundwork.Command
import Groundwork.Event
import Groundwork.Failure
import Groundwork.Http.Response
import Groundwork.Json.Fault
import Groundwork.Report.Message
import Groundwork.Settings
import Groundwork.Signature
import Groundwork.Web.MediaType
import Groundwork.Web.Request

set_option autoImplicit false

namespace Groundwork.Web

open Http (Response Refusal)

/-- What a request asks for. -/
inductive Task where
  /-- An answer that is known at once. -/
  | answer (r : Response)
  /-- To handle an event, after the answer. -/
  | handle (e : Event)
  /-- To run a command. -/
  | run (command : Command) (request : Api.Request)
  | started (r : Report.Started)
  | finished (r : Report.Finished)

/-- An answer that is a text. -/
def textAnswer (status : Nat) (text : String) : Task :=
  .answer { status, body := .text text }

/-- An answer that is a refusal. -/
def refuse (r : Refusal) : Task :=
  .answer r.response

/-- The answer to a request whose body is more than the service reads. -/
def tooLarge : Task :=
  textAnswer 413 "Failed to buffer the request body: length limit exceeded"

/-! ## Events -/

/-- Checks that an event comes from the host, if there is a secret for that. -/
def checkSignature (s : Settings) (r : Request) : Except String Unit :=
  match s.github.webhookSecret with
  | none => .ok ()
  | some secret =>
    match r.header? "X-Hub-Signature-256" with
    | none => .error "X-Hub-Signature-256 missing"
    | some signature => (Signature.verify secret signature r.body).mapError Signature.Error.message

/-- The event that a request reports, or what is wrong with the request. -/
def eventOf (s : Settings) (r : Request) : Except String Event := do
  -- The kind is asked for before the body is read, and the body before it is trusted.
  let some kind := r.header? "X-GitHub-Event" | throw "X-GitHub-Event header missing"
  if r.isTooLarge then throw "error reading body"
  checkSignature s r
  (Event.parse kind r.body).mapError fun e => "error parsing body: " ++ (Failure.ofChain e.chain).line

/-- What a request that reports an event asks for. -/
def webhook (s : Settings) (r : Request) : Task :=
  match eventOf s r with
  | .error wrong => textAnswer 400 wrong
  | .ok .ping => textAnswer 200 "pong"
  | .ok (.other _) => textAnswer 200 "Event ignored"
  | .ok e => .handle e

/-! ## Commands -/

/-- The token that a request carries. -/
def tokenOf? (r : Request) : Option String :=
  (r.header? "Authorization").bind fun value =>
    (Text.dropStart? "Bearer ".toList value.toList).map String.ofList

/-- Checks that a request comes from someone who may run commands. -/
def authorize (s : Settings) (r : Request) : Except Refusal Unit :=
  match s.server.apiToken with
  | none => .error (.message 501 "API is disabled")
  | some expected =>
    if (tokenOf? r).any (Signature.sameToken expected) then .ok () else .error (.status 401)

/-- What a request to run a command asks for. -/
def api (s : Settings) (command : Command) (r : Request) : Task :=
  if r.isTooLarge then tooLarge
  -- Who may not run commands is not told what is wrong with the request.
  else match authorize s r with
    | .error refusal => refuse refusal
    | .ok () =>
      match (Json.ofBytes? r.body.data.toList).bind Api.Request.ofJson? with
      | some request => .run command request
      | none => refuse (.message 422 "invalid request: not a request for a project")

/-! ## Reports -/

/-- What a request that carries a record asks for. -/
def record {α : Type} (fields : List Json.Fault.Field) (read : Json → Option α) (task : α → Task)
    (r : Request) : Task :=
  if !(r.header? "Content-Type").any MediaType.isJson then
    textAnswer 415 "Expected request with `Content-Type: application/json`"
  else if r.isTooLarge then tooLarge
  else match (Json.ofBytes? r.body.data.toList).bind read with
    | some value => task value
    | none =>
      match Json.Fault.ofText fields r.body.data.toList with
      | .malformed => textAnswer 400 "Failed to parse the request body as JSON: malformed"
      | .mismatch =>
        textAnswer 422 "Failed to deserialize the JSON body into the target type: mismatch"

/-- The fields of a report that a job started. -/
def startedFields : List Json.Fault.Field := [{ name := "checkUrl" }, { name := "checkName" }]

/-- The fields of a report that a job ended. -/
def finishedFields : List Json.Fault.Field := [
  { name := "checkUrl" }, { name := "checkName" },
  { name := "status", kind := .choice ["SUCCEEDED", "FAILED"] },
  { name := "output", required := false }, { name := "error", required := false },
  { name := "commentsUrl", required := false }, { name := "command" }, { name := "projectDir" },
  { name := "projectWorkspace", required := false }]

/-! ## Routes -/

/-- Who listens. -/
inductive Server where
  /-- For the host, and for programs that run commands. -/
  | main
  /-- For jobs. -/
  | reports
deriving DecidableEq, Repr

/-- A route. -/
inductive Route where
  | health
  | webhook
  | api (command : Command)
  | jobStarted
  | jobFinished
deriving DecidableEq, Repr

/-- The route at a path. Paths are taken as they are: one with a slash at its end is
another path. -/
def route? (server : Server) (path : String) : Option Route :=
  match server, path with
  | .main, "/healthz" => some .health
  | .main, "/api/github/webhook" => some .webhook
  | .main, "/api/plot" => some (.api .plot)
  | .main, "/api/lift" => some (.api .lift)
  | .reports, "/rpc/ReportJobStarted" => some .jobStarted
  | .reports, "/rpc/ReportJobFinished" => some .jobFinished
  | _, _ => none

/-- The methods that a route takes. -/
def Route.methods : Route → List String
  | health => ["GET", "HEAD"]
  | _ => ["POST"]

/-- What a request at a route asks for. -/
def Route.task (s : Settings) (r : Request) : Route → Task
  | health => textAnswer 200 (if r.method == "HEAD" then "" else "ok")
  | webhook => Web.webhook s r
  | api command => Web.api s command r
  | jobStarted => record startedFields Report.Started.ofJson? .started r
  | jobFinished => record finishedFields Report.Finished.ofJson? .finished r

/-- The path is of no interest at a route. -/
@[simp] theorem Route.task_mapPath (s : Settings) (r : Request) (f : List Char → List Char)
    (route : Route) : route.task s (r.mapPath f) = route.task s r := by
  cases route <;> rfl

/-- What a request asks for. Slashes at the end of its path are taken off behind the
routes, for those who work on it. -/
def taskOf (s : Settings) (server : Server) (r : Request) : Task :=
  match route? server r.path with
  | none => .answer { status := 404 }
  | some route =>
    if route.methods.contains r.method then route.task s r.trimmed
    else .answer { status := 405, allow := some (String.intercalate "," route.methods) }

end Groundwork.Web
