/-
Working on what a request asks for. An event is answered before it is handled, and
whatever comes of that is not told; the others are answered when the work is done.
-/
import Groundwork.Bot.Api
import Groundwork.Bot.Comment
import Groundwork.Report.Service
import Groundwork.Web.Task

set_option autoImplicit false

namespace Groundwork.Web

open Http (Response Refusal)
open Service (Talk)

/-- The answer to a request that asked for something to be handled later. -/
def accepted : Response :=
  { status := 200, body := .text "Event processed" }

/-- The answer to a report. -/
def noted : Response :=
  { status := 200, body := .json (.object []) }

/-- The answer to a request whose work is broken off since it takes too long. -/
def timedOut : Response :=
  { status := 408 }

/-- Handles an event. -/
def handle (s : Settings) : Event → Talk Unit
  | .pullRequest e => (Bot.onPullRequest s e).regardless
  | .comment e => (Bot.onComment s e).regardless
  | .ping | .other _ => return ()

/-- The answer to a request that ran a command. -/
def apiAnswer : Except Failure Bot.CheckAddress → Response
  | .ok address => { status := 201, body := .json address.toJson }
  | .error failure => (Refusal.message 422 failure.line).response

/-- Runs a command, and answers. -/
def run (s : Settings) (command : Command) (request : Api.Request) : Talk Response := do
  return apiAnswer (← (Bot.onRequest s command request).outcome)

end Groundwork.Web
