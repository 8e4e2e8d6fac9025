/-
Requests of programs: the bot runs a command for one project at a ref.
-/
import Groundwork.Api.Request
import Groundwork.Bot.Configuration
import Groundwork.Launch
import Groundwork.Text.Quoted

set_option autoImplicit false

namespace Groundwork.Bot

open Service (Work)

/-- Where a program finds the check of the job that it asked for. -/
structure CheckAddress where
  url : String
  context : String
deriving DecidableEq, Repr

/-- As it is answered. -/
def CheckAddress.toJson (a : CheckAddress) : Json :=
  .object [("check_url", .string a.url), ("context", .string a.context)]

/-- The repository that a request names. -/
def repositoryOf (r : Api.Request) : Except Failure Repository :=
  match Repository.parse? r.repo with
  | some (owner, name) => .ok (.ofFullName (owner ++ "/" ++ name))
  | none => .error ⟨"invalid repository " ++ Text.quoted r.repo, []⟩

/-- The project that a request names. -/
def projectOf (r : Api.Request) (c : Config) : Except Failure Project :=
  match c.findProject? r.dir r.workspaceKeys with
  | some p => .ok p
  | none => .error ⟨"project " ++ r.dir ++ " not found", []⟩

/-- Where the check is, if there is a job for it. -/
def addressOf : Launch.Outcome → Except Failure CheckAddress
  | .dispatched check _ => .ok ⟨check.url, check.context⟩
  | .checkFailed _ failure => .error failure
  | .dispatchFailed _ failure => .error (failure.within Launch.dispatchFailedText)

/-- Runs a command for the project that a program names. -/
def onRequest (s : Settings) (command : Command) (r : Api.Request) : Work CheckAddress := do
  let repo ← ExceptT.mk (pure (repositoryOf r))
  let commit ← (Service.ask (.getCommit repo r.ref)).within ("Failed to resolve " ++ r.ref)
  let config ← loadConfig repo commit.sha
  let project ← ExceptT.mk (pure (projectOf r config))
  let target : Launch.Target := {
    repo
    source := repo
    headRef := r.ref
    sha := commit.sha
    commentsUrl := commit.commentsUrl
    extraArgs := r.extraArgs }
  let outcome ← Launch.project s target command project
  ExceptT.mk (pure (addressOf outcome))

end Groundwork.Bot
