/-
Launching jobs. Each project gets a check, and then a job is dispatched that reports
to it; a check whose job cannot be dispatched is failed at once. What happens to one
project is nothing to the others.
-/
import Groundwork.Check.Run

set_option autoImplicit false

namespace Groundwork.Launch

open Service (Talk)

/-- The commit that jobs are launched for. -/
structure Target where
  /-- The repository that is told about the jobs. -/
  repo : Repository
  /-- The repository that jobs clone, another one for changes from a fork. -/
  source : Repository
  headRef : String
  sha : String
  commentsUrl : String
  extraArgs : Option String := none
deriving DecidableEq, Repr

/-- What became of a project. -/
inductive Outcome where
  | dispatched (check : Check.Run) (job : String)
  /-- There is no check, so there is no job. -/
  | checkFailed (context : String) (failure : Failure)
  /-- There is no job, so the check was failed. -/
  | dispatchFailed (check : Check.Run) (failure : Failure)
deriving DecidableEq, Repr

namespace Outcome

/-- The name of the check. -/
def context : Outcome → String
  | dispatched check _ => check.context
  | checkFailed context _ => context
  | dispatchFailed check _ => check.context

/-- Whether there is a job. -/
def isDispatched : Outcome → Bool
  | dispatched .. => true
  | _ => false

end Outcome

/-- What is said when a job cannot be dispatched. -/
def dispatchFailedText : String := "Failed to dispatch job"

/-- What the job of a project is asked for. -/
def order (t : Target) (command : Command) (p : Project) (check : Check.Run) : Job.Order where
  command := command
  repo := t.repo.fullName
  cloneUrl := t.source.cloneUrl
  headRef := t.headRef
  checkUrl := check.url
  checkName := check.context
  commentsUrl := t.commentsUrl
  project := p
  extraArgs := t.extraArgs

/-- Asks for a job, if there is a record of it. -/
def submit : Except Failure Job → Talk (Except Failure String)
  | .ok job => (Service.ask (.dispatch job)).outcome
  | .error failure => return .error failure

/-- Dispatches the job that a check was created for, and fails the check if that cannot be
done. `record` is the record of the job, or why there is none. -/
def settle (check : Check.Run) (record : Except Failure Job) : Talk Outcome := do
  match ← submit record with
  | .ok name => return .dispatched check name
  | .error failure =>
    match ← (check.fail dispatchFailedText).outcome with
    | .ok failed => return .dispatchFailed failed failure
    -- If not even that can be posted, the check is told as it was left.
    | .error _ => return .dispatchFailed check failure

/-- Dispatches the job of a project that has its check. There is a record for every
project, since every project can be written. -/
def dispatch (s : Settings) (t : Target) (command : Command) (p : Project) (check : Check.Run) :
    Talk Outcome :=
  settle check (.ok (Job.ofOrder (order t command p check) s.scheduler s.server.name))

/-- Launches the job of a project. -/
def project (s : Settings) (t : Target) (command : Command) (p : Project) : Talk Outcome := do
  let context := p.checkContext command
  match ← (Check.create t.repo t.sha context).outcome with
  -- Without a check nobody could be told how the job ended.
  | .error failure => return .checkFailed context failure
  | .ok check => dispatch s t command p check

/-- Launches the jobs of some projects at once, and says what became of each, in their
order. `order` says whose call comes next, and next; without it they come one project
after the other. -/
def projects (s : Settings) (t : Target) (command : Command) (ps : List Project)
    (order : List Nat := []) : Talk (List Outcome) :=
  Program.weave order (ps.map (project s t command))

/-- What is said about a project that has no job. -/
def Outcome.complaint? : Outcome → Option String
  | dispatched .. => none
  | checkFailed context failure => some ("Failed to create check run " ++ context ++ ": " ++ failure.line)
  | dispatchFailed check failure =>
    some (dispatchFailedText ++ " for " ++ check.context ++ ": " ++ failure.line)

/-- What is said about the projects that have no job, a line for each. -/
def failureSummary (outcomes : List Outcome) : String :=
  String.intercalate "\n" (outcomes.filterMap Outcome.complaint?)

end Groundwork.Launch
