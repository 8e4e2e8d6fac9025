/-
Checks as they are shown on commits. Every change of a check is posted as a status of
its commit, under the name of the check.
-/
import Groundwork.Check.State
import Groundwork.Service

set_option autoImplicit false

namespace Groundwork.Check

open Service (Talk Work Call)

/-- A check that was created. -/
structure Run where
  /-- Where its statuses are posted. -/
  url : String
  /-- Its name. -/
  context : String
  sha : String
  state : State
deriving DecidableEq, Repr

/-- The status that says where a check stands; `description` stands for the usual one. -/
def statusOf (context : String) (state : State) (description : Option String) : CommitStatus where
  state := state.posted
  description := description.getD state.description
  context := context

/-- Posts where a check stands. -/
def post (url context : String) (state : State) (description : Option String) : Work Unit :=
  Service.ask (.createStatus url (statusOf context state description))

/-- Creates a check on a commit. -/
def create (repo : Repository) (sha context : String) : Work Run := do
  let url := repo.statusUrl sha
  (post url context .queued none).within ("Failed to create check run " ++ context)
  return ⟨url, context, sha, .queued⟩

/-- Says that the job of a check started. It does not matter if that fails: the job
goes on. -/
def start (url context : String) : Talk Unit :=
  (post url context .running none).regardless

/-- Says how the job of a check ended. -/
def finish (url context : String) (conclusion : Conclusion) : Work Unit :=
  (post url context conclusion.state none).within ("Failed to finish check run " ++ context)

/-- Fails a check whose job never started. One that is over stays as it is. -/
def Run.fail (run : Run) (description : String) : Work Run := do
  if run.state.canBecome .failed then
    post run.url run.context .failed (some description)
    return { run with state := .failed }
  else
    return run

end Groundwork.Check
