/-
The services that the bot works with: the host of the repositories, and the
scheduler that runs jobs. What is asked of them is a value here, and so is what
they answer.
-/
import Groundwork.Change
import Groundwork.Job.Record
import Groundwork.Program
import Groundwork.PullRequest

set_option autoImplicit false

namespace Groundwork

/-- What is posted about a commit. -/
structure CommitStatus where
  state : String
  description : String
  /-- The name of the check that it is the status of. -/
  context : String
deriving DecidableEq, Repr

/-- A status as it is posted. -/
def CommitStatus.toJson (s : CommitStatus) : Json :=
  .object [("state", .string s.state), ("description", .string s.description),
    ("context", .string s.context)]

/-- A commit. -/
structure Commit where
  sha : String
  /-- Where comments on it are posted. -/
  commentsUrl : String
deriving DecidableEq, Repr

/-- What the bot leaves on comments. -/
inductive Reaction where
  | thumbsUp
  | confused
deriving DecidableEq, Repr

/-- Both reactions. -/
def Reaction.all : List Reaction := [thumbsUp, confused]

/-- How a reaction is written. -/
def Reaction.content : Reaction → String
  | thumbsUp => "+1"
  | confused => "confused"

namespace Service

/-- What is asked of a service. -/
inductive Call where
  /-- The bytes of a file at a ref. -/
  | fetchFile (repo : Repository) (path ref : String)
  /-- The files that a pull request changes. -/
  | listFiles (repo : Repository) (number : Nat)
  | getPullRequest (url : String)
  /-- The commit that a ref stands for. -/
  | getCommit (repo : Repository) (ref : String)
  | createStatus (url : String) (status : CommitStatus)
  | createComment (url body : String)
  | react (url : String) (reaction : Reaction)
  /-- To run a job; answered with the name that the job was given. -/
  | dispatch (job : Job)
deriving DecidableEq, Repr

/-- What a call is answered if it succeeds. -/
abbrev Call.Answer : Call → Type
  | fetchFile .. => ByteArray
  | listFiles .. => List Change
  | getPullRequest _ => PullRequest
  | getCommit .. => Commit
  | createStatus .. => Unit
  | createComment .. => Unit
  | react .. => Unit
  | dispatch _ => String

/-- What a call is answered. -/
abbrev Call.Reply (c : Call) : Type := Except Failure c.Answer

/-- A program that works with the services. -/
abbrev Talk (α : Type) : Type := Program Call Call.Reply α

/-- A program that works with the services and may fail. -/
abbrev Work (α : Type) : Type := Attempt Call Call.Reply α

/-- Makes one call. -/
def ask (c : Call) : Work c.Answer :=
  Attempt.ask c

end Service

end Groundwork
