/-
Services that are only described. Programs can be rehearsed against them: a file is
there or not, a call is answered, fails or is never answered, all as the description
says, and every call is written down.
-/
import Groundwork.Service

set_option autoImplicit false

namespace Groundwork.Rehearsal

open Service (Call)

/-- The services as they are described. -/
structure World where
  /-- The files, by their paths; of any repository and at any ref. -/
  files : List (String × String) := []
  changes : List Change := []
  /-- The only pull request, at any address. -/
  pullRequest : Option PullRequest := none
  /-- The commit that every ref stands for. -/
  commit : Option Commit := none
deriving Repr

/-- The calls that do not succeed, by their names. -/
structure Switches where
  failing : List String := []
  hanging : List String := []
deriving Repr

/-- The name of a kind of calls. -/
def callName : Call → String
  | .fetchFile .. => "fetch_file"
  | .listFiles .. => "list_files"
  | .getPullRequest _ => "get_pull_request"
  | .getCommit .. => "get_commit"
  | .createStatus .. => "create_status"
  | .createComment .. => "create_comment"
  | .react .. => "react"
  | .dispatch _ => "dispatch"

/-- What a call is about, where switches tell: the check and the state of a status, and
the check of a job. -/
def callSubjects : Call → List String
  | .createStatus _ status => [status.context, status.state]
  | .dispatch job => job.checkName?.toList
  | _ => []

/-- Whether a list of names has that of a call, alone or with what it is about. -/
def names (switched : List String) (c : Call) : Bool :=
  switched.contains (callName c) ||
    (callSubjects c).any fun subject => switched.contains (callName c ++ "@" ++ subject)

/-- Something, or the failure that it is missing. -/
def found {α : Type} (missing : String) : Option α → Except Failure α
  | some a => .ok a
  | none => .error ⟨missing, []⟩

/-- What the services answer; `n` jobs were dispatched before. -/
def World.answer (w : World) (n : Nat) : (c : Call) → c.Reply
  | .fetchFile repo path _ =>
    (found (path ++ " not found in " ++ repo.fullName) (w.files.lookup path)).map String.toUTF8
  | .listFiles .. => .ok w.changes
  | .getPullRequest url => found ("pull request " ++ url ++ " not found") w.pullRequest
  | .getCommit repo ref => found (repo.fullName ++ "@" ++ ref ++ " not found") w.commit
  | .createStatus .. => .ok ()
  | .createComment .. => .ok ()
  | .react .. => .ok ()
  | .dispatch job => .ok (job.baseName ++ toString (n + 1))

/-- A rehearsal: the services, and what was asked of them. -/
structure Stage where
  world : World := {}
  switches : Switches := {}
  /-- The jobs that were dispatched so far. -/
  dispatched : Nat := 0
  /-- The calls so far, in order. -/
  calls : List Call := []
deriving Repr

namespace Stage

/-- The rehearsal after a call that succeeds. -/
def after (s : Stage) : Call → Stage
  | .dispatch _ => { s with dispatched := s.dispatched + 1 }
  | _ => s

/-- Answers a call, if it is answered. -/
def answer (s : Stage) (c : Call) : Stage × Option c.Reply :=
  -- A call is written down before it takes effect, so that one without answer shows too.
  let noted := { s with calls := s.calls ++ [c] }
  if names s.switches.failing c then
    (noted, some (.error ⟨callName c ++ " unavailable", []⟩))
  else if names s.switches.hanging c then (noted, none)
  else (noted.after c, some (s.world.answer s.dispatched c))

end Stage

end Groundwork.Rehearsal
