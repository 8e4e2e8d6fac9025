/-
Comments: the bot runs what it is asked for, and says with a reaction whether it
could. What there is to tell goes into a comment.
-/
import Groundwork.Bot.PullRequest
import Groundwork.Chat.Request

set_option autoImplicit false

namespace Groundwork.Bot

open Service (Talk Work)

/-- The projects that are both changed by a pull request and asked for. -/
def selected (run : Chat.Run) (changes : List Change) (ps : List Project) : List Project :=
  (Trigger.projects changes ps .explicit).filter run.selects

/-- Runs what is asked for on a pull request, and yields what there is to tell. It is a
failure if no project at all has a job. The projects are launched at once, with their
calls in some order. -/
def runChat (s : Settings) (e : CommentEvent) (url : String) (run : Chat.Run)
    (order : List Nat := []) : Work String := do
  let pr ← (Service.ask (.getPullRequest url)).within "Failed to fetch pull request"
  let config ← loadConfig (pr.source.getD e.repository) pr.head.sha
  let changes ← changedFiles e.repository pr.number
  let projects := selected run changes config.projects
  -- Nothing to do is no failure.
  if projects.isEmpty then return "No projects to " ++ run.command.word
  let target := targetOf e.repository pr e.issue.commentsUrl
  let outcomes ← Launch.projects s target run.command projects order
  let summary := Launch.failureSummary outcomes
  -- With some jobs running the request was met, and what is left is told with it.
  if outcomes.any Launch.Outcome.isDispatched then return summary else throw ⟨summary, []⟩

/-- What is said to someone who asked for something that the bot does not understand. -/
def misunderstood (e : Chat.Error) : String :=
  e.message ++ "\n\n```\n" ++ Chat.usage ++ "```"

/-- Does what is asked for: what there is to tell, or what went wrong. -/
def answerChat (s : Settings) (e : CommentEvent) (url : String) (order : List Nat := []) :
    Except Chat.Error Chat.Request → Talk (Except String String)
  | .error wrong => return .error (misunderstood wrong)
  | .ok .help => return .ok Chat.usage
  | .ok (.run run) => do return (← (runChat s e url run order).outcome).mapError Failure.line

/-- Leaves a reaction and, if there is anything to tell, a comment. It does not matter if
either fails. -/
def leave (e : CommentEvent) (reaction : Reaction) (comment : Option String) : Talk Unit := do
  (Service.ask (.react e.comment.reactionsUrl reaction)).regardless
  match comment with
  | some body => (Service.ask (.createComment e.issue.commentsUrl body)).regardless
  | none => return ()

/-- Says what came of a request. -/
def reply (e : CommentEvent) : Except String String → Work Unit
  | .ok output =>
    leave e .thumbsUp (if output.isEmpty then none else some ("```\n" ++ output ++ "\n```"))
  | .error wrong => do
    leave e .confused (some ("Error executing command: " ++ wrong))
    throw ⟨"Command failed: " ++ wrong, []⟩

/-- Does what a new comment on a pull request asks for, if it is for the bot. -/
def onComment (s : Settings) (e : CommentEvent) (order : List Nat := []) : Work Unit := do
  if e.action ≠ "created" then return ()
  let some url := e.issue.pullRequestUrl | return ()
  match Chat.parse e.comment.body with
  | .ok none => return ()
  | .ok (some request) => reply e (← answerChat s e url order (.ok request))
  | .error wrong => reply e (← answerChat s e url order (.error wrong))

end Groundwork.Bot
