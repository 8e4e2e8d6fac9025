/-
Pull requests: the bot plots by itself what they change.
-/
import Groundwork.Bot.Configuration
import Groundwork.Event
import Groundwork.Launch
import Groundwork.Trigger

set_option autoImplicit false

namespace Groundwork.Bot

open Service (Work)

/-- What happens to a pull request when its changes are new to the bot. -/
def pullRequestActions : List String := ["opened", "synchronize", "reopened"]

/-- The commit that jobs for a pull request are launched for. -/
def targetOf (repo : Repository) (pr : PullRequest) (commentsUrl : String) : Launch.Target where
  repo := repo
  source := pr.source.getD repo
  headRef := pr.head.ref
  sha := pr.head.sha
  commentsUrl := commentsUrl

/-- Plots the projects that a pull request changes and that are to be plotted without
being asked for. They are launched at once, with their calls in some order. -/
def onPullRequest (s : Settings) (e : PullRequestEvent) (order : List Nat := []) :
    Work (List Launch.Outcome) := do
  if !pullRequestActions.contains e.action then return []
  let pr := e.pullRequest
  let config ← loadConfig (pr.source.getD e.repository) pr.head.sha
  let changes ← changedFiles e.repository pr.number
  let projects := Trigger.projects changes config.projects .auto
  Launch.projects s (targetOf e.repository pr pr.commentsUrl) .plot projects order

end Groundwork.Bot
