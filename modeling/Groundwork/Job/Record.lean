/-
Records of jobs: what a scheduler is told about a job that it is to run. All that
the job has to know is in its environment.
-/
import Groundwork.Job.Name
import Groundwork.Json.Basic
import Groundwork.Project
import Groundwork.Settings

set_option autoImplicit false

namespace Groundwork

/-- What a scheduler is told about a job. -/
structure Job where
  /-- The name, to which the scheduler adds an ending. -/
  baseName : String
  namespaceName : String
  labels : Table String
  annotations : Table String
  image : String
  /-- The secret that the job finds its secrets in. -/
  secretName : String
  /-- Seconds that the job is kept once it has finished. -/
  keepSeconds : Nat
  env : Table String
deriving DecidableEq, Repr, Inhabited

namespace Job

/-- What a job is asked for. -/
structure Order where
  command : Command
  /-- The full name of the repository that is told about the job. -/
  repo : String
  /-- Where the job clones from. -/
  cloneUrl : String
  headRef : String
  /-- Where the statuses of the job's check are posted, and the name of the check. -/
  checkUrl : String
  checkName : String
  commentsUrl : String
  project : Project
  extraArgs : Option String := none
deriving DecidableEq, Repr

/-- The more words that a tool is run with, if there are any. -/
def Order.moreArgs (o : Order) : Option String :=
  o.extraArgs.filter (· ≠ "")

/-- The labels of a job. -/
def Order.labels (o : Order) : Table String :=
  .ofList [
    ("app", "turnip"),
    ("turnip.ivan.vc/repo", dashed o.repo),
    ("turnip.ivan.vc/command", o.command.word)]

/-- The environment of a job of the service that goes by a name. -/
def Order.env (o : Order) (server : String) : Table String :=
  .ofList <| [
    ("TURNIP_CLONE_URL", o.cloneUrl),
    ("TURNIP_HEAD_REF", o.headRef),
    ("TURNIP_COMMAND", o.command.word),
    ("TURNIP_CHECK_URL", o.checkUrl),
    ("TURNIP_CHECK_NAME", o.checkName),
    ("TURNIP_PROJECT_YAML", o.project.toYaml),
    ("TURNIP_SERVER_NAME", server),
    ("TURNIP_COMMENTS_URL", o.commentsUrl)]
    ++ (o.moreArgs.map fun args => ("TURNIP_EXTRA_ARGS", args)).toList

/-- The job that is asked for. Of annotations under one key, the project's counts
before the workflow's, and that before the service's. -/
def ofOrder (o : Order) (s : Settings.Scheduler) (server : String) : Job where
  baseName := generateName o.command o.repo o.project.dir
  namespaceName := s.namespaceName
  labels := o.labels
  annotations := (s.podAnnotations.override o.project.workflow.podAnnotations).override
    o.project.podAnnotations
  image := s.image
  secretName := s.secretName
  keepSeconds := s.keepSeconds
  env := o.env server

/-- Where the statuses of a job's check are posted, as the job knows it. -/
def checkUrl? (j : Job) : Option String :=
  j.env.find? "TURNIP_CHECK_URL"

/-- The name of a job's check, as the job knows it. -/
def checkName? (j : Job) : Option String :=
  j.env.find? "TURNIP_CHECK_NAME"

/-- A table of texts as JSON. -/
def tableJson (t : Table String) : Json :=
  .object (t.entries.map fun e => (e.1, .string e.2))

/-- A record as schedulers are sent it. -/
def toJson (j : Job) : Json :=
  .object [
    ("generateName", .string j.baseName),
    ("namespace", .string j.namespaceName),
    ("labels", tableJson j.labels),
    ("annotations", tableJson j.annotations),
    ("image", .string j.image),
    ("envFromSecret", .string j.secretName),
    ("ttlSecondsAfterFinished", .ofNat j.keepSeconds),
    ("env", tableJson j.env)]

end Job

end Groundwork
