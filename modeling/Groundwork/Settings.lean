/-
The settings of the service: where it listens, and how it reaches GitHub and the
scheduler of its jobs.
-/
import Groundwork.Yaml.Reader
import Groundwork.Yaml.Typed

set_option autoImplicit false

namespace Groundwork

namespace Settings

/-- Where the service listens. -/
structure Server where
  port : Nat
  /-- The port for the reports of jobs. -/
  rpcPort : Nat := 50001
  /-- The address under which jobs reach the service. -/
  name : String := "turnip"
  /-- The token of those who may run commands without a comment; nobody may if there
  is none. -/
  apiToken : Option String := none
deriving DecidableEq, Repr

/-- How GitHub is reached. -/
structure Github where
  token : String
  /-- The secret that events are signed with; unsigned ones are taken if there is none. -/
  webhookSecret : Option String := none
  /-- Seconds that an answer may take. -/
  timeout : Nat := 30
deriving DecidableEq, Repr

/-- How jobs are scheduled. -/
structure Scheduler where
  url : String
  token : Option String := none
  namespaceName : String
  /-- The secret that jobs find their secrets in. -/
  secretName : String := "turnip-runner-job-secrets"
  /-- Seconds that a finished job is kept. -/
  keepSeconds : Nat := 300
  /-- The image that runs jobs. -/
  image : String := "ivan/turnip:latest"
  podAnnotations : Table String := .empty
  /-- Seconds that an answer may take. -/
  timeout : Nat := 30
deriving DecidableEq, Repr

/-- How reports of jobs are taken. -/
structure Reporting where
  /-- Seconds for which a job that finished is not taken to finish again. -/
  window : Nat := 30
deriving DecidableEq, Repr

end Settings

/-- The settings of the service. -/
structure Settings where
  server : Settings.Server
  github : Settings.Github
  scheduler : Settings.Scheduler
  reporting : Settings.Reporting := {}
deriving DecidableEq, Repr

namespace Settings

open Yaml.Document in
/-- Reads where the service listens. -/
def Server.read (d : Yaml.Document) (node : Yaml.Node) : Except Yaml.Error Server := do
  let fs ← d.fields ["port", "rpc_port", "name", "api_token"] node
  return {
    port := ← d.required fs "port" (nat UInt16.size)
    rpcPort := ← d.field fs "rpc_port" 50001 (nat UInt16.size)
    name := ← d.field fs "name" "turnip" text
    apiToken := ← d.field fs "api_token" none (option text) }

open Yaml.Document in
/-- Reads how GitHub is reached. -/
def Github.read (d : Yaml.Document) (node : Yaml.Node) : Except Yaml.Error Github := do
  let fs ← d.fields ["token", "webhook_secret", "api_timeout_secs"] node
  return {
    token := ← d.required fs "token" text
    webhookSecret := ← d.field fs "webhook_secret" none (option text)
    timeout := ← d.field fs "api_timeout_secs" 30 (nat UInt64.size) }

open Yaml.Document in
/-- Reads how jobs are scheduled. -/
def Scheduler.read (d : Yaml.Document) (node : Yaml.Node) : Except Yaml.Error Scheduler := do
  let fs ← d.fields ["url", "token", "namespace", "job_secrets_name", "ttl_seconds_after_finished",
    "runner_image", "pod_annotations", "timeout_secs"] node
  return {
    url := ← d.required fs "url" text
    token := ← d.field fs "token" none (option text)
    namespaceName := ← d.required fs "namespace" text
    secretName := ← d.field fs "job_secrets_name" "turnip-runner-job-secrets" text
    keepSeconds := ← d.field fs "ttl_seconds_after_finished" 300 (nat UInt32.size)
    image := ← d.field fs "runner_image" "ivan/turnip:latest" text
    podAnnotations := ← d.field fs "pod_annotations" .empty (table text)
    timeout := ← d.field fs "timeout_secs" 30 (nat UInt64.size) }

/-- Reads how reports are taken. -/
def Reporting.read (d : Yaml.Document) (node : Yaml.Node) : Except Yaml.Error Reporting := do
  let fs ← d.fields ["dedup_ttl_secs"] node
  return { window := ← d.required fs "dedup_ttl_secs" (Yaml.Document.nat UInt64.size) }

/-- Reads the settings. -/
def read (d : Yaml.Document) (node : Yaml.Node) : Except Yaml.Error Settings := do
  let fs ← d.fields ["server", "github", "scheduler", "reporting"] node
  return {
    server := ← d.required fs "server" Server.read
    github := ← d.required fs "github" Github.read
    scheduler := ← d.required fs "scheduler" Scheduler.read
    reporting := ← d.field fs "reporting" {} Reporting.read }

/-- Reads the settings from a YAML document. -/
def parse (bytes : ByteArray) : Except Yaml.Error Settings :=
  Yaml.Document.ofBytes bytes >>= Yaml.Document.readRoot read

end Settings

end Groundwork
