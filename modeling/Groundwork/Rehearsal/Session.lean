/-
Sessions: a rehearsal of the whole service. Events, requests and reports come one after
the other, while time passes, and what one leaves behind is there for the next.
-/
import Groundwork.Rehearsal.Stage
import Groundwork.Web.Service

set_option autoImplicit false

namespace Groundwork.Rehearsal

open Service (Talk)

/-- A rehearsal of the whole service. -/
structure Session where
  settings : Settings
  reports : Report.Service
  stage : Stage := {}
  /-- The time, in milliseconds. -/
  now : Nat := 0
  /-- The checks that were created by hand, in order. -/
  checks : List Check.Run := []

namespace Session

/-- Runs a program. It may never end. -/
def talk {α : Type} (x : Session) (p : Talk α) : Session × Option α :=
  let (stage, result) := Program.run Stage.answer x.stage p
  ({ x with stage }, result)

/-- Takes the report that a job ended, and says whether it was worked on. Work that does
not end is broken off. -/
def finished (x : Session) (r : Report.Finished) : Session × Option Bool :=
  let (toDo, reports) := x.reports.arrive x.now r
  let x := { x with reports }
  if toDo then
    match x.talk r.work with
    | (x, some ()) => (x, some true)
    | (x, none) => ({ x with reports := x.reports.breakOff r }, none)
  else (x, some false)

/-- Takes a report as often as given, and counts how often it was worked on. -/
def finishedTimes (r : Report.Finished) : Nat → Session → Session × Nat
  | 0, x => (x, 0)
  | n + 1, x =>
    let (x, done) := x.finished r
    let (x, count) := finishedTimes r n x
    (x, if done = some true then count + 1 else count)

/-- Takes a request, and answers it. -/
def serve (x : Session) (server : Web.Server) (r : Web.Request) : Session × Http.Response :=
  match Web.taskOf x.settings server r with
  | .answer a => (x, a)
  | .handle e => ((x.talk (Web.handle x.settings e)).1, Web.accepted)
  | .run command request => (x.talk (Web.run x.settings command request)).map id (·.getD Web.timedOut)
  | .started r => (x.talk r.work).map id fun done => if done.isSome then Web.noted else Web.timedOut
  | .finished r => (x.finished r).map id fun done => if done.isSome then Web.noted else Web.timedOut

/-- Creates a check by hand. -/
def createCheck (x : Session) (repo : Repository) (sha context : String) :
    Session × Option (Except Failure Check.Run) :=
  match x.talk (Check.create repo sha context).outcome with
  | (x, some (.ok run)) => ({ x with checks := x.checks ++ [run] }, some (.ok run))
  | other => other

/-- Fails a check that was created by hand, first put into a state if one is given. What is
left of the check comes with the outcome. -/
def failCheck (x : Session) (index : Nat) (state : Option Check.State) (description : String) :
    Session × Option (Except Failure Unit × Check.Run) :=
  match x.checks[index]? with
  | none => (x, none)
  | some run =>
    let run : Check.Run := { run with state := state.getD run.state }
    let keep (x : Session) (run : Check.Run) : Session := { x with checks := x.checks.set index run }
    match x.talk (run.fail description).outcome with
    | (x, some (.ok failed)) => (keep x failed, some (.ok (), failed))
    | (x, some (.error failure)) => (keep x run, some (.error failure, run))
    | (x, none) => (keep x run, none)

end Session

end Groundwork.Rehearsal
