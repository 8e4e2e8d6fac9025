/-
Everything that goes on at the service at once. Projects are launched and jobs report,
in any order and in any number, and the work on one of these errands does not wait for
that on another. Between any two calls of an errand anything may happen: others come,
others are answered, time passes, and an errand may be broken off.

A state says what came so far (`book`), what is left to do about it (`rest`), and which
calls were answered (`notes`). The one thing that errands share is the memory of the
service that takes reports. When an errand comes, that memory is asked and changed at
once; the calls come later, one by one.

`step` says what an event does, and is a function, so that a schedule can be run.
`Reaches` are the states that schedules lead to if each event of theirs is allowed;
statements about every schedule are inductions on it.
-/
import Groundwork.Launch
import Groundwork.Proofs.Report.Notice
import Mathlib.Logic.Function.Basic

set_option autoImplicit false

namespace Groundwork

open Groundwork.Service (Call Talk)

/-- What comes to the service. -/
inductive Errand where
  /-- The job of a project is to be launched. -/
  | launch (settings : Settings) (target : Launch.Target) (command : Command) (project : Project)
  /-- A job reports; `job` is the number of the errand that launched it. -/
  | report (job : Nat) (notice : Report.Notice)
deriving DecidableEq, Repr

namespace Errand

/-- The work on an errand. -/
def work : Errand → Talk Unit
  | launch settings target command project =>
    (Launch.project settings target command project).bind fun _ => .done ()
  | report _ notice => notice.work

/-- Whether an errand that comes now is to be worked on, and the service after it came. -/
def enter (s : Report.Service) (now : Nat) : Errand → Bool × Report.Service
  | launch .. => (true, s)
  | report _ notice => s.receive now notice

/-- Whether an errand is to launch a job. -/
def isLaunch : Errand → Bool
  | launch .. => true
  | report .. => false

/-- The report of a job's end that an errand brings, with the number of the job. -/
def finish? : Errand → Option (Nat × Report.Finished)
  | report job (.finished r) => some (job, r)
  | _ => none

theorem finish?_eq_some_iff {e : Errand} {job : Nat} {r : Report.Finished} :
    e.finish? = some (job, r) ↔ e = report job (.finished r) := by
  cases e with
  | launch => simp [finish?]
  | report j n =>
    cases n with
    | started q => simp [finish?]
    | finished q => simp [finish?]

end Errand

/-- An errand that came, when it came, and whether it is worked on. -/
structure Visit where
  errand : Errand
  time : Nat
  taken : Bool
deriving DecidableEq, Repr

/-- The work on an errand that came; there is none if it was turned away. -/
def Visit.work (v : Visit) : Talk Unit :=
  if v.taken then v.errand.work else .done ()

/-- A call that was answered; `visit` is the number of the errand that made it. -/
structure Note where
  visit : Nat
  call : Call
  reply : call.Reply

/-- What goes on at the service. -/
structure Traffic where
  reports : Report.Service
  /-- The time, in milliseconds. -/
  now : Nat := 0
  /-- What came so far, in order. An errand goes by its place in it. -/
  book : List Visit := []
  /-- What is left to do about each errand. -/
  rest : Nat → Talk Unit := fun _ => .done ()
  /-- The calls that were answered so far, in order. -/
  notes : List Note := []
  /-- The errands that were broken off. -/
  broken : List Nat := []

/-- What can happen. An answer is what the services would answer to any call, of which
the pending call of the errand takes its own. -/
inductive Traffic.Event where
  | pass (ms : Nat)
  | come (e : Errand)
  | answer (i : Nat) (reply : (c : Call) → c.Reply)
  | breakOff (i : Nat)

namespace Traffic

/-! ## What happens -/

/-- The start, with nothing under way. -/
def opening (window : Nat) : Traffic where
  reports := { window }

@[simp] theorem book_opening (window : Nat) : (opening window).book = [] := rfl

@[simp] theorem notes_opening (window : Nat) : (opening window).notes = [] := rfl

/-- Some time passed. -/
def pass (x : Traffic) (ms : Nat) : Traffic :=
  { x with now := x.now + ms }

/-- An errand came. -/
def come (x : Traffic) (e : Errand) : Traffic :=
  let entered := e.enter x.reports x.now
  let v : Visit := ⟨e, x.now, entered.1⟩
  { x with
    reports := entered.2
    book := x.book ++ [v]
    rest := Function.update x.rest x.book.length v.work }

/-- A call of an errand was answered. -/
def answer (x : Traffic) (i : Nat) (c : Call) (reply : c.Reply) (next : Talk Unit) : Traffic :=
  { x with
    rest := Function.update x.rest i next
    notes := x.notes ++ [⟨i, c, reply⟩] }

/-- The service once the work on an errand was broken off. -/
def afterBreak (s : Report.Service) (v : Visit) : Report.Service :=
  match v.errand.finish? with
  | some (_, r) => s.breakOff r
  | none => s

/-- The work on an errand was broken off. -/
def breakOff (x : Traffic) (i : Nat) : Traffic :=
  { x with
    reports := (x.book[i]?.map (afterBreak x.reports)).getD x.reports
    rest := Function.update x.rest i (.done ())
    broken := x.broken ++ [i] }

/-- What an event does. Only an errand that waits for an answer can be answered or
broken off. -/
def step (x : Traffic) : Event → Option Traffic
  | .pass ms => some (x.pass ms)
  | .come e => some (x.come e)
  | .answer i reply =>
    match x.rest i with
    | .done _ => none
    | .call c next => some (x.answer i c (reply c) (next (reply c)))
  | .breakOff i => if (x.rest i).isDone then none else some (x.breakOff i)

/-- All that an event can do. -/
theorem step_cases {x y : Traffic} {e : Event} (h : x.step e = some y) :
    (∃ ms, e = .pass ms ∧ y = x.pass ms) ∨
    (∃ d, e = .come d ∧ y = x.come d) ∨
    (∃ i reply c next, e = .answer i reply ∧ x.rest i = .call c next ∧
      y = x.answer i c (reply c) (next (reply c))) ∨
    (∃ i, e = .breakOff i ∧ (x.rest i).isDone = false ∧ y = x.breakOff i) := by
  cases e with
  | pass ms => exact .inl ⟨ms, rfl, (Option.some.inj h).symm⟩
  | come d => exact .inr (.inl ⟨d, rfl, (Option.some.inj h).symm⟩)
  | answer i reply =>
    simp only [step] at h
    split at h
    · cases h
    · next c next hrest =>
      exact .inr (.inr (.inl ⟨i, reply, c, next, rfl, hrest, (Option.some.inj h).symm⟩))
  | breakOff i =>
    simp only [step] at h
    split at h
    · cases h
    · next hrest =>
      exact .inr (.inr (.inr ⟨i, rfl, by simpa using hrest, (Option.some.inj h).symm⟩))

/-! ## Schedules -/

/-- The states that can be reached from the start if every event is one that `may`
happen where it does. -/
inductive Reaches (may : Traffic → Event → Bool) (window : Nat) : Traffic → Prop
  | opening : Reaches may window (opening window)
  | step {x y : Traffic} {e : Event} (h : Reaches may window x) (hmay : may x e = true)
      (hstep : x.step e = some y) : Reaches may window y

/-- What is reached by some events is reached where more may happen. -/
theorem Reaches.mono {may may' : Traffic → Event → Bool} {window : Nat} {x : Traffic}
    (h : Reaches may window x) (hmay : ∀ x e, may x e = true → may' x e = true) :
    Reaches may' window x := by
  induction h with
  | opening => exact .opening
  | step _ he hstep ih => exact .step ih (hmay _ _ he) hstep

/-- Whether an event breaks an errand off. -/
def Event.isBreak : Event → Bool
  | .breakOff _ => true
  | _ => false

/-- Any event is allowed that breaks nothing off. -/
def undisturbed (_ : Traffic) (e : Event) : Bool :=
  !e.isBreak

/-- An invariant of all schedules holds at the start, and each kind of event keeps it
where it may happen. -/
theorem Reaches.invariant {may : Traffic → Event → Bool} {window : Nat} {P : Traffic → Prop}
    (opening : P (Traffic.opening window))
    (pass : ∀ x ms, P x → P (x.pass ms))
    (come : ∀ x e, Reaches may window x → may x (.come e) = true → P x → P (x.come e))
    (answer : ∀ x i reply c next, Reaches may window x → may x (.answer i reply) = true →
      x.rest i = .call c next → P x → P (x.answer i c (reply c) (next (reply c))))
    (breakOff : ∀ x i, may x (.breakOff i) = true → P x → P (x.breakOff i))
    {x : Traffic} (h : Reaches may window x) : P x := by
  induction h with
  | opening => exact opening
  | @step x y e hx hmay hstep ih =>
    rcases step_cases hstep with ⟨ms, rfl, rfl⟩ | ⟨d, rfl, rfl⟩ |
      ⟨i, reply, c, next, rfl, hrest, rfl⟩ | ⟨i, rfl, -, rfl⟩
    · exact pass x ms ih
    · exact come x d hx hmay ih
    · exact answer x i reply c next hx hmay hrest ih
    · exact breakOff x i hmay ih

/-- The state that a list of events leads to, if all of them are allowed and can happen. -/
def run? (may : Traffic → Event → Bool) : Traffic → List Event → Option Traffic
  | x, [] => some x
  | x, e :: es => if may x e then (x.step e).bind fun y => run? may y es else none

/-- What a list of allowed events leads to is reached. -/
theorem Reaches.run? {may : Traffic → Event → Bool} {window : Nat} {x y : Traffic}
    {es : List Event} (hx : Reaches may window x) (h : Traffic.run? may x es = some y) :
    Reaches may window y := by
  induction es generalizing x with
  | nil =>
    cases h
    exact hx
  | cons e es ih =>
    simp only [Traffic.run?] at h
    split at h
    · next hmay =>
      obtain ⟨z, hz, hrun⟩ := Option.bind_eq_some_iff.1 h
      exact ih (.step hx hmay hz) hrun
    · cases h

end Traffic

end Groundwork
