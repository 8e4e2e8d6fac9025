/-
Programs that ask others for something. A program either is done or makes a call,
and goes on with whatever it is answered. So a program says what is asked and in
which order, and nothing about who answers: the same program can be run against
the services themselves, against a described world, or against every answer that
there could be.
-/
import Groundwork.Failure

set_option autoImplicit false

namespace Groundwork

/-- A program that makes calls `C` and yields an `α`; a call `c` is answered `R c`. -/
inductive Program (C : Type) (R : C → Type) (α : Type) : Type where
  | done (a : α)
  | call (c : C) (next : R c → Program C R α)

namespace Program

variable {C : Type} {R : C → Type} {α β γ : Type}

/-- One program after another. -/
def bind (p : Program C R α) (f : α → Program C R β) : Program C R β :=
  match p with
  | done a => f a
  | call c next => call c fun r => (next r).bind f

/-- The program that makes one call and yields its answer. -/
def ask (c : C) : Program C R (R c) :=
  call c done

instance : Monad (Program C R) where
  pure := done
  bind := bind

theorem bind_done (p : Program C R α) : p.bind done = p := by
  induction p with
  | done a => rfl
  | call c next ih => exact congrArg (call c) (funext ih)

theorem bind_assoc (p : Program C R α) (f : α → Program C R β) (g : β → Program C R γ) :
    (p.bind f).bind g = p.bind fun a => (f a).bind g := by
  induction p with
  | done a => rfl
  | call c next ih => exact congrArg (call c) (funext ih)

instance : LawfulMonad (Program C R) := LawfulMonad.mk' (Program C R)
  (fun p => bind_done p)
  (fun _ _ => rfl)
  (fun p f g => bind_assoc p f g)

/-! ## Running -/

/-- Runs a program against one who answers and remembers. A call may stay without an
answer: then the program goes no further and yields nothing. -/
def run {S : Type} (answer : S → (c : C) → S × Option (R c)) : S → Program C R α → S × Option α
  | s, done a => (s, some a)
  | s, call c next =>
    match answer s c with
    | (s, some r) => run answer s (next r)
    | (s, none) => (s, none)

theorem run_bind {S : Type} (answer : S → (c : C) → S × Option (R c)) (s : S)
    (p : Program C R α) (f : α → Program C R β) :
    run answer s (p.bind f) =
      match run answer s p with
      | (s, some a) => run answer s (f a)
      | (s, none) => (s, none) := by
  induction p generalizing s with
  | done a => rfl
  | call c next ih =>
    simp only [bind, run]
    match answer s c with
    | (s, some r) => exact ih r s
    | (s, none) => rfl

/-- The programs of a list, one after the other. -/
def sequence : List (Program C R α) → Program C R (List α)
  | [] => done []
  | p :: ps => p.bind fun a => (sequence ps).bind fun as => done (a :: as)

/-- The programs of a list at once. `order` says, time after time, which of them makes its
call next; one that is done is passed over. Once the order is used up they go on one
after the other. -/
def weave : List Nat → List (Program C R α) → Program C R (List α)
  | [], ps => sequence ps
  | i :: order, ps =>
    match ps[i]? with
    | some (call c next) => call c fun r => weave order (ps.set i (next r))
    | _ => weave order ps

end Program

/-- A program that may fail. -/
abbrev Attempt (C : Type) (R : C → Type) (α : Type) : Type :=
  ExceptT Failure (Program C R) α

namespace Attempt

variable {C : Type} {R : C → Type} {α : Type}

/-- Makes a call that may fail. -/
def ask {A : C → Type} (c : C) : Attempt C (fun c => Except Failure (A c)) (A c) :=
  ExceptT.mk (Program.ask c)

/-- Says what was being done if an attempt fails. -/
def within (p : Attempt C R α) (doing : String) : Attempt C R α :=
  ExceptT.mk (p.run.bind fun r => .done (r.mapError (·.within doing)))

/-- The outcome of an attempt, whatever it is. -/
def outcome (p : Attempt C R α) : Program C R (Except Failure α) :=
  p.run

/-- An attempt whose failure does not matter. -/
def regardless (p : Attempt C R α) : Program C R Unit :=
  p.run.bind fun _ => .done ()

end Attempt

end Groundwork
