/-
Programs whose calls are known beforehand. A program recites some calls if it makes
these, in their order, and no others, as long as every answer is one that is
expected. Where any answer is expected, the answers make no difference to the calls.

`Recites.step` is what carries this along a run: a program that recites `c :: cs` is
about to make the call `c`, and recites `cs` once it is answered. So at any time the
calls that were made and those that are left make up the whole list.
-/
import Groundwork.Program

set_option autoImplicit false

namespace Groundwork.Program

variable {C : Type} {R : C → Type} {α β : Type}

/-- The program makes the calls of the list, in their order, and no others, as long as
the answers are expected. -/
def Recites (expected : (c : C) → R c → Prop) : List C → Program C R α → Prop
  | [], p => ∃ a, p = done a
  | c :: cs, p => ∃ next, p = call c next ∧ ∀ r, expected c r → Recites expected cs (next r)

/-- Whether a program has nothing left to do. -/
def isDone : Program C R α → Bool
  | done _ => true
  | call _ _ => false

@[simp] theorem isDone_done (a : α) : (done a : Program C R α).isDone = true := rfl

@[simp] theorem isDone_call (c : C) (next : R c → Program C R α) :
    (call c next).isDone = false := rfl

/-! ## How a recital goes on -/

section

variable {expected : (c : C) → R c → Prop} {cs ds : List C}

theorem recites_done (a : α) : Recites expected [] (done a : Program C R α) :=
  ⟨a, rfl⟩

/-- A program that makes a call recites that call first, and then what is left. -/
theorem Recites.step {c : C} {next : R c → Program C R α} (h : Recites expected cs (call c next)) :
    ∃ rest, cs = c :: rest ∧ ∀ r, expected c r → Recites expected rest (next r) := by
  cases cs with
  | nil =>
    obtain ⟨a, ha⟩ := h
    cases ha
  | cons d rest =>
    obtain ⟨next', heq, hnext⟩ := h
    cases heq
    exact ⟨rest, rfl, hnext⟩

/-- Nothing is left of a recital exactly when the program is done. -/
theorem Recites.isDone_iff {p : Program C R α} (h : Recites expected cs p) :
    p.isDone = true ↔ cs = [] := by
  cases p with
  | done a =>
    cases cs with
    | nil => simp
    | cons c rest =>
      obtain ⟨next, heq, -⟩ := h
      cases heq
  | call c next =>
    obtain ⟨rest, rfl, -⟩ := h.step
    simp

/-- Two recitals, one after the other. -/
theorem Recites.bind {p : Program C R α} {f : α → Program C R β} (hp : Recites expected cs p)
    (hf : ∀ a, Recites expected ds (f a)) : Recites expected (cs ++ ds) (p.bind f) := by
  induction cs generalizing p with
  | nil =>
    obtain ⟨a, rfl⟩ := hp
    exact hf a
  | cons c rest ih =>
    obtain ⟨next, rfl, hnext⟩ := hp
    exact ⟨fun r => (next r).bind f, rfl, fun r hr => ih (hnext r hr)⟩

end

/-! ## Being answered by one host -/

/-- The calls of a program when each is answered by `host`. -/
def callsTo (host : (c : C) → R c) : Program C R α → List C
  | done _ => []
  | call c next => c :: (next (host c)).callsTo host

/-- A recital makes its calls whoever answers. -/
theorem Recites.callsTo_eq {cs : List C} {p : Program C R α}
    (h : Recites (fun _ _ => True) cs p) (host : (c : C) → R c) : p.callsTo host = cs := by
  induction cs generalizing p with
  | nil =>
    obtain ⟨a, rfl⟩ := h
    rfl
  | cons c rest ih =>
    obtain ⟨next, rfl, hnext⟩ := h
    rw [callsTo, ih (hnext (host c) trivial)]

end Groundwork.Program
