/-
What a program does, told by its exchanges: the calls that it makes, each with what it
is answered. `p.Goes log q` says that `p` comes to `q` in the exchanges of `log`, and
`p.Yields log a` that it is done then, with `a`.

A program that goes on with what another yields does so in two parts, and the log
falls into the same two (`yields_bind_iff`). So the logs of a program are worked out by
taking it apart along its binds, which is what the lemmas on attempts do too.

Whoever answers, and by whatever was asked before, a program comes to its end
(`run_noting`); and two runs of one program part only where the same call is answered
differently (`Yields.eq_or_parts`).
-/
import Groundwork.Proofs.Program.Recital
import Mathlib.Data.List.Infix

set_option autoImplicit false

namespace Groundwork

/-- A call, and what it was answered. -/
structure Exchange (C : Type) (R : C → Type) where
  call : C
  reply : R call

namespace Program

variable {C : Type} {R : C → Type} {α β : Type}

/-- In the exchanges of a log, one program comes to another. -/
def Goes : Program C R α → List (Exchange C R) → Program C R α → Prop
  | p, [], q => p = q
  | p, e :: log, q => ∃ next, p = call e.call next ∧ (next e.reply).Goes log q

/-- In the exchanges of a log, a program is done. -/
def Yields (p : Program C R α) (log : List (Exchange C R)) (a : α) : Prop :=
  p.Goes log (done a)

theorem bind_eq (p : Program C R α) (f : α → Program C R β) : p >>= f = p.bind f := rfl

/-! ## How a program goes -/

section

variable {p q u : Program C R α} {log rest : List (Exchange C R)} {a b : α}

theorem Goes.append (h : p.Goes log q) (hrest : q.Goes rest u) : p.Goes (log ++ rest) u := by
  induction log generalizing p with
  | nil =>
    cases h
    exact hrest
  | cons e log ih =>
    obtain ⟨next, rfl, hnext⟩ := h
    exact ⟨next, rfl, ih hnext⟩

/-- One call more is answered. -/
theorem Goes.answered {c : C} {next : R c → Program C R α} (h : p.Goes log (call c next))
    (r : R c) : p.Goes (log ++ [⟨c, r⟩]) (next r) :=
  h.append ⟨next, rfl, rfl⟩

theorem goes_done_iff : (done a : Program C R α).Goes log q ↔ log = [] ∧ q = done a := by
  cases log with
  | nil => exact ⟨fun h => ⟨rfl, h.symm⟩, fun h => h.2.symm⟩
  | cons e log =>
    constructor
    · rintro ⟨next, hcall, -⟩
      cases hcall
    · rintro ⟨hlog, -⟩
      cases hlog

theorem yields_done_iff : (done a : Program C R α).Yields log b ↔ log = [] ∧ b = a := by
  rw [Yields, goes_done_iff, done.injEq]

theorem yields_call_iff {c : C} {next : R c → Program C R α} :
    (call c next).Yields log a ↔ ∃ r rest, log = ⟨c, r⟩ :: rest ∧ (next r).Yields rest a := by
  cases log with
  | nil =>
    constructor
    · intro h
      cases h
    · rintro ⟨r, rest, hlog, -⟩
      cases hlog
  | cons e log =>
    constructor
    · rintro ⟨next', hcall, hnext⟩
      cases hcall
      exact ⟨e.reply, log, rfl, hnext⟩
    · rintro ⟨r, rest, hlog, hnext⟩
      cases hlog
      exact ⟨next, rfl, hnext⟩

/-- One program after another: the log falls into that of the one and that of the other. -/
theorem yields_bind_iff {f : α → Program C R β} {b : β} :
    (p.bind f).Yields log b ↔
      ∃ a first second, log = first ++ second ∧ p.Yields first a ∧ (f a).Yields second b := by
  induction p generalizing log with
  | done a =>
    constructor
    · intro h
      exact ⟨a, [], log, rfl, rfl, h⟩
    · rintro ⟨a', first, second, rfl, hfirst, hsecond⟩
      obtain ⟨rfl, rfl⟩ := yields_done_iff.1 hfirst
      exact hsecond
  | call c next ih =>
    rw [bind, yields_call_iff]
    constructor
    · rintro ⟨r, rest, rfl, hrest⟩
      obtain ⟨a, first, second, rfl, hfirst, hsecond⟩ := (ih r).1 hrest
      exact ⟨a, ⟨c, r⟩ :: first, second, rfl, yields_call_iff.2 ⟨r, first, rfl, hfirst⟩, hsecond⟩
    · rintro ⟨a, first, second, rfl, hfirst, hsecond⟩
      obtain ⟨r, rest, rfl, hrest⟩ := yields_call_iff.1 hfirst
      exact ⟨r, rest ++ second, rfl, (ih r).2 ⟨a, rest, second, rfl, hrest, hsecond⟩⟩

/-- Two runs of one program are the same, or part where the same call is answered
differently. -/
theorem Yields.eq_or_parts {other : List (Exchange C R)} (h : p.Yields log a)
    (hother : p.Yields other b) :
    (log = other ∧ a = b) ∨ ∃ past c r r', r ≠ r' ∧
      past ++ [⟨c, r⟩] <+: log ∧ past ++ [⟨c, r'⟩] <+: other := by
  induction p generalizing log other with
  | done a' =>
    obtain ⟨rfl, rfl⟩ := yields_done_iff.1 h
    obtain ⟨rfl, rfl⟩ := yields_done_iff.1 hother
    exact .inl ⟨rfl, rfl⟩
  | call c next ih =>
    obtain ⟨r, rest, rfl, hrest⟩ := yields_call_iff.1 h
    obtain ⟨r', rest', rfl, hrest'⟩ := yields_call_iff.1 hother
    -- with the same answer both go on alike, and with another one this is where they part
    by_cases hr : r = r'
    · subst hr
      rcases ih r hrest hrest' with ⟨rfl, rfl⟩ | ⟨past, d, s, s', hs, hlog, hlog'⟩
      · exact .inl ⟨rfl, rfl⟩
      · exact .inr ⟨⟨c, r⟩ :: past, d, s, s', hs, List.cons_prefix_cons.2 ⟨rfl, hlog⟩,
          List.cons_prefix_cons.2 ⟨rfl, hlog'⟩⟩
    · exact .inr ⟨[], c, r, r', hr, ⟨rest, rfl⟩, ⟨rest', rfl⟩⟩

end

/-- A program whose calls are known beforehand makes these. -/
theorem Recites.map_call {cs : List C} {p : Program C R α} {log : List (Exchange C R)} {a : α}
    (h : Recites (fun _ _ => True) cs p) (hlog : p.Yields log a) : log.map (·.call) = cs := by
  induction cs generalizing p log with
  | nil =>
    obtain ⟨b, rfl⟩ := h
    rw [(yields_done_iff.1 hlog).1, List.map_nil]
  | cons c cs ih =>
    obtain ⟨next, rfl, hnext⟩ := h
    obtain ⟨r, rest, rfl, hrest⟩ := yields_call_iff.1 hlog
    rw [List.map_cons, ih (hnext r trivial) hrest]

/-! ## Whoever answers -/

/-- One who answers by what was asked before, and notes it down. -/
def noting (host : List (Exchange C R) → (c : C) → R c) (past : List (Exchange C R)) (c : C) :
    List (Exchange C R) × Option (R c) :=
  (past ++ [⟨c, host past c⟩], some (host past c))

/-- A program that is always answered comes to its end, and what was noted down is its log. -/
theorem run_noting (host : List (Exchange C R) → (c : C) → R c) (past : List (Exchange C R))
    (p : Program C R α) :
    ∃ log a, run (noting host) past p = (past ++ log, some a) ∧ p.Yields log a := by
  induction p generalizing past with
  | done a => exact ⟨[], a, by simp [run], rfl⟩
  | call c next ih =>
    obtain ⟨log, a, hrun, hyields⟩ := ih (host past c) (past ++ [⟨c, host past c⟩])
    refine ⟨⟨c, host past c⟩ :: log, a, ?_, next, rfl, hyields⟩
    rw [List.append_assoc] at hrun
    exact hrun

/-- One who answers as a log says hears just that log. -/
theorem Yields.run_noting {p : Program C R α} {log : List (Exchange C R)} {a : α}
    (h : p.Yields log a) (host : (c : C) → R c) (hhost : ∀ e ∈ log, e.reply = host e.call)
    (past : List (Exchange C R)) :
    run (noting fun _ => host) past p = (past ++ log, some a) := by
  induction p generalizing log past with
  | done b =>
    obtain ⟨rfl, rfl⟩ := yields_done_iff.1 h
    simp [run]
  | call c next ih =>
    obtain ⟨r, rest, rfl, hrest⟩ := yields_call_iff.1 h
    obtain ⟨hfirst, hothers⟩ := List.forall_mem_cons.1 hhost
    change r = host c at hfirst
    subst hfirst
    rw [List.append_cons]
    exact ih (host c) hrest hothers (past ++ [⟨c, host c⟩])

/-- A program that is under way can be brought to its end. -/
theorem Goes.exists_yields {p q : Program C R α} {log : List (Exchange C R)} (h : p.Goes log q)
    (host : (c : C) → R c) : ∃ rest a, p.Yields (log ++ rest) a := by
  obtain ⟨rest, a, -, hrest⟩ := run_noting (fun _ => host) [] q
  exact ⟨rest, a, h.append hrest⟩

/-! ## Broken off -/

/-- Before a call of its was answered, a program was waiting for the answer. -/
theorem Yields.goes {p : Program C R α} {log rest : List (Exchange C R)} {e : Exchange C R} {a : α}
    (h : p.Yields (log ++ e :: rest) a) : ∃ next, p.Goes log (call e.call next) := by
  induction log generalizing p with
  | nil =>
    obtain ⟨next, rfl, -⟩ := h
    exact ⟨next, rfl⟩
  | cons x log ih =>
    obtain ⟨next, rfl, hnext⟩ := h
    obtain ⟨last, hlast⟩ := ih hnext
    exact ⟨last, next, rfl, hlast⟩

/-- A program that is broken off while a call of its waits to be answered. -/
structure Cut (p : Program C R α) where
  /-- The exchanges until then. -/
  log : List (Exchange C R)
  call : C
  next : R call → Program C R α
  goes : p.Goes log (.call call next)
  /-- What came of the call, if it was carried out by then. The program never hears of it. -/
  unheard : Option (R call)

namespace Cut

variable {p : Program C R α}

/-- What was asked for by then. -/
def asked (k : Cut p) : List C :=
  k.log.map (·.call) ++ [k.call]

/-- What was carried out by then, heard of or not. -/
def carried (k : Cut p) : List (Exchange C R) :=
  k.log ++ (k.unheard.map fun r => ⟨k.call, r⟩).toList

theorem mem_carried {k : Cut p} {e : Exchange C R} :
    e ∈ k.carried ↔ e ∈ k.log ∨ ∃ r, k.unheard = some r ∧ e = ⟨k.call, r⟩ := by
  unfold carried
  rw [List.mem_append, Option.mem_toList, Option.map_eq_some_iff]
  simp only [eq_comm]

/-- What is carried out was asked for. -/
theorem call_mem_asked {k : Cut p} {e : Exchange C R} (he : e ∈ k.carried) : e.call ∈ k.asked := by
  rcases mem_carried.1 he with he | ⟨r, -, rfl⟩
  · exact List.mem_append_left _ (List.mem_map_of_mem he)
  · exact List.mem_append_right _ List.mem_cons_self

/-- The program could have gone on. -/
theorem exists_yields (k : Cut p) (host : (c : C) → R c) :
    ∃ rest a, p.Yields (k.log ++ ⟨k.call, host k.call⟩ :: rest) a := by
  obtain ⟨rest, a, hyields⟩ := (k.goes.answered (host k.call)).exists_yields host
  rw [List.append_assoc] at hyields
  exact ⟨rest, a, hyields⟩

end Cut

end Program

/-! ## Attempts -/

namespace Attempt

variable {C : Type} {R : C → Type} {α β : Type} {log : List (Exchange C R)}

theorem yields_pure_iff {a : α} {r : Except Failure α} :
    (pure a : Attempt C R α).run.Yields log r ↔ log = [] ∧ r = .ok a :=
  Program.yields_done_iff

theorem yields_throw_iff {f : Failure} {r : Except Failure α} :
    (throw f : Attempt C R α).run.Yields log r ↔ log = [] ∧ r = .error f :=
  Program.yields_done_iff

/-- What is known without a call. -/
theorem yields_known_iff {known r : Except Failure α} :
    (ExceptT.mk (pure known) : Attempt C R α).run.Yields log r ↔ log = [] ∧ r = known :=
  Program.yields_done_iff

theorem bind_run_eq (p : Attempt C R α) (f : α → Attempt C R β) :
    (p >>= f).run = p.run.bind fun
      | .ok a => (f a).run
      | .error e => .done (.error e) := by
  show Program.bind p.run (ExceptT.bindCont f) = _
  congr 1
  funext x
  cases x <;> rfl

/-- An attempt goes on where another one that did not fail left off. -/
theorem run_bind_ok {S : Type} {answer : S → (c : C) → S × Option (R c)} {s s' : S}
    {p : Attempt C R α} {a : α} (h : Program.run answer s p.run = (s', some (.ok a)))
    (f : α → Attempt C R β) :
    Program.run answer s (p >>= f).run = Program.run answer s' (f a).run := by
  rw [bind_run_eq, Program.run_bind, h]

theorem run_bind_error {S : Type} {answer : S → (c : C) → S × Option (R c)} {s s' : S}
    {p : Attempt C R α} {e : Failure} (h : Program.run answer s p.run = (s', some (.error e)))
    (f : α → Attempt C R β) :
    Program.run answer s (p >>= f).run = (s', some (.error e)) := by
  rw [bind_run_eq, Program.run_bind, h]
  rfl

/-- An attempt that goes on with what another yields fails with it, or falls into two parts. -/
theorem yields_bind_iff {p : Attempt C R α} {f : α → Attempt C R β} {r : Except Failure β} :
    (p >>= f).run.Yields log r ↔
      (∃ e, r = .error e ∧ p.run.Yields log (.error e)) ∨
      ∃ a first second, log = first ++ second ∧ p.run.Yields first (.ok a) ∧
        (f a).run.Yields second r := by
  rw [bind_run_eq, Program.yields_bind_iff]
  constructor
  · rintro ⟨x, first, second, rfl, hfirst, hsecond⟩
    cases x with
    | error e =>
      obtain ⟨rfl, rfl⟩ := Program.yields_done_iff.1 hsecond
      rw [List.append_nil]
      exact .inl ⟨e, rfl, hfirst⟩
    | ok a => exact .inr ⟨a, first, second, rfl, hfirst, hsecond⟩
  · rintro (⟨e, rfl, h⟩ | ⟨a, first, second, rfl, hfirst, hsecond⟩)
    · exact ⟨.error e, log, [], (List.append_nil log).symm, h, rfl⟩
    · exact ⟨.ok a, first, second, rfl, hfirst, hsecond⟩

theorem yields_within_iff {p : Attempt C R α} {doing : String} {r : Except Failure α} :
    (p.within doing).run.Yields log r ↔
      ∃ r', r = r'.mapError (·.within doing) ∧ p.run.Yields log r' := by
  show (p.run.bind _).Yields log r ↔ _
  rw [Program.yields_bind_iff]
  constructor
  · rintro ⟨r', first, second, rfl, hfirst, hsecond⟩
    obtain ⟨rfl, rfl⟩ := Program.yields_done_iff.1 hsecond
    rw [List.append_nil]
    exact ⟨r', rfl, hfirst⟩
  · rintro ⟨r', rfl, h⟩
    exact ⟨r', log, [], (List.append_nil log).symm, h, rfl⟩

/-- A program that cannot fail, among attempts. -/
theorem yields_lift_iff {p : Program C R α} {r : Except Failure α} :
    (liftM p : Attempt C R α).run.Yields log r ↔ ∃ a, r = .ok a ∧ p.Yields log a := by
  show (p.bind _).Yields log r ↔ _
  rw [Program.yields_bind_iff]
  constructor
  · rintro ⟨a, first, second, rfl, hfirst, hsecond⟩
    obtain ⟨rfl, rfl⟩ := Program.yields_done_iff.1 hsecond
    rw [List.append_nil]
    exact ⟨a, rfl, hfirst⟩
  · rintro ⟨a, rfl, h⟩
    exact ⟨a, log, [], (List.append_nil log).symm, h, rfl⟩

/-- An attempt that goes on with what a program yields that cannot fail. -/
theorem yields_lift_bind_iff {p : Program C R α} {f : α → Attempt C R β} {r : Except Failure β} :
    ((liftM p : Attempt C R α) >>= f).run.Yields log r ↔
      ∃ a first second, log = first ++ second ∧ p.Yields first a ∧ (f a).run.Yields second r := by
  rw [yields_bind_iff]
  simp only [yields_lift_iff]
  constructor
  · rintro (⟨_, -, _, hnot, -⟩ | ⟨a, first, second, rfl, ⟨_, ⟨⟩, hfirst⟩, hsecond⟩)
    · cases hnot
    · exact ⟨a, first, second, rfl, hfirst, hsecond⟩
  · rintro ⟨a, first, second, rfl, hfirst, hsecond⟩
    exact .inr ⟨a, first, second, rfl, ⟨a, rfl, hfirst⟩, hsecond⟩

/-- One call that may fail. -/
theorem yields_ask_iff {A : C → Type} {log : List (Exchange C fun c => Except Failure (A c))} {c : C}
    {r : Except Failure (A c)} : (ask c).run.Yields log r ↔ log = [⟨c, r⟩] := by
  show (Program.call c Program.done).Yields log r ↔ _
  rw [Program.yields_call_iff]
  constructor
  · rintro ⟨r', rest, rfl, hrest⟩
    obtain ⟨rfl, rfl⟩ := Program.yields_done_iff.1 hrest
    rfl
  · rintro rfl
    exact ⟨r, [], rfl, rfl⟩

end Attempt

end Groundwork
