/-
Programs that are under way at once. Between any two calls of one of them any of the
others may make its own, and none waits for another.

A state says what is left of each program, and which exchanges there were so far, each
with the number of the program that made the call. `Reaches.goes` carries all that is
said about one program to where it runs among others: the exchanges that bear its
number are a run of this program alone. So what it does and what it yields depends on
its own answers only.

`weave` runs some programs in an order that is given. `Reaches.woven` and
`Reaches.of_yields_weave` say that what it can do is what can happen: each state in
which all programs are done is what an order leads to, and the other way round.
-/
import Groundwork.Proofs.Program.Exchange

set_option autoImplicit false

namespace Groundwork.Program

variable {C : Type} {R : C → Type} {α : Type}

/-- Some programs that are under way at once. -/
structure Joint (C : Type) (R : C → Type) (α : Type) where
  /-- What is left of each program. -/
  rest : List (Program C R α)
  /-- The exchanges so far, each with the number of the program that made the call. -/
  log : List (Nat × Exchange C R) := []

namespace Joint

/-- The exchanges of one of the programs, in order. -/
def logOf (x : Joint C R α) (i : Nat) : List (Exchange C R) :=
  (x.log.filter (·.1 = i)).map (·.2)

/-- All exchanges, in order. -/
def exchanges (x : Joint C R α) : List (Exchange C R) :=
  x.log.map (·.2)

/-! ## What can happen -/

/-- The pending call of a program is answered. -/
def answer (x : Joint C R α) (i : Nat) (c : C) (r : R c) (next : Program C R α) : Joint C R α where
  rest := x.rest.set i next
  log := x.log ++ [(i, ⟨c, r⟩)]

/-- The states that some programs can come to. -/
inductive Reaches (ps : List (Program C R α)) : Joint C R α → Prop
  | opening : Reaches ps { rest := ps }
  | answer {x : Joint C R α} {i : Nat} {c : C} {next : R c → Program C R α} (h : Reaches ps x)
      (hwaits : x.rest[i]? = some (call c next)) (r : R c) : Reaches ps (x.answer i c r (next r))

/-- A program is answered, if it waits for an answer. `reply` is what would be answered to
any call; the pending one takes its own. -/
def step (x : Joint C R α) (i : Nat) (reply : (c : C) → R c) : Option (Joint C R α) :=
  match x.rest[i]? with
  | some (call c next) => some (x.answer i c (reply c) (next (reply c)))
  | _ => none

/-- The state that some answers lead to, if the programs wait for them. -/
def run? : Joint C R α → List (Nat × ((c : C) → R c)) → Option (Joint C R α)
  | x, [] => some x
  | x, (i, reply) :: answers => (x.step i reply).bind (·.run? answers)

variable {ps : List (Program C R α)} {x y : Joint C R α}

theorem Reaches.run? {answers : List (Nat × ((c : C) → R c))} (hx : Reaches ps x)
    (h : x.run? answers = some y) : Reaches ps y := by
  induction answers generalizing x with
  | nil =>
    cases h
    exact hx
  | cons e answers ih =>
    obtain ⟨z, hz, hrun⟩ := Option.bind_eq_some_iff.1 h
    refine ih ?_ hrun
    unfold Joint.step at hz
    split at hz
    · next c next hwaits =>
      cases hz
      exact hx.answer hwaits _
    · cases hz

/-! ## One program among others -/

theorem logOf_answer (x : Joint C R α) (i j : Nat) (c : C) (r : R c) (next : Program C R α) :
    (x.answer i c r next).logOf j = x.logOf j ++ if j = i then [⟨c, r⟩] else [] := by
  unfold logOf answer
  rw [List.filter_append, List.map_append]
  by_cases h : j = i
  · simp [h]
  · have hne : ¬ i = j := fun heq => h heq.symm
    simp [h, hne]

theorem Reaches.length_rest (h : Reaches ps x) : x.rest.length = ps.length := by
  induction h with
  | opening => rfl
  | answer _ _ _ ih => exact List.length_set.trans ih

/-- The exchanges that bear the number of a program are a run of this program. -/
theorem Reaches.goes (h : Reaches ps x) {i : Nat} {p q : Program C R α} (hp : ps[i]? = some p)
    (hq : x.rest[i]? = some q) : p.Goes (x.logOf i) q := by
  induction h generalizing q with
  | opening => exact Option.some.inj (hp.symm.trans hq)
  | @answer x j c next _ hwaits r ih =>
    rw [logOf_answer]
    -- an answer moves the program that waited for it, and no other
    by_cases hij : i = j
    · subst hij
      have hlt := (List.getElem?_eq_some_iff.1 hwaits).1
      rw [Joint.answer, List.getElem?_set_self hlt] at hq
      cases hq
      rw [if_pos rfl]
      exact (ih hwaits).answered r
    · rw [Joint.answer, List.getElem?_set_ne fun heq => hij heq.symm] at hq
      rw [if_neg hij, List.append_nil]
      exact ih hq

/-- Every exchange is that of one of the programs. -/
theorem Reaches.lt_length (h : Reaches ps x) {e : Nat × Exchange C R} (he : e ∈ x.log) :
    e.1 < ps.length := by
  induction h with
  | opening => cases he
  | answer hx hwaits r ih =>
    rcases List.mem_append.1 he with he | he
    · exact ih he
    · obtain rfl := List.mem_singleton.1 he
      rw [← hx.length_rest]
      exact (List.getElem?_eq_some_iff.1 hwaits).1

/-- Where all programs are done, each yielded its own. -/
theorem Reaches.yields (h : Reaches ps x) {as : List α} (hdone : x.rest = as.map done) {i : Nat}
    {p : Program C R α} (hp : ps[i]? = some p) :
    ∃ a, as[i]? = some a ∧ p.Yields (x.logOf i) a := by
  have hlt : i < x.rest.length := by
    rw [h.length_rest]
    exact (List.getElem?_eq_some_iff.1 hp).1
  have hq := List.getElem?_eq_getElem hlt
  have has : (as.map done)[i]? = some x.rest[i] := hdone ▸ hq
  rw [List.getElem?_map, Option.map_eq_some_iff] at has
  obtain ⟨a, ha, heq⟩ := has
  rw [← heq] at hq
  exact ⟨a, ha, h.goes hp hq⟩

/-- An exchange is in the log of the program whose number it bears. -/
theorem mem_logOf {x : Joint C R α} {i : Nat} {e : Exchange C R} :
    e ∈ x.logOf i ↔ (i, e) ∈ x.log := by
  unfold logOf
  rw [List.mem_map]
  constructor
  · rintro ⟨⟨j, e'⟩, he, rfl⟩
    have hmem := List.mem_filter.1 he
    have hj : j = i := by simpa using hmem.2
    exact hj ▸ hmem.1
  · intro he
    exact ⟨(i, e), List.mem_filter.2 ⟨he, by simp⟩, rfl⟩

/-! ## Woven programs -/

theorem exchanges_answer (x : Joint C R α) (i : Nat) (c : C) (r : R c) (next : Program C R α) :
    (x.answer i c r next).exchanges = x.exchanges ++ [⟨c, r⟩] := by
  rw [exchanges, Joint.answer, List.map_append]
  rfl

/-- What happened is what the order of the calls leads to, whatever comes after them. -/
theorem Reaches.goes_weave (h : Reaches ps x) (order : List Nat) :
    (weave (x.log.map (·.1) ++ order) ps).Goes x.exchanges (weave order x.rest) := by
  induction h generalizing order with
  | opening => rfl
  | @answer x i c next _ hwaits r ih =>
    -- what comes last so far comes first of what the order leaves open
    have hgoes := ih (i :: order)
    rw [weave, hwaits] at hgoes
    rw [exchanges_answer, Joint.answer, List.map_append, List.append_assoc]
    exact hgoes.answered r

theorem sequence_done (as : List α) :
    sequence (as.map done) = (done as : Program C R (List α)) := by
  induction as with
  | nil => rfl
  | cons a as ih =>
    rw [List.map_cons, sequence, ih]
    rfl

/-- Some programs that all came to their end were woven in the order of their calls. -/
theorem Reaches.woven (h : Reaches ps x) {as : List α} (hdone : x.rest = as.map done) :
    (weave (x.log.map (·.1)) ps).Yields x.exchanges as := by
  have hgoes := h.goes_weave []
  rwa [List.append_nil, weave, hdone, sequence_done] at hgoes

/-- One of the programs goes on while the others wait. -/
theorem Reaches.goes_on (h : Reaches ps x) {i : Nat} {p q : Program C R α}
    {log : List (Exchange C R)} (hp : x.rest[i]? = some p) (hlog : p.Goes log q) :
    ∃ y, Reaches ps y ∧ y.rest = x.rest.set i q ∧ y.exchanges = x.exchanges ++ log := by
  induction log generalizing x p with
  | nil =>
    cases hlog
    refine ⟨x, h, ?_, (List.append_nil _).symm⟩
    obtain ⟨hlt, rfl⟩ := List.getElem?_eq_some_iff.1 hp
    exact (List.set_getElem_self hlt).symm
  | cons e log ih =>
    obtain ⟨next, rfl, hnext⟩ := hlog
    have hlt := (List.getElem?_eq_some_iff.1 hp).1
    obtain ⟨y, hy, hrest, hlog⟩ := ih (h.answer hp e.reply)
      (by rw [Joint.answer, List.getElem?_set_self hlt]) hnext
    refine ⟨y, hy, ?_, ?_⟩
    · rw [hrest, Joint.answer, List.set_set]
    · rw [hlog, exchanges_answer, List.append_assoc]
      rfl

/-- The programs that are not done go on one after the other. -/
theorem Reaches.of_yields_sequence (h : Reaches ps x) {as bs : List α} {qs : List (Program C R α)}
    {log : List (Exchange C R)} (hrest : x.rest = as.map done ++ qs)
    (hlog : (sequence qs).Yields log bs) :
    ∃ y, Reaches ps y ∧ y.rest = (as ++ bs).map done ∧ y.exchanges = x.exchanges ++ log := by
  induction qs generalizing x as bs log with
  | nil =>
    obtain ⟨rfl, rfl⟩ := yields_done_iff.1 hlog
    exact ⟨x, h, by simpa using hrest, (List.append_nil _).symm⟩
  | cons q qs ih =>
    rw [sequence, yields_bind_iff] at hlog
    obtain ⟨b, first, second, rfl, hfirst, hsecond⟩ := hlog
    rw [yields_bind_iff] at hsecond
    obtain ⟨bs, second, last, rfl, hsecond, hlast⟩ := hsecond
    obtain ⟨rfl, rfl⟩ := yields_done_iff.1 hlast
    -- the first that is not done goes on alone until it is
    have hq : x.rest[as.length]? = some q := by simp [hrest]
    obtain ⟨y, hy, hyrest, hylog⟩ := h.goes_on hq hfirst
    have hyrest' : y.rest = (as ++ [b]).map done ++ qs := by simp [hyrest, hrest]
    obtain ⟨z, hz, hzrest, hzlog⟩ := ih hy hyrest' hsecond
    refine ⟨z, hz, by simpa using hzrest, ?_⟩
    rw [hzlog, hylog, List.append_nil, List.append_assoc]

/-- Whatever the programs are woven to do, from wherever they are, can happen. -/
theorem Reaches.of_yields_weave (h : Reaches ps x) {order : List Nat} {log : List (Exchange C R)}
    {as : List α} (hlog : (weave order x.rest).Yields log as) :
    ∃ y, Reaches ps y ∧ y.rest = as.map done ∧ y.exchanges = x.exchanges ++ log := by
  induction order generalizing x log with
  | nil =>
    have hrest : x.rest = ([] : List α).map done ++ x.rest := rfl
    exact h.of_yields_sequence hrest hlog
  | cons i order ih =>
    rw [weave] at hlog
    split at hlog
    · next c next hwaits =>
      obtain ⟨r, rest, rfl, hrest⟩ := yields_call_iff.1 hlog
      obtain ⟨y, hy, hyrest, hylog⟩ := ih (h.answer hwaits r) hrest
      refine ⟨y, hy, hyrest, ?_⟩
      rw [hylog, exchanges_answer, List.append_assoc]
      rfl
    · exact ih h hlog

/-- What was begun can be brought to its end. -/
theorem Reaches.exists_done (h : Reaches ps x) (host : (c : C) → R c) :
    ∃ (y : Joint C R α) (as : List α), Reaches ps y ∧ y.rest = as.map done ∧
      x.exchanges <+: y.exchanges := by
  obtain ⟨log, as, -, hlog⟩ := run_noting (fun _ => host) [] (weave [] x.rest)
  obtain ⟨y, hy, hrest, hexchanges⟩ := h.of_yields_weave hlog
  exact ⟨y, as, hy, hrest, hexchanges ▸ List.prefix_append _ _⟩

end Joint

end Groundwork.Program
