/-
Patterns, by the ways in which a text fits them. All of the ways are a relation (`Fits`)
that says nothing of wishes. Reading finds one of them, and it finds one if there is any
(`fits_of_parts?`, `isSome_parts?_iff`), so wishes only decide which.

Where they do is in the runs. A run that is to be short is the first one that leaves a way
for what comes after it (`firstRun_shortest_eq_some_iff`). A run that what comes after it
cannot start within has one way to be, so nothing depends on its wish
(`firstRun_eq_some_iff_of_stops`).
-/
import Groundwork.Text.Pattern

set_option autoImplicit false

namespace Groundwork.Text

/-- A text of characters of a kind, one at least. -/
def IsRun (kind : Char → Bool) (run : List Char) : Prop :=
  run ≠ [] ∧ ∀ c ∈ run, kind c = true

instance (kind : Char → Bool) (run : List Char) : Decidable (IsRun kind run) :=
  decidable_of_iff (run ≠ [] ∧ run.all kind = true) (and_congr Iff.rfl List.all_eq_true)

/-- The ways in which a text fits a pattern, with the parts that are taken. -/
inductive Fits : List Piece → List Char → List (List Char) → Prop
  | nil : Fits [] [] []
  | text (start : List Char) {pieces : List Piece} {rest : List Char} {parts : List (List Char)}
    (fits : Fits pieces rest parts) : Fits (.text start :: pieces) (start ++ rest) parts
  | none (starts : List (List Char)) {pieces : List Piece} {rest : List Char}
    {parts : List (List Char)} (fits : Fits pieces rest parts) :
    Fits (.option starts :: pieces) rest parts
  | option {start : List Char} {starts : List (List Char)} (mem : start ∈ starts)
    {pieces : List Piece} {rest : List Char} {parts : List (List Char)}
    (fits : Fits pieces rest parts) : Fits (.option starts :: pieces) (start ++ rest) parts
  | run (reach : Reach) {kind : Char → Bool} {run : List Char} (isRun : IsRun kind run)
    {pieces : List Piece} {rest : List Char} {parts : List (List Char)}
    (fits : Fits pieces rest parts) :
    Fits (.run reach kind :: pieces) (run ++ rest) (run :: parts)

section

variable {β : Type} {next : List Char → Option β} {reach : Reach} {kind : Char → Bool}
  {s run : List Char} {b : β}

/-! ## Options -/

theorem firstOption_eq_some {starts : List (List Char)} (h : firstOption next s starts = some b) :
    next s = some b ∨ ∃ start ∈ starts, ∃ rest, s = start ++ rest ∧ next rest = some b := by
  induction starts with
  | nil => exact .inl h
  | cons start starts ih =>
    rw [firstOption] at h
    split at h
    · next b' hb =>
      cases h
      obtain ⟨rest, hrest, hnext⟩ := Option.bind_eq_some_iff.1 hb
      exact .inr ⟨start, List.mem_cons_self, rest, dropStart?_eq_some_iff.1 hrest, hnext⟩
    · rcases ih h with hnone | ⟨other, hother, rest⟩
      · exact .inl hnone
      · exact .inr ⟨other, List.mem_cons_of_mem _ hother, rest⟩

theorem firstOption_isSome {starts : List (List Char)}
    (h : (next s).isSome ∨ ∃ start ∈ starts, ∃ rest, s = start ++ rest ∧ (next rest).isSome) :
    (firstOption next s starts).isSome := by
  induction starts with
  | nil => simpa [firstOption] using h
  | cons start starts ih =>
    rw [firstOption]
    cases hbind : (dropStart? start s).bind next with
    | some b => rfl
    | none =>
      refine ih (h.imp_right ?_)
      rintro ⟨other, hother, rest, rfl, hnext⟩
      rcases List.mem_cons.1 hother with rfl | hother
      · -- this option leads on, so it cannot have led nowhere
        rw [dropStart?_eq_some_iff.2 rfl, Option.bind_some] at hbind
        rw [hbind] at hnext
        cases hnext
      · exact ⟨other, hother, rest, rfl, hnext⟩

/-! ## Runs -/

theorem isRun_cons {c : Char} : IsRun kind (c :: s) ↔ kind c = true ∧ (s = [] ∨ IsRun kind s) := by
  unfold IsRun
  rw [List.forall_mem_cons]
  cases s with
  | nil => simp
  | cons d rest => simp

/-- A run that is found is one character, or goes on with a run that is found after it. -/
theorem firstRun_cons_eq_some {c : Char} (h : firstRun reach kind next (c :: s) = some (run, b)) :
    kind c = true ∧ ((run = [c] ∧ next s = some b) ∨
      ∃ more, run = c :: more ∧ firstRun reach kind next s = some (more, b)) := by
  cases reach with
  | longest =>
    rw [firstRun] at h
    split at h
    · next hc =>
      refine ⟨hc, ?_⟩
      cases hmore : firstRun .longest kind next s with
      | some found =>
        simp only [hmore, Option.some.injEq, Prod.mk.injEq] at h
        obtain ⟨rfl, rfl⟩ := h
        exact .inr ⟨_, rfl, rfl⟩
      | none =>
        simp only [hmore, Option.map_eq_some_iff, Prod.mk.injEq] at h
        obtain ⟨_, hnext, rfl, rfl⟩ := h
        exact .inl ⟨rfl, hnext⟩
    · cases h
  | shortest =>
    rw [firstRun] at h
    split at h
    · next hc =>
      refine ⟨hc, ?_⟩
      cases hnext : next s with
      | some found =>
        simp only [hnext, Option.some.injEq, Prod.mk.injEq] at h
        obtain ⟨rfl, rfl⟩ := h
        exact .inl ⟨rfl, rfl⟩
      | none =>
        simp only [hnext, Option.map_eq_some_iff, Prod.mk.injEq] at h
        obtain ⟨⟨more, _⟩, hmore, rfl, rfl⟩ := h
        exact .inr ⟨more, rfl, hmore⟩
    · cases h

theorem firstRun_cons_isSome {c : Char} (hc : kind c = true)
    (h : (next s).isSome ∨ (firstRun reach kind next s).isSome) :
    (firstRun reach kind next (c :: s)).isSome := by
  cases reach with
  | longest =>
    rw [firstRun, if_pos hc]
    cases hmore : firstRun .longest kind next s with
    | some found => rfl
    | none => simpa [hmore] using h
  | shortest =>
    rw [firstRun, if_pos hc]
    cases hhere : next s with
    | some found => rfl
    | none => simpa [hhere] using h

theorem firstRun_eq_some (h : firstRun reach kind next s = some (run, b)) :
    IsRun kind run ∧ ∃ rest, s = run ++ rest ∧ next rest = some b := by
  induction s generalizing run with
  | nil =>
    rw [firstRun] at h
    cases h
  | cons c s ih =>
    obtain ⟨hc, ⟨rfl, hnext⟩ | ⟨more, rfl, hmore⟩⟩ := firstRun_cons_eq_some h
    · exact ⟨isRun_cons.2 ⟨hc, .inl rfl⟩, s, rfl, hnext⟩
    · obtain ⟨hrun, rest, rfl, hnext⟩ := ih hmore
      exact ⟨isRun_cons.2 ⟨hc, .inr hrun⟩, rest, rfl, hnext⟩

theorem firstRun_isSome {rest : List Char} (hrun : IsRun kind run) (hnext : (next rest).isSome) :
    (firstRun reach kind next (run ++ rest)).isSome := by
  induction run with
  | nil => exact absurd rfl hrun.1
  | cons c run ih =>
    obtain ⟨hc, rfl | hrun⟩ := isRun_cons.1 hrun
    · exact firstRun_cons_isSome hc (.inl hnext)
    · exact firstRun_cons_isSome hc (.inr (ih hrun))

/-- No shorter run leaves a way for what comes after it. -/
def IsFirst (next : List Char → Option β) (run rest : List Char) : Prop :=
  ∀ start more, start ≠ [] → more ≠ [] → run = start ++ more → next (more ++ rest) = none

theorem isFirst_cons {c : Char} {rest : List Char} : IsFirst next (c :: run) rest ↔
    (run ≠ [] → next (run ++ rest) = none) ∧ IsFirst next run rest := by
  constructor
  · intro h
    refine ⟨fun hrun => h [c] run (List.cons_ne_nil _ _) hrun rfl, ?_⟩
    rintro start more - hmore rfl
    exact h (c :: start) more (List.cons_ne_nil _ _) hmore rfl
  · rintro ⟨hhere, hlater⟩ start more hstart hmore heq
    obtain ⟨d, start, rfl⟩ := List.exists_cons_of_ne_nil hstart
    obtain ⟨rfl, rfl⟩ := List.cons.inj heq
    by_cases hnil : start = []
    · subst hnil
      exact hhere hmore
    · exact hlater start more hnil hmore rfl

/-- A run that is to be short is the first that leaves a way for what comes after it. -/
theorem firstRun_shortest_eq_some_iff : firstRun .shortest kind next s = some (run, b) ↔
    IsRun kind run ∧ ∃ rest, s = run ++ rest ∧ next rest = some b ∧ IsFirst next run rest := by
  induction s generalizing run with
  | nil =>
    refine iff_of_false (by simp [firstRun]) ?_
    rintro ⟨hrun, rest, hnil, -⟩
    exact hrun.1 (List.append_eq_nil_iff.1 hnil.symm).1
  | cons c s ih =>
    constructor
    · intro h
      obtain ⟨hc, ⟨rfl, hnext⟩ | ⟨more, rfl, hmore⟩⟩ := firstRun_cons_eq_some h
      · refine ⟨isRun_cons.2 ⟨hc, .inl rfl⟩, s, rfl, hnext, isFirst_cons.2 ⟨fun hnil => absurd rfl hnil, ?_⟩⟩
        rintro start more hstart - heq
        exact absurd (List.append_eq_nil_iff.1 heq.symm).1 hstart
      · obtain ⟨hrun, rest, rfl, hnext, hfirst⟩ := ih.1 hmore
        -- the run was gone on with, so this character alone would not do
        have hhere : next (more ++ rest) = none := by
          rw [firstRun, if_pos hc] at h
          cases hhere : next (more ++ rest) with
          | none => rfl
          | some found =>
            simp only [hhere, Option.some.injEq, Prod.mk.injEq, List.cons.injEq, true_and] at h
            exact absurd h.1.symm hrun.1
        exact ⟨isRun_cons.2 ⟨hc, .inr hrun⟩, rest, rfl, hnext, isFirst_cons.2 ⟨fun _ => hhere, hfirst⟩⟩
    · rintro ⟨hrun, rest, heq, hnext, hfirst⟩
      obtain ⟨d, run, rfl⟩ := List.exists_cons_of_ne_nil hrun.1
      rw [List.cons_append, List.cons.injEq] at heq
      obtain ⟨rfl, rfl⟩ := heq
      obtain ⟨hhere, hlater⟩ := isFirst_cons.1 hfirst
      obtain ⟨hc, rfl | hrun⟩ := isRun_cons.1 hrun
      · rw [List.nil_append, firstRun, if_pos hc, hnext]
      · rw [firstRun, if_pos hc, hhere hrun.1]
        exact Option.map_eq_some_iff.2 ⟨(run, b), ih.2 ⟨hrun, rest, rfl, hnext, hlater⟩, rfl⟩

/-- A run has one way to be if what comes after it cannot start within it. -/
theorem firstRun_eq_some_iff_of_stops (hstops : ∀ c rest, kind c = true → next (c :: rest) = none) :
    firstRun reach kind next s = some (run, b) ↔
      IsRun kind run ∧ ∃ rest, s = run ++ rest ∧ next rest = some b := by
  refine ⟨firstRun_eq_some, ?_⟩
  -- what is found is another run with the same text, so one of them goes on within the other
  rintro ⟨hrun, rest, rfl, hnext⟩
  have hsome : (firstRun reach kind next (run ++ rest)).isSome :=
    firstRun_isSome hrun (Option.isSome_of_eq_some hnext)
  obtain ⟨⟨run', b'⟩, hfound⟩ := Option.isSome_iff_exists.1 hsome
  obtain ⟨hrun', rest', heq, hnext'⟩ := firstRun_eq_some hfound
  have hnil {more rest : List Char} {b : β} (hmore : ∀ c ∈ more, kind c = true)
      (hnext : next (more ++ rest) = some b) : more = [] := by
    cases more with
    | nil => rfl
    | cons c more =>
      rw [List.cons_append, hstops c _ (hmore c List.mem_cons_self)] at hnext
      cases hnext
  obtain ⟨rfl, rfl⟩ : run' = run ∧ rest' = rest := by
    rcases List.append_eq_append_iff.1 heq with ⟨more, rfl, rfl⟩ | ⟨more, rfl, rfl⟩
    · obtain rfl := hnil (fun c hc => hrun'.2 c (List.mem_append_right _ hc)) hnext
      simp
    · obtain rfl := hnil (fun c hc => hrun.2 c (List.mem_append_right _ hc)) hnext'
      simp
  rw [hfound, ← Option.some.inj (hnext'.symm.trans hnext)]

end

/-! ## Patterns -/

/-- What is read is one of the ways. -/
theorem fits_of_parts? {pieces : List Piece} {s : List Char} {parts : List (List Char)}
    (h : parts? pieces s = some parts) : Fits pieces s parts := by
  induction pieces generalizing s parts with
  | nil =>
    rw [parts?] at h
    split at h
    · next hs =>
      cases h
      rw [List.isEmpty_iff.1 hs]
      exact .nil
    · cases h
  | cons piece pieces ih =>
    cases piece with
    | text start =>
      obtain ⟨rest, hrest, hparts⟩ := Option.bind_eq_some_iff.1 h
      rw [dropStart?_eq_some_iff.1 hrest]
      exact .text start (ih hparts)
    | option starts =>
      rcases firstOption_eq_some h with hnone | ⟨start, hstart, rest, rfl, hparts⟩
      · exact .none starts (ih hnone)
      · exact .option hstart (ih hparts)
    | run reach kind =>
      obtain ⟨⟨run, parts⟩, hfound, rfl⟩ := Option.map_eq_some_iff.1 h
      obtain ⟨hrun, rest, rfl, hparts⟩ := firstRun_eq_some hfound
      exact .run reach hrun (ih hparts)

/-- Something is read if there is any way. -/
theorem isSome_parts?_iff {pieces : List Piece} {s : List Char} :
    (parts? pieces s).isSome ↔ ∃ parts, Fits pieces s parts := by
  constructor
  · intro h
    obtain ⟨parts, hparts⟩ := Option.isSome_iff_exists.1 h
    exact ⟨parts, fits_of_parts? hparts⟩
  · rintro ⟨parts, h⟩
    induction h with
    | nil => rfl
    | text start _ ih =>
      rw [parts?, dropStart?_eq_some_iff.2 rfl]
      exact ih
    | none starts _ ih =>
      exact firstOption_isSome (.inl ih)
    | option hstart _ ih =>
      exact firstOption_isSome (.inr ⟨_, hstart, _, rfl, ih⟩)
    | run reach hrun _ ih =>
      rw [parts?, Option.isSome_map]
      exact firstRun_isSome hrun ih

end Groundwork.Text
