/-
Cutting texts at a separator: at its first place, at its last place, or at every
place. What was cut can always be joined again, so nothing is lost.
-/
set_option autoImplicit false

namespace Groundwork.Text

variable {α : Type} [BEq α] [LawfulBEq α]

/-- The text before and after the first `sep`, if there is one. -/
def splitFirst? (sep : α) : List α → Option (List α × List α)
  | [] => none
  | c :: rest =>
    if c == sep then some ([], rest)
    else (splitFirst? sep rest).map fun (before, after) => (c :: before, after)

/-- The text before and after the last `sep`, if there is one. -/
def splitLast? (sep : α) : List α → Option (List α × List α)
  | [] => none
  | c :: rest =>
    match splitLast? sep rest with
    | some (before, after) => some (c :: before, after)
    | none => if c == sep then some ([], rest) else none

/-- The parts between the places of `sep`; a text without it is one part. -/
def splitAll (sep : α) : List α → List (List α)
  | [] => [[]]
  | c :: rest =>
    if c == sep then [] :: splitAll sep rest
    else match splitAll sep rest with
      | [] => [[c]]
      | part :: parts => (c :: part) :: parts

/-- The parts with `sep` between them. -/
def joinWith (sep : List α) : List (List α) → List α
  | [] => []
  | [part] => part
  | part :: parts => part ++ sep ++ joinWith sep parts

/-- The text with its first occurrence of a part, if there is one, replaced. -/
def replaceFirst (part new : List α) : List α → List α
  | [] => if part.isEmpty then new else []
  | c :: rest =>
    if part.isPrefixOf (c :: rest) then new ++ (c :: rest).drop part.length
    else c :: replaceFirst part new rest

/-- A text without a given start, if it has it. -/
def dropStart? (start s : List α) : Option (List α) :=
  if start.isPrefixOf s then some (s.drop start.length) else none

/-! ## Cutting loses nothing -/

theorem dropStart?_eq_some_iff {start s rest : List α} :
    dropStart? start s = some rest ↔ s = start ++ rest := by
  unfold dropStart?
  constructor
  · intro h
    split at h
    · next hstart =>
      obtain ⟨more, rfl⟩ := List.isPrefixOf_iff_prefix.1 hstart
      rw [List.drop_left, Option.some.injEq] at h
      rw [h]
    · cases h
  · rintro rfl
    rw [if_pos (List.isPrefixOf_iff_prefix.2 (List.prefix_append _ _)), List.drop_left]

theorem splitFirst?_eq_some {sep : α} {s before after : List α} :
    splitFirst? sep s = some (before, after) ↔ s = before ++ sep :: after ∧ sep ∉ before := by
  induction s generalizing before with
  | nil => simp [splitFirst?]
  | cons c rest ih =>
    by_cases hc : c == sep
    · have hc' := eq_of_beq hc
      subst hc'
      cases before with
      | nil => simp [splitFirst?]
      | cons b bs => simp [splitFirst?]; intro h; simp [h]
    · have hne : c ≠ sep := fun h => hc (by simp [h])
      simp only [splitFirst?, hc, Bool.false_eq_true, if_false, Option.map_eq_some_iff, Prod.mk.injEq]
      constructor
      · rintro ⟨⟨b, a⟩, hb, rfl, rfl⟩
        obtain ⟨rfl, hmem⟩ := ih.1 hb
        exact ⟨rfl, by simp [hmem, Ne.symm hne]⟩
      · rintro ⟨heq, hmem⟩
        cases before with
        | nil => simp_all
        | cons b bs =>
          simp only [List.cons_append, List.cons.injEq] at heq
          obtain ⟨rfl, rfl⟩ := heq
          exact ⟨(bs, after), ih.2 ⟨rfl, fun h => hmem (by simp [h])⟩, rfl, rfl⟩

theorem splitFirst?_eq_none {sep : α} {s : List α} : splitFirst? sep s = none ↔ sep ∉ s := by
  induction s with
  | nil => simp [splitFirst?]
  | cons c rest ih =>
    by_cases hc : c == sep
    · have hc' := eq_of_beq hc
      subst hc'
      simp [splitFirst?]
    · have hne : sep ≠ c := fun h => hc (by simp [h])
      simp [splitFirst?, hc, ih, hne]

theorem splitLast?_eq_none {sep : α} {s : List α} : splitLast? sep s = none ↔ sep ∉ s := by
  induction s with
  | nil => simp [splitLast?]
  | cons c rest ih =>
    cases h : splitLast? sep rest with
    | none =>
      have hmem := ih.1 h
      by_cases hc : c == sep
      · have hc' := eq_of_beq hc
        subst hc'
        simp [splitLast?, h]
      · have hne : sep ≠ c := fun h => hc (by simp [h])
        simp [splitLast?, h, hc, hmem, hne]
    | some p =>
      have hmem : sep ∈ rest := by
        refine Decidable.of_not_not fun hn => ?_
        rw [ih.2 hn] at h
        cases h
      simp [splitLast?, h, hmem]

theorem splitLast?_eq_some {sep : α} {s before after : List α} :
    splitLast? sep s = some (before, after) ↔ s = before ++ sep :: after ∧ sep ∉ after := by
  induction s generalizing before after with
  | nil => simp [splitLast?]
  | cons c rest ih =>
    cases h : splitLast? sep rest with
    | none =>
      have hmem := splitLast?_eq_none.1 h
      by_cases hc : c == sep
      · have hc' := eq_of_beq hc
        subst hc'
        cases before with
        | nil => simp [splitLast?, h]; rintro rfl; exact hmem
        | cons b bs => simp [splitLast?, h]; rintro - rfl; simp_all
      · have hne : c ≠ sep := fun h => hc (by simp [h])
        cases before with
        | nil => simp [splitLast?, h, hc]; rintro rfl; exact absurd rfl hne
        | cons b bs => simp [splitLast?, h, hc]; rintro - rfl; simp_all
    | some p =>
      obtain ⟨b, a⟩ := p
      have hrest := ih.1 h
      cases before with
      | nil =>
        simp only [splitLast?, h, Option.some.injEq, Prod.mk.injEq, reduceCtorEq, false_and,
          List.nil_append, List.cons.injEq, false_iff, not_and]
        rintro ⟨rfl, rfl⟩
        simp [hrest.1]
      | cons b' bs =>
        have key := @ih bs after
        rw [h] at key
        simp only [Option.some.injEq, Prod.mk.injEq] at key
        simp only [splitLast?, h, Option.some.injEq, Prod.mk.injEq, List.cons.injEq,
          List.cons_append]
        constructor
        · rintro ⟨⟨rfl, rfl⟩, rfl⟩
          exact ⟨⟨rfl, (key.1 ⟨rfl, rfl⟩).1⟩, (key.1 ⟨rfl, rfl⟩).2⟩
        · rintro ⟨⟨rfl, hr⟩, hm⟩
          obtain ⟨rfl, rfl⟩ := key.2 ⟨hr, hm⟩
          exact ⟨⟨rfl, rfl⟩, rfl⟩

omit [LawfulBEq α] in
theorem splitAll_ne_nil (sep : α) (s : List α) : splitAll sep s ≠ [] := by
  cases s with
  | nil => simp [splitAll]
  | cons c rest =>
    simp only [splitAll]
    split
    · simp
    · split <;> simp

/-- Joining the parts with the separator gives the text back. -/
theorem joinWith_splitAll (sep : α) (s : List α) : joinWith [sep] (splitAll sep s) = s := by
  induction s with
  | nil => rfl
  | cons c rest ih =>
    simp only [splitAll]
    split
    · next hc =>
      have hc' := eq_of_beq hc
      subst hc'
      cases h : splitAll c rest with
      | nil => exact absurd h (splitAll_ne_nil c rest)
      | cons p ps => rw [← h]; simp [joinWith, h]; rw [← h]; exact ih
    · cases h : splitAll sep rest with
      | nil => exact absurd h (splitAll_ne_nil sep rest)
      | cons p ps =>
        rw [h] at ih
        cases ps with
        | nil => simp_all [joinWith]
        | cons q qs => simp_all [joinWith]

/-- The parts of two texts with the separator between them are those of the one and then
those of the other. -/
theorem splitAll_append_cons (sep : α) (a b : List α) :
    splitAll sep (a ++ sep :: b) = splitAll sep a ++ splitAll sep b := by
  induction a with
  | nil => simp [splitAll]
  | cons c a ih =>
    simp only [List.cons_append, splitAll, ih]
    split
    · rfl
    · cases h : splitAll sep a with
      | nil => exact absurd h (splitAll_ne_nil sep a)
      | cons part parts => rfl

theorem splitAll_of_not_mem {sep : α} {part : List α} (h : sep ∉ part) : splitAll sep part = [part] := by
  induction part with
  | nil => rfl
  | cons c rest ih =>
    have hne : (c == sep) = false := beq_eq_false_iff_ne.2 fun hc => h (by simp [hc])
    have hrest : sep ∉ rest := fun hmem => h (List.mem_cons_of_mem _ hmem)
    simp only [splitAll, hne, Bool.false_eq_true, if_false, ih hrest]

/-- Cutting what was joined gives the parts back. -/
theorem splitAll_joinWith {sep : α} {parts : List (List α)} (hne : parts ≠ [])
    (h : ∀ part ∈ parts, sep ∉ part) : splitAll sep (joinWith [sep] parts) = parts := by
  induction parts with
  | nil => exact absurd rfl hne
  | cons part rest ih =>
    obtain ⟨hpart, hrest⟩ := List.forall_mem_cons.1 h
    cases rest with
    | nil => exact splitAll_of_not_mem hpart
    | cons other rest =>
      have hjoin : joinWith [sep] (part :: other :: rest) =
          part ++ sep :: joinWith [sep] (other :: rest) := by
        rw [joinWith, List.append_assoc]
        · rfl
        · exact List.cons_ne_nil _ _
      rw [hjoin, splitAll_append_cons, splitAll_of_not_mem hpart,
        ih (List.cons_ne_nil _ _) hrest, List.singleton_append]

/-- No part holds the separator. -/
theorem not_mem_of_mem_splitAll {sep : α} {s part : List α} (h : part ∈ splitAll sep s) :
    sep ∉ part := by
  induction s generalizing part with
  | nil => simp_all [splitAll]
  | cons c rest ih =>
    simp only [splitAll] at h
    split at h
    · rcases List.mem_cons.1 h with rfl | h
      · simp
      · exact ih h
    · next hc =>
      have hne : sep ≠ c := fun h => hc (by simp [h])
      cases hs : splitAll sep rest with
      | nil => exact absurd hs (splitAll_ne_nil sep rest)
      | cons p ps =>
        rw [hs] at h ih
        rcases List.mem_cons.1 h with rfl | h
        · have := @ih p (by simp)
          simp [hne, this]
        · exact ih (by simp [h])

end Groundwork.Text
