/-
Which projects some changes are for. A project is chosen by itself: by who asks, by its
own rules, and by whether one of the changes, seen from its directory, falls under them
(`mem_projects_iff`). So the choice from a list of projects is the list, each project
once, with those left out that are not chosen (`projects_eq_filter`), and what one
project cannot use, a rule or a path, does not matter to the others
(`projects_selection`).
-/
import Groundwork.Trigger
import Mathlib.Data.List.Basic

set_option autoImplicit false

namespace Groundwork

/-! ## Lists without repetitions -/

section

variable {α : Type} [BEq α] [LawfulBEq α]

/-- Leaving out some elements and leaving out repetitions can be done in any order. -/
theorem eraseDups_filter (f : α → Bool) (l : List α) :
    (l.filter f).eraseDups = l.eraseDups.filter f := by
  match l with
  | [] => simp only [List.filter_nil, List.eraseDups_nil]
  | a :: l =>
    have ih := eraseDups_filter f (l.filter fun b => !b == a)
    rw [List.eraseDups_cons, List.filter_cons, List.filter_cons]
    split
    · rw [List.eraseDups_cons, ← ih, List.filter_filter, List.filter_filter]
      simp only [Bool.and_comm]
    · next ha =>
      -- what is left out anyway need not be left out again
      have hleft : (l.filter fun b => !b == a).filter f = l.filter f := by
        rw [List.filter_filter]
        refine List.filter_congr fun b _ => ?_
        by_cases hb : b = a
        · rw [hb, Bool.eq_false_iff.2 ha, Bool.false_and]
        · rw [beq_eq_false_iff_ne.2 hb, Bool.not_false, Bool.and_true]
      rw [← ih, hleft]
termination_by l.length
decreasing_by
  exact Nat.lt_succ_of_le (List.length_filter_le _ _)

omit [LawfulBEq α] in
/-- What is left is in the same order. -/
theorem eraseDups_sublist (l : List α) : l.eraseDups.Sublist l := by
  match l with
  | [] => exact List.Sublist.refl _
  | a :: l =>
    rw [List.eraseDups_cons]
    exact ((eraseDups_sublist _).trans List.filter_sublist).cons_cons a
termination_by l.length
decreasing_by
  exact Nat.lt_succ_of_le (List.length_filter_le _ _)

/-- Nothing is left twice. -/
theorem nodup_eraseDups (l : List α) : l.eraseDups.Nodup := by
  match l with
  | [] => exact List.nodup_nil
  | a :: l =>
    rw [List.eraseDups_cons, List.nodup_cons]
    refine ⟨?_, nodup_eraseDups _⟩
    intro ha
    have hne := (List.mem_filter.1 (List.mem_eraseDups.1 ha)).2
    simp at hne
termination_by l.length
decreasing_by
  exact Nat.lt_succ_of_le (List.length_filter_le _ _)

end

/-! ## One project -/

/-- Of some changes one falls under the rules of a directory if it can be seen from
there and what is seen does. -/
theorem Rules.matchesAny_iff {rules : Rules} {dir : String} {cs : List Change} :
    rules.matchesAny dir cs = true ↔
      ∃ c ∈ cs, ∃ seen, Path.relative? dir c.path = some seen ∧ rules.isMatch seen = true := by
  have hchange : ∀ c : Change, rules.matchesChange dir c = true ↔
      ∃ seen, Path.relative? dir c.path = some seen ∧ rules.isMatch seen = true := by
    intro c
    unfold Rules.matchesChange
    cases Path.relative? dir c.path with
    | none => simp
    | some seen => simp
  simp only [Rules.matchesAny, List.any_eq_true, hchange]

namespace Trigger

/-- Changes are changes of a project if its rules are globs and one of the changes falls
under them. -/
theorem isChanged_iff {p : Project} {cs : List Change} :
    isChanged p cs = true ↔ ∃ rules, Rules.ofProject p = .ok rules ∧
      ∃ c ∈ cs, ∃ seen, Path.relative? p.dir c.path = some seen ∧ rules.isMatch seen = true := by
  unfold isChanged
  cases Rules.ofProject p with
  | error e => simp
  | ok rules => simp [Rules.matchesAny_iff]

/-- Some changes and others are changes of a project if those or these are. -/
theorem isChanged_append (p : Project) (as bs : List Change) :
    isChanged p (as ++ bs) = (isChanged p as || isChanged p bs) := by
  unfold isChanged
  cases Rules.ofProject p with
  | error e => rfl
  | ok rules => exact List.any_append

theorem isTriggered_append (mode : Mode) (as bs : List Change) (p : Project) :
    isTriggered mode (as ++ bs) p = (isTriggered mode as p || isTriggered mode bs p) := by
  simp only [isTriggered, isChanged_append, Bool.and_or_distrib_left]

/-- Who asks matters in one way: a pull request is only for projects that it plots by
itself. -/
theorem isTriggered_auto (cs : List Change) (p : Project) :
    isTriggered .auto cs p = (p.autoPlot && isTriggered .explicit cs p) := by
  simp only [isTriggered, beq_self_eq_true, Bool.true_or, Bool.true_and]
  rfl

/-! ## Lists of projects -/

/-- The projects that are chosen are those of the list, each once, that are chosen by
themselves. -/
theorem projects_eq_filter (cs : List Change) (ps : List Project) (mode : Mode) :
    projects cs ps mode = ps.eraseDups.filter (isTriggered mode cs) :=
  eraseDups_filter _ ps

theorem mem_projects {cs : List Change} {ps : List Project} {mode : Mode} {p : Project} :
    p ∈ projects cs ps mode ↔ p ∈ ps ∧ isTriggered mode cs p = true := by
  rw [projects_eq_filter, List.mem_filter, List.mem_eraseDups]

/-- The projects that are chosen are in the order of the list. -/
theorem projects_sublist (cs : List Change) (ps : List Project) (mode : Mode) :
    (projects cs ps mode).Sublist ps := by
  rw [projects_eq_filter]
  exact List.filter_sublist.trans (eraseDups_sublist ps)

/-- No project is chosen twice. -/
theorem nodup_projects (cs : List Change) (ps : List Project) (mode : Mode) :
    (projects cs ps mode).Nodup := by
  rw [projects_eq_filter]
  exact (nodup_eraseDups ps).sublist List.filter_sublist

/-- A project is chosen from a list if it is in it, if who asks asks for it, and if one
of the changes can be seen from its directory and falls under its rules. -/
theorem mem_projects_iff {cs : List Change} {ps : List Project} {mode : Mode} {p : Project} :
    p ∈ projects cs ps mode ↔ p ∈ ps ∧ (mode = .explicit ∨ p.autoPlot = true) ∧
      ∃ rules, Rules.ofProject p = .ok rules ∧ ∃ c ∈ cs, ∃ seen,
        Path.relative? p.dir c.path = some seen ∧ rules.isMatch seen = true := by
  rw [mem_projects, isTriggered, Bool.and_eq_true, Bool.or_eq_true, beq_iff_eq, isChanged_iff]

/-- Of a change only the path matters that counts. -/
theorem projects_modified_path (cs : List Change) (ps : List Project) (mode : Mode) :
    projects ((cs.map Change.path).map Change.modified) ps mode = projects cs ps mode := by
  have hchanged (p : Project) :
      isChanged p ((cs.map Change.path).map Change.modified) = isChanged p cs := by
    unfold isChanged
    cases Rules.ofProject p with
    | error e => rfl
    | ok rules =>
      simp only [Rules.matchesAny, List.map_map, List.any_map]
      rfl
  have htriggered : isTriggered mode ((cs.map Change.path).map Change.modified) =
      isTriggered mode cs := funext fun p => by rw [isTriggered, isTriggered, hchanged]
  rw [projects, projects, htriggered]

/-- A project with a rule that is no glob might as well not be there. -/
theorem projects_of_error {cs : List Change} {before after : List Project} {mode : Mode}
    {p : Project} {e : Trigger.Error} (h : Rules.ofProject p = .error e) :
    projects cs (before ++ p :: after) mode = projects cs (before ++ after) mode := by
  have hnot : isTriggered mode cs p = false := by
    simp only [isTriggered, isChanged, h, Bool.and_false]
  unfold projects
  rw [List.filter_append, List.filter_append, List.filter_cons_of_neg (by simp [hnot])]

/-- A path that cannot be seen from the directory of a project does not matter to it. -/
theorem mem_projects_of_unseen {as bs : List Change} {ps : List Project} {mode : Mode} {c : Change}
    {p : Project} (h : Path.relative? p.dir c.path = none) :
    p ∈ projects (as ++ c :: bs) ps mode ↔ p ∈ projects (as ++ bs) ps mode := by
  have hnot : isTriggered mode [c] p = false := by
    have hchanged : isChanged p [c] = false := by
      rw [Bool.eq_false_iff, ne_eq, isChanged_iff]
      rintro ⟨rules, -, d, hd, seen, hseen, -⟩
      rw [List.mem_singleton.1 hd, h] at hseen
      cases hseen
    rw [isTriggered, hchanged, Bool.and_false]
  rw [mem_projects, mem_projects, List.append_cons, isTriggered_append, isTriggered_append,
    isTriggered_append, hnot, Bool.or_false]

/-- **Each project is chosen by itself.** The projects that are chosen are in order and
each once. A project is chosen for some changes and others exactly if it is for those or
for these, so neither the order of changes matters nor how often they come. A pull
request is for the projects that are chosen when someone asks, as far as they are
plotted by it. Whether a project is chosen is a matter of who asks, of its own rules and
of its own directory, so it is the same in any list. One with a rule that is no glob
leaves the others as they are, and a path that cannot be seen from its directory leaves
the other paths as they are. -/
theorem projects_selection (ps : List Project) (mode : Mode) :
    (∀ cs, (projects cs ps mode).Nodup ∧ (projects cs ps mode).Sublist ps.eraseDups ∧
      (projects cs ps mode).Sublist ps) ∧
    (∀ as bs p, p ∈ projects (as ++ bs) ps mode ↔
      p ∈ projects as ps mode ∨ p ∈ projects bs ps mode) ∧
    (∀ as bs, (∀ c, c ∈ as ↔ c ∈ bs) → projects as ps mode = projects bs ps mode) ∧
    (∀ cs, projects cs ps .auto = (projects cs ps .explicit).filter (·.autoPlot)) ∧
    (∀ cs p, p ∈ projects cs ps mode ↔ p ∈ ps ∧ (mode = .explicit ∨ p.autoPlot = true) ∧
      ∃ rules, Rules.ofProject p = .ok rules ∧ ∃ c ∈ cs, ∃ seen,
        Path.relative? p.dir c.path = some seen ∧ rules.isMatch seen = true) ∧
    (∀ cs qs p, p ∈ ps → p ∈ qs → (p ∈ projects cs ps mode ↔ p ∈ projects cs qs mode)) ∧
    (∀ cs before p after e, ps = before ++ p :: after → Rules.ofProject p = .error e →
      projects cs ps mode = projects cs (before ++ after) mode) ∧
    (∀ as c bs p, Path.relative? p.dir c.path = none →
      (p ∈ projects (as ++ c :: bs) ps mode ↔ p ∈ projects (as ++ bs) ps mode)) := by
  refine ⟨?_, ?_, ?_, ?_, fun _ _ => mem_projects_iff, ?_, ?_, fun _ _ _ _ => mem_projects_of_unseen⟩
  · intro cs
    refine ⟨nodup_projects cs ps mode, ?_, projects_sublist cs ps mode⟩
    rw [projects_eq_filter]
    exact List.filter_sublist
  · intro as bs p
    rw [mem_projects, mem_projects, mem_projects, isTriggered_append, Bool.or_eq_true, and_or_left]
  · intro as bs hsame
    rw [projects_eq_filter, projects_eq_filter]
    refine List.filter_congr fun p _ => ?_
    rw [Bool.eq_iff_iff, isTriggered, isTriggered, Bool.and_eq_true, Bool.and_eq_true,
      isChanged_iff, isChanged_iff]
    simp only [hsame]
  · intro cs
    rw [projects_eq_filter, projects_eq_filter, List.filter_filter]
    simp only [← isTriggered_auto]
  · intro cs qs p hps hqs
    rw [mem_projects, mem_projects]
    exact ⟨fun h => ⟨hqs, h.2⟩, fun h => ⟨hps, h.2⟩⟩
  · rintro cs before p after e rfl herror
    exact projects_of_error herror

/-! ## Some projects -/

/-- A project in a directory with some rules. -/
def ruled (dir : String) (rules : List String) : Project where
  dir := dir
  whenModified := rules
  autoPlot := true
  workflowName := "tf"
  workflow := { adapter := ⟨.terraform, { version := some "1.0.0" }⟩ }

/-- A project with a rule that is no glob is left out, and one that is changed is
chosen, though one of the paths leads above the repository. -/
theorem projects_selection_with_faults :
    let broken := ruled "a" ["["]
    let whole := ruled "b" []
    projects [.modified "../x", .modified "b/x.tf"] [broken, whole] .explicit =
      projects [.modified "../x", .modified "b/x.tf"] [whole] .explicit ∧
    (whole ∈ projects [.modified "../x", .modified "b/x.tf"] [broken, whole] .explicit ↔
      whole ∈ projects [.modified "b/x.tf"] [broken, whole] .explicit) ∧
    projects [.modified "b/x.tf", .modified "b/x.tf"] [broken, whole] .explicit =
      projects [.modified "b/x.tf"] [broken, whole] .explicit ∧
    (whole ∈ projects [.modified "b/x.tf"] [broken, whole] .explicit ↔
      whole ∈ projects [.modified "b/x.tf"] [whole] .explicit) := by
  intro broken whole
  obtain ⟨-, -, hsame, -, -, hother, hbroken, hunseen⟩ := projects_selection [broken, whole] .explicit
  exact ⟨hbroken _ [] broken [whole] (.rule "./[" .unclosedClass) rfl rfl,
    hunseen [] (.modified "../x") [.modified "b/x.tf"] whole (by decide +kernel),
    hsame _ _ (by simp), hother _ [whole] whole (by simp) (by simp)⟩

end Trigger

end Groundwork
