/-
Rules stay on their side of a directory. A rule that starts with two dots and a slash is
for paths outside, and any other is for paths strictly below, whatever globs they are
(`rules_keep_to_their_side`).

This is so because rules and paths are anchored in the same way. A rule comes to start
with one dot and a slash, or starts with two, and what matches it starts like it
(`Glob.prefix_of_isMatch`). A path that is seen to start with one dot and a slash lies
below the directory, and one that is seen to start with two does not lie within it
(`Path.here_iff`, `Path.not_within_of_up`).
-/
import Groundwork.Proofs.Glob.Anchored
import Groundwork.Proofs.Path.Below
import Groundwork.Proofs.Trigger.Selection

set_option autoImplicit false

namespace Groundwork

namespace Rules

/-! ## Rules and their globs -/

/-- A rule has an anchor: it starts at the directory, or above it. -/
def IsAnchored (rule : String) : Prop :=
  "./".toList <+: rule.toList ∨ "../".toList <+: rule.toList

theorem anchor_of_isAnchored {rule : String} (h : IsAnchored rule) : anchor rule = rule := by
  unfold anchor
  rw [if_pos]
  rwa [Bool.or_eq_true, List.isPrefixOf_iff_prefix, List.isPrefixOf_iff_prefix]

theorem anchor_of_up {rule : String} (h : "../".toList <+: rule.toList) : anchor rule = rule :=
  anchor_of_isAnchored (.inr h)

theorem here_anchor {rule : String} (h : ¬ "../".toList <+: rule.toList) :
    ['.', '/'] <+: (anchor rule).toList := by
  unfold anchor
  split
  · next hstart =>
    rw [Bool.or_eq_true, List.isPrefixOf_iff_prefix, List.isPrefixOf_iff_prefix] at hstart
    exact hstart.resolve_right h
  · rw [String.toList_append]
    exact List.prefix_append _ _

/-- Rules that can be used have a glob each, in order. -/
theorem map_parse_of_parseAll {rules : List String} {globs : List (List Glob.Token)}
    (h : parseAll rules = .ok globs) : rules.map Glob.parse = globs.map .ok := by
  induction rules generalizing globs with
  | nil =>
    cases h
    rfl
  | cons rule rules ih =>
    rw [parseAll] at h
    split at h
    · cases h
    · next g hparse =>
      cases hrest : parseAll rules with
      | error e =>
        rw [hrest] at h
        cases h
      | ok gs =>
        rw [hrest] at h
        cases h
        rw [List.map_cons, List.map_cons, hparse, ih hrest]

/-- So have those that are declared, or else the one for projects without rules. -/
theorem map_parse_of_ofList {declared : List String} {rules : Rules}
    (h : ofList declared = .ok rules) :
    (if declared.isEmpty then [default] else declared.map anchor).map Glob.parse =
      rules.globs.map .ok := by
  unfold ofList at h
  cases hall : parseAll (if declared.isEmpty then [default] else declared.map anchor) with
  | error e =>
    simp only [hall] at h
    cases h
  | ok globs =>
    simp only [hall] at h
    cases h
    exact map_parse_of_parseAll hall

/-- The glob of a rule that is declared is that of the rule as it is anchored. -/
theorem exists_glob_of_ofList {declared : List String} {rules : Rules}
    (h : ofList declared = .ok rules) {i : Nat} {rule : String} (hrule : declared[i]? = some rule) :
    ∃ g, rules.globs[i]? = some g ∧ Glob.parse (anchor rule) = .ok g := by
  have hsome : declared.isEmpty = false := by
    cases declared with
    | nil => cases hrule
    | cons first declared => rfl
  have hglobs := map_parse_of_ofList h
  rw [hsome, if_neg Bool.false_ne_true] at hglobs
  have hglob : (rules.globs.map Except.ok)[i]? = some (Glob.parse (anchor rule)) := by
    rw [← hglobs, List.getElem?_map, List.getElem?_map, hrule, Option.map_some, Option.map_some]
  rw [List.getElem?_map, Option.map_eq_some_iff] at hglob
  obtain ⟨g, hg, hparse⟩ := hglob
  exact ⟨g, hg, hparse.symm⟩

/-- What matches a rule that does not start with two dots and a slash lies strictly
below the directory. -/
theorem below_of_isMatch {rule : String} (hrule : ['.', '/'] <+: rule.toList) {g : List Glob.Token}
    (hparse : Glob.parse rule = .ok g) {dir path seen : String}
    (hseen : Path.relative? dir path = some seen) (h : Glob.isMatch g seen = true) :
    Path.Below dir path := by
  have hhere : ['.', '/'] <+: seen.toList :=
    Glob.prefix_of_isMatch ['.'] (by decide) hrule hparse h
  obtain ⟨name, names, hgoes, -⟩ := (Path.here_iff hseen).1 hhere
  exact ⟨name, names, hgoes⟩

/-- What matches one that does is not within the directory. -/
theorem not_within_of_isMatch {rule : String} (hrule : ['.', '.', '/'] <+: rule.toList)
    {g : List Glob.Token} (hparse : Glob.parse rule = .ok g) {dir path seen : String}
    (hseen : Path.relative? dir path = some seen) (h : Glob.isMatch g seen = true) :
    ¬ Path.Within dir path := by
  have hup : ['.', '.', '/'] <+: seen.toList :=
    Glob.prefix_of_isMatch ['.', '.'] (by decide) hrule hparse h
  exact Path.not_within_of_up hseen hup

/-- If no rule of a project starts with two dots and a slash, what falls under its rules
lies strictly below its directory. -/
theorem below_of_ofProject {p : Project} (hrules : ∀ rule ∈ p.whenModified, ¬ "../".toList <+: rule.toList)
    {rules : Rules} (h : ofProject p = .ok rules) {path seen : String}
    (hseen : Path.relative? p.dir path = some seen) (hmatch : rules.isMatch seen = true) :
    Path.Below p.dir path := by
  obtain ⟨g, hg, hmatch⟩ := List.any_eq_true.1 hmatch
  have hparsed : Except.ok g ∈ List.map Glob.parse
      (if p.whenModified.isEmpty then [default] else p.whenModified.map anchor) := by
    rw [map_parse_of_ofList h]
    exact List.mem_map_of_mem hg
  obtain ⟨rule, hrule, hparse⟩ := List.mem_map.1 hparsed
  refine below_of_isMatch ?_ hparse hseen hmatch
  split at hrule
  · rw [List.mem_singleton.1 hrule]
    decide
  · obtain ⟨plain, hplain, rfl⟩ := List.mem_map.1 hrule
    exact here_anchor (hrules plain hplain)

/-- **Rules keep to their side of a directory.** Of rules that can be used, each has a
glob. One that starts with two dots and a slash matches no path within the directory,
and any other matches only paths strictly below it. So a project of which no rule starts
with two dots and a slash is only chosen if some change is strictly below its
directory, whoever asks. -/
theorem rules_keep_to_their_side :
    (∀ (declared : List String) (rules : Rules), ofList declared = .ok rules →
      ∀ (i : Nat) (rule : String), declared[i]? = some rule →
      ∃ g, rules.globs[i]? = some g ∧ ∀ dir path seen, Path.relative? dir path = some seen →
        Glob.isMatch g seen = true →
        ("../".toList <+: rule.toList → ¬ Path.Within dir path) ∧
        (¬ "../".toList <+: rule.toList → Path.Below dir path)) ∧
    (∀ (cs : List Change) (ps : List Project) (mode : Trigger.Mode) (p : Project),
      p ∈ Trigger.projects cs ps mode → (∀ rule ∈ p.whenModified, ¬ "../".toList <+: rule.toList) →
      ∃ c ∈ cs, Path.Below p.dir c.path) := by
  refine ⟨?_, ?_⟩
  · intro declared rules hok i rule hrule
    obtain ⟨g, hg, hparse⟩ := exists_glob_of_ofList hok hrule
    -- a rule that starts with two dots and a slash is kept, and any other is anchored
    refine ⟨g, hg, fun dir path seen hseen hmatch => ⟨fun hup => ?_, fun hhere => ?_⟩⟩
    · rw [anchor_of_up hup] at hparse
      exact not_within_of_isMatch hup hparse hseen hmatch
    · exact below_of_isMatch (here_anchor hhere) hparse hseen hmatch
  · intro cs ps mode p hp hrules
    obtain ⟨-, -, rules, hok, c, hc, seen, hseen, hmatch⟩ := Trigger.mem_projects_iff.1 hp
    exact ⟨c, hc, below_of_ofProject hrules hok hseen hmatch⟩

/-- Of two rules that can be used, the one that leads up matches a path outside, and a
project with the other one is chosen for a change below its directory. -/
theorem rules_keep_to_their_side_mixed :
    (∃ rules g, ofList ["**/[!a]*.\x7btf,tfvars\x7d", "../shared/**"] = .ok rules ∧
      rules.globs[1]? = some g ∧ Path.relative? "infra" "shared/x.tf" = some "../shared/x.tf" ∧
      Glob.isMatch g "../shared/x.tf" = true ∧ ¬ Path.Within "infra" "shared/x.tf") ∧
    ∃ c ∈ [Change.deleted "README.md", .modified "infra/vpc/main.tf"],
      Path.Below "infra" c.path := by
  obtain ⟨hsides, hchosen⟩ := rules_keep_to_their_side
  constructor
  · obtain ⟨g, hg, hside⟩ := hsides ["**/[!a]*.\x7btf,tfvars\x7d", "../shared/**"] _ rfl 1
      "../shared/**" rfl
    cases hg
    have hseen : Path.relative? "infra" "shared/x.tf" = some "../shared/x.tf" := by decide +kernel
    refine ⟨_, _, rfl, rfl, hseen, by decide +kernel, ?_⟩
    exact (hside _ _ _ hseen (by decide +kernel)).1 (by decide)
  · have hmem : Trigger.ruled "infra" ["**/[!a]*.\x7btf,tfvars\x7d"] ∈
        Trigger.projects [.deleted "README.md", .modified "infra/vpc/main.tf"]
          [Trigger.ruled "infra" ["**/[!a]*.\x7btf,tfvars\x7d"]] .auto := by decide +kernel
    exact hchosen _ _ _ _ hmem (by decide)

end Rules

end Groundwork
