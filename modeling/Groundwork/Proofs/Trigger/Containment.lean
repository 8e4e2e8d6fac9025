/-
Projects without rules. The rule that they go by takes in what is seen to start with a
dot and a slash, at any depth (`Glob.isMatch_default`), so a change is taken in if it is
below the directory and the first name on the way to it does not start with two dots
(`Rules.matches_default_iff`).

That last condition is not about where the path lies. A path below the directory by a
name such as `..data` is seen without a dot and a slash before it, as if it led up, and is
missed. Without such names the rule is containment, and with one it is not
(`Rules.default_contains_iff`).
-/
import Groundwork.Proofs.Check.Context
import Groundwork.Proofs.Trigger.Isolation

set_option autoImplicit false

namespace Groundwork

namespace Glob

/-! ## The glob of projects without rules -/

/-- Any directories between, and then a name. -/
theorem parse_default : parse Rules.default = .ok [.literal '.', .anyDepthBetween, .star] := rfl

/-- Of every text, what comes after its last slash is a name, and all of it if it has no
slash. -/
theorem exists_name (s : List UInt8) : ∃ t ∈ s :: afterSlashes s, [] ∈ withinName t := by
  induction s with
  | nil => exact ⟨[], List.mem_cons_self, List.mem_cons_self⟩
  | cons b s ih =>
    obtain ⟨t, ht, hname⟩ := ih
    by_cases hb : b = slash
    · have hafter : afterSlashes (b :: s) = s :: afterSlashes s := by rw [afterSlashes, if_pos hb]
      refine ⟨t, ?_, hname⟩
      rw [hafter]
      exact List.mem_cons_of_mem _ ht
    · have hafter : afterSlashes (b :: s) = afterSlashes s := by rw [afterSlashes, if_neg hb]
      have hwithin : withinName (b :: s) = (b :: s) :: withinName s := by
        rw [withinName, if_neg hb]
      rw [hafter]
      rcases List.mem_cons.1 ht with rfl | ht
      · -- the name goes on to the left
        refine ⟨b :: t, List.mem_cons_self, ?_⟩
        rw [hwithin]
        exact List.mem_cons_of_mem _ hname
      · exact ⟨t, List.mem_cons_of_mem _ ht, hname⟩

/-- What starts with a dot and a slash is matched, however it goes on. -/
theorem nil_mem_rests_default (s : List UInt8) :
    [] ∈ rests [.literal '.', .anyDepthBetween, .star] [0x2e :: slash :: s] := by
  have hdot : Token.rests (.literal '.') (0x2e :: slash :: s) = [slash :: s] := by
    rw [Token.rests]
    rfl
  have hbetween : Token.rests .anyDepthBetween (slash :: s) = s :: afterSlashes s := by
    rw [Token.rests, afterSlash, if_pos rfl]
  have hstar : Token.rests .star = withinName := by
    funext t
    rw [Token.rests]
  obtain ⟨t, ht, hname⟩ := exists_name s
  rw [rests, rests, rests, rests, List.flatMap_singleton, hdot]
  rw [show [slash :: s].eraseDups = [slash :: s] from rfl, List.flatMap_singleton, hbetween, hstar]
  rw [List.mem_eraseDups, List.mem_flatMap]
  exact ⟨t, List.mem_eraseDups.2 ht, hname⟩

/-- The rule of projects without rules takes in what starts with a dot and a slash. -/
theorem isMatch_default {ts : List Token} (hparse : parse Rules.default = .ok ts) (path : String) :
    isMatch ts path = true ↔ ['.', '/'] <+: path.toList := by
  constructor
  · intro h
    exact prefix_of_isMatch ['.'] (by decide) (by decide) hparse h
  · rintro ⟨rest, hrest⟩
    have hbytes : path.toUTF8.data.toList = 0x2e :: slash :: rest.flatMap String.utf8EncodeChar := by
      rw [Text.bytes_eq, ← hrest]
      rfl
    rw [parse_default] at hparse
    cases hparse
    rw [isMatch, hbytes, Bool.and_eq_true]
    exact ⟨rfl, List.contains_iff_mem.2 (nil_mem_rests_default _)⟩

end Glob

/-! ## Projects without rules -/

namespace Rules

/-- A project without rules goes by one rule, which is a glob. -/
theorem ofProject_of_nil {p : Project} (hrules : p.whenModified = []) :
    ∃ ts, Glob.parse default = .ok ts ∧ ofProject p = .ok ⟨[default], [ts]⟩ := by
  refine ⟨_, Glob.parse_default, ?_⟩
  rw [ofProject, hrules]
  rfl

/-- A change falls under it if it is below the directory by names of which the first one
does not start with two dots. -/
theorem matches_default_iff {ts : List Glob.Token} (hparse : Glob.parse default = .ok ts)
    (dir : String) (c : Change) :
    matchesAny ⟨[default], [ts]⟩ dir [c] = true ↔
      ∃ name names, Path.GoesOn dir c.path (name :: names) ∧ ¬ ['.', '.'] <+: name := by
  have hmatch : ∀ seen, isMatch ⟨[default], [ts]⟩ seen = true ↔ ['.', '/'] <+: seen.toList := by
    intro seen
    rw [← Glob.isMatch_default hparse, isMatch, List.any_cons, List.any_nil, Bool.or_false]
  rw [matchesAny_iff]
  constructor
  · rintro ⟨_, hc, seen, hseen, h⟩
    rw [List.mem_singleton.1 hc] at hseen
    exact (Path.here_iff hseen).1 ((hmatch seen).1 h)
  · rintro ⟨name, names, hgoes, hdots⟩
    have hseen := Path.relative?_of_goesOn hgoes
    refine ⟨c, List.mem_singleton_self c, _, hseen, (hmatch _).2 ?_⟩
    exact (Path.here_iff hseen).2 ⟨name, names, hgoes, hdots⟩

/-- **When the rule of projects without rules is containment.** Such a project has rules
that can be used, and a change falls under them if its path goes on from the directory
by names of which the first one does not start with two dots. So whether it falls under
them is whether it is below the directory, exactly if its path does not go on from there
by a name that starts with two dots. -/
theorem default_contains_iff {p : Project} (hrules : p.whenModified = []) :
    ∃ rules, ofProject p = .ok rules ∧ ∀ c : Change,
      (rules.matchesAny p.dir [c] = true ↔
        ∃ name names, Path.GoesOn p.dir c.path (name :: names) ∧ ¬ ['.', '.'] <+: name) ∧
      ((rules.matchesAny p.dir [c] = true ↔ Path.Below p.dir c.path) ↔
        ∀ name names, Path.GoesOn p.dir c.path (name :: names) → ¬ ['.', '.'] <+: name) := by
  obtain ⟨ts, hparse, hok⟩ := ofProject_of_nil hrules
  refine ⟨_, hok, fun c => ⟨matches_default_iff hparse p.dir c, ?_⟩⟩
  rw [matches_default_iff hparse]
  constructor
  · intro hsame name names hgoes
    obtain ⟨name', names', hgoes', hdots⟩ := hsame.2 ⟨name, names, hgoes⟩
    cases hgoes.unique hgoes'
    exact hdots
  · intro hplain
    constructor
    · rintro ⟨name, names, hgoes, -⟩
      exact ⟨name, names, hgoes⟩
    · rintro ⟨name, names, hgoes⟩
      exact ⟨name, names, hgoes, hplain name names hgoes⟩

/-- What is deep below a directory is taken in, dots or not, and what only has a name that
starts like that of the directory is not. -/
theorem default_contains_deep :
    ∃ rules, ofProject (Trigger.ruled "infra" []) = .ok rules ∧
      rules.matchesAny "infra" [.modified "./infra/modules/..vpc/.main.tf"] = true ∧
      rules.matchesAny "infra" [.modified "infra.d/main.tf"] = false := by
  obtain ⟨rules, hok, hiff⟩ := default_contains_iff (p := Trigger.ruled "infra" []) rfl
  refine ⟨rules, hok, ?_, ?_⟩
  · refine (hiff _).1.2 ⟨"modules".toList, ["..vpc".toList, ".main.tf".toList], ?_, by decide⟩
    exact ⟨by decide, ["infra".toList], by decide +kernel, by decide +kernel⟩
  · rw [Bool.eq_false_iff]
    intro h
    obtain ⟨name, names, ⟨-, base, hdir, hpath⟩, -⟩ := (hiff _).1.1 h
    have hbase : some ["infra".toList] = some base := hdir
    cases hbase
    have hparts : some ["infra.d".toList, "main.tf".toList] = some ("infra".toList :: name :: names) :=
      hpath
    simp at hparts

end Rules

/-- A configuration is accepted in which a project has no rules, and a change below the
directory of the project does not fall under the rule that it goes by. -/
theorem Config.missed_below_dots :
    ∃ c p, load (twoProjects "infra" "a" "live" "b").toUTF8 = .ok c ∧ p ∈ c.projects ∧
      p.whenModified = [] ∧ Path.Below p.dir "infra/..data/main.tf" ∧
      ∃ rules, Rules.ofProject p = .ok rules ∧
        rules.matchesAny p.dir [.modified "infra/..data/main.tf"] = false := by
  have hload : (load (twoProjects "infra" "a" "live" "b").toUTF8).toOption.map
      (fun c => c.projects.map fun p => (p.dir, p.whenModified)) =
      some [("infra", []), ("live", [])] := by decide +kernel
  obtain ⟨c, hok, hprojects⟩ := exists_of_toOption hload
  obtain ⟨p, others, hlist, hp, -⟩ := List.map_eq_cons_iff.1 hprojects
  have hdir : p.dir = "infra" := congrArg Prod.fst hp
  have hrules : p.whenModified = [] := congrArg Prod.snd hp
  have hgoes : Path.GoesOn "infra" "infra/..data/main.tf" ["..data".toList, "main.tf".toList] :=
    ⟨by decide, ["infra".toList], by decide +kernel, by decide +kernel⟩
  obtain ⟨ts, hparse, hproject⟩ := Rules.ofProject_of_nil hrules
  rw [← hdir] at hgoes
  refine ⟨c, p, hok, hlist ▸ List.mem_cons_self, hrules, ⟨_, _, hgoes⟩, _, hproject, ?_⟩
  rw [Bool.eq_false_iff]
  intro hmatch
  obtain ⟨name, names, hgoes', hdots⟩ := (Rules.matches_default_iff hparse _ _).1 hmatch
  cases hgoes.unique hgoes'
  exact hdots (by decide)

end Groundwork
