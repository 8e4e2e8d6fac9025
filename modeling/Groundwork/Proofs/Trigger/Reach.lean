/-
Projects that no change can reach. A configuration is only accepted if its directories do
not start at the root, but a directory may still climb above the repository by two dots.
From there no path is seen (`Path.exists_relative?_iff`), so a project in such a directory
is never chosen. From any other directory a path below it is seen by its name, and without
rules that is enough (`reachable_iff`).
-/
import Groundwork.Proofs.Config.RoundTrip
import Groundwork.Proofs.Path.Relative
import Groundwork.Proofs.Trigger.Containment

set_option autoImplicit false

namespace Groundwork

/-! ## A path below a directory -/

namespace Path

/-- A path that goes on from a directory by one name, and does not start at the root. -/
def beneath (dir : String) : String :=
  String.ofList (['.'] ++ '/' :: (dir.toList ++ '/' :: ['x']))

theorem isAbsolute_beneath (dir : String) : isAbsolute (beneath dir).toList = false := by
  rw [beneath, String.toList_ofList]
  rfl

theorem components_beneath {dir : String} {base : List (List Char)}
    (h : components dir.toList = some base) :
    components (beneath dir).toList = some (base ++ [['x']]) := by
  -- the dot at the start leads nowhere, and the directory is resolved after it
  have hdot : components (['.'] ++ '/' :: dir.toList) = some base := by
    have hparts : Text.splitAll '/' ['.'] = [['.']] := rfl
    rw [components, Text.splitAll_append_cons, hparts, List.singleton_append,
      resolve_of_still _ _ (.inr rfl)]
    exact h
  have hname := components_append_cons hdot ['x']
  rw [resolve_names (by decide), Option.map_some, List.reverse_append, List.reverse_reverse] at hname
  rw [beneath, String.toList_ofList]
  exact hname

theorem goesOn_beneath {dir : String} (hroot : isAbsolute dir.toList = false)
    (h : ¬ Climbs dir.toList) : GoesOn dir (beneath dir) [['x']] := by
  obtain ⟨base, hbase⟩ := exists_components_iff.2 h
  exact ⟨hroot.trans (isAbsolute_beneath dir).symm, base, hbase, components_beneath hbase⟩

end Path

/-! ## Projects of configurations that are accepted -/

namespace Config

theorem isAbsolute_dir_of_load {bytes : ByteArray} {c : Config} (h : load bytes = .ok c)
    {p : Project} (hp : p ∈ c.projects) : Path.isAbsolute p.dir.toList = false := by
  obtain ⟨-, hdir, -⟩ := bound_of_parse (load_eq_ok_iff.1 h).1 hp
  exact decide_eq_false hdir

/-- **Which projects can be reached.** From the directory of a project of an accepted
configuration some path of the repository is seen exactly if the directory does not climb
above the repository, at any point of it. And exactly then is there a change for which the
project is chosen when someone asks, if it has no rules. -/
theorem reachable_iff {bytes : ByteArray} {c : Config} (h : load bytes = .ok c) {p : Project}
    (hp : p ∈ c.projects) :
    ((∃ path : String, Path.isAbsolute path.toList = false ∧
        ∃ seen, Path.relative? p.dir path = some seen) ↔ ¬ Path.Climbs p.dir.toList) ∧
    (p.whenModified = [] →
      ((∃ change, p ∈ Trigger.projects [change] c.projects .explicit) ↔
        ¬ Path.Climbs p.dir.toList)) := by
  have hroot := isAbsolute_dir_of_load h hp
  refine ⟨?_, ?_⟩
  · constructor
    · rintro ⟨path, -, hseen⟩
      exact (Path.exists_relative?_iff.1 hseen).2.1
    · intro hclimbs
      have hgoes := Path.goesOn_beneath hroot hclimbs
      exact ⟨_, Path.isAbsolute_beneath p.dir, _, Path.relative?_of_goesOn hgoes⟩
  · intro hrules
    constructor
    · rintro ⟨change, hchosen⟩
      obtain ⟨-, -, rules, -, d, -, seen, hseen, -⟩ := Trigger.mem_projects_iff.1 hchosen
      exact (Path.exists_relative?_iff.1 ⟨seen, hseen⟩).2.1
    · intro hclimbs
      obtain ⟨ts, hparse, hok⟩ := Rules.ofProject_of_nil hrules
      have hgoes : Path.GoesOn p.dir (Change.modified (Path.beneath p.dir)).path [['x']] :=
        Path.goesOn_beneath hroot hclimbs
      have hmatch := (Rules.matches_default_iff hparse p.dir _).2 ⟨_, _, hgoes, by decide⟩
      obtain ⟨d, hd, seen, hseen, hfalls⟩ := Rules.matchesAny_iff.1 hmatch
      refine ⟨.modified (Path.beneath p.dir), Trigger.mem_projects_iff.2 ⟨hp, .inl rfl, ?_⟩⟩
      exact ⟨_, hok, d, hd, seen, hseen, hfalls⟩

/-- A project in a directory that is spelled with a name and the way back can be reached. -/
theorem reachable_of_detour :
    let c := pair "a/../infra" "a" "live" "b"
    ∃ p, load c.toYaml.toUTF8 = .ok c ∧ p ∈ c.projects ∧ p.dir = "a/../infra" ∧
      p.whenModified = [] ∧
      (∃ path : String, Path.isAbsolute path.toList = false ∧
        ∃ seen, Path.relative? p.dir path = some seen) ∧
      ∃ change, p ∈ Trigger.projects [change] c.projects .explicit := by
  intro c
  have hload : load c.toYaml.toUTF8 = .ok c := load_toYaml (by decide +kernel) (by decide +kernel)
  have hclimbs : ¬ Path.Climbs "a/../infra".toList :=
    Path.exists_components_iff.1 ⟨["infra".toList], by decide +kernel⟩
  have hmem : c.projects[0] ∈ c.projects := List.mem_cons_self
  obtain ⟨hpath, hchange⟩ := reachable_iff hload hmem
  exact ⟨_, hload, hmem, rfl, rfl, hpath.2 hclimbs, (hchange rfl).2 hclimbs⟩

/-- A configuration is accepted in which the directory of a project leads out of the
repository, and without rules the project is not chosen for any changes, whoever asks. -/
theorem unreachable_above_repository :
    let c := pair "../infra" "a" "live" "b"
    ∃ p, load c.toYaml.toUTF8 = .ok c ∧ p ∈ c.projects ∧ p.dir = "../infra" ∧
      p.whenModified = [] ∧ (∀ path, Path.relative? p.dir path = none) ∧
      ∀ cs mode, p ∉ Trigger.projects cs c.projects mode := by
  intro c
  have hload : load c.toYaml.toUTF8 = .ok c := load_toYaml (by decide +kernel) (by decide +kernel)
  have hclimbs : Path.Climbs "../infra".toList := by
    rw [← Path.components_eq_none_iff]
    decide +kernel
  have hunseen : ∀ path, Path.relative? "../infra" path = none := by
    intro path
    rw [Option.eq_none_iff_forall_ne_some]
    exact fun seen hseen => (Path.exists_relative?_iff.1 ⟨seen, hseen⟩).2.1 hclimbs
  refine ⟨_, hload, List.mem_cons_self, rfl, rfl, hunseen, ?_⟩
  intro cs mode hchosen
  obtain ⟨-, -, rules, -, d, -, seen, hseen, -⟩ := Trigger.mem_projects_iff.1 hchosen
  exact absurd hseen (by simp [hunseen])

end Config

end Groundwork
