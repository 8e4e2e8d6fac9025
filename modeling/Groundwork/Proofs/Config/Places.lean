/-
Where the projects of a configuration deploy to. A place is a directory with a tool and a
workspace, and a directory is taken by its parts, as changes are. An accepted configuration
has no directory and workspace twice, but that is asked of the directories as they are
written. So it has a place twice exactly if a directory is spelled in two ways for one tool
and one workspace (`places_distinct_iff`), and then a change can be for both projects.
-/
import Groundwork.Proofs.Check.Context
import Groundwork.Proofs.Config.RoundTrip
import Groundwork.Proofs.Path.Spelling
import Groundwork.Proofs.Trigger.Selection

set_option autoImplicit false

namespace Groundwork

/-- Two projects of one place: their directories are one, and so are their tools and their
workspaces. -/
def Project.SamePlace (p q : Project) : Prop :=
  (∃ base, Path.components p.dir.toList = some base ∧ Path.components q.dir.toList = some base) ∧
    p.tool = q.tool ∧ p.workspaceKey = q.workspaceKey

/-- A place is shared by projects of one tool and one workspace whose directories are
spellings of one that does not climb above the repository. -/
theorem Project.samePlace_iff {p q : Project} :
    p.SamePlace q ↔ p.tool = q.tool ∧ p.workspaceKey = q.workspaceKey ∧
      ¬ Path.Climbs p.dir.toList ∧ Path.Respelled p.dir.toList q.dir.toList := by
  have hdirs : (∃ base, Path.components p.dir.toList = some base ∧
      Path.components q.dir.toList = some base) ↔
      ¬ Path.Climbs p.dir.toList ∧ Path.Respelled p.dir.toList q.dir.toList := by
    constructor
    · rintro ⟨base, hp, hq⟩
      have hclimbs := Path.exists_components_iff.1 ⟨base, hp⟩
      exact ⟨hclimbs, (Path.respelled_iff hclimbs).2 (hp.trans hq.symm)⟩
    · rintro ⟨hclimbs, hspelled⟩
      obtain ⟨base, hp⟩ := Path.exists_components_iff.2 hclimbs
      exact ⟨base, hp, hspelled.components_eq.symm.trans hp⟩
  rw [SamePlace, hdirs]
  tauto

namespace Config

/-- In a list without repetitions in some respect, members that are the same in it stand at
one position. -/
theorem eq_of_nodup_map {α β : Type} {f : α → β} {l : List α} (h : (l.map f).Nodup) {i j : Nat}
    {a b : α} (ha : l[i]? = some a) (hb : l[j]? = some b) (hsame : f a = f b) : i = j := by
  have hlt : i < (l.map f).length := by
    rw [List.length_map]
    exact (List.getElem?_eq_some_iff.1 ha).1
  apply (List.getElem?_inj hlt h).1
  rw [List.getElem?_map, List.getElem?_map, ha, hb, Option.map_some, Option.map_some, hsame]

/-- **When places are distinct.** In an accepted configuration no two projects are of one
place, and no changes are for two projects of one place, exactly if no directory is spelled
in two ways for one tool and one workspace. -/
theorem places_distinct_iff {bytes : ByteArray} {c : Config} (h : load bytes = .ok c) :
    ((∀ (i j : Nat) (p q : Project), c.projects[i]? = some p → c.projects[j]? = some q →
        p.SamePlace q → i = j) ∧
      ∀ cs mode, (Trigger.projects cs c.projects mode).Pairwise fun p q => ¬ p.SamePlace q) ↔
    ∀ p ∈ c.projects, ∀ q ∈ c.projects, p.tool = q.tool → p.workspaceKey = q.workspaceKey →
      ¬ Path.Climbs p.dir.toList → Path.Respelled p.dir.toList q.dir.toList → p.dir = q.dir := by
  constructor
  · rintro ⟨hdistinct, -⟩ p hp q hq htool hkey hclimbs hspelled
    obtain ⟨i, hi⟩ := List.mem_iff_getElem?.1 hp
    obtain ⟨j, hj⟩ := List.mem_iff_getElem?.1 hq
    have hplace := Project.samePlace_iff.2 ⟨htool, hkey, hclimbs, hspelled⟩
    obtain rfl := hdistinct i j p q hi hj hplace
    rw [Option.some.inj (hi.symm.trans hj)]
  · intro hspelled
    have hdistinct : ∀ (i j : Nat) (p q : Project), c.projects[i]? = some p →
        c.projects[j]? = some q → p.SamePlace q → i = j := by
      intro i j p q hi hj hplace
      obtain ⟨htool, hkey, hclimbs, hrespelled⟩ := Project.samePlace_iff.1 hplace
      have hdir := hspelled p (List.mem_of_getElem? hi) q (List.mem_of_getElem? hj) htool hkey
        hclimbs hrespelled
      -- then the directories are written alike, and that is what was asked
      apply eq_of_nodup_map (nodup_identity_of_load h) hi hj
      rw [identity, identity, hdir, hkey]
    refine ⟨hdistinct, ?_⟩
    intro cs mode
    apply List.Pairwise.sublist (Trigger.projects_sublist cs c.projects mode)
    rw [List.pairwise_iff_getElem]
    intro i j hi hj hlt hplace
    have hsame := hdistinct i j _ _ (List.getElem?_eq_getElem hi) (List.getElem?_eq_getElem hj) hplace
    omega

/-- With two workspaces a directory may be spelled in two ways. -/
theorem places_distinct_of_workspaces :
    let c := pair "infra" "staging" "./infra" "live"
    load c.toYaml.toUTF8 = .ok c ∧
      (∀ (i j : Nat) (p q : Project), c.projects[i]? = some p → c.projects[j]? = some q →
        p.SamePlace q → i = j) ∧
      ∀ cs mode, (Trigger.projects cs c.projects mode).Pairwise fun p q => ¬ p.SamePlace q := by
  intro c
  have hload : load c.toYaml.toUTF8 = .ok c := load_toYaml (by decide +kernel) (by decide +kernel)
  refine ⟨hload, (places_distinct_iff hload).2 ?_⟩
  intro p hp q hq _ hkey _ _
  -- the workspaces tell the two apart
  have hdirs : ∀ p ∈ c.projects, ∀ q ∈ c.projects, p.workspaceKey = q.workspaceKey → p.dir = q.dir := by
    decide +kernel
  exact hdirs p hp q hq hkey

/-- With one workspace too, the configuration is accepted, both projects are of one place,
and a change below their directory is for both. -/
theorem shared_place_of_spellings :
    let c := pair "infra" "staging" "./infra" "staging"
    load c.toYaml.toUTF8 = .ok c ∧
      (∃ p q, c.projects[0]? = some p ∧ c.projects[1]? = some q ∧ p.SamePlace q) ∧
      Trigger.projects [.modified "infra/main.tf"] c.projects .explicit = c.projects := by
  intro c
  have hload : load c.toYaml.toUTF8 = .ok c := load_toYaml (by decide +kernel) (by decide +kernel)
  refine ⟨hload, ⟨_, _, rfl, rfl, ⟨["infra".toList], ?_, ?_⟩, rfl, rfl⟩, by decide +kernel⟩
  · decide +kernel
  · decide +kernel

end Config

end Groundwork
