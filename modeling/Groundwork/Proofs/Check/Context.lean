/-
What the name of a check says. It joins the tool, its word for the command, the
directory and the workspace with slashes. Tools and words have no slashes in them, so
these can be told from the name (`Project.checkContext_eq_iff`). Directories and
workspaces are any texts, and where one ends and the other begins cannot be told.

A configuration that is accepted has no directory and workspace twice, but that is
asked of the pairs and not of the names. So its names tell the projects apart exactly
if no directory goes on from another one by what the workspace of that one starts with
(`contexts_distinct_iff`).
-/
import Groundwork.Proofs.Config.Loaded

set_option autoImplicit false

namespace Groundwork

/-! ## Texts that are joined -/

namespace Text

variable {α : Type}

/-- What stands before and after a separator can be told if there is none before. -/
theorem append_cons_inj_of_notMem [DecidableEq α] {sep : α} {a b c d : List α} (ha : sep ∉ a)
    (hc : sep ∉ c) : a ++ sep :: b = c ++ sep :: d ↔ a = c ∧ b = d := by
  constructor
  · intro h
    have hfirst : splitFirst? sep (a ++ sep :: b) = some (a, b) := splitFirst?_eq_some.2 ⟨rfl, ha⟩
    have hsecond : splitFirst? sep (c ++ sep :: d) = some (c, d) := splitFirst?_eq_some.2 ⟨rfl, hc⟩
    rw [h, hsecond] at hfirst
    exact ⟨(Prod.mk.inj (Option.some.inj hfirst)).1.symm, (Prod.mk.inj (Option.some.inj hfirst)).2.symm⟩
  · rintro ⟨rfl, rfl⟩
    rfl

/-- Two texts that are joined are the same if their parts are, or if one goes on from
the other by what the partner of this one starts with. -/
theorem append_cons_eq_iff {sep : α} {a b c d : List α} :
    a ++ sep :: b = c ++ sep :: d ↔
      (a = c ∧ b = d) ∨ (∃ part, a = c ++ sep :: part ∧ d = part ++ sep :: b) ∨
        ∃ part, c = a ++ sep :: part ∧ b = part ++ sep :: d := by
  constructor
  · intro h
    rcases List.append_eq_append_iff.1 h with ⟨more, rfl, hb⟩ | ⟨more, rfl, hd⟩
    · cases more with
      | nil =>
        rw [List.nil_append] at hb
        cases hb
        exact .inl ⟨(List.append_nil _).symm, rfl⟩
      | cons first part =>
        cases hb
        exact .inr (.inr ⟨part, rfl, rfl⟩)
    · cases more with
      | nil =>
        rw [List.nil_append] at hd
        cases hd
        exact .inl ⟨List.append_nil _, rfl⟩
      | cons first part =>
        cases hd
        exact .inr (.inl ⟨part, rfl, rfl⟩)
  · rintro (⟨rfl, rfl⟩ | ⟨part, rfl, rfl⟩ | ⟨part, rfl, rfl⟩)
    · rfl
    · rw [List.append_assoc, List.cons_append]
    · rw [List.append_assoc, List.cons_append]

end Text

/-- The characters of two texts with a slash between them. -/
theorem toList_slash (a b : String) : (a ++ "/" ++ b).toList = a.toList ++ '/' :: b.toList := by
  rw [String.toList_append, String.toList_append, List.append_assoc]
  rfl

/-- Directories and workspaces that are joined with a slash. -/
theorem slash_eq_iff {a b c d : String} :
    a ++ "/" ++ b = c ++ "/" ++ d ↔
      (a = c ∧ b = d) ∨ (∃ part, a = c ++ "/" ++ part ∧ d = part ++ "/" ++ b) ∨
        ∃ part, c = a ++ "/" ++ part ∧ b = part ++ "/" ++ d := by
  simp only [← String.toList_inj, toList_slash]
  rw [Text.append_cons_eq_iff]
  have hpart : ∀ P : List Char → Prop, (∃ part, P part) ↔ ∃ part : String, P part.toList := by
    intro P
    constructor
    · rintro ⟨part, h⟩
      exact ⟨String.ofList part, by rwa [String.toList_ofList]⟩
    · rintro ⟨part, h⟩
      exact ⟨part.toList, h⟩
  rw [hpart, hpart]

/-! ## Names of checks -/

theorem Tool.slash_notMem_name (t : Tool) : '/' ∉ t.name.toList := by
  cases t <;> decide

theorem Tool.slash_notMem_commandWord (t : Tool) (c : Command) : '/' ∉ (t.commandWord c).toList := by
  cases t <;> cases c <;> decide

/-- The name of a check tells the tool and the command, and the directory and the
workspace as they are joined. -/
theorem Project.checkContext_eq_iff {p q : Project} {a b : Command} :
    p.checkContext a = q.checkContext b ↔
      p.tool = q.tool ∧ a = b ∧ p.dir ++ "/" ++ p.workspaceKey = q.dir ++ "/" ++ q.workspaceKey := by
  have hlist : ∀ (p : Project) (c : Command), (p.checkContext c).toList =
      "turnip".toList ++ '/' :: (p.tool.name.toList ++ '/' :: ((p.tool.commandWord c).toList ++
        '/' :: (p.dir ++ "/" ++ p.workspaceKey).toList)) := by
    intro p c
    simp only [checkContext, String.toList_append, List.append_assoc]
    rfl
  rw [← String.toList_inj, hlist, hlist, Text.append_cons_inj_of_notMem (by decide) (by decide),
    Text.append_cons_inj_of_notMem p.tool.slash_notMem_name q.tool.slash_notMem_name,
    Text.append_cons_inj_of_notMem (p.tool.slash_notMem_commandWord a)
      (q.tool.slash_notMem_commandWord b)]
  simp only [String.toList_inj, true_and]
  constructor
  · rintro ⟨hname, hword, hplace⟩
    have htool := Tool.name_injective hname
    rw [htool] at hword
    exact ⟨htool, Tool.commandWord_injective hword, hplace⟩
  · rintro ⟨htool, rfl, hplace⟩
    rw [htool]
    exact ⟨rfl, rfl, hplace⟩

/-! ## Configurations that are accepted -/

namespace Config

/-- A configuration that is loaded has no two projects with one identity. -/
theorem nodup_identity_of_load {bytes : ByteArray} {c : Config} (h : load bytes = .ok c) :
    (c.projects.map identity).Nodup :=
  (validate_eq_ok_iff.1 (load_eq_ok_iff.1 h).2).2.2.2

/-- **When names tell projects apart.** In a configuration that is accepted, two
projects and two commands with one name for their checks are the same, exactly if there
are no two projects of one tool such that the directory of one goes on from that of the
other by what the workspace of the other starts with. -/
theorem contexts_distinct_iff {bytes : ByteArray} {c : Config} (h : load bytes = .ok c) :
    (∀ (i j : Nat) (p q : Project) (a b : Command), c.projects[i]? = some p →
      c.projects[j]? = some q → p.checkContext a = q.checkContext b → i = j ∧ a = b) ↔
    ∀ p ∈ c.projects, ∀ q ∈ c.projects, p.tool = q.tool →
      ∀ part, p.dir = q.dir ++ "/" ++ part → q.workspaceKey ≠ part ++ "/" ++ p.workspaceKey := by
  have hnodup := nodup_identity_of_load h
  constructor
  · intro hdistinct p hp q hq htool part hdir hkey
    obtain ⟨i, hi, rfl⟩ := List.mem_iff_getElem.1 hp
    obtain ⟨j, hj, rfl⟩ := List.mem_iff_getElem.1 hq
    have hcontext : c.projects[i].checkContext .plot = c.projects[j].checkContext .plot :=
      Project.checkContext_eq_iff.2 ⟨htool, rfl, slash_eq_iff.2 (.inr (.inl ⟨part, hdir, hkey⟩))⟩
    obtain ⟨rfl, -⟩ := hdistinct i j _ _ _ _ (List.getElem?_eq_getElem hi)
      (List.getElem?_eq_getElem hj) hcontext
    -- a directory does not go on from itself
    have hlength := congrArg (fun s : String => s.toList.length) hdir
    simp only [toList_slash, List.length_append, List.length_cons] at hlength
    omega
  · intro hnone i j p q a b hi hj hcontext
    obtain ⟨htool, rfl, hplace⟩ := Project.checkContext_eq_iff.1 hcontext
    refine ⟨?_, rfl⟩
    have hp := List.mem_of_getElem? hi
    have hq := List.mem_of_getElem? hj
    rcases slash_eq_iff.1 hplace with ⟨hdir, hkey⟩ | ⟨part, hdir, hkey⟩ | ⟨part, hdir, hkey⟩
    · have hsame : (c.projects.map identity)[i]? = (c.projects.map identity)[j]? := by
        rw [List.getElem?_map, List.getElem?_map, hi, hj]
        simp only [Option.map_some, identity, hdir, hkey]
      have hlt : i < (c.projects.map identity).length := by
        rw [List.length_map]
        exact (List.getElem?_eq_some_iff.1 hi).1
      exact (List.getElem?_inj hlt hnodup).1 hsame
    · exact absurd hkey (hnone p hp q hq htool part hdir)
    · exact absurd hkey (hnone q hq p hp htool.symm part hdir)

/-! ## Configurations with two projects -/

/-- A configuration with two projects, by their directories and workspaces. -/
def twoProjects (dir workspace dir' workspace' : String) : String :=
  "version: v1alpha1\nworkflows:\n  tf:\n    terraform:\n      version: 1.0.0\n    image: alpine\n" ++
    "projects:\n- dir: " ++ dir ++ "\n  workflow: tf\n  workspace: " ++ workspace ++
    "\n- dir: " ++ dir' ++ "\n  workflow: tf\n  workspace: " ++ workspace' ++ "\n"

/-- With directories that have no slash in them the names tell the projects apart, even
though a workspace has one. -/
theorem contexts_distinct_of_siblings :
    ∃ c, load (twoProjects "a" "c" "b" "b/c").toUTF8 = .ok c ∧ c.projects.length = 2 ∧
      ∀ (i j : Nat) (p q : Project) (a b : Command), c.projects[i]? = some p →
        c.projects[j]? = some q → p.checkContext a = q.checkContext b → i = j ∧ a = b := by
  have hload : (load (twoProjects "a" "c" "b" "b/c").toUTF8).toOption.map
      (fun c => c.projects.map (·.dir)) = some ["a", "b"] := by decide +kernel
  obtain ⟨c, hok, hdirs⟩ := exists_of_toOption hload
  have hlength : c.projects.length = 2 := by
    have hdirsLength := congrArg List.length hdirs
    rw [List.length_map] at hdirsLength
    exact hdirsLength
  refine ⟨c, hok, hlength, (contexts_distinct_iff hok).2 ?_⟩
  intro p hp q _ _ part hdir
  have hmem : p.dir ∈ ["a", "b"] := by
    rw [← hdirs]
    exact List.mem_map.2 ⟨p, hp, rfl⟩
  have hslash : '/' ∈ p.dir.toList := by
    rw [hdir, toList_slash]
    exact List.mem_append_right _ List.mem_cons_self
  rcases List.mem_cons.1 hmem with ha | hb
  · rw [ha] at hslash
    exact absurd hslash (by decide)
  · rw [List.mem_singleton.1 hb] at hslash
    exact absurd hslash (by decide)

/-- With a directory and the one above it, whose workspace starts with what is missing,
the configuration is accepted, and the checks of both projects have the same name. -/
theorem shared_context_of_parent :
    ∃ c p q, load (twoProjects "a/b" "c" "a" "b/c").toUTF8 = .ok c ∧ c.projects[0]? = some p ∧
      c.projects[1]? = some q ∧ p.checkContext .plot = q.checkContext .plot := by
  have hload : (load (twoProjects "a/b" "c" "a" "b/c").toUTF8).toOption.map
      (fun c => c.projects.map (·.checkContext .plot)) =
      some ["turnip/terraform/plan/a/b/c", "turnip/terraform/plan/a/b/c"] := by decide +kernel
  obtain ⟨c, hok, hnames⟩ := exists_of_toOption hload
  obtain ⟨p, others, hprojects, hp, hothers⟩ := List.map_eq_cons_iff.1 hnames
  obtain ⟨q, last, rfl, hq, -⟩ := List.map_eq_cons_iff.1 hothers
  refine ⟨c, p, q, hok, ?_, ?_, hp.trans hq.symm⟩
  · rw [hprojects]
    rfl
  · rw [hprojects]
    rfl

end Config

end Groundwork
