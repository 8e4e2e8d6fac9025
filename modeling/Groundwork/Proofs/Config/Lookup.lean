/-
Looking projects up. A comment goes by a directory and by a workspace of one kind, a program by
a directory and by names of workspaces of whatever kind, where no name at all stands for the
default workspace. An accepted configuration has no directory and workspace twice, and the
identity of a project is just these two, without the kind. So a single name finds no more
than one project (`Config.findProject?_eq_some_iff`), whichever way it is asked for and in
whatever order the projects are declared (`Config.lookup_unambiguous`).
-/
import Groundwork.Api.Request
import Groundwork.Bot.Comment
import Groundwork.Proofs.Check.Context
import Groundwork.Proofs.Config.RoundTrip
import Groundwork.Proofs.Trigger.Selection
import Mathlib.Data.List.Perm.Basic

set_option autoImplicit false

namespace Groundwork

/-! ## What is asked for -/

/-- The workspace of a kind that a program names. -/
def Api.Request.named (r : Api.Request) : WorkspaceKind → String
  | .workspace => r.workspace
  | .environment => r.environment
  | .stack => r.stack

/-- A program names a workspace of one kind, which may be the default one, and none of another
kind. -/
def Api.Request.NamesOnly (r : Api.Request) (kind : WorkspaceKind) (value : String) : Prop :=
  ∀ k, r.named k = if k = kind then value else ""

/-- It then asks for that workspace alone, of whatever kind. -/
theorem Api.Request.workspaceKeys_of_namesOnly {r : Api.Request} {kind : WorkspaceKind}
    {value : String} (h : r.NamesOnly kind value) : r.workspaceKeys = [value] := by
  have hworkspace : r.workspace = if .workspace = kind then value else "" := h .workspace
  have henvironment : r.environment = if .environment = kind then value else "" := h .environment
  have hstack : r.stack = if .stack = kind then value else "" := h .stack
  rw [workspaceKeys, hworkspace, henvironment, hstack]
  by_cases hvalue : value = ""
  · cases kind <;> simp [hvalue]
  · cases kind <;> simp [hvalue]

/-- A comment with a directory and a workspace is for the projects of that identity whose tool
has workspaces of the kind. -/
theorem Chat.Run.selects_iff {run : Chat.Run} {dir : String} {kind : WorkspaceKind} {value : String}
    (hdir : run.directory = some dir) (hscope : run.scope = some (kind, value)) {p : Project} :
    run.selects p = true ↔ Config.identity p = (dir, value) ∧ p.tool.workspaceKind = kind := by
  rw [selects, hdir, hscope]
  simp only [Bool.and_eq_true, beq_iff_eq, Config.identity, Prod.mk.injEq]
  tauto

/-- The projects that are launched are among those that the comment is for. -/
theorem Bot.selected_sublist (run : Chat.Run) (changes : List Change) (ps : List Project) :
    (selected run changes ps).Sublist (ps.filter run.selects) :=
  ((eraseDups_sublist _).trans List.filter_sublist).filter _

/-! ## One project for one name -/

/-- In a list without repetitions in some respect no more than one member has a given value. -/
theorem length_le_one_of_nodup_map {α β : Type} {f : α → β} {l : List α} (h : (l.map f).Nodup)
    {b : β} (hall : ∀ a ∈ l, f a = b) : l.length ≤ 1 := by
  -- such a list is one value over and over, and that has no repetitions only up to length one
  have hrepeated : l.map f = List.replicate l.length b := by
    rw [List.eq_replicate_iff, List.length_map]
    exact ⟨rfl, List.forall_mem_map.2 hall⟩
  rwa [hrepeated, List.nodup_replicate] at h

namespace Config

/-- Under a single name a project is looked up by its identity. -/
theorem findProject?_single (c : Config) (dir key : String) :
    c.findProject? dir [key] = c.projects.find? fun p => identity p == (dir, key) := by
  have hkey (p : Project) : [key].contains p.workspaceKey = (p.workspaceKey == key) := by
    simp [beq_eq_decide]
  simp only [findProject?, hkey]
  rfl

theorem findProject?_eq_some_iff {c : Config} (h : (c.projects.map identity).Nodup)
    {dir key : String} {p : Project} :
    c.findProject? dir [key] = some p ↔ p ∈ c.projects ∧ identity p = (dir, key) := by
  rw [findProject?_single]
  constructor
  · intro hfind
    have hidentity := List.find?_some hfind
    exact ⟨List.mem_of_find?_eq_some hfind, beq_iff_eq.1 hidentity⟩
  · rintro ⟨hp, hidentity⟩
    -- some project is found, and there is no other of this identity
    have hsome : (c.projects.find? fun p => identity p == (dir, key)).isSome :=
      List.find?_isSome.2 ⟨p, hp, beq_iff_eq.2 hidentity⟩
    obtain ⟨q, hq⟩ := Option.isSome_iff_exists.1 hsome
    have hsame := List.find?_some hq
    rw [beq_iff_eq, ← hidentity] at hsame
    rw [hq, List.inj_on_of_nodup_map h (List.mem_of_find?_eq_some hq) hp hsame]

/-- The order of the projects does not matter to it. -/
theorem findProject?_of_perm {c c' : Config} (h : (c.projects.map identity).Nodup)
    (hperm : c'.projects.Perm c.projects) (dir key : String) :
    c'.findProject? dir [key] = c.findProject? dir [key] := by
  have h' : (c'.projects.map identity).Nodup := (hperm.map identity).nodup_iff.2 h
  refine Option.ext fun p => ?_
  rw [findProject?_eq_some_iff h, findProject?_eq_some_iff h', hperm.mem_iff]

/-! ## Declaring projects in another order -/

/-- A configuration is accepted with its projects in any order. -/
theorem load_of_perm {bytes bytes' : ByteArray} {c : Config} {d : Document}
    {ds : List Project.Document} (h : load bytes = .ok c)
    (hread : readYaml Document.read bytes = .ok d) (hperm : ds.Perm d.projects)
    (hread' : readYaml Document.read bytes' = .ok { d with projects := ds }) :
    ∃ ps, load bytes' = .ok { c with projects := ps } ∧ ps.Perm c.projects := by
  obtain ⟨hparse, hvalid⟩ := load_eq_ok_iff.1 h
  obtain ⟨d', hd', hof⟩ := parse_eq_ok_iff.1 hparse
  obtain rfl : d = d' := Except.ok.inj (hread.symm.trans hd')
  obtain ⟨hversion, hsame, htraverse, hbind⟩ := ofDocument_eq_ok_iff.1 hof
  -- each project is bound by itself, so that what is bound comes in the order of the documents
  obtain ⟨ps, hbound, hps⟩ := List.perm_comp_forall₂ hperm (bindAll_eq_ok_iff.1 hbind)
  refine ⟨ps, load_eq_ok_iff.2 ⟨parse_eq_ok_iff.2 ⟨_, hread', ?_⟩, ?_⟩, hps⟩
  · exact ofDocument_eq_ok_iff.2 ⟨hversion, hsame, htraverse, bindAll_eq_ok_iff.2 hbound⟩
  · obtain ⟨hsupported, hworkflows, hnamed, hnodup⟩ := validate_eq_ok_iff.1 hvalid
    refine validate_eq_ok_iff.2 ⟨hsupported, hworkflows, ?_, (hps.map identity).nodup_iff.2 hnodup⟩
    exact fun p hp => hnamed p (hps.mem_iff.1 hp)

/-- **One project for one name.** In an accepted configuration a comment with a directory and
a workspace is for no more than one project, and it is for the one that a program finds
that names the directory and that workspace and no other, if the tool of that has workspaces
of the kind. With its projects in another order the configuration is accepted as well, and the
same project is found under every single name. -/
theorem lookup_unambiguous {bytes : ByteArray} {c : Config} (h : load bytes = .ok c) :
    (∀ (run : Chat.Run) dir kind value, run.directory = some dir → run.scope = some (kind, value) →
      (c.projects.filter run.selects).length ≤ 1 ∧
      (∀ changes, (Bot.selected run changes c.projects).length ≤ 1) ∧
      ∀ (request : Api.Request) p, request.dir = dir → request.NamesOnly kind value →
        (p ∈ c.projects ∧ run.selects p = true ↔
          c.findProject? request.dir request.workspaceKeys = some p ∧ p.tool.workspaceKind = kind)) ∧
    (∀ d ds bytes', readYaml Document.read bytes = .ok d → ds.Perm d.projects →
      readYaml Document.read bytes' = .ok { d with projects := ds } →
      ∃ c', load bytes' = .ok c' ∧ c'.projects.Perm c.projects ∧
        ∀ dir key, c'.findProject? dir [key] = c.findProject? dir [key]) := by
  have hnodup := nodup_identity_of_load h
  constructor
  · intro run dir kind value hdir hscope
    have hone : (c.projects.filter run.selects).length ≤ 1 := by
      have hsublist := (List.filter_sublist (p := run.selects) (l := c.projects)).map identity
      refine length_le_one_of_nodup_map (hnodup.sublist hsublist) (b := (dir, value)) fun p hp => ?_
      exact ((Chat.Run.selects_iff hdir hscope).1 (List.of_mem_filter hp)).1
    refine ⟨hone, fun changes => (Bot.selected_sublist run changes _).length_le.trans hone, ?_⟩
    intro request p hsame hnames
    rw [hsame, Api.Request.workspaceKeys_of_namesOnly hnames, findProject?_eq_some_iff hnodup,
      Chat.Run.selects_iff hdir hscope, and_assoc]
  · intro d ds bytes' hread hperm hread'
    obtain ⟨ps, hload, hps⟩ := load_of_perm h hread hperm hread'
    exact ⟨_, hload, hps, findProject?_of_perm hnodup hps⟩

/-- The default workspace of a directory that has another one too: a comment names it by
nothing after the flag, and a program by naming none. -/
theorem lookup_unambiguous_of_default :
    let c := pair "infra" "" "infra" "staging"
    let run : Chat.Run := ⟨.plot, some "infra", some (.workspace, "")⟩
    let request : Api.Request := { repo := "acme/infra", ref := "main", dir := "infra" }
    let reversed := { c.document with projects := c.document.projects.reverse }
    load c.toYaml.toUTF8 = .ok c ∧ (c.projects.filter run.selects).length ≤ 1 ∧
      (∃ p, (p ∈ c.projects ∧ run.selects p = true) ∧
        c.findProject? "infra" request.workspaceKeys = some p) ∧
      ∃ c', load reversed.tree.print.toUTF8 = .ok c' ∧
        ∀ dir key, c'.findProject? dir [key] = c.findProject? dir [key] := by
  intro c run request reversed
  have hload : load c.toYaml.toUTF8 = .ok c := load_toYaml (by decide +kernel) (by decide +kernel)
  obtain ⟨hasked, hordered⟩ := lookup_unambiguous hload
  obtain ⟨hone, -, hfound⟩ := hasked run "infra" .workspace "" rfl rfl
  have hnames : request.NamesOnly .workspace "" := by
    intro kind
    cases kind <;> rfl
  have hselected : c.projects.head (by decide) ∈ c.projects ∧
      run.selects (c.projects.head (by decide)) = true := by decide +kernel
  obtain ⟨hfind, -⟩ := (hfound request _ rfl hnames).1 hselected
  obtain ⟨c', hload', -, hsame⟩ := hordered c.document _ reversed.tree.print.toUTF8
    (readYaml_print (Document.reads _)) (List.reverse_perm _) (readYaml_print (Document.reads _))
  exact ⟨hload, hone, ⟨_, hselected, hfind⟩, c', hload', hsame⟩

end Config

end Groundwork
