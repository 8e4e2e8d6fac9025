/-
Writing a configuration and reading it again.

What is written for a document is read as that document (`Config.Document.reads`), though
most fields are left out when they say nothing: no field is left out that is not read as
what was left out. What the reader makes of the document of a configuration is that
configuration if its projects are bound as reading binds them (`Config.Bound`), and then
it is loaded if it is valid (`Config.load_toYaml`). Configurations that were read are so
bound, and those that were loaded are valid, which gives the round trip.
-/
import Groundwork.Proofs.Config.Loaded
import Groundwork.Proofs.Yaml.Parsed

set_option autoImplicit false

namespace Groundwork

open Yaml

/-! ## Reading what is written for a document -/

theorem Install.reads (i : Install) : Reads Install.read i.tree i := by
  intro d n h
  obtain ⟨es, hes, hall⟩ := fields_of_record d h ["version", "versionFrom", "skipInstall"]
    (by
      simp only [List.map_append]
      exact ((Tree.keys_optionField _ _).append (Tree.keys_optionField _ _)).append
        (Tree.keys_flagField _ _))
    (by decide)
  have hversion := field_optionText d hall "version" i.version (by simp [List.lookup_append])
  have hfile := field_optionText d hall "versionFrom" i.versionFrom
    (by simp [List.lookup_append])
  have hskip := field_flag d hall "skipInstall" i.skip (by simp [List.lookup_append])
  rw [Install.read, hes]
  simp only [bind, Except.bind, pure, Except.pure, hversion, hfile, hskip]

theorem InitCommand.Document.reads (c : InitCommand.Document) :
    Reads InitCommand.Document.read c.tree c := by
  intro d n h
  obtain ⟨es, hes, hall⟩ := fields_of_record d h ["run", "login", "aws", "env", "omitOutput"]
    (by
      simp only [List.map_append]
      exact ((((Tree.keys_optionField _ _).append (Tree.keys_optionField _ _)).append
        (Tree.keys_optionField _ _)).append (Tree.keys_tableField _ _)).append
        (Tree.keys_flagField _ _))
    (by decide)
  have hrun := field_optionText d hall "run" c.run (by simp [List.lookup_append])
  have hlogin := field_optionText d hall "login" c.login (by simp [List.lookup_append])
  have haws := field_optionText d hall "aws" c.aws (by simp [List.lookup_append])
  have henv := field_table d hall "env" c.env (by simp [List.lookup_append])
  have homit := field_flag d hall "omitOutput" c.omitOutput (by simp [List.lookup_append])
  rw [InitCommand.Document.read, hes]
  simp only [bind, Except.bind, pure, Except.pure, hrun, hlogin, haws, henv, homit]

namespace Workflow

theorem keys_installField (name : String) (i : Option Install) :
    ((installField name i).map (·.1)).Sublist [name] :=
  Tree.keys_option name Install.tree i

@[simp] theorem lookup_installField_of_ne {name k : String} (hk : k ≠ name) (i : Option Install) :
    (installField name i).lookup k = none :=
  Tree.lookup_of_keys (keys_installField name i) hk

theorem Document.reads (w : Document) : Reads Document.read w.tree w := by
  intro d n h
  obtain ⟨es, hes, hall⟩ := fields_of_record d h
    ["terraform", "helmfile", "pulumi", "image", "env", "podAnnotations", "initCommands"]
    (by
      simp only [List.map_append]
      exact ((((((keys_installField _ _).append (keys_installField _ _)).append
        (keys_installField _ _)).append (List.Sublist.refl _)).append
        (Tree.keys_tableField _ _)).append (Tree.keys_tableField _ _)).append
        (Tree.keys_listField _ _))
    (by decide)
  have hinstall (i : Install) : Reads (Document.option Install.read) i.tree (some i) :=
    reads_optionRecord i.reads
  have hterraform := field_option d hall "terraform" w.terraform hinstall
    (by simp [List.lookup_append, List.lookup_cons]; rfl)
  have hhelmfile := field_option d hall "helmfile" w.helmfile hinstall
    (by simp [List.lookup_append, List.lookup_cons]; rfl)
  have hpulumi := field_option d hall "pulumi" w.pulumi hinstall
    (by simp [List.lookup_append, List.lookup_cons]; rfl)
  have himage := field_written d hall "image" "" (reads_text w.image)
    (by simp [List.lookup_append])
  have henv := field_table d hall "env" w.env (by simp [List.lookup_append, List.lookup_cons])
  have hannotations := field_table d hall "podAnnotations" w.podAnnotations
    (by simp [List.lookup_append, List.lookup_cons])
  have hcommands := field_list d hall "initCommands" w.initCommands InitCommand.Document.reads
    (by simp [List.lookup_append, List.lookup_cons])
  rw [Document.read, hes]
  simp only [bind, Except.bind, pure, Except.pure, hterraform, hhelmfile, hpulumi, himage, henv,
    hannotations, hcommands]

end Workflow

theorem Project.Document.reads (p : Project.Document) : Reads Project.Document.read p.tree p := by
  intro d n h
  obtain ⟨es, hes, hall⟩ := fields_of_record d h
    ["dir", "stack", "workspace", "environment", "autoPlan", "autoPreview", "autoDiff",
      "podAnnotations", "env", "whenModified", "workflow", "__loadedWorkflow"]
    (by
      simp only [List.map_append]
      exact (((((((((((List.Sublist.refl _).append (Tree.keys_textField _ _)).append
        (Tree.keys_textField _ _)).append (Tree.keys_textField _ _)).append
        (Tree.keys_flagField _ _)).append (Tree.keys_flagField _ _)).append
        (Tree.keys_flagField _ _)).append (Tree.keys_tableField _ _)).append
        (Tree.keys_tableField _ _)).append (Tree.keys_listField _ _)).append
        (List.Sublist.refl _)).append (Tree.keys_option _ Workflow.Document.tree _))
    (by decide)
  have hdir := field_written d hall "dir" "" (reads_text p.dir)
    (by simp)
  have hstack := field_text d hall "stack" p.stack
    (by simp [List.lookup_append, List.lookup_cons])
  have hworkspace := field_text d hall "workspace" p.workspace
    (by simp [List.lookup_append, List.lookup_cons])
  have henvironment := field_text d hall "environment" p.environment
    (by simp [List.lookup_append, List.lookup_cons])
  have hplan := field_flag d hall "autoPlan" p.autoPlan
    (by simp [List.lookup_append, List.lookup_cons])
  have hpreview := field_flag d hall "autoPreview" p.autoPreview
    (by simp [List.lookup_append, List.lookup_cons])
  have hdiff := field_flag d hall "autoDiff" p.autoDiff
    (by simp [List.lookup_append, List.lookup_cons])
  have hannotations := field_table d hall "podAnnotations" p.podAnnotations
    (by simp [List.lookup_append, List.lookup_cons])
  have henv := field_table d hall "env" p.env (by simp [List.lookup_append, List.lookup_cons])
  have hrules := field_list d hall "whenModified" p.whenModified reads_text
    (by simp [List.lookup_append, List.lookup_cons])
  have hname := field_written d hall "workflow" "" (reads_text p.workflowName)
    (by simp [List.lookup_append, List.lookup_cons])
  have hembedded (w : Workflow.Document) :
      Reads (Document.option Workflow.Document.read) w.tree (some w) := reads_optionRecord w.reads
  have hworkflow := field_option d hall "__loadedWorkflow" p.workflow hembedded
    (by simp [List.lookup_append, List.lookup_cons])
  rw [Document.read, hes]
  simp only [Bind.bind, Except.bind, pure, Except.pure, hdir, hstack, hworkspace, henvironment, hplan,
    hpreview, hdiff, hannotations, henv, hrules, hname, hworkflow]

namespace Config

theorem Document.reads (c : Document) : Reads Document.read c.tree c := by
  intro d n h
  obtain ⟨es, hes, hall⟩ := fields_of_record d h ["version", "workflows", "projects"]
    (List.Sublist.refl _) (by decide)
  have hversion := field_written d hall "version" "" (reads_text c.version) rfl
  have hworkflows := field_written d hall "workflows" .empty
    (reads_table (t := c.workflows) (List.forall₂_map_left_iff.2
      (List.forall₂_same.2 fun e _ => ⟨rfl, e.2.reads⟩))) rfl
  have hprojects := field_written d hall "projects" []
    (reads_list (List.forall₂_map_left_iff.2
      (List.forall₂_same.2 fun p _ => Project.Document.reads p))) rfl
  rw [Document.read, hes]
  simp only [bind, Except.bind, pure, Except.pure, hversion, hworkflows, hprojects]

/-- What is written for a tree is read as the value it was made of. -/
theorem readYaml_print {α : Type} {read : Yaml.Document → Node → Except Yaml.Error α} {t : Tree}
    {a : α} (hread : Reads read t a) : readYaml read t.print.toUTF8 = .ok a := by
  rw [readYaml, mapError_eq_ok_iff, Yaml.Document.ofBytes_print]
  exact bind_eq_ok_iff.2 ⟨_, rfl, hread _ t.node (tree?_node t)⟩

/-! ## Resolving what is written for a configuration -/

/-- The projects of a configuration are bound as reading binds them: each has the workflow
that is declared under its name, and no fault of its own. -/
def Bound (c : Config) : Prop :=
  c.version = supportedVersion ∧
    ∀ p ∈ c.projects, resolve c.workflows (p.document false) = .ok p.workflow

instance (c : Config) : Decidable c.Bound :=
  inferInstanceAs (Decidable (_ ∧ _))

theorem bound_of_parse_ok {bytes : ByteArray} {c : Config} (h : parse bytes = .ok c) : c.Bound := by
  obtain ⟨d, -, hd⟩ := parse_eq_ok_iff.1 h
  obtain ⟨hversion, hsame, -, -⟩ := ofDocument_eq_ok_iff.1 hd
  exact ⟨hsame.trans hversion, fun p hp => resolve_eq_ok_iff.2 (bound_of_parse h hp)⟩

theorem traverse_document (t : Table Workflow) :
    (t.map Workflow.document).traverse
      (fun name w => (Workflow.ofDocument w).mapError (Error.workflow name)) = .ok t := by
  rw [Table.traverse_eq_ok_iff, Table.map, List.forall₂_map_left_iff, List.forall₂_same]
  intro e _
  refine ⟨rfl, ?_⟩
  rw [mapError_eq_ok_iff]
  exact Workflow.ofDocument_document e.2

/-- What is written for a configuration is resolved to it. -/
theorem ofDocument_document {c : Config} (h : c.Bound) : ofDocument c.document = .ok c := by
  obtain ⟨hversion, hbound⟩ := h
  refine ofDocument_eq_ok_iff.2 ⟨hversion, rfl, traverse_document c.workflows, ?_⟩
  rw [bindAll_eq_ok_iff]
  refine List.forall₂_map_left_iff.2 (List.forall₂_same.2 fun p hp => ?_)
  exact ⟨hbound p hp, (Project.bind_document p false).symm⟩

theorem parse_toYaml {c : Config} (h : c.Bound) : parse c.toYaml.toUTF8 = .ok c :=
  parse_eq_ok_iff.2 ⟨c.document, readYaml_print c.document.reads, ofDocument_document h⟩

theorem load_toYaml {c : Config} (h : c.Bound) (hvalid : c.validate = .ok ()) :
    load c.toYaml.toUTF8 = .ok c :=
  load_eq_ok_iff.2 ⟨parse_toYaml h, hvalid⟩

/-- **Round trip.** A configuration that was loaded is loaded again from what is written for
it, and what is written for that one is the same text. So it is with reading alone. -/
theorem round_trip (c : Config) :
    (∀ bytes, load bytes = .ok c →
      ∃ again, load c.toYaml.toUTF8 = .ok again ∧ again = c ∧ again.toYaml = c.toYaml) ∧
    (∀ bytes, parse bytes = .ok c →
      ∃ again, parse c.toYaml.toUTF8 = .ok again ∧ again = c ∧ again.toYaml = c.toYaml) := by
  constructor
  · intro bytes h
    obtain ⟨hparse, hvalid⟩ := load_eq_ok_iff.1 h
    exact ⟨c, load_toYaml (bound_of_parse_ok hparse) hvalid, rfl, rfl⟩
  · intro bytes h
    exact ⟨c, parse_toYaml (bound_of_parse_ok h), rfl, rfl⟩

/-- It is written in another way than it was, and read as the same. -/
theorem round_trip_written :
    load written.toUTF8 = .ok sample ∧ sample.toYaml ≠ written ∧
      ∃ again, load sample.toYaml.toUTF8 = .ok again ∧ again = sample ∧
        again.toYaml = sample.toYaml := by
  refine ⟨load_written, by decide +kernel, ?_⟩
  exact (round_trip sample).1 written.toUTF8 load_written

/-! ## Configurations with two projects -/

/-- A workflow with no more than is asked of one. -/
def plainWorkflow : Workflow where
  adapter := ⟨.terraform, { version := some "1.0.0" }⟩
  image := "alpine"

/-- A configuration of two projects, by their directories and workspaces. To see that it is
loaded from what is written for it, nothing has to be read (`load_toYaml`). -/
def pair (dir workspace dir' workspace' : String) : Config where
  version := supportedVersion
  workflows := .ofList [("tf", plainWorkflow)]
  projects := [
    { dir := dir, workspace := workspace, workflowName := "tf", workflow := plainWorkflow },
    { dir := dir', workspace := workspace', workflowName := "tf", workflow := plainWorkflow }]

end Config

/-! ## Projects on their own -/

/-- A project is read again from what is written for it on its own, if it has no fault of
its own and its workflow can be run. -/
theorem Project.ofYaml_toYaml {p : Project} (hname : p.workflowName ≠ "")
    (hdir : p.dir.toList.head? ≠ some '/') (hvalid : p.workflow.validate = .ok ()) :
    Project.ofYaml p.toYaml.toUTF8 = .ok p := by
  have hread : Config.readYaml Project.Document.read p.toYaml.toUTF8 = .ok (p.document true) :=
    Config.readYaml_print (Project.Document.reads _)
  have hcheck : (p.document true).check = .ok () :=
    Project.Document.check_eq_ok_iff.2 ⟨hname, hdir⟩
  have hembedded : Project.embedded (p.document true) = .ok p.workflow := by
    rw [Project.embedded, hcheck]
    refine Config.mapError_eq_ok_iff.2 (Config.bind_eq_ok_iff.2 ⟨p.workflow, ?_, ?_⟩)
    · exact Workflow.ofDocument_document p.workflow
    · exact Config.bind_eq_ok_iff.2 ⟨(), hvalid, rfl⟩
  refine Config.bind_eq_ok_iff.2 ⟨p.document true, hread, ?_⟩
  rw [Project.ofDocument, hembedded]
  exact congrArg Except.ok (Project.bind_document p true)

end Groundwork
