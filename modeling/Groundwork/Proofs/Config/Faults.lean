/-
Which configurations are loaded, and what is said about the others.

What is asked of a document is stated here at once (`Config.Document.Valid`), and what can
be wrong with it is listed in the order in which it is looked for (`Config.Document.faults`),
without stopping anywhere. Loading goes over a document twice, through three levels, and
each step stops at its first fault. Of each step it is shown that this is the first of its
list (`firstFault` and the lemmas `firstFault_…`); two steps one after the other then stop at
the first fault of both lists together (`firstFault_bind`).

So a document is loaded exactly if it is valid, the error is the first of its list, and
what was loaded says what the document does (`Config.load_spec`).
-/
import Groundwork.Proofs.Config.RoundTrip
import Groundwork.Proofs.Text.ByteOrder

set_option autoImplicit false

namespace Groundwork

/-! ## What is asked of a document -/

/-- One of some flags is set, and no other. -/
def ExactlyOne (flags : List Bool) : Prop :=
  flags.count true = 1

/-- What is written about a tool. -/
def Workflow.Document.install? (w : Workflow.Document) : Tool → Option Install
  | .terraform => w.terraform
  | .helmfile => w.helmfile
  | .pulumi => w.pulumi

/-- The tools that are written. -/
def Workflow.Document.tools (w : Workflow.Document) : List Tool :=
  Tool.all.filter fun t => (w.install? t).isSome

/-- The name of the workspace of a kind. -/
def Project.Document.named (p : Project.Document) : WorkspaceKind → String
  | .workspace => p.workspace
  | .environment => p.environment
  | .stack => p.stack

namespace Config.Document

/-- What the tool of a project calls a workspace. -/
def kind? (d : Document) (p : Project.Document) : Option WorkspaceKind := do
  let w ← d.workflows.find? p.workflowName
  let tool ← w.tools.head?
  return tool.workspaceKind

/-- The directory of a project and the workspace that its tool deploys to. -/
def place? (d : Document) (p : Project.Document) : Option (String × String) :=
  (d.kind? p).map fun kind => (p.dir, p.named kind)

/-- A document whose parts are sound and name each other. -/
structure Valid (d : Document) : Prop where
  version : d.version = "v1alpha1"
  tool : ∀ e ∈ d.workflows.entries,
    ExactlyOne [e.2.terraform.isSome, e.2.helmfile.isSome, e.2.pulumi.isSome]
  commands : ∀ e ∈ d.workflows.entries, ∀ c ∈ e.2.initCommands,
    ExactlyOne [c.run.isSome, c.login.isSome, c.aws.isSome]
  install : ∀ e ∈ d.workflows.entries, ∀ tool i, e.2.install? tool = some i →
    ExactlyOne [i.version.any (· ≠ ""), i.versionFrom.any (· ≠ ""), i.skip]
  image : ∀ e ∈ d.workflows.entries,
    e.2.image ≠ "" ∧ ∃ r, Image.parse e.2.image = .ok r ∧ r.isAllowed = true
  workflow : ∀ p ∈ d.projects,
    p.workflowName ≠ "" ∧ ∃ w, d.workflows.find? p.workflowName = some w
  dir : ∀ p ∈ d.projects, p.dir.toList.head? ≠ some '/'
  apart : (d.projects.map d.place?).Nodup

end Config.Document

/-! ## What can be wrong with a document -/

/-- What is wrong with the way to obtain a tool. -/
def Install.faults (i : Install) : List Install.Error :=
  match i.version.any (· ≠ ""), i.versionFrom.any (· ≠ ""), i.skip with
  | false, false, false => [.missing]
  | true, true, _ => [.versionConflict]
  | true, false, true | false, true, true => [.skipConflict]
  | true, false, false | false, true, false | false, false, true => []

/-- What is wrong with an init command. -/
def InitCommand.Document.faults (c : InitCommand.Document) : List InitCommand.Error :=
  match [c.run.isSome, c.login.isSome, c.aws.isSome].count true with
  | 0 => [.noAction]
  | 1 => []
  | _ => [.severalActions]

namespace Workflow.Document

/-- What is wrong with the choice of a tool. -/
def choiceFaults (w : Document) : List Error :=
  match w.tools with
  | [] => [.selection .missing]
  | [_] => []
  | tools => [.selection (.several tools)]

/-- What is wrong with the init commands. -/
def commandFaults (w : Document) : List Error :=
  w.initCommands.zipIdx.flatMap fun (c, index) => c.faults.map (Error.command index)

/-- What is wrong with the ways to obtain the tools. -/
def installFaults (w : Document) : List Error :=
  Tool.all.flatMap fun tool =>
    (w.install? tool).toList.flatMap fun i => i.faults.map (Error.install tool)

/-- What is wrong with the image. -/
def imageFaults (w : Document) : List Error :=
  if w.image = "" then [.missingImage]
  else match Image.parse w.image with
    | .error e => [.invalidImage w.image e]
    | .ok r => if r.isAllowed then [] else [.disallowedImage w.image r.fullPath]

end Workflow.Document

/-- What is wrong with a project of a configuration with some workflows. -/
def Project.Document.faults (workflows : Table Workflow.Document) (p : Project.Document) :
    List Project.Error :=
  (if p.workflowName = "" then [.workflowNotSet] else [])
    ++ (if p.dir.toList.head? = some '/' then [.absoluteDir] else [])
    ++ if (workflows.find? p.workflowName).isNone then [.unknownWorkflow p.workflowName] else []

namespace Config.Document

/-- What is wrong with some projects for those before them: one is declared again. -/
def repeats (d : Document) : (before projects : List Project.Document) → List Error
  | _, [] => []
  | before, p :: ps =>
    (if d.place? p ∈ before.map d.place? then
      (d.kind? p).toList.map fun kind => .project p.dir (.duplicate kind (p.named kind))
    else []) ++ d.repeats (p :: before) ps

/-- What is wrong with a document, in the order in which it is looked for: the version;
of each workflow, in the order of their names, the choice of the tool and the commands; each
project on its own; of each workflow how the tool is obtained and the image; and the
projects that are declared again. -/
def faults (d : Document) : List Error :=
  (if d.version ≠ "v1alpha1" then [.version d.version] else [])
    ++ d.workflows.entries.flatMap (fun (name, w) =>
      (w.choiceFaults ++ w.commandFaults).map (Error.workflow name))
    ++ d.projects.flatMap (fun p => (p.faults d.workflows).map (Error.project p.dir))
    ++ d.workflows.entries.flatMap (fun (name, w) =>
      (w.installFaults ++ w.imageFaults).map (Error.workflow name))
    ++ d.repeats [] d.projects

end Config.Document

/-! ## Steps and the faults that they stop at -/

section

variable {ε δ α β : Type}

/-- The fault that a step stops at. -/
def firstFault : Except ε α → Option ε
  | .error e => some e
  | .ok _ => none

theorem firstFault_eq_some_iff {x : Except ε α} {e : ε} : firstFault x = some e ↔ x = .error e := by
  cases x <;> simp [firstFault]

theorem firstFault_eq_none_iff {x : Except ε α} : firstFault x = none ↔ ∃ a, x = .ok a := by
  cases x <;> simp [firstFault]

theorem firstFault_map (f : α → β) (x : Except ε α) : firstFault (x.map f) = firstFault x := by
  cases x <;> rfl

theorem firstFault_bind_pure (f : α → β) (x : Except ε α) :
    firstFault (x >>= fun a => pure (f a)) = firstFault x := by
  cases x <;> rfl

theorem firstFault_mapError (f : ε → δ) {x : Except ε α} {faults : List ε}
    (h : firstFault x = faults.head?) :
    firstFault (x.mapError f) = (faults.map f).head? := by
  rw [List.head?_map, ← h]
  cases x <;> rfl

/-- Two steps, of which the second counts if the first succeeds. -/
theorem firstFault_bind {x : Except ε α} {f : α → Except ε β} {first second : List ε}
    (hfirst : firstFault x = first.head?)
    (hsecond : ∀ a, x = .ok a → firstFault (f a) = second.head?) :
    firstFault (x >>= f) = (first ++ second).head? := by
  rw [List.head?_append]
  cases x with
  | error e =>
    rw [← hfirst]
    rfl
  | ok a =>
    rw [← hfirst]
    exact hsecond a rfl

end

/-! ## Workflows -/

theorem Install.isSome_given (s : Option String) : (given s).isSome = s.any (· ≠ "") := by
  cases s with
  | none => rfl
  | some s =>
    by_cases hs : s = ""
    · simp [given, hs]
    · simp [given, hs]

theorem Install.firstFault_strategy (i : Install) : firstFault i.strategy = i.faults.head? := by
  rw [strategy, faults, ← isSome_given, ← isSome_given]
  cases given i.version <;> cases given i.versionFrom <;> cases i.skip <;> rfl

theorem InitCommand.firstFault_ofDocument (c : InitCommand.Document) :
    firstFault (ofDocument c) = c.faults.head? := by
  obtain ⟨run, login, aws, env, hidden⟩ := c
  cases run <;> cases login <;> cases aws <;> rfl

namespace Workflow

theorem firstFault_select (w : Document) :
    firstFault ((Adapter.select w.adapters).mapError Error.selection) = w.choiceFaults.head? := by
  obtain ⟨terraform, helmfile, pulumi, _, _, _, _⟩ := w
  cases terraform <;> cases helmfile <;> cases pulumi <;> rfl

theorem firstFault_commandsOf (index : Nat) (cs : List InitCommand.Document) :
    firstFault (commandsOf index cs) =
      ((cs.zipIdx index).flatMap fun (c, i) => c.faults.map (Error.command i)).head? := by
  induction cs generalizing index with
  | nil => rfl
  | cons c cs ih =>
    rw [commandsOf, List.zipIdx_cons, List.flatMap_cons, List.head?_append, List.head?_map,
      ← InitCommand.firstFault_ofDocument]
    cases InitCommand.ofDocument c with
    | error e => rfl
    | ok c' => exact (firstFault_map _ _).trans (ih (index + 1))

theorem firstFault_ofDocument (w : Document) :
    firstFault (ofDocument w) = (w.choiceFaults ++ w.commandFaults).head? := by
  refine firstFault_bind (firstFault_select w) fun adapter _ => ?_
  rw [firstFault_bind_pure]
  exact firstFault_commandsOf 0 w.initCommands

theorem installFaults_document (w : Workflow) :
    w.document.installFaults = w.adapter.install.faults.map (Error.install w.adapter.tool) := by
  obtain ⟨⟨tool, install⟩, image, env, annotations, commands⟩ := w
  cases tool <;>
    simp [Document.installFaults, document, Document.install?, Tool.all]

theorem firstFault_validateImage (w : Document) :
    firstFault (validateImage w.image) = w.imageFaults.head? := by
  rw [validateImage, Document.imageFaults]
  by_cases hempty : w.image = ""
  · rw [if_pos hempty, if_pos hempty]
    rfl
  · rw [if_neg hempty, if_neg hempty]
    cases Image.parse w.image with
    | error e => rfl
    | ok r =>
      by_cases hallowed : r.isAllowed = true
      · simp [hallowed, firstFault]
      · simp [hallowed, firstFault]

theorem firstFault_validate (w : Workflow) :
    firstFault w.validate = (w.document.installFaults ++ w.document.imageFaults).head? := by
  rw [installFaults_document]
  refine firstFault_bind (firstFault_mapError _ w.adapter.install.firstFault_strategy) fun _ _ => ?_
  have himage : w.document.image = w.image := by
    obtain ⟨⟨tool, _⟩, _, _, _, _⟩ := w
    cases tool <;> rfl
  rw [← himage]
  exact firstFault_validateImage w.document

end Workflow

/-! ## Tables and lists -/

theorem Table.firstFault_traverse {ε α β : Type} {f : String → α → Except ε β}
    {faults : String → α → List ε} (h : ∀ key a, firstFault (f key a) = (faults key a).head?)
    (t : Table α) :
    firstFault (t.traverse f) = (t.entries.flatMap fun e => faults e.1 e.2).head? := by
  rw [← firstFault_map entries, entries_traverse]
  induction t.entries with
  | nil => rfl
  | cons e rest ih =>
    obtain ⟨key, a⟩ := e
    rw [traverseEntries, List.flatMap_cons]
    refine firstFault_bind (h key a) fun b _ => ?_
    rw [firstFault_bind_pure]
    exact ih

namespace Config

theorem firstFault_check (p : Project.Document) :
    firstFault p.check = ((if p.workflowName = "" then [Project.Error.workflowNotSet] else [])
      ++ if p.dir.toList.head? = some '/' then [Project.Error.absoluteDir] else []).head? := by
  rw [Project.Document.check]
  by_cases hname : p.workflowName = ""
  · simp [hname, firstFault]
  · by_cases hdir : p.dir.toList.head? = some '/'
    · simp [hname, hdir, firstFault]
    · simp [hname, hdir, firstFault]

section

variable {workflows : Table Workflow} {ds : Table Workflow.Document}
  (hsame : ∀ name, (workflows.find? name).isNone = (ds.find? name).isNone)

include hsame

theorem firstFault_resolve (p : Project.Document) :
    firstFault (resolve workflows p) = (p.faults ds).head? := by
  refine firstFault_bind (firstFault_check p) fun _ _ => ?_
  rw [← hsame]
  cases workflows.find? p.workflowName with
  | none => rfl
  | some w => rfl

theorem firstFault_bindAll (ps : List Project.Document) :
    firstFault (bindAll workflows ps) =
      (ps.flatMap fun p => (p.faults ds).map (Error.project p.dir)).head? := by
  induction ps with
  | nil => rfl
  | cons p ps ih =>
    rw [bindAll, List.flatMap_cons, List.head?_append, List.head?_map, ← firstFault_resolve hsame]
    cases resolve workflows p with
    | error e => rfl
    | ok w => exact (firstFault_map _ _).trans ih

end

theorem firstFault_validateWorkflows (es : List (String × Workflow)) :
    firstFault (validateWorkflows es) =
      (es.flatMap fun e => (e.2.document.installFaults ++ e.2.document.imageFaults).map
        (Error.workflow e.1)).head? := by
  induction es with
  | nil => rfl
  | cons e rest ih =>
    obtain ⟨name, w⟩ := e
    rw [validateWorkflows, List.flatMap_cons, List.head?_append, List.head?_map,
      ← w.firstFault_validate]
    cases w.validate with
    | error e => rfl
    | ok _ => exact ih

end Config

/-! ## What a configuration that was read says -/

theorem InitCommand.document_of_ofDocument {c : InitCommand.Document} {a : InitCommand}
    (h : ofDocument c = .ok a) : a.document = c := by
  obtain ⟨run, login, aws, env, hidden⟩ := c
  cases run <;> cases login <;> cases aws <;> cases h <;> rfl

theorem Workflow.document_of_commandsOf {index : Nat} {cs : List InitCommand.Document}
    {as : List InitCommand} (h : commandsOf index cs = .ok as) :
    as.map InitCommand.document = cs := by
  induction cs generalizing index as with
  | nil =>
    cases h
    rfl
  | cons c cs ih =>
    rw [commandsOf] at h
    cases hc : InitCommand.ofDocument c with
    | error e =>
      rw [hc] at h
      cases h
    | ok a =>
      rw [hc] at h
      obtain ⟨rest, hrest, rfl⟩ := Config.map_eq_ok_iff.1 h
      rw [List.map_cons, InitCommand.document_of_ofDocument hc, ih hrest]

/-- A workflow that was read says what its document does. -/
theorem Workflow.document_of_ofDocument {w : Document} {v : Workflow} (h : ofDocument w = .ok v) :
    v.document = w := by
  obtain ⟨adapter, hselect, h⟩ := Config.bind_eq_ok_iff.1 h
  obtain ⟨commands, hcommands, h⟩ := Config.bind_eq_ok_iff.1 h
  have hwritten := document_of_commandsOf hcommands
  rw [Config.mapError_eq_ok_iff] at hselect
  obtain ⟨terraform, helmfile, pulumi, image, env, annotations, cs⟩ := w
  cases h
  cases terraform <;> cases helmfile <;> cases pulumi <;> cases hselect <;>
    simp [document, hwritten]

theorem Workflow.tools_document (w : Workflow) : w.document.tools = [w.adapter.tool] := by
  obtain ⟨⟨tool, install⟩, image, env, annotations, commands⟩ := w
  cases tool <;> rfl

namespace Config

/-- Workflows that were read say what those of the document do. -/
theorem document_of_traverse {ds : Table Workflow.Document} {workflows : Table Workflow}
    (h : ds.traverse (fun name w => (Workflow.ofDocument w).mapError (Error.workflow name)) =
      .ok workflows) : workflows.map Workflow.document = ds := by
  have hentries {es : List (String × Workflow.Document)} {rs : List (String × Workflow)}
      (h : List.Forall₂ (fun a b => a.1 = b.1 ∧
        (Workflow.ofDocument a.2).mapError (Error.workflow a.1) = .ok b.2) es rs) :
      rs.map (fun e => (e.1, e.2.document)) = es := by
    induction h with
    | nil => rfl
    | cons hhead _ ih =>
      obtain ⟨hname, hread⟩ := hhead
      have hdocument := Workflow.document_of_ofDocument (mapError_eq_ok_iff.1 hread)
      rw [List.map_cons, ih, ← hname, hdocument]
  exact Table.ext (hentries (Table.traverse_eq_ok_iff.1 h))

section

variable {d : Document} {workflows : Table Workflow}
  (hworkflows : workflows.map Workflow.document = d.workflows)

include hworkflows

theorem find?_document (name : String) :
    d.workflows.find? name = (workflows.find? name).map Workflow.document := by
  rw [← hworkflows, Table.find?_map]

/-- The place of a project is what it is told by once it is bound. -/
theorem place?_of_resolve {p : Project.Document} {q : Project}
    (hresolve : resolve workflows p = .ok q.workflow) (hbound : q = Project.bind p q.workflow) :
    d.kind? p = some q.tool.workspaceKind ∧ d.place? p = some (identity q) ∧
      p.dir = q.dir ∧ p.named q.tool.workspaceKind = q.workspaceKey := by
  obtain ⟨-, -, hfind⟩ := resolve_eq_ok_iff.1 hresolve
  have hdir : p.dir = q.dir := by rw [hbound]; rfl
  have hnamed : ∀ kind, p.named kind = q.named kind := by
    intro kind
    rw [hbound]
    cases kind <;> rfl
  have hkind : d.kind? p = some q.tool.workspaceKind := by
    rw [Document.kind?, find?_document hworkflows, hfind]
    simp only [Option.map_some, Option.bind_eq_bind, Option.bind_some, Workflow.tools_document,
      List.head?_cons, Option.pure_def, Project.tool]
  refine ⟨hkind, ?_, hdir, hnamed _⟩
  rw [Document.place?, hkind, Option.map_some, hdir, hnamed]
  rfl

theorem firstFault_validateProjects {ds : List Project.Document} {ps : List Project}
    (hbound : List.Forall₂
      (fun p q => resolve workflows p = .ok q.workflow ∧ q = Project.bind p q.workflow) ds ps)
    {before : List Project.Document} {seen : List (String × String)}
    (hseen : before.map d.place? = seen.map some) :
    firstFault (validateProjects workflows seen ps) = (d.repeats before ds).head? := by
  -- the identities that were seen are the places of the projects before
  induction hbound generalizing before seen with
  | nil => rfl
  | @cons p q ds ps hhead _ ih =>
    obtain ⟨hresolve, hbound⟩ := hhead
    obtain ⟨hkind, hplace, hdir, hnamed⟩ := place?_of_resolve hworkflows hresolve hbound
    have hname : q.workflowName = p.workflowName := by rw [hbound]; rfl
    have hfound : workflows.find? q.workflowName = some q.workflow := by
      rw [hname]
      exact (resolve_eq_ok_iff.1 hresolve).2.2
    have hagain : d.place? p ∈ before.map d.place? ↔ identity q ∈ seen := by
      rw [hplace, hseen, List.mem_map]
      simp
    rw [validateProjects, if_neg (by simp [hfound]), Document.repeats]
    by_cases hmem : identity q ∈ seen
    · rw [if_pos hmem, if_pos (hagain.2 hmem), hkind]
      simp only [Option.toList_some, List.map_cons, hnamed, hdir]
      rfl
    · rw [if_neg hmem, if_neg (mt hagain.1 hmem), List.nil_append]
      exact ih (by rw [List.map_cons, List.map_cons, hplace, hseen])

end

/-! ## Loading -/

theorem firstFault_ofDocument (d : Document) :
    firstFault (ofDocument d) =
      ((if d.version ≠ "v1alpha1" then [Error.version d.version] else [])
        ++ d.workflows.entries.flatMap (fun (name, w) =>
          (w.choiceFaults ++ w.commandFaults).map (Error.workflow name))
        ++ d.projects.flatMap (fun p => (p.faults d.workflows).map (Error.project p.dir))).head? := by
  rw [ofDocument, supportedVersion]
  by_cases hversion : d.version = "v1alpha1"
  · rw [if_neg (not_not.2 hversion), if_neg (not_not.2 hversion), List.nil_append]
    refine firstFault_bind ?_ ?_
    · exact Table.firstFault_traverse
        (fun name w => firstFault_mapError _ (Workflow.firstFault_ofDocument w)) d.workflows
    · intro workflows hread
      rw [firstFault_bind_pure]
      refine firstFault_bindAll (fun name => ?_) d.projects
      rw [find?_document (document_of_traverse hread), Option.isNone_map]
  · rw [if_pos hversion, if_pos hversion]
    rfl

theorem firstFault_validate {d : Document} {c : Config} (h : ofDocument d = .ok c) :
    firstFault c.validate =
      (d.workflows.entries.flatMap (fun (name, w) =>
          (w.installFaults ++ w.imageFaults).map (Error.workflow name))
        ++ d.repeats [] d.projects).head? := by
  obtain ⟨hversion, hsame, htraverse, hbind⟩ := ofDocument_eq_ok_iff.1 h
  have hworkflows := document_of_traverse htraverse
  rw [validate, if_neg (not_not.2 (hsame.trans hversion))]
  refine firstFault_bind ?_ ?_
  · rw [firstFault_validateWorkflows, ← hworkflows, Table.map, List.flatMap_map]
  · intro _ _
    exact firstFault_validateProjects hworkflows (bindAll_eq_ok_iff.1 hbind) rfl

/-- Loading stops at the first fault of the document. -/
theorem firstFault_load {bytes : ByteArray} {d : Document}
    (hread : readYaml Document.read bytes = .ok d) :
    firstFault (load bytes) = d.faults.head? := by
  have hparse : parse bytes = ofDocument d := by
    rw [parse, hread]
    rfl
  rw [load, hparse, Document.faults, List.append_assoc _ _ (d.repeats [] d.projects)]
  refine firstFault_bind (firstFault_ofDocument d) ?_
  intro c hc
  rw [← firstFault_validate hc]
  exact firstFault_bind_pure (fun _ => c) c.validate

end Config

/-! ## Documents without faults -/

theorem Install.faults_eq_nil_iff (i : Install) :
    i.faults = [] ↔ ExactlyOne [i.version.any (· ≠ ""), i.versionFrom.any (· ≠ ""), i.skip] := by
  rw [faults]
  cases i.version.any (· ≠ "") <;> cases i.versionFrom.any (· ≠ "") <;> cases i.skip <;>
    simp [ExactlyOne]

theorem InitCommand.Document.faults_eq_nil_iff (c : InitCommand.Document) :
    c.faults = [] ↔ ExactlyOne [c.run.isSome, c.login.isSome, c.aws.isSome] := by
  rw [faults]
  cases c.run.isSome <;> cases c.login.isSome <;> cases c.aws.isSome <;> simp [ExactlyOne]

namespace Workflow.Document

theorem choiceFaults_eq_nil_iff (w : Document) :
    w.choiceFaults = [] ↔
      ExactlyOne [w.terraform.isSome, w.helmfile.isSome, w.pulumi.isSome] := by
  obtain ⟨terraform, helmfile, pulumi, _, _, _, _⟩ := w
  cases terraform <;> cases helmfile <;> cases pulumi <;>
    simp [choiceFaults, tools, Tool.all, install?, ExactlyOne]

theorem commandFaults_eq_nil_iff (w : Document) :
    w.commandFaults = [] ↔ ∀ c ∈ w.initCommands, c.faults = [] := by
  rw [commandFaults, List.flatMap_eq_nil_iff]
  constructor
  · intro h c hc
    obtain ⟨index, hindex, rfl⟩ := List.mem_iff_getElem.1 hc
    have hfaults := h (w.initCommands[index], index) (by simp [List.mem_zipIdx_iff_getElem?])
    exact List.map_eq_nil_iff.1 hfaults
  · rintro h ⟨c, index⟩ hc
    obtain ⟨-, -, hmem⟩ := List.mem_zipIdx hc
    exact List.map_eq_nil_iff.2 (h c (by rw [hmem]; exact List.getElem_mem _))

theorem installFaults_eq_nil_iff (w : Document) :
    w.installFaults = [] ↔ ∀ tool i, w.install? tool = some i → i.faults = [] := by
  rw [installFaults, List.flatMap_eq_nil_iff]
  constructor
  · intro h tool i hi
    have hfaults := h tool (by cases tool <;> decide)
    rw [hi] at hfaults
    simpa using hfaults
  · intro h tool _
    cases hi : w.install? tool with
    | none => rfl
    | some i => simp [h tool i hi]

theorem imageFaults_eq_nil_iff (w : Document) :
    w.imageFaults = [] ↔ w.image ≠ "" ∧ ∃ r, Image.parse w.image = .ok r ∧ r.isAllowed = true := by
  rw [← List.head?_eq_none_iff, ← firstFault_validateImage, firstFault_eq_none_iff,
    ← validateImage_eq_ok_iff]
  constructor
  · rintro ⟨⟨⟩, h⟩
    exact h
  · exact fun h => ⟨(), h⟩

theorem tools_ne_nil {w : Document} (h : w.choiceFaults = []) : w.tools ≠ [] := by
  intro htools
  rw [choiceFaults, htools] at h
  cases h

end Workflow.Document

theorem Project.Document.faults_eq_nil_iff (workflows : Table Workflow.Document)
    (p : Project.Document) :
    p.faults workflows = [] ↔
      (p.workflowName ≠ "" ∧ ∃ w, workflows.find? p.workflowName = some w) ∧
        p.dir.toList.head? ≠ some '/' := by
  rw [faults, List.append_eq_nil_iff, List.append_eq_nil_iff]
  by_cases hname : p.workflowName = "" <;> by_cases hdir : p.dir.toList.head? = some '/' <;>
    cases workflows.find? p.workflowName <;> simp [hname, hdir]

namespace Config

theorem Document.repeats_eq_nil_iff {d : Document} {before ps : List Project.Document}
    (hkind : ∀ p ∈ ps, ∃ kind, d.kind? p = some kind) :
    d.repeats before ps = [] ↔
      (ps.map d.place?).Nodup ∧ ∀ p ∈ ps, d.place? p ∉ before.map d.place? := by
  induction ps generalizing before with
  | nil => simp [repeats]
  | cons p ps ih =>
    rw [List.forall_mem_cons] at hkind
    obtain ⟨⟨kind, hp⟩, hps⟩ := hkind
    have hcons : ((p :: ps).map d.place?).Nodup ↔
        d.place? p ∉ ps.map d.place? ∧ (ps.map d.place?).Nodup := List.nodup_cons
    rw [repeats, List.append_eq_nil_iff, ih hps, hcons, List.forall_mem_cons]
    by_cases hagain : d.place? p ∈ before.map d.place?
    · simp [hagain, hp]
    · simp only [hagain, if_false, true_and, not_false_eq_true, List.map_cons, List.mem_cons, not_or,
        List.mem_map, not_exists, not_and]
      constructor
      · rintro ⟨hnodup, hnew⟩
        exact ⟨⟨fun q hq hsame => (hnew q hq).1 hsame, hnodup⟩, fun q hq => (hnew q hq).2⟩
      · rintro ⟨⟨hother, hnodup⟩, hnew⟩
        exact ⟨hnodup, fun q hq => ⟨hother q hq, hnew q hq⟩⟩

/-- A project that names a workflow with a tool has a place. -/
theorem Document.exists_kind? {d : Document}
    (hchoice : ∀ e ∈ d.workflows.entries, e.2.choiceFaults = []) {p : Project.Document}
    (hfind : ∃ w, d.workflows.find? p.workflowName = some w) : ∃ kind, d.kind? p = some kind := by
  obtain ⟨w, hw⟩ := hfind
  have htools := Workflow.Document.tools_ne_nil (hchoice _ (Table.mem_of_find? hw))
  obtain ⟨tool, rest, hcons⟩ := List.exists_cons_of_ne_nil htools
  refine ⟨tool.workspaceKind, ?_⟩
  rw [kind?, hw]
  simp only [Option.bind_eq_bind, Option.bind_some, hcons, List.head?_cons, Option.pure_def]

/-- A document has no faults exactly if it is valid. -/
theorem Document.faults_eq_nil_iff (d : Document) : d.faults = [] ↔ d.Valid := by
  have hparts : d.faults = [] ↔ d.version = "v1alpha1" ∧
      (∀ e ∈ d.workflows.entries, e.2.choiceFaults = [] ∧ e.2.commandFaults = []) ∧
      (∀ p ∈ d.projects, p.faults d.workflows = []) ∧
      (∀ e ∈ d.workflows.entries, e.2.installFaults = [] ∧ e.2.imageFaults = []) ∧
      d.repeats [] d.projects = [] := by
    simp only [faults, List.append_eq_nil_iff, List.flatMap_eq_nil_iff, List.map_eq_nil_iff,
      and_assoc]
    simp
  rw [hparts]
  constructor
  · rintro ⟨hversion, hread, hprojects, hvalidate, hrepeats⟩
    have hproject := fun (p : Project.Document) hp => (p.faults_eq_nil_iff d.workflows).1 (hprojects p hp)
    have hkind : ∀ p ∈ d.projects, ∃ kind, d.kind? p = some kind := fun p hp =>
      exists_kind? (fun e he => (hread e he).1) (hproject p hp).1.2
    exact {
      version := hversion
      tool := fun e he => e.2.choiceFaults_eq_nil_iff.1 (hread e he).1
      commands := fun e he c hc =>
        c.faults_eq_nil_iff.1 (e.2.commandFaults_eq_nil_iff.1 (hread e he).2 c hc)
      install := fun e he tool i hi =>
        i.faults_eq_nil_iff.1 (e.2.installFaults_eq_nil_iff.1 (hvalidate e he).1 tool i hi)
      image := fun e he => e.2.imageFaults_eq_nil_iff.1 (hvalidate e he).2
      workflow := fun p hp => (hproject p hp).1
      dir := fun p hp => (hproject p hp).2
      apart := ((repeats_eq_nil_iff hkind).1 hrepeats).1 }
  · intro h
    have hchoice : ∀ e ∈ d.workflows.entries, e.2.choiceFaults = [] := fun e he =>
      e.2.choiceFaults_eq_nil_iff.2 (h.tool e he)
    have hkind : ∀ p ∈ d.projects, ∃ kind, d.kind? p = some kind := fun p hp =>
      exists_kind? hchoice (h.workflow p hp).2
    refine ⟨h.version, fun e he => ⟨hchoice e he, ?_⟩, fun p hp => ?_, fun e he => ⟨?_, ?_⟩, ?_⟩
    · exact e.2.commandFaults_eq_nil_iff.2 fun c hc => c.faults_eq_nil_iff.2 (h.commands e he c hc)
    · exact (p.faults_eq_nil_iff d.workflows).2 ⟨h.workflow p hp, h.dir p hp⟩
    · exact e.2.installFaults_eq_nil_iff.2 fun tool i hi =>
        i.faults_eq_nil_iff.2 (h.install e he tool i hi)
    · exact e.2.imageFaults_eq_nil_iff.2 (h.image e he)
    · exact (repeats_eq_nil_iff hkind).2 ⟨h.apart, fun p _ => List.not_mem_nil⟩

/-- **Which documents are loaded.** A document is loaded exactly if it is valid, and if it is
not, the error is the first of its faults; workflows are looked at in the order of the
bytes of their names. What is loaded has the workflows of the document, and its projects in
their order, each with the workflow that is declared under its name and with the switch
of the tool of that workflow. -/
theorem load_spec {bytes : ByteArray} {d : Document}
    (hread : readYaml Document.read bytes = .ok d) :
    ((∃ c, load bytes = .ok c) ↔ d.Valid) ∧
    (∀ e, load bytes = .error e ↔ d.faults.head? = some e) ∧
    (d.workflows.entries.Pairwise fun a b => a.1.toUTF8.data.toList < b.1.toUTF8.data.toList) ∧
    (∀ c, load bytes = .ok c →
      c.version = d.version ∧ c.workflows.map Workflow.document = d.workflows ∧
      List.Forall₂ (fun p q =>
        c.workflows.find? p.workflowName = some q.workflow ∧ q.workflowName = p.workflowName ∧
        q.autoPlot = (match q.workflow.adapter.tool with
          | .terraform => p.autoPlan
          | .helmfile => p.autoDiff
          | .pulumi => p.autoPreview) ∧
        q.dir = p.dir ∧ q.workspace = p.workspace ∧ q.environment = p.environment ∧
        q.stack = p.stack ∧ q.whenModified = p.whenModified ∧ q.env = p.env ∧
        q.podAnnotations = p.podAnnotations) d.projects c.projects) := by
  have hfault := firstFault_load hread
  refine ⟨?_, ?_, ?_, ?_⟩
  · rw [← d.faults_eq_nil_iff, ← List.head?_eq_none_iff, ← hfault, firstFault_eq_none_iff]
  · intro e
    rw [← hfault, firstFault_eq_some_iff]
  · exact d.workflows.sorted.imp Text.bytes_lt_bytes
  · intro c hload
    obtain ⟨d', hd', hof⟩ := parse_eq_ok_iff.1 (load_eq_ok_iff.1 hload).1
    obtain rfl : d = d' := Except.ok.inj (hread.symm.trans hd')
    obtain ⟨-, hversion, htraverse, hbind⟩ := ofDocument_eq_ok_iff.1 hof
    refine ⟨hversion, document_of_traverse htraverse, ?_⟩
    refine (bindAll_eq_ok_iff.1 hbind).imp ?_
    rintro p q ⟨hresolve, hbound⟩
    have hfind := (resolve_eq_ok_iff.1 hresolve).2.2
    generalize q.workflow = w at hfind hbound ⊢
    subst hbound
    refine ⟨hfind, rfl, ?_, rfl, rfl, rfl, rfl, rfl, rfl, rfl⟩
    cases htool : w.adapter.tool <;> simp [Project.bind, Project.Document.auto, htool]

/-- A configuration with a fault in each of two workflows and in its project. -/
def mistaken : String :=
  "version: v1alpha1\nworkflows:\n  b:\n  a:\n    terraform:\n      version: x\n" ++
    "    pulumi:\n      version: y\nprojects:\n- dir: /x\n"

/-- What it says. -/
def mistakenDocument : Document where
  version := "v1alpha1"
  workflows := .ofList [("b", {}), ("a", {
    terraform := some { version := some "x" }
    pulumi := some { version := some "y" } })]
  projects := [{ dir := "/x" }]

/-- It is not loaded, for the workflow whose name comes first; one that is loaded is valid. -/
theorem load_spec_of_mistaken :
    readYaml Document.read mistaken.toUTF8 = .ok mistakenDocument ∧ ¬ mistakenDocument.Valid ∧
      load mistaken.toUTF8 =
        .error (.workflow "a" (.selection (.several [.terraform, .pulumi]))) ∧
      ∃ d, readYaml Document.read written.toUTF8 = .ok d ∧ d.Valid := by
  have hread : readYaml Document.read mistaken.toUTF8 = .ok mistakenDocument := by decide +kernel
  obtain ⟨hvalid, herror, -⟩ := load_spec hread
  have hload := (herror (.workflow "a" (.selection (.several [.terraform, .pulumi])))).2
    (by decide +kernel)
  refine ⟨hread, ?_, hload, ?_⟩
  · rw [← hvalid, hload]
    rintro ⟨c, hc⟩
    cases hc
  · obtain ⟨d, hd, -⟩ := parse_eq_ok_iff.1 (load_eq_ok_iff.1 load_written).1
    exact ⟨d, hd, (load_spec hd).1.1 ⟨sample, load_written⟩⟩

end Config

end Groundwork
