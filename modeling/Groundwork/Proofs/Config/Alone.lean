/-
Projects on their own and projects of a configuration. A job is given one project with its
workflow in it, and reads that by a way of its own: what a configuration is asked for in
two passes over all its parts is asked for here in one, in another order, and said of the
project even where it is the workflow's.

Each way is taken apart by one lemma that says with which workflow it gets through
(`Project.ofDocument_eq_ok_iff`, `Config.load_configured_iff`), and by one that lists where it
can stop (`Config.firstFault_ofProjectDocument`, `Config.faults_configured`). The lists have the same
members (`Config.perm_faults_configured`), so that whatever is accepted on its own is accepted in
a configuration with nothing else in it, and the other way about
(`Config.alone_iff_configured`).
-/
import Groundwork.Proofs.Config.Faults

set_option autoImplicit false

namespace Groundwork

/-! ## A configuration with nothing else in it -/

/-- The configuration with one workflow and with the project that names it, which has no
workflow in it there. -/
def Project.Document.configured (d : Project.Document) (w : Workflow.Document) :
    Config.Document where
  version := Config.supportedVersion
  workflows := .ofList [(d.workflowName, w)]
  projects := [{ d with workflow := none }]

/-- What is wrong with a project whatever its workflow is. -/
def Project.Document.ownFaults (d : Project.Document) : List Project.Error :=
  (if d.workflowName = "" then [.workflowNotSet] else [])
    ++ if d.dir.toList.head? = some '/' then [.absoluteDir] else []

/-- What is wrong with a project on its own, in the order in which it is looked for: its own
faults, and then all of the workflow that is in it. -/
def Project.Document.faultsAlone (d : Project.Document) (w : Workflow.Document) :
    List Project.Error :=
  d.ownFaults ++ (w.choiceFaults ++ w.commandFaults ++ (w.installFaults ++ w.imageFaults)).map
      (.workflow d.workflowName)

/-- A fault of a workflow, said of the project in a directory. -/
def Config.Error.within (dir : String) : Error → Error
  | .workflow name e => .project dir (.workflow name e)
  | e => e

/-! ## Getting through -/

theorem Table.find?_ofList_singleton {α : Type} (name : String) (a : α) :
    (ofList [(name, a)]).find? name = some a :=
  (find?_ofList_eq_some_iff (by simp)).2 (List.mem_singleton_self _)

namespace Project

variable {d : Document} {w : Workflow.Document}

theorem embedded_eq_ok_iff (h : d.workflow = some w) {v : Workflow} :
    embedded d = .ok v ↔
      d.check = .ok () ∧ Workflow.ofDocument w = .ok v ∧ v.validate = .ok () := by
  rw [embedded, Config.bind_eq_ok_iff]
  simp only [h, Config.mapError_eq_ok_iff, Config.bind_eq_ok_iff]
  constructor
  · rintro ⟨⟨⟩, hcheck, v', hread, ⟨⟩, hvalid, hsame⟩
    cases hsame
    exact ⟨hcheck, hread, hvalid⟩
  · rintro ⟨hcheck, hread, hvalid⟩
    exact ⟨(), hcheck, v, hread, (), hvalid, rfl⟩

/-- A project is accepted on its own if it has no fault of its own and the workflow in it can
be run. -/
theorem ofDocument_eq_ok_iff (h : d.workflow = some w) {p : Project} :
    ofDocument d = .ok p ↔ d.check = .ok () ∧
      ∃ v, Workflow.ofDocument w = .ok v ∧ v.validate = .ok () ∧ p = bind d v := by
  have hbound : ofDocument d = .ok p ↔ ∃ v, embedded d = .ok v ∧ p = bind d v := by
    rw [ofDocument]
    cases embedded d with
    | error e => simp
    | ok v => simp [eq_comm]
  rw [hbound]
  simp only [embedded_eq_ok_iff h, and_assoc, exists_and_left]

theorem ofYaml_of_readYaml {bytes : ByteArray}
    (hread : Config.readYaml Document.read bytes = .ok d) : ofYaml bytes = ofDocument d := by
  rw [ofYaml, hread]
  rfl

end Project

namespace Config

/-- The configuration with one workflow and one project. -/
def single (d : Project.Document) (v : Workflow) : Config where
  version := supportedVersion
  workflows := .ofList [(d.workflowName, v)]
  projects := [Project.bind d v]

variable {d : Project.Document} {w : Workflow.Document}

theorem ofDocument_configured_iff {c : Config} :
    ofDocument (d.configured w) = .ok c ↔
      d.check = .ok () ∧ ∃ v, Workflow.ofDocument w = .ok v ∧ c = single d v := by
  rw [ofDocument_eq_ok_iff, Table.traverse_eq_ok_iff, bindAll_eq_ok_iff]
  have hcheck : d.check = .ok () ↔ d.workflowName ≠ "" ∧ d.dir.toList.head? ≠ some '/' :=
    Project.Document.check_eq_ok_iff
  rw [hcheck]
  constructor
  · rintro ⟨-, hversion, htraverse, hbind⟩
    -- one workflow is read for the one that is written, and one project is bound to it
    obtain ⟨⟨_, v⟩, _, ⟨rfl, hread⟩, hnil, hentries⟩ := List.forall₂_cons_left_iff.1 htraverse
    obtain rfl := List.forall₂_nil_left_iff.1 hnil
    obtain ⟨p, _, ⟨hresolve, hbound⟩, hnil, hprojects⟩ := List.forall₂_cons_left_iff.1 hbind
    obtain rfl := List.forall₂_nil_left_iff.1 hnil
    have hworkflows : c.workflows = .ofList [(d.workflowName, v)] := Table.ext hentries
    obtain ⟨hname, hdir, hfind⟩ := resolve_eq_ok_iff.1 hresolve
    rw [hworkflows, Table.find?_ofList_singleton] at hfind
    refine ⟨⟨hname, hdir⟩, v, mapError_eq_ok_iff.1 hread, ?_⟩
    rw [← Option.some.inj hfind] at hbound
    obtain ⟨version, workflows, projects⟩ := c
    cases hversion
    cases hworkflows
    cases hprojects
    rw [hbound]
    rfl
  · rintro ⟨⟨hname, hdir⟩, v, hread, rfl⟩
    refine ⟨rfl, rfl, ?_, ?_⟩
    · exact .cons ⟨rfl, mapError_eq_ok_iff.2 hread⟩ .nil
    · exact .cons ⟨resolve_eq_ok_iff.2 ⟨hname, hdir, Table.find?_ofList_singleton _ _⟩, rfl⟩ .nil

theorem validate_single_iff {v : Workflow} :
    (single d v).validate = .ok () ↔ v.validate = .ok () := by
  rw [validate_eq_ok_iff]
  constructor
  · rintro ⟨-, hall, -, -⟩
    exact hall (d.workflowName, v) (List.mem_singleton_self _)
  · intro hvalid
    refine ⟨rfl, List.forall_mem_singleton.2 hvalid, List.forall_mem_singleton.2 ?_,
      List.nodup_singleton _⟩
    exact Option.isSome_iff_exists.2 ⟨v, Table.find?_ofList_singleton _ _⟩

/-- It is accepted in the configuration on the same conditions, and is there the one project
of the one workflow. -/
theorem load_configured_iff {bytes : ByteArray}
    (hread : readYaml Document.read bytes = .ok (d.configured w)) {c : Config} :
    load bytes = .ok c ↔ d.check = .ok () ∧
      ∃ v, Workflow.ofDocument w = .ok v ∧ v.validate = .ok () ∧ c = single d v := by
  have hparse : parse bytes = .ok c ↔ ofDocument (d.configured w) = .ok c := by
    rw [parse, hread]
    rfl
  rw [load_eq_ok_iff, hparse, ofDocument_configured_iff]
  constructor
  · rintro ⟨⟨hcheck, v, hof, rfl⟩, hvalid⟩
    exact ⟨hcheck, v, hof, validate_single_iff.1 hvalid, rfl⟩
  · rintro ⟨hcheck, v, hof, hvalid, rfl⟩
    exact ⟨⟨hcheck, v, hof, rfl⟩, validate_single_iff.2 hvalid⟩

/-! ## Where they stop -/

theorem firstFault_ofProjectDocument (h : d.workflow = some w) :
    firstFault (Project.ofDocument d) =
      ((d.faultsAlone w).map (Error.project d.dir)).head? := by
  have hembedded : firstFault (Project.embedded d) = (d.faultsAlone w).head? := by
    refine firstFault_bind (firstFault_check d) fun _ _ => ?_
    simp only [h]
    refine firstFault_mapError _ (firstFault_bind (Workflow.firstFault_ofDocument w) fun v hv => ?_)
    rw [firstFault_bind_pure (fun _ => v), v.firstFault_validate, Workflow.document_of_ofDocument hv]
  rw [List.head?_map, ← hembedded, Project.ofDocument]
  cases Project.embedded d with
  | error e => rfl
  | ok v => rfl

/-- What is wrong with the configuration: that the project names an unknown workflow or is
declared again is not among it. -/
theorem faults_configured (d : Project.Document) (w : Workflow.Document) :
    (d.configured w).faults =
      (w.choiceFaults ++ w.commandFaults).map (Error.workflow d.workflowName)
        ++ (d.ownFaults.map (Error.project d.dir)
        ++ (w.installFaults ++ w.imageFaults).map (Error.workflow d.workflowName)) := by
  have hversion : (d.configured w).version = "v1alpha1" := rfl
  have hentries : (d.configured w).workflows.entries = [(d.workflowName, w)] := rfl
  have hfind : (d.configured w).workflows.find? d.workflowName = some w :=
    Table.find?_ofList_singleton _ _
  have hproject : Project.Document.faults (d.configured w).workflows { d with workflow := none } =
      d.ownFaults := by
    rw [Project.Document.faults, hfind, Option.isNone_some, if_neg Bool.false_ne_true,
      List.append_nil]
    rfl
  have hprojects : (d.configured w).projects = [{ d with workflow := none }] := rfl
  have hrepeats : (d.configured w).repeats [] [{ d with workflow := none }] = [] := rfl
  rw [Document.faults, hentries, hprojects, hrepeats, if_neg (not_not.2 hversion)]
  simp only [List.flatMap_singleton, hproject, List.nil_append, List.append_nil, List.append_assoc]

/-- Nothing is wrong with the configuration that is not wrong with the project on its own,
and the other way about. -/
theorem perm_faults_configured (d : Project.Document) (w : Workflow.Document) :
    ((d.configured w).faults.map (Error.within d.dir)).Perm
      ((d.faultsAlone w).map (Error.project d.dir)) := by
  have hworkflow (faults : List Workflow.Error) :
      (faults.map (Error.workflow d.workflowName)).map (Error.within d.dir) =
        (faults.map (Project.Error.workflow d.workflowName)).map (Error.project d.dir) := by
    rw [List.map_map, List.map_map]
    rfl
  have hown (faults : List Project.Error) :
      (faults.map (Error.project d.dir)).map (Error.within d.dir) =
        faults.map (Error.project d.dir) := by
    rw [List.map_map]
    rfl
  rw [faults_configured, Project.Document.faultsAlone]
  generalize w.choiceFaults ++ w.commandFaults = first
  generalize w.installFaults ++ w.imageFaults = second
  -- the project's own faults stand between those of the workflow, and before them on its own
  rw [List.map_append, List.map_append, List.map_append, List.map_append, List.map_append, hworkflow,
    hworkflow, hown]
  exact List.perm_append_comm_assoc _ _ _

/-- **On its own as in a configuration.** A project with its workflow in it is accepted on its
own exactly if the configuration is accepted that has its workflow, and the project without it,
and nothing else; what is accepted is then the one project of that configuration. It comes to
that exactly if the configuration is valid. Where something is wrong both stop at the first
fault, each in its own order, and the faults of the one are those of the other, said of the
project. All this is so for the texts that are written for the two, and for all that are read
as they are. -/
theorem alone_iff_configured {d : Project.Document} {w : Workflow.Document}
    (h : d.workflow = some w) :
    readYaml Project.Document.read d.tree.print.toUTF8 = .ok d ∧
    readYaml Document.read (d.configured w).tree.print.toUTF8 = .ok (d.configured w) ∧
    ∀ alone whole, readYaml Project.Document.read alone = .ok d →
      readYaml Document.read whole = .ok (d.configured w) →
      (∀ p, Project.ofYaml alone = .ok p ↔ ∃ c, load whole = .ok c ∧ c.projects = [p]) ∧
      (∀ c, load whole = .ok c → ∃ p, c.projects = [p]) ∧
      ((∃ p, Project.ofYaml alone = .ok p) ↔ (d.configured w).Valid) ∧
      (∀ e, Project.ofYaml alone = .error e ↔
        ((d.faultsAlone w).map (Error.project d.dir)).head? = some e) ∧
      (∀ e, load whole = .error e ↔ (d.configured w).faults.head? = some e) ∧
      ((d.configured w).faults.map (Error.within d.dir)).Perm
        ((d.faultsAlone w).map (Error.project d.dir)) := by
  refine ⟨readYaml_print (Project.Document.reads d), readYaml_print (Document.reads _), ?_⟩
  intro alone whole halone hwhole
  have hperm := perm_faults_configured d w
  rw [Project.ofYaml_of_readYaml halone]
  refine ⟨fun p => ?_, fun c hload => ?_, ?_, fun e => ?_, fun e => ?_, hperm⟩
  · rw [Project.ofDocument_eq_ok_iff h]
    constructor
    · rintro ⟨hcheck, v, hread, hvalid, rfl⟩
      exact ⟨_, (load_configured_iff hwhole).2 ⟨hcheck, v, hread, hvalid, rfl⟩, rfl⟩
    · rintro ⟨c, hload, hprojects⟩
      obtain ⟨hcheck, v, hread, hvalid, rfl⟩ := (load_configured_iff hwhole).1 hload
      exact ⟨hcheck, v, hread, hvalid, (List.singleton_injective hprojects).symm⟩
  · obtain ⟨-, v, -, -, rfl⟩ := (load_configured_iff hwhole).1 hload
    exact ⟨_, rfl⟩
  · rw [← firstFault_eq_none_iff, firstFault_ofProjectDocument h, List.head?_eq_none_iff,
      ← List.length_eq_zero_iff, ← hperm.length_eq, List.length_eq_zero_iff, List.map_eq_nil_iff,
      Document.faults_eq_nil_iff]
  · rw [← firstFault_eq_some_iff, firstFault_ofProjectDocument h]
  · rw [← firstFault_eq_some_iff, firstFault_load hwhole]

/-- A project that is accepted in both ways, and one of which each way has something else to
say: it is in a directory of another machine, and there is no tool in its workflow. -/
theorem alone_iff_configured_of_plain :
    let w := plainWorkflow.document
    let d : Project.Document := { dir := "infra", workflowName := "tf", workflow := some w }
    let w' := { w with terraform := none }
    let d' := { d with dir := "/infra", workflow := some w' }
    (∃ p, Project.ofYaml d.tree.print.toUTF8 = .ok p ∧
      ∃ c, load (d.configured w).tree.print.toUTF8 = .ok c ∧ c.projects = [p]) ∧
    Project.ofYaml d'.tree.print.toUTF8 = .error (.project "/infra" .absoluteDir) ∧
    load (d'.configured w').tree.print.toUTF8 = .error (.workflow "tf" (.selection .missing)) := by
  intro w d w' d'
  obtain ⟨halone, hwhole, hall⟩ := alone_iff_configured (d := d) rfl
  obtain ⟨hiff, -, hvalid, -⟩ := hall _ _ halone hwhole
  obtain ⟨p, hp⟩ := hvalid.2 ((Document.faults_eq_nil_iff _).1 (by decide +kernel))
  obtain ⟨halone', hwhole', hall'⟩ := alone_iff_configured (d := d') rfl
  obtain ⟨-, -, -, herror, herror', -⟩ := hall' _ _ halone' hwhole'
  exact ⟨⟨p, hp, (hiff p).1 hp⟩, (herror _).2 (by decide +kernel), (herror' _).2 (by decide +kernel)⟩

end Config

end Groundwork
