/-
What is known of a configuration that was read, and what more of one that was loaded.

Reading and validating stop at the first fault, so that they succeed says that every
step did. Each step is taken apart by one lemma, and the two that others go by are
`Config.bound_of_parse`, for what a project of a configuration that was read is bound to,
and `Config.validate_eq_ok_iff`, for what was asked of one that was loaded.
-/
import Groundwork.Config
import Mathlib.Data.List.Forall2

set_option autoImplicit false

namespace Groundwork

/-! ## Steps that may fail -/

namespace Config

section

variable {ε δ α β : Type}

/-- Two steps that may fail succeed exactly if the first does and the second then does. -/
theorem bind_eq_ok_iff {x : Except ε α} {f : α → Except ε β} {b : β} :
    x >>= f = .ok b ↔ ∃ a, x = .ok a ∧ f a = .ok b := by
  cases x with
  | error e =>
    constructor
    · intro h
      cases h
    · rintro ⟨a, ha, -⟩
      cases ha
  | ok a =>
    constructor
    · intro h
      exact ⟨a, rfl, h⟩
    · rintro ⟨a', ha, h⟩
      cases ha
      exact h

theorem map_eq_ok_iff {x : Except ε α} {f : α → β} {b : β} :
    x.map f = .ok b ↔ ∃ a, x = .ok a ∧ f a = b := by
  cases x with
  | error e => simp [Except.map]
  | ok a => simp [Except.map]

theorem mapError_eq_ok_iff {x : Except ε α} {f : ε → δ} {a : α} :
    x.mapError f = .ok a ↔ x = .ok a := by
  cases x with
  | error e => simp [Except.mapError]
  | ok a => simp [Except.mapError]

/-- What succeeds has a result. -/
theorem exists_of_toOption {x : Except ε α} {f : α → β} {b : β}
    (h : x.toOption.map f = some b) : ∃ a, x = .ok a ∧ f a = b := by
  cases x with
  | error e => cases h
  | ok a => exact ⟨a, rfl, Option.some.inj h⟩

end

end Config

/-! ## Workflows -/

namespace Workflow

theorem validateImage_eq_ok_iff {image : String} :
    validateImage image = .ok () ↔
      image ≠ "" ∧ ∃ r, Image.parse image = .ok r ∧ r.isAllowed = true := by
  rw [validateImage]
  by_cases hempty : image = ""
  · simp [hempty]
  · rw [if_neg hempty]
    cases Image.parse image with
    | error e => simp
    | ok r =>
      by_cases hallowed : r.isAllowed = true
      · simp [hempty, hallowed]
      · simp [hallowed]

theorem validate_eq_ok_iff {w : Workflow} :
    w.validate = .ok () ↔
      (∃ s, w.adapter.install.strategy = .ok s) ∧ validateImage w.image = .ok () := by
  rw [validate, Config.bind_eq_ok_iff]
  simp only [Config.mapError_eq_ok_iff, exists_and_right]

end Workflow

/-! ## Tables -/

theorem Table.traverse_eq_ok_iff {ε α β : Type} {f : String → α → Except ε β} {t : Table α}
    {r : Table β} :
    t.traverse f = .ok r ↔
      List.Forall₂ (fun a b => a.1 = b.1 ∧ f a.1 a.2 = .ok b.2) t.entries r.entries := by
  have hentries : t.traverse f = .ok r ↔ traverseEntries f t.entries = .ok r.entries := by
    rw [← entries_traverse, Config.map_eq_ok_iff]
    constructor
    · exact fun h => ⟨r, h, rfl⟩
    · rintro ⟨s, hs, hsame⟩
      rw [hs, ext hsame]
  rw [hentries]
  generalize t.entries = es
  generalize r.entries = rs
  induction es generalizing rs with
  | nil =>
    rw [List.forall₂_nil_left_iff]
    constructor
    · intro h
      cases h
      rfl
    · rintro rfl
      rfl
  | cons e rest ih =>
    obtain ⟨key, value⟩ := e
    rw [traverseEntries, Config.bind_eq_ok_iff, List.forall₂_cons_left_iff]
    constructor
    · rintro ⟨read, hread, h⟩
      obtain ⟨others, hothers, h⟩ := Config.bind_eq_ok_iff.1 h
      cases h
      exact ⟨(key, read), others, ⟨rfl, hread⟩, (ih others).1 hothers, rfl⟩
    · rintro ⟨⟨_, read⟩, others, ⟨rfl, hread⟩, hothers, rfl⟩
      exact ⟨read, hread, Config.bind_eq_ok_iff.2 ⟨others, (ih others).2 hothers, rfl⟩⟩

/-! ## Configurations that were read -/

theorem Project.Document.check_eq_ok_iff {p : Project.Document} :
    p.check = .ok () ↔ p.workflowName ≠ "" ∧ p.dir.toList.head? ≠ some '/' := by
  rw [check]
  by_cases hname : p.workflowName = ""
  · simp [hname]
  · by_cases hdir : p.dir.toList.head? = some '/'
    · simp [hname, hdir]
    · simp [hname, hdir]

namespace Config

/-- A project resolves to the workflow that is declared under its name, unless the
project is at fault itself. -/
theorem resolve_eq_ok_iff {workflows : Table Workflow} {p : Project.Document} {w : Workflow} :
    resolve workflows p = .ok w ↔
      p.workflowName ≠ "" ∧ p.dir.toList.head? ≠ some '/' ∧
        workflows.find? p.workflowName = some w := by
  rw [resolve, bind_eq_ok_iff]
  constructor
  · rintro ⟨⟨⟩, hcheck, h⟩
    obtain ⟨hname, hdir⟩ := Project.Document.check_eq_ok_iff.1 hcheck
    refine ⟨hname, hdir, ?_⟩
    cases hfind : workflows.find? p.workflowName with
    | none =>
      rw [hfind] at h
      cases h
    | some v =>
      rw [hfind] at h
      cases h
      rfl
  · rintro ⟨hname, hdir, hfind⟩
    refine ⟨(), Project.Document.check_eq_ok_iff.2 ⟨hname, hdir⟩, ?_⟩
    rw [hfind]
    rfl

theorem bindAll_eq_ok_iff {workflows : Table Workflow} {ds : List Project.Document}
    {ps : List Project} :
    bindAll workflows ds = .ok ps ↔
      List.Forall₂ (fun d p => resolve workflows d = .ok p.workflow ∧ p = Project.bind d p.workflow)
        ds ps := by
  induction ds generalizing ps with
  | nil =>
    rw [List.forall₂_nil_left_iff]
    constructor
    · intro h
      cases h
      rfl
    · rintro rfl
      rfl
  | cons d ds ih =>
    rw [bindAll, List.forall₂_cons_left_iff]
    cases hresolve : resolve workflows d with
    | error e =>
      constructor
      · intro h
        cases h
      · rintro ⟨p, rest, ⟨hp, -⟩, -, -⟩
        cases hp
    | ok w =>
      simp only [map_eq_ok_iff, ih]
      constructor
      · rintro ⟨rest, hrest, rfl⟩
        exact ⟨_, rest, ⟨rfl, rfl⟩, hrest, rfl⟩
      · rintro ⟨p, rest, ⟨hw, hp⟩, hrest, rfl⟩
        cases hw
        exact ⟨rest, hrest, by rw [← hp]⟩

theorem ofDocument_eq_ok_iff {d : Document} {c : Config} :
    ofDocument d = .ok c ↔
      d.version = supportedVersion ∧ c.version = d.version ∧
      d.workflows.traverse (fun name w => (Workflow.ofDocument w).mapError (Error.workflow name)) =
        .ok c.workflows ∧
      bindAll c.workflows d.projects = .ok c.projects := by
  rw [ofDocument]
  by_cases hversion : d.version = supportedVersion
  · rw [if_neg (not_not.2 hversion)]
    constructor
    · intro h
      obtain ⟨workflows, hworkflows, h⟩ := bind_eq_ok_iff.1 h
      obtain ⟨projects, hprojects, h⟩ := bind_eq_ok_iff.1 h
      cases h
      exact ⟨hversion, rfl, hworkflows, hprojects⟩
    · rintro ⟨-, hsame, hworkflows, hprojects⟩
      refine bind_eq_ok_iff.2 ⟨c.workflows, hworkflows, ?_⟩
      refine bind_eq_ok_iff.2 ⟨c.projects, hprojects, ?_⟩
      rw [← hsame]
      rfl
  · rw [if_pos hversion]
    constructor
    · intro h
      cases h
    · exact fun h => absurd h.1 hversion

theorem parse_eq_ok_iff {bytes : ByteArray} {c : Config} :
    parse bytes = .ok c ↔ ∃ d, readYaml Document.read bytes = .ok d ∧ ofDocument d = .ok c := by
  rw [parse, bind_eq_ok_iff]

/-- What a project of a configuration that was read goes by. -/
theorem bound_of_parse {bytes : ByteArray} {c : Config} (h : parse bytes = .ok c) {p : Project}
    (hp : p ∈ c.projects) :
    p.workflowName ≠ "" ∧ p.dir.toList.head? ≠ some '/' ∧
      c.workflows.find? p.workflowName = some p.workflow := by
  obtain ⟨d, -, hd⟩ := parse_eq_ok_iff.1 h
  obtain ⟨-, -, -, hbind⟩ := ofDocument_eq_ok_iff.1 hd
  have hall := bindAll_eq_ok_iff.1 hbind
  obtain ⟨i, hi, rfl⟩ := List.mem_iff_getElem.1 hp
  have hlength := hall.length_eq
  obtain ⟨hresolve, hbound⟩ := hall.get (i := i) (by omega) hi
  rw [List.get_eq_getElem, List.get_eq_getElem] at hresolve hbound
  rw [hbound]
  exact resolve_eq_ok_iff.1 hresolve

/-! ## Configurations that were loaded -/

theorem validateWorkflows_eq_ok_iff {es : List (String × Workflow)} :
    validateWorkflows es = .ok () ↔ ∀ e ∈ es, e.2.validate = .ok () := by
  induction es with
  | nil => simp [validateWorkflows]
  | cons e rest ih =>
    obtain ⟨name, w⟩ := e
    rw [validateWorkflows, List.forall_mem_cons]
    cases w.validate with
    | error e => simp
    | ok => simp [ih]

theorem validateProjects_eq_ok_iff {workflows : Table Workflow} {seen : List (String × String)}
    {ps : List Project} :
    validateProjects workflows seen ps = .ok () ↔
      (∀ p ∈ ps, (workflows.find? p.workflowName).isSome) ∧ (ps.map identity).Nodup ∧
        ∀ p ∈ ps, identity p ∉ seen := by
  induction ps generalizing seen with
  | nil => simp [validateProjects]
  | cons p rest ih =>
    rw [validateProjects, List.forall_mem_cons, List.forall_mem_cons, List.map_cons,
      List.nodup_cons]
    by_cases hfind : (workflows.find? p.workflowName).isNone = true
    · rw [if_pos hfind]
      have hnone : (workflows.find? p.workflowName).isSome = false := by
        rwa [← Option.not_isNone, Bool.not_eq_false']
      simp [hnone]
    · rw [if_neg hfind]
      have hsome : (workflows.find? p.workflowName).isSome = true := by
        rwa [← Option.not_isNone, Bool.not_eq_true', ← Bool.not_eq_true]
      by_cases hseen : identity p ∈ seen
      · simp [hseen]
      · rw [if_neg hseen, ih]
        simp only [List.mem_cons, not_or, List.mem_map, not_exists, not_and, hsome, hseen,
          not_false_eq_true, true_and]
        constructor
        · rintro ⟨hfound, hnodup, hnew⟩
          exact ⟨hfound, ⟨fun q hq hsame => (hnew q hq).1 hsame, hnodup⟩, fun q hq => (hnew q hq).2⟩
        · rintro ⟨hfound, ⟨hother, hnodup⟩, hnew⟩
          exact ⟨hfound, hnodup, fun q hq => ⟨hother q hq, hnew q hq⟩⟩

/-- What is asked of a configuration: the version, workflows that can be run, and
projects that have a workflow and differ. -/
theorem validate_eq_ok_iff {c : Config} :
    c.validate = .ok () ↔
      c.version = supportedVersion ∧ (∀ e ∈ c.workflows.entries, e.2.validate = .ok ()) ∧
      (∀ p ∈ c.projects, (c.workflows.find? p.workflowName).isSome) ∧
      (c.projects.map identity).Nodup := by
  rw [validate]
  by_cases hversion : c.version = supportedVersion
  · rw [if_neg (not_not.2 hversion)]
    have hsteps : (validateWorkflows c.workflows.entries >>= fun _ =>
        validateProjects c.workflows [] c.projects) = .ok () ↔
        validateWorkflows c.workflows.entries = .ok () ∧
          validateProjects c.workflows [] c.projects = .ok () := by
      rw [bind_eq_ok_iff]
      exact ⟨fun ⟨_, hw, hp⟩ => ⟨hw, hp⟩, fun ⟨hw, hp⟩ => ⟨(), hw, hp⟩⟩
    refine Iff.trans hsteps ?_
    rw [validateWorkflows_eq_ok_iff, validateProjects_eq_ok_iff]
    simp [hversion]
  · rw [if_pos hversion]
    constructor
    · intro h
      cases h
    · exact fun h => absurd h.1 hversion

theorem load_eq_ok_iff {bytes : ByteArray} {c : Config} :
    load bytes = .ok c ↔ parse bytes = .ok c ∧ c.validate = .ok () := by
  rw [load, bind_eq_ok_iff]
  constructor
  · rintro ⟨c', hparse, h⟩
    obtain ⟨⟨⟩, hvalid, h⟩ := bind_eq_ok_iff.1 h
    cases h
    exact ⟨hparse, hvalid⟩
  · rintro ⟨hparse, hvalid⟩
    exact ⟨c, hparse, bind_eq_ok_iff.2 ⟨(), hvalid, rfl⟩⟩

/-- The workflows of a configuration that was loaded can be run. -/
theorem validate_of_load {bytes : ByteArray} {c : Config} (h : load bytes = .ok c) {name : String}
    {w : Workflow} (hw : c.workflows.find? name = some w) : w.validate = .ok () := by
  obtain ⟨-, hvalid⟩ := load_eq_ok_iff.1 h
  obtain ⟨-, hall, -, -⟩ := validate_eq_ok_iff.1 hvalid
  exact hall _ (Table.mem_of_find? hw)

/-! ## A configuration -/

/-- A configuration with one project. Of its two switches that of the tool counts. -/
def written : String :=
  "version: v1alpha1\nworkflows:\n  w:\n    pulumi:\n      version: 1.0.0\n    image: alpine\n" ++
    "    podAnnotations:\n      a: w\n    initCommands:\n    - aws: x\n" ++
    "projects:\n- dir: d\n  workflow: w\n  autoPlan: true\n  autoPreview: true\n"

/-- Its workflow. -/
def sampleWorkflow : Workflow where
  adapter := ⟨.pulumi, { version := some "1.0.0" }⟩
  image := "alpine"
  podAnnotations := .ofList [("a", "w")]
  initCommands := [⟨.aws "x", .empty, false⟩]

/-- What it is read as. -/
def sample : Config where
  version := "v1alpha1"
  workflows := .ofList [("w", sampleWorkflow)]
  projects := [{ dir := "d", autoPlot := true, workflowName := "w", workflow := sampleWorkflow }]

theorem load_written : load written.toUTF8 = .ok sample := by
  decide +kernel

end Config

end Groundwork
