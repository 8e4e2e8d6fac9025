/-
What a job is handed. All that it knows is in its environment, where its project is
written on its own with the workflow in it; the job reads it and checks it again.

The projects of a configuration that was loaded pass that check, so that the job gets
the project that was asked for. The other values are those of the order, and the fields
that say where and as what the job runs are the same for all projects.
-/
import Groundwork.Job.Record
import Groundwork.Proofs.Config.RoundTrip

set_option autoImplicit false

namespace Groundwork.Job

/-- The environment of a job holds the values of the order under eight keys, and further
words under a ninth if there are any. -/
theorem Order.find?_env_eq_some_iff (o : Order) (server k v : String) :
    (o.env server).find? k = some v ↔
      (k, v) ∈ [
        ("TURNIP_CLONE_URL", o.cloneUrl),
        ("TURNIP_HEAD_REF", o.headRef),
        ("TURNIP_COMMAND", o.command.word),
        ("TURNIP_CHECK_URL", o.checkUrl),
        ("TURNIP_CHECK_NAME", o.checkName),
        ("TURNIP_PROJECT_YAML", o.project.toYaml),
        ("TURNIP_SERVER_NAME", server),
        ("TURNIP_COMMENTS_URL", o.commentsUrl)] ∨
      (k = "TURNIP_EXTRA_ARGS" ∧ o.extraArgs = some v ∧ v ≠ "") := by
  have hmore : (k, v) ∈ (o.moreArgs.map fun args => ("TURNIP_EXTRA_ARGS", args)).toList ↔
      k = "TURNIP_EXTRA_ARGS" ∧ o.extraArgs = some v ∧ v ≠ "" := by
    simp only [Option.mem_toList, Option.map_eq_some_iff, moreArgs, Option.filter_eq_some_iff,
      decide_eq_true_eq, Prod.mk.injEq]
    constructor
    · rintro ⟨args, ⟨hargs, hne⟩, rfl, rfl⟩
      exact ⟨rfl, hargs, hne⟩
    · rintro ⟨rfl, hargs, hne⟩
      exact ⟨v, ⟨hargs, hne⟩, rfl, rfl⟩
  rw [env, Table.find?_ofList_eq_some_iff, List.mem_append, hmore]
  cases o.moreArgs with
  | none =>
    simp only [Option.map_none, Option.toList_none, List.append_nil, List.map_cons, List.map_nil]
    decide
  | some args =>
    simp only [Option.map_some, Option.toList_some, List.map_append, List.map_cons, List.map_nil]
    decide

/-- The project is seen in the environment of a job under its own key only. -/
theorem Order.find?_env_of_project (o : Order) (q : Project) (server : String) {k : String}
    (hk : k ≠ "TURNIP_PROJECT_YAML") :
    (Order.env { o with project := q } server).find? k = (o.env server).find? k := by
  ext v
  rw [find?_env_eq_some_iff, find?_env_eq_some_iff]
  simp [hk]

section

variable (o : Order) (s : Settings.Scheduler) (server : String)

@[simp] theorem env_ofOrder : (ofOrder o s server).env = o.env server := by
  rw [ofOrder]

@[simp] theorem labels_ofOrder : (ofOrder o s server).labels = o.labels := by
  rw [ofOrder]

@[simp] theorem namespaceName_ofOrder : (ofOrder o s server).namespaceName = s.namespaceName := by
  rw [ofOrder]

@[simp] theorem image_ofOrder : (ofOrder o s server).image = s.image := by
  rw [ofOrder]

@[simp] theorem secretName_ofOrder : (ofOrder o s server).secretName = s.secretName := by
  rw [ofOrder]

@[simp] theorem keepSeconds_ofOrder : (ofOrder o s server).keepSeconds = s.keepSeconds := by
  rw [ofOrder]

theorem Order.labels_of_project (q : Project) : Order.labels { o with project := q } = o.labels := by
  rw [labels, labels]

/-- An annotation of the project counts before one of the workflow, and that before one of
the service. -/
theorem find?_annotations (k : String) :
    (ofOrder o s server).annotations.find? k =
      (o.project.podAnnotations.find? k).or
        ((o.project.workflow.podAnnotations.find? k).or (s.podAnnotations.find? k)) := by
  have hannotations : (ofOrder o s server).annotations =
      (s.podAnnotations.override o.project.workflow.podAnnotations).override
        o.project.podAnnotations := by rw [ofOrder]
  rw [hannotations, Table.find?_override, Table.find?_override]

end

/-- The job reads the project that it was asked for. -/
theorem ofYaml_toYaml_of_load {bytes : ByteArray} {c : Config} (hload : Config.load bytes = .ok c)
    {p : Project} (hp : p ∈ c.projects) : Project.ofYaml p.toYaml.toUTF8 = .ok p := by
  obtain ⟨hparse, -⟩ := Config.load_eq_ok_iff.1 hload
  obtain ⟨hname, hdir, hfind⟩ := Config.bound_of_parse hparse hp
  exact Project.ofYaml_toYaml hname hdir (Config.validate_of_load hload hfind)

/-- **What a job is handed.** For a project of a configuration that was loaded, the job
reads that project with its workflow; it finds the values of the order in its environment
and nothing else, whatever environments the configuration declares; its annotations are
the project's before the workflow's before the service's. Where and as what it runs does
not depend on the project, nor does its environment but for the project's own key. -/
theorem ofOrder_hands_over {bytes : ByteArray} {c : Config} (hload : Config.load bytes = .ok c)
    {o : Order} (hproject : o.project ∈ c.projects) (s : Settings.Scheduler) (server : String) :
    (∃ yaml, (ofOrder o s server).env.find? "TURNIP_PROJECT_YAML" = some yaml ∧
      Project.ofYaml yaml.toUTF8 = .ok o.project) ∧
    (∀ k v, (ofOrder o s server).env.find? k = some v ↔
      (k, v) ∈ [
        ("TURNIP_CLONE_URL", o.cloneUrl),
        ("TURNIP_HEAD_REF", o.headRef),
        ("TURNIP_COMMAND", o.command.word),
        ("TURNIP_CHECK_URL", o.checkUrl),
        ("TURNIP_CHECK_NAME", o.checkName),
        ("TURNIP_PROJECT_YAML", o.project.toYaml),
        ("TURNIP_SERVER_NAME", server),
        ("TURNIP_COMMENTS_URL", o.commentsUrl)] ∨
      (k = "TURNIP_EXTRA_ARGS" ∧ o.extraArgs = some v ∧ v ≠ "")) ∧
    (∀ k, (ofOrder o s server).annotations.find? k =
      (o.project.podAnnotations.find? k).or
        ((o.project.workflow.podAnnotations.find? k).or (s.podAnnotations.find? k))) ∧
    (∀ q : Project,
      let other := ofOrder { o with project := q } s server
      other.namespaceName = (ofOrder o s server).namespaceName ∧
        other.image = (ofOrder o s server).image ∧
        other.secretName = (ofOrder o s server).secretName ∧
        other.keepSeconds = (ofOrder o s server).keepSeconds ∧
        other.labels = (ofOrder o s server).labels ∧
        ∀ k, k ≠ "TURNIP_PROJECT_YAML" →
          other.env.find? k = (ofOrder o s server).env.find? k) := by
  refine ⟨⟨o.project.toYaml, ?_, ?_⟩, ?_, ?_, ?_⟩
  · rw [env_ofOrder, Order.find?_env_eq_some_iff]
    exact .inl (by simp)
  · exact ofYaml_toYaml_of_load hload hproject
  · intro k v
    rw [env_ofOrder, Order.find?_env_eq_some_iff]
  · exact find?_annotations o s server
  · intro q
    simp only [env_ofOrder, labels_ofOrder, namespaceName_ofOrder, image_ofOrder,
      secretName_ofOrder, keepSeconds_ofOrder, o.labels_of_project, true_and]
    exact fun k hk => o.find?_env_of_project q server hk

/-- An order for the one project of a configuration, with further words. -/
def sampleOrder : Order where
  command := .plot
  repo := "acme/infra"
  cloneUrl := "https://github.com/acme/infra.git"
  headRef := "feature"
  checkUrl := "/repos/acme/infra/statuses/abc"
  checkName := "turnip/pulumi/preview/d/"
  commentsUrl := "/repos/acme/infra/issues/7/comments"
  project := { dir := "d", autoPlot := true, workflowName := "w", workflow := Config.sampleWorkflow }
  extraArgs := some "-v"

/-- A job of that order with the project, the words and the workflow's annotation. -/
theorem ofOrder_hands_over_sample :
    Config.load Config.written.toUTF8 = .ok Config.sample ∧
      sampleOrder.project ∈ Config.sample.projects ∧
      ∀ s server,
        (∃ yaml, (ofOrder sampleOrder s server).env.find? "TURNIP_PROJECT_YAML" = some yaml ∧
          Project.ofYaml yaml.toUTF8 = .ok sampleOrder.project) ∧
        (ofOrder sampleOrder s server).env.find? "TURNIP_EXTRA_ARGS" = some "-v" ∧
        (ofOrder sampleOrder s server).annotations.find? "a" = some "w" := by
  have hproject : sampleOrder.project ∈ Config.sample.projects := List.mem_singleton_self _
  refine ⟨Config.load_written, hproject, ?_⟩
  intro s server
  obtain ⟨hyaml, henv, hannotations, -⟩ :=
    ofOrder_hands_over Config.load_written hproject s server
  refine ⟨hyaml, (henv _ _).2 (.inr ⟨rfl, rfl, by decide⟩), ?_⟩
  rw [hannotations]
  rfl

end Groundwork.Job
