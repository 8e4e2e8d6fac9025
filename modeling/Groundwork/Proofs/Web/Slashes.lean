/-
Slashes at the end of a path. They are taken off behind the routes, where no one looks at
the path any more; the routes see them, and no route has one at its end
(`exists_last_of_route?`). So a request at a route is turned away as soon as there is one, and
what it asks for is not done.
-/
import Mathlib.Data.List.TakeDrop
import Mathlib.Data.List.TakeWhile
import Groundwork.Rehearsal.Session

set_option autoImplicit false

namespace Groundwork

namespace Web

variable {s : Settings} {server : Server} {r : Request}

/-! ## Paths -/

namespace Request

/-- The request with some slashes at the end of its path. -/
def slashed (k : Nat) (r : Request) : Request :=
  r.mapPath (· ++ List.replicate k '/')

@[simp] theorem method_mapPath (r : Request) (f : List Char → List Char) :
    (r.mapPath f).method = r.method :=
  rfl

theorem isPathChar_of_mem_path {c : Char} (h : c ∈ r.path.toList) : isPathChar c = true := by
  rw [Request.path, String.toList_ofList] at h
  exact List.mem_takeWhile_imp h

theorem toList_path_mapPath {f : List Char → List Char}
    (hf : ∀ c ∈ f r.path.toList, isPathChar c = true) :
    (r.mapPath f).path.toList = f r.path.toList := by
  have hpath : r.path.toList = r.target.toList.takeWhile isPathChar := String.toList_ofList
  -- the query starts with a sign of its own, so the path ends where it did
  have hquery : (r.target.toList.dropWhile isPathChar).takeWhile isPathChar = [] := by
    rw [List.takeWhile_eq_nil_iff]
    exact fun hlen => List.dropWhile_get_zero_not isPathChar _ hlen
  rw [hpath] at hf ⊢
  rw [Request.path, mapPath, List.span_eq_takeWhile_dropWhile, String.toList_ofList,
    String.toList_ofList, List.takeWhile_append_of_pos hf, hquery, List.append_nil]

theorem toList_path_slashed (k : Nat) (r : Request) :
    (r.slashed k).path.toList = r.path.toList ++ List.replicate k '/' := by
  refine toList_path_mapPath fun c hc => ?_
  rcases List.mem_append.1 hc with hc | hc
  · exact isPathChar_of_mem_path hc
  · rw [List.eq_of_mem_replicate hc]
    decide

/-- Slashes at the end are taken off, down to the last character that is none. -/
theorem trimPath_append_slashes {c : Char} (hc : c ≠ '/') (path : List Char) (k : Nat) :
    trimPath (path ++ [c] ++ List.replicate k '/') = path ++ [c] := by
  have hslashes : (List.replicate k '/').dropWhile (· = '/') = [] := by
    simp
  have hkept : ((path ++ [c] ++ List.replicate k '/').reverse.dropWhile (· = '/')).reverse =
      path ++ [c] := by
    rw [List.reverse_append, List.reverse_replicate, List.dropWhile_append, hslashes]
    simp [hc]
  rw [trimPath, hkept]
  split
  · simp_all
  · rfl

end Request

/-! ## Routes -/

/-- No route ends in a slash. -/
theorem exists_last_of_route? {path : String} (h : route? server path ≠ none) :
    ∃ front c, path.toList = front ++ [c] ∧ c ≠ '/' := by
  have hlast : path.toList ≠ [] ∧ path.toList.getLast? ≠ some '/' := by
    unfold route? at h
    split at h <;> first | decide | exact absurd rfl h
  obtain hnil | ⟨front, c, hpath⟩ := List.eq_nil_or_concat path.toList
  · exact absurd hnil hlast.1
  · rw [List.concat_eq_append] at hpath
    refine ⟨front, c, hpath, fun hslash => hlast.2 ?_⟩
    rw [hpath, hslash, List.getLast?_concat]

theorem route?_slashed (server : Server) (r : Request) (k : Nat) :
    route? server (r.slashed (k + 1)).path = none := by
  refine Decidable.byContradiction fun h => ?_
  obtain ⟨front, c, hpath, hc⟩ := exists_last_of_route? h
  rw [Request.toList_path_slashed, List.replicate_succ', ← List.append_assoc] at hpath
  exact hc (List.cons.inj (List.append_inj_right' hpath rfl)).1.symm

/-- A path without the slashes that were put at its end is what it was. -/
theorem path_trimmed_slashed (h : route? server r.path ≠ none) (k : Nat) :
    (r.slashed k).trimmed.path = r.path := by
  obtain ⟨front, c, hpath, hc⟩ := exists_last_of_route? h
  have htrim : Request.trimPath (r.slashed k).path.toList = r.path.toList := by
    rw [Request.toList_path_slashed, hpath, Request.trimPath_append_slashes hc]
  rw [← String.toList_inj, Request.trimmed, Request.toList_path_mapPath, htrim]
  rw [htrim]
  exact fun c => Request.isPathChar_of_mem_path

/-- What is asked for depends on the path only in which route it is of. -/
theorem taskOf_congr {q : Request} (hpath : q.path = r.path) (hmethod : q.method = r.method)
    (htask : ∀ route : Route, route.task s q = route.task s r) :
    taskOf s server q = taskOf s server r := by
  have htrim (r : Request) (route : Route) : route.task s r.trimmed = route.task s r :=
    Route.task_mapPath s r _ route
  simp only [taskOf, hpath, hmethod, htrim, htask]

/-- Slashes that are taken off before the routes see them make no difference. -/
theorem taskOf_trimmed_slashed (s : Settings) (h : route? server r.path ≠ none) (k : Nat) :
    taskOf s server (r.slashed k).trimmed = taskOf s server r := by
  refine taskOf_congr (path_trimmed_slashed h k) ?_ fun route => ?_
  · rw [Request.trimmed, Request.method_mapPath, Request.slashed, Request.method_mapPath]
  · rw [Request.trimmed, Route.task_mapPath, Request.slashed, Route.task_mapPath]

/-! ## Answers at a route -/

/-- The statuses that a request at a route is answered with. -/
def routeStatuses : List Nat := [200, 201, 400, 401, 405, 408, 413, 415, 422, 501]

theorem status_of_webhook {a : Http.Response} (h : webhook s r = .answer a) :
    a.status ∈ routeStatuses := by
  unfold webhook at h
  split at h <;> cases h <;> simp [routeStatuses]

theorem status_of_refusal {refusal : Http.Refusal} (h : authorize s r = .error refusal) :
    refusal.response.status ∈ routeStatuses := by
  unfold authorize at h
  split at h
  · cases h
    decide
  · split at h <;> cases h
    decide

theorem status_of_api {command : Command} {a : Http.Response} (h : api s command r = .answer a) :
    a.status ∈ routeStatuses := by
  unfold api at h
  split at h
  · cases h
    simp [routeStatuses]
  split at h
  next refusal hrefused =>
    cases h
    exact status_of_refusal hrefused
  next =>
    split at h <;> cases h
    simp [routeStatuses, Http.Refusal.response]

theorem status_of_record {α : Type} {fields : List Json.Fault.Field} {read : Json → Option α}
    {task : α → Task} {a : Http.Response} (htask : ∀ value, task value ≠ .answer a)
    (h : record fields read task r = .answer a) : a.status ∈ routeStatuses := by
  unfold record at h
  split at h
  · cases h
    simp [routeStatuses]
  split at h
  · cases h
    simp [routeStatuses]
  split at h
  · exact absurd h (htask _)
  · split at h <;> cases h <;> simp [routeStatuses]

theorem status_of_task {route : Route} {a : Http.Response} (h : route.task s r = .answer a) :
    a.status ∈ routeStatuses := by
  cases route with
  | health =>
    cases h
    simp [routeStatuses]
  | webhook => exact status_of_webhook h
  | api command => exact status_of_api h
  | jobStarted => exact status_of_record (by simp) h
  | jobFinished => exact status_of_record (by simp) h

theorem status_of_taskOf {a : Http.Response} (hroute : route? server r.path ≠ none)
    (h : taskOf s server r = .answer a) : a.status ∈ routeStatuses := by
  unfold taskOf at h
  split at h
  · contradiction
  split at h
  · exact status_of_task h
  · cases h
    simp [routeStatuses]

end Web

namespace Rehearsal.Session

open Web

variable {x : Session} {server : Server} {r : Request}

theorem result_talk_bind_done {α β : Type} (x : Session) (p : Service.Talk α) (f : α → β) :
    (x.talk (p.bind fun a => .done (f a))).2 = (x.talk p).2.map f := by
  simp only [talk, Program.run_bind]
  rcases Program.run Stage.answer x.stage p with ⟨stage, _ | a⟩ <;> rfl

theorem status_of_run (x : Session) (command : Command) (request : Api.Request) :
    ((x.talk (Web.run x.settings command request)).2.getD timedOut).status ∈ routeStatuses := by
  have hrun : (x.talk (Web.run x.settings command request)).2 =
      (x.talk (Bot.onRequest x.settings command request).outcome).2.map apiAnswer :=
    x.result_talk_bind_done _ apiAnswer
  rw [hrun]
  rcases (x.talk (Bot.onRequest x.settings command request).outcome).2 with _ | failure | address
  · decide
  · simp [apiAnswer, routeStatuses, Http.Refusal.response]
  · simp [apiAnswer, routeStatuses]

theorem status_noted (done : Bool) :
    (if done then noted else timedOut).status ∈ routeStatuses := by
  cases done <;> decide

/-- A request at a route is never answered as one at no route is. -/
theorem status_serve (x : Session) (hroute : route? server r.path ≠ none) :
    (x.serve server r).2.status ∈ routeStatuses := by
  unfold serve
  split
  next a htask => exact status_of_taskOf hroute htask
  next =>
    show accepted.status ∈ routeStatuses
    decide
  next command request _ => exact x.status_of_run command request
  next => exact status_noted _
  next => exact status_noted _

theorem serve_congr {q : Request} (h : taskOf x.settings server q = taskOf x.settings server r) :
    x.serve server q = x.serve server r := by
  rw [serve, serve, h]

theorem serve_of_no_route (x : Session) (h : route? server r.path = none) :
    x.serve server r = (x, { status := 404 }) := by
  rw [serve, taskOf, h]

/-- **Slashes at the end of a path are not read over.** Whoever puts one there is turned
away, and nothing is done. So the answer is the one to the path without them exactly if
there is no route for that path either. If the slashes were taken off before the routes see
the path, as they are taken off behind them, then they would make no difference. -/
theorem slashes_turn_away (x : Session) (server : Server) (r : Request) (k : Nat) :
    x.serve server (r.slashed (k + 1)) = (x, { status := 404 }) ∧
      ((x.serve server (r.slashed (k + 1))).2.status = (x.serve server r).2.status ↔
        route? server r.path = none) ∧
      (route? server r.path ≠ none →
        x.serve server (r.slashed k).trimmed = x.serve server r) := by
  have hslashed := x.serve_of_no_route (route?_slashed server r k)
  refine ⟨hslashed, ?_, fun hroute => serve_congr (taskOf_trimmed_slashed x.settings hroute k)⟩
  rw [hslashed]
  constructor
  · intro hsame
    -- at a route the status would have to be one that no route is answered with
    refine Decidable.byContradiction fun hroute => ?_
    have hstatus := x.status_serve hroute
    rw [← hsame] at hstatus
    exact absurd hstatus (by decide : 404 ∉ routeStatuses)
  · intro hroute
    rw [x.serve_of_no_route hroute]

/-- Whether the service is up is not told to one who asks with a slash too many. -/
theorem health_with_slash_turned_away : ∃ (x : Session) (r : Request),
    r.method = "GET" ∧ r.path = "/healthz" ∧ (r.slashed 1).target = "/healthz/" ∧
      (x.serve .main r).2.status = 200 ∧
      (x.serve .main (r.slashed 1)).2.status = 404 := by
  let settings : Settings :=
    { server := { port := 8080 }
      github := { token := "token" }
      scheduler := { url := "http://scheduler", namespaceName := "jobs" } }
  let r : Request := { method := "GET", target := "/healthz" }
  let x : Session := { settings, reports := { window := 0 } }
  have hpath : r.path = "/healthz" := by decide
  have hhealth : taskOf x.settings .main r = textAnswer 200 "ok" := by
    rw [taskOf, hpath]
    rfl
  refine ⟨x, r, rfl, hpath, by decide, ?_, ?_⟩
  · rw [serve, hhealth]
    rfl
  · rw [x.serve_of_no_route (route?_slashed .main r 0)]

end Rehearsal.Session

end Groundwork
