/-
The end of a job is told at most once. However many reports come, in whatever order
and whatever becomes of the posts, a report is turned away exactly if one with the same
key was taken less than a window before. One that is turned away leads to no calls, and
one that is taken to one status, which says what its own job came to, and, where there is
a place for it, one comment.

This is the statement for traffic in which nothing is broken off. What it says about
the marks is in `Traffic/Marks`, what it says about the calls in `Traffic/Calls`; here
the two are put together for one report.
-/
import Groundwork.Proofs.Traffic.Marks

set_option autoImplicit false

namespace Groundwork

open Groundwork.Service (Call)
open Groundwork.Program (Recites)
open Groundwork.Report (failedJob)

/-- The work on a report that a job ended makes the calls of the report if it is taken,
and none if it is turned away. -/
theorem Visit.work_recites_finish {expected : (c : Call) → c.Reply → Prop} {v : Visit} {job : Nat}
    {r : Report.Finished} (h : v.errand.finish? = some (job, r)) :
    Recites expected (if v.taken = true then r.calls else []) v.work := by
  unfold Visit.work
  rw [Errand.finish?_eq_some_iff.1 h]
  split
  · exact r.work_recites
  · exact Program.recites_done ()

namespace Traffic

/-- An errand that waits for an answer goes on with any, and has then made one call
more. -/
theorem step_answer_of_waiting {x : Traffic} {i : Nat} (h : (x.rest i).isDone = false)
    (reply : (c : Call) → c.Reply) :
    ∃ y, x.step (.answer i reply) = some y ∧ (y.callsOf i).length = (x.callsOf i).length + 1 := by
  cases hrest : x.rest i with
  | done a =>
    rw [hrest] at h
    cases h
  | call c next =>
    refine ⟨x.answer i c (reply c) (next (reply c)), by simp only [step, hrest], ?_⟩
    rw [callsOf_answer, if_pos rfl, List.length_append, List.length_singleton]

/-- **At most once.** A report that a job ended is turned away exactly if another with
its key was taken before it, less than a window ago; so reports that are taken with one
key come at least a window apart. One that is turned away is done with at once, without
calls. One that is taken makes its calls in order, whatever they are answered, and is
done with exactly when it made them all; until then any answer takes it one call
further. By then it posted one status, to the check that it names, which is a success if
its own job succeeded and a failure if it failed, and one comment if it names a place for
comments, and none if it does not. -/
theorem finish_at_most_once {window : Nat} {x : Traffic} (h : Reaches undisturbed window x)
    {j job : Nat} {w : Visit} {r : Report.Finished} (hw : x.book[j]? = some w)
    (hr : w.errand.finish? = some (job, r)) :
    (w.taken = false ↔
      ∃ i v, i < j ∧ x.book[i]? = some v ∧ v.marks r.key = true ∧ w.time < v.time + window) ∧
    (w.taken = true →
      ∀ i v, i < j → x.book[i]? = some v → v.marks r.key = true → v.time + window ≤ w.time) ∧
    (w.taken = false → (x.rest j).isDone = true ∧ x.callsOf j = []) ∧
    (w.taken = true →
      x.callsOf j <+: r.calls ∧ ((x.rest j).isDone = true ↔ x.callsOf j = r.calls) ∧
      ((x.rest j).isDone = false → ∀ reply, ∃ y, x.step (.answer j reply) = some y ∧
        (y.callsOf j).length = (x.callsOf j).length + 1)) ∧
    (w.taken = true → (x.rest j).isDone = true →
      (x.callsOf j).filterMap Call.status? = [(r.checkUrl,
        { state := if r.status = .succeeded then "success" else "failure"
          description := if r.status = .succeeded then "Turnip succeeded" else "Turnip failed"
          context := r.checkName })] ∧
      (x.callsOf j).filterMap Call.comment? =
        if r.commentsUrl = "" then [] else [(r.commentsUrl, r.comment)]) := by
  have hturned := h.taken_eq_false_iff hw hr
  have hbroken : j ∉ x.broken := by
    rw [h.broken_eq_nil fun _ _ => rfl]
    exact List.not_mem_nil
  have hrecites : Recites (fun _ _ => True) (if w.taken = true then r.calls else []) w.work :=
    Visit.work_recites_finish hr
  have hcalls := h.callsOf_spec (fun _ _ _ _ _ _ _ => trivial) hw hbroken hrecites
  refine ⟨hturned, ?_, ?_, ?_, ?_⟩
  · intro htaken i v hij hv hmarks
    by_contra hlt
    have hfalse := hturned.2 ⟨i, v, hij, hv, hmarks, by omega⟩
    rw [htaken] at hfalse
    cases hfalse
  · intro htaken
    rw [if_neg (by simp [htaken])] at hcalls
    have hnone := List.prefix_nil.1 hcalls.1
    exact ⟨hcalls.2.2 hnone, hnone⟩
  · intro htaken
    rw [if_pos htaken] at hcalls
    exact ⟨hcalls.1, hcalls.2, step_answer_of_waiting⟩
  · intro htaken hdone
    rw [if_pos htaken] at hcalls
    rw [hcalls.2.1 hdone]
    exact ⟨r.statuses_calls, r.comments_calls⟩

/-! ## A report that is made three times -/

/-- The report that the job succeeded after all. -/
def repairedJob : Report.Finished :=
  { failedJob with status := .succeeded }

/-- The report that a job failed comes, comes again at once, and when the window is over
comes one that it succeeded. All posts fail, and those for the first report are answered
last. -/
def threeTimes : List Event :=
  let down : (c : Call) → c.Reply := fun _ => .error ⟨"unavailable", []⟩
  [.come (.report 0 (.finished failedJob)), .come (.report 0 (.finished failedJob)), .answer 0 down,
    .pass 30000, .come (.report 0 (.finished repairedJob)), .answer 2 down, .answer 2 down,
    .answer 0 down]

/-- The second report is turned away. The first and the third are taken, a window apart:
the one posts a failure, the other a success, and each its comment. -/
theorem finish_at_most_once_three_times :
    ∃ x, Reaches undisturbed 30000 x ∧
      x.book = [⟨.report 0 (.finished failedJob), 0, true⟩,
        ⟨.report 0 (.finished failedJob), 0, false⟩,
        ⟨.report 0 (.finished repairedJob), 30000, true⟩] ∧
      (∀ v ∈ x.book[0]?, ∀ w ∈ x.book[2]?, v.time + 30000 ≤ w.time) ∧
      (x.callsOf 0).filterMap Call.status? = [("/repos/acme/infra/statuses/abc",
        ⟨"failure", "Turnip failed", "turnip/terraform/plan/infra/staging"⟩)] ∧
      x.callsOf 1 = [] ∧
      (x.callsOf 2).filterMap Call.status? = [("/repos/acme/infra/statuses/abc",
        ⟨"success", "Turnip succeeded", "turnip/terraform/plan/infra/staging"⟩)] ∧
      (x.callsOf 2).filterMap Call.comment? =
        [("/repos/acme/infra/issues/7/comments", repairedJob.comment)] := by
  obtain ⟨x, hrun⟩ : ∃ x, run? undisturbed (opening 30000) threeTimes = some x :=
    Option.isSome_iff_exists.1 (by decide +kernel)
  have hx : Reaches undisturbed 30000 x := Reaches.opening.run? hrun
  have hbooks : (run? undisturbed (opening 30000) threeTimes).map (·.book) =
      some [⟨.report 0 (.finished failedJob), 0, true⟩, ⟨.report 0 (.finished failedJob), 0, false⟩,
        ⟨.report 0 (.finished repairedJob), 30000, true⟩] := by decide +kernel
  have hrests : (run? undisturbed (opening 30000) threeTimes).map
      (fun x => ((x.rest 0).isDone, (x.rest 2).isDone)) = some (true, true) := by decide +kernel
  rw [hrun] at hbooks hrests
  have hbook : x.book = _ := Option.some.inj hbooks
  obtain ⟨hdone0, hdone2⟩ := Prod.mk.inj (Option.some.inj hrests)
  have h0 := finish_at_most_once hx (j := 0) (by rw [hbook]; rfl) rfl
  have h1 := finish_at_most_once hx (j := 1) (by rw [hbook]; rfl) rfl
  have h2 := finish_at_most_once hx (j := 2) (by rw [hbook]; rfl) rfl
  have happart : ∀ v ∈ x.book[0]?, ∀ w ∈ x.book[2]?, v.time + 30000 ≤ w.time := by
    intro v hv w hw
    rw [hbook] at hv hw
    cases hv
    cases hw
    exact h2.2.1 rfl 0 _ (by omega) (by rw [hbook]; rfl) (by decide +kernel)
  have hfailure := (h0.2.2.2.2 rfl hdone0).1
  have hsuccess := h2.2.2.2.2 rfl hdone2
  exact ⟨x, hx, hbook, happart, hfailure, (h1.2.2.1 rfl).2, hsuccess.1, hsuccess.2⟩

end Traffic

end Groundwork
