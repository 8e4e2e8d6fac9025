/-
Reports on different checks. The service knows a check by its key, which joins where the
statuses of the check are posted and its name with a slash. Both are any texts, so the key
does not say where the one ends and the other begins.

Whether the end of a job is heard is decided by the mark on the key of its check. What
comes with other keys leaves that mark alone, and services that agree on one key go on to
do so whatever comes to both (`AgreeOn.follow`). So a report is never in the way of one on
another check exactly if their keys differ, and `heard_apart_iff` says of the two checks
themselves when that is.
-/
import Groundwork.Proofs.Check.Context
import Groundwork.Proofs.Traffic.Marks

set_option autoImplicit false

namespace Groundwork.Report

/-! ## Keys -/

/-- The check of one report runs into that of another: the place of the other goes on from
that of the one, by what the name of the one starts with. -/
def Finished.RunsInto (r q : Finished) : Prop :=
  ∃ part, q.checkUrl = r.checkUrl ++ "/" ++ part ∧ r.checkName = part ++ "/" ++ q.checkName

/-- Keys are the same for one check, and for two that run into each other. -/
theorem Finished.key_eq_iff {r q : Finished} :
    r.key = q.key ↔ (r.checkUrl, r.checkName) = (q.checkUrl, q.checkName) ∨
      r.RunsInto q ∨ q.RunsInto r := by
  unfold Finished.key Finished.RunsInto
  rw [slash_eq_iff, Prod.mk.injEq]
  exact or_congr_right or_comm

namespace Service

/-! ## What a service goes through -/

/-- What happens to one who takes reports: a report comes, or the work on the end of a job
is broken off. -/
inductive Turn where
  | come (now : Nat) (n : Notice)
  | breakOff (r : Finished)

/-- The service after that. -/
def turn (s : Service) : Turn → Service
  | .come now n => (s.receive now n).2
  | .breakOff r => s.breakOff r

/-- The service after all of some turns. -/
def follow (s : Service) (turns : List Turn) : Service :=
  turns.foldl turn s

/-- Two services agree on a key: marks last equally long, and the key has the same mark. -/
structure AgreeOn (key : String) (s s' : Service) : Prop where
  window : s.window = s'.window
  mark : s.memory.markOf? key = s'.memory.markOf? key

variable {s s' : Service} {key : String} {r : Finished}

/-- Services that agree on the key of a report take it alike. -/
theorem AgreeOn.arrive (h : AgreeOn r.key s s') (now : Nat) :
    (s.arrive now r).1 = (s'.arrive now r).1 := by
  rw [arrive_fst, arrive_fst, Memory.isMarked, Memory.isMarked, h.window, h.mark]

/-- A report with another key leaves a key as it is. -/
theorem agreeOn_arrive_of_ne (h : r.key ≠ key) (s : Service) (now : Nat) :
    AgreeOn key (s.arrive now r).2 s := by
  refine ⟨rfl, ?_⟩
  rw [markOf?_arrive, if_neg fun hand => h hand.2]

/-- Services that agree on a key agree on it after a turn. A report with that key is taken
by both or by neither, and one with another key does not matter. -/
theorem AgreeOn.turn (h : AgreeOn key s s') (t : Turn) : AgreeOn key (s.turn t) (s'.turn t) := by
  cases t with
  | come now n =>
    cases n with
    | started q => exact h
    | finished q =>
      refine ⟨h.window, ?_⟩
      show (s.arrive now q).2.memory.markOf? key = (s'.arrive now q).2.memory.markOf? key
      rw [markOf?_arrive, markOf?_arrive]
      by_cases hkey : q.key = key
      · subst hkey
        rw [h.arrive now, h.mark]
      · rw [if_neg fun hand => hkey hand.2, if_neg fun hand => hkey hand.2, h.mark]
  | breakOff q =>
    refine ⟨h.window, ?_⟩
    show (s.memory.forget q.key).markOf? key = (s'.memory.forget q.key).markOf? key
    rw [Memory.markOf?_forget, Memory.markOf?_forget, h.mark]

/-- And so after any turns. -/
theorem AgreeOn.follow (h : AgreeOn key s s') (turns : List Turn) :
    AgreeOn key (s.follow turns) (s'.follow turns) := by
  induction turns generalizing s s' with
  | nil => exact h
  | cons t turns ih => exact ih (h.turn t)

/-- A report among others makes no difference to a key that is not its own. -/
theorem agreeOn_follow_of_ne (h : r.key ≠ key) (s : Service) (before after : List Turn)
    (now : Nat) :
    AgreeOn key (s.follow (before ++ .come now (.finished r) :: after))
      (s.follow (before ++ after)) := by
  unfold Service.follow
  rw [List.foldl_append, List.foldl_append, List.foldl_cons]
  exact (agreeOn_arrive_of_ne h (s.follow before) now).follow after

end Service

/-! ## Who is heard -/

/-- One report is never in the way of another: whatever happens to a service before it,
between the two and in whatever time, the other is taken as if the one had not come. -/
def Finished.OutOfWay (r q : Finished) : Prop :=
  ∀ (s : Service) (before after : List Service.Turn) (now later : Nat),
    ((s.follow (before ++ .come now (.finished r) :: after)).arrive later q).1 =
      ((s.follow (before ++ after)).arrive later q).1

/-- A report is out of the way of those with other keys and of no others. One with its key
that comes right after it, and would be the first, is turned away. -/
theorem Finished.outOfWay_iff {r q : Finished} : r.OutOfWay q ↔ r.key ≠ q.key := by
  constructor
  · intro hway hkey
    have hsame := hway { window := 1 } [] [] 0 0
    have hfirst : (Service.arrive { window := 1 } 0 r).1 = true := by
      rw [Service.arrive_fst]
      rfl
    have halone : (Service.arrive { window := 1 } 0 q).1 = true := by
      rw [Service.arrive_fst]
      rfl
    have hmark : (Service.arrive { window := 1 } 0 r).2.memory.markOf? q.key = some 0 := by
      rw [Service.markOf?_arrive, if_pos ⟨hfirst, hkey⟩]
    have hturned : ((Service.arrive { window := 1 } 0 r).2.arrive 0 q).1 = false := by
      rw [Service.arrive_fst, Memory.isMarked, hmark]
      rfl
    rw [show (Service.follow { window := 1 } ([] ++ [])) = { window := 1 } from rfl, halone] at hsame
    exact Bool.noConfusion (hturned.symm.trans hsame)
  · intro hkey s before after now later
    exact (Service.agreeOn_follow_of_ne hkey s before after now).arrive later

/-- **Who is in whose way.** For reports on different checks, the keys differ exactly if
neither check runs into the other, and exactly then the one report is never in the way of
the other. -/
theorem heard_apart_iff {r q : Finished}
    (hother : (r.checkUrl, r.checkName) ≠ (q.checkUrl, q.checkName)) :
    (r.key ≠ q.key ↔ ¬ r.RunsInto q ∧ ¬ q.RunsInto r) ∧
      (r.OutOfWay q ↔ ¬ r.RunsInto q ∧ ¬ q.RunsInto r) := by
  have hkeys : r.key ≠ q.key ↔ ¬ r.RunsInto q ∧ ¬ q.RunsInto r := by
    rw [ne_eq, Finished.key_eq_iff, or_iff_right hother, not_or]
  exact ⟨hkeys, Finished.outOfWay_iff.trans hkeys⟩

/-- The report that the job of the same project failed in another workspace. -/
def failedSibling : Finished :=
  { failedJob with checkName := "turnip/terraform/plan/infra/production" }

/-- Checks of two workspaces of one directory do not run into each other. -/
theorem heard_apart_from_sibling :
    (failedJob.checkUrl, failedJob.checkName) ≠ (failedSibling.checkUrl, failedSibling.checkName) ∧
      ¬ failedJob.RunsInto failedSibling ∧ failedJob.OutOfWay failedSibling := by
  have hother : (failedJob.checkUrl, failedJob.checkName) ≠
      (failedSibling.checkUrl, failedSibling.checkName) := by decide
  have happart := heard_apart_iff hother
  have hneither := happart.1.1 (by decide)
  exact ⟨hother, hneither.1, happart.2.2 hneither⟩

/-- The report on a check whose place ends with what the name of another starts with. -/
def failedBelow : Finished :=
  { failedJob with
    checkUrl := "/repos/acme/infra/statuses/abc/turnip"
    checkName := "terraform/plan/infra/staging" }

/-- **A report that is in the way of another check.** Two checks differ in their places and
in their names, and have one key. Right after the report on the one, that on the other is
turned away, which would be taken if it came alone. -/
theorem turned_away_for_other_check :
    (failedJob.checkUrl, failedJob.checkName) ≠ (failedBelow.checkUrl, failedBelow.checkName) ∧
      failedJob.key = failedBelow.key ∧
      (Service.arrive { window := 30000 } 0 failedBelow).1 = true ∧
      ((Service.arrive { window := 30000 } 0 failedJob).2.arrive 0 failedBelow).1 = false ∧
      ¬ failedJob.OutOfWay failedBelow := by
  have hkey : failedJob.key = failedBelow.key := by decide
  exact ⟨by decide, hkey, by decide, by decide, fun hway => Finished.outOfWay_iff.1 hway hkey⟩

end Groundwork.Report
