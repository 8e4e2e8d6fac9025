/-
The checks that finished lately. A check is marked when its end is reported, and while
the mark lasts it is not taken to finish again. A mark lasts for a window of time; it
may also be taken back. Times are in milliseconds.
-/
set_option autoImplicit false

namespace Groundwork.Report

/-- The checks that finished lately, by their keys, with the times of their marks. -/
structure Memory where
  marks : List (String × Nat) := []
deriving Repr

namespace Memory

/-- The time of the mark on a key. -/
def markOf? (m : Memory) (key : String) : Option Nat :=
  m.marks.lookup key

/-- Whether a mark on a key lasts: it was made less than a window ago. -/
def isMarked (m : Memory) (window now : Nat) (key : String) : Bool :=
  match m.markOf? key with
  | some time => now < time + window
  | none => false

/-- Takes the mark on a key back, whoever made it. -/
def forget (m : Memory) (key : String) : Memory :=
  ⟨m.marks.filter (·.1 ≠ key)⟩

/-- Marks a key. -/
def mark (m : Memory) (now : Nat) (key : String) : Memory :=
  ⟨(key, now) :: (m.forget key).marks⟩

/-- Marks a key unless a mark on it lasts, and says whether one did. -/
def checkAndMark (m : Memory) (window now : Nat) (key : String) : Bool × Memory :=
  if m.isMarked window now key then (true, m) else (false, m.mark now key)

/-! ## What is marked -/

theorem lookup_filter_ne (es : List (String × Nat)) (key other : String) :
    (es.filter (·.1 ≠ key)).lookup other = if other = key then none else es.lookup other := by
  induction es with
  | nil => simp
  | cons e rest ih =>
    obtain ⟨k, time⟩ := e
    by_cases hk : k = key
    · rw [List.filter_cons_of_neg (by simpa using hk), ih]
      by_cases ho : other = key
      · rw [if_pos ho, if_pos ho]
      · have hne : (other == k) = false := by simpa [hk] using ho
        rw [if_neg ho, if_neg ho, List.lookup_cons, hne]
    · rw [List.filter_cons_of_pos (by simpa using hk), List.lookup_cons, List.lookup_cons, ih]
      by_cases ho : other = key
      · have hne : (other == k) = false := by simpa [ho] using fun h => hk (Eq.symm h)
        simp only [hne, if_pos ho]
      · rw [if_neg ho, if_neg ho]

@[simp] theorem markOf?_forget (m : Memory) (key other : String) :
    (m.forget key).markOf? other = if other = key then none else m.markOf? other :=
  lookup_filter_ne m.marks key other

@[simp] theorem markOf?_mark (m : Memory) (now : Nat) (key other : String) :
    (m.mark now key).markOf? other = if other = key then some now else m.markOf? other := by
  by_cases h : other = key
  · simp [mark, markOf?, h]
  · have hne : (other == key) = false := by simpa using h
    have hf := markOf?_forget m key other
    rw [if_neg h] at hf
    rw [if_neg h, ← hf]
    simp only [mark, markOf?, List.lookup_cons, hne]

end Memory

end Groundwork.Report
