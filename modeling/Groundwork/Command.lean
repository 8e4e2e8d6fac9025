/-
The two commands: `plot` shows what would change, `lift` changes it. Both go by
the words that the tools themselves use.
-/
set_option autoImplicit false

namespace Groundwork

/-- What to do with a project. -/
inductive Command where
  /-- Show what would change. -/
  | plot
  /-- Make the change. -/
  | lift
deriving DecidableEq, Repr

namespace Command

/-- Both commands, in the order in which they are listed. -/
def all : List Command := [plot, lift]

/-- The command's own word. -/
def word : Command → String
  | plot => "plot"
  | lift => "lift"

/-- The other words for a command. -/
def aliases : Command → List String
  | plot => ["diff", "plan", "preview", "pre"]
  | lift => ["apply", "deploy", "up"]

/-- Whether a word stands for a command, letter case included. -/
def answersTo (c : Command) (word : String) : Bool :=
  c.word == word || c.aliases.contains word

/-- The command that a word stands for. -/
def ofWord? (word : String) : Option Command :=
  all.find? (·.answersTo word)

/-- A word stands for one command at most. -/
theorem ofWord?_eq_some_iff {word : String} {c : Command} :
    ofWord? word = some c ↔ word = c.word ∨ word ∈ c.aliases := by
  constructor
  · intro h
    have := List.find?_some h
    simp only [answersTo, Bool.or_eq_true, beq_iff_eq, List.contains_iff_mem] at this
    exact this.imp Eq.symm id
  · intro h
    have words : ∀ c : Command, c.word :: c.aliases =
        match c with
        | plot => ["plot", "diff", "plan", "preview", "pre"]
        | lift => ["lift", "apply", "deploy", "up"] := by
      intro c; cases c <;> rfl
    have hmem : word ∈ c.word :: c.aliases := by simpa using h
    rw [words] at hmem
    cases c <;> simp only [List.mem_cons, List.not_mem_nil, or_false] at hmem
    · rcases hmem with rfl | rfl | rfl | rfl | rfl <;> decide
    · rcases hmem with rfl | rfl | rfl | rfl <;> decide

end Command

end Groundwork
