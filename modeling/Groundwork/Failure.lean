/-
Why something failed. A failure keeps the whole account: what was being done, and
behind it what went wrong in the doing, down to the first cause.
-/
set_option autoImplicit false

namespace Groundwork

/-- Why something failed. -/
structure Failure where
  /-- The outermost account. -/
  message : String
  /-- What lies behind it, the nearest first. -/
  causes : List String := []
deriving DecidableEq, Repr, Inhabited

namespace Failure

/-- All texts of a failure, the outermost first. -/
def chain (f : Failure) : List String :=
  f.message :: f.causes

/-- The failure that has the given texts, the outermost first. -/
def ofChain : List String → Failure
  | [] => ⟨"", []⟩
  | message :: causes => ⟨message, causes⟩

/-- A failure seen from further out: what was being done when it came up. -/
def within (f : Failure) (doing : String) : Failure :=
  ⟨doing, f.chain⟩

/-- A failure on one line. -/
def line (f : Failure) : String :=
  String.intercalate ": " f.chain

/-! ## Failures as they are shown to people -/

/-- A text whose lines after the first are set in by some blanks. -/
def setIn (width : Nat) (s : String) : List Char :=
  s.toList.flatMap fun c => if c = '\n' then '\n' :: List.replicate width ' ' else [c]

/-- A cause among others, with its number in five columns. -/
def numbered (n : Nat) (cause : String) : List Char :=
  let number := (toString n).toList
  List.replicate (5 - number.length) ' ' ++ number ++ [':', ' '] ++ setIn 7 cause

/-- The causes, one below the other. A single one is not numbered. -/
def causeLines : List String → List (List Char)
  | [] => []
  | [cause] => [List.replicate 4 ' ' ++ setIn 4 cause]
  | causes => causes.zipIdx.map fun (cause, n) => numbered n cause

/-- A failure with its causes listed below it. -/
def report (f : Failure) : String :=
  if f.causes.isEmpty then f.message
  else f.message ++ "\n\nCaused by:" ++
    String.ofList ((causeLines f.causes).flatMap ('\n' :: ·))

end Failure

end Groundwork
