/-
What is written as YAML: texts, truth values, lists, and records of named values.
-/
import Groundwork.Table

set_option autoImplicit false

namespace Groundwork.Yaml

/-- A value to be written. -/
inductive Tree where
  | text (s : String)
  | flag (b : Bool)
  | list (items : List Tree)
  | record (fields : List (String × Tree))
deriving Repr, Inhabited

namespace Tree

/-- A table of texts. -/
def ofTable (t : Table String) : Tree :=
  .record (t.entries.map fun e => (e.1, .text e.2))

/-- A field that is left out when its text is empty. -/
def textField (name s : String) : List (String × Tree) :=
  if s = "" then [] else [(name, .text s)]

/-- A field that is left out when its text is missing. -/
def optionField (name : String) (s : Option String) : List (String × Tree) :=
  s.toList.map fun s => (name, .text s)

/-- A field that is left out when it is false. -/
def flagField (name : String) (b : Bool) : List (String × Tree) :=
  if b then [(name, .flag true)] else []

/-- A field that is left out when its table is empty. -/
def tableField (name : String) (t : Table String) : List (String × Tree) :=
  if t.isEmpty then [] else [(name, ofTable t)]

/-- A field that is left out when its list is empty. -/
def listField (name : String) (items : List Tree) : List (String × Tree) :=
  if items.isEmpty then [] else [(name, .list items)]

end Tree

end Groundwork.Yaml
