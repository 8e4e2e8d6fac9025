/-
Nodes: scalars, sequences and mappings, and aliases of nodes that were given an
anchor. A document is its root with the nodes that aliases may name.

Anchors are numbered by how many names stand before them. A name that is used again
does not count, so its second node shares a number with the next new name, and the
later of the two is what both names mean.
-/
import Groundwork.Yaml.Token

set_option autoImplicit false

namespace Groundwork.Yaml

/-- A node. -/
inductive Node where
  | scalar (text : String) (style : Style) (tag : Option String)
  | reference (number : Nat)
  | sequence (items : List Node)
  | mapping (entries : List (Node × Node))
deriving Repr, Inhabited

/-- A scalar with nothing written. -/
def Node.empty : Node :=
  .scalar "" .plain none

/-- A node that was given an anchor. -/
structure Anchored where
  number : Nat
  /-- How many anchors stand before it. -/
  order : Nat
  node : Node

/-- A document. A text without one holds no root. -/
structure Document where
  root : Option Node
  anchored : List Anchored := []

/-- The one of two anchored nodes that stands later. -/
def Anchored.later (a b : Anchored) : Anchored :=
  if a.order < b.order then b else a

/-- The node that an alias means. -/
def Document.target? (d : Document) (number : Nat) : Option Node :=
  match d.anchored.filter (·.number = number) with
  | [] => none
  | a :: as => some (as.foldl Anchored.later a).node

/-- What a node means: itself, or what it is an alias of. -/
def Document.resolve (d : Document) : Node → Node
  | .reference number => (d.target? number).getD .empty
  | node => node

/-- Nodes other than aliases mean themselves. -/
theorem Document.resolve_of_ne_reference {d : Document} {node : Node}
    (h : ∀ number, node ≠ .reference number) : d.resolve node = node := by
  cases node with
  | reference number => exact absurd rfl (h number)
  | _ => rfl

end Groundwork.Yaml
