/-
Reading values of expected types from nodes. A text may be written in any way; a
truth value or number must be plain. Where a record, table or list is expected,
nothing written stands for an empty one, and where a text is optional, nothing
written stands for none.
-/
import Groundwork.Table
import Groundwork.Yaml.Error
import Groundwork.Yaml.Node
import Groundwork.Yaml.Plain

set_option autoImplicit false

namespace Groundwork.Yaml.Document

variable {α : Type}

/-- The text of a scalar. -/
def text (d : Document) (node : Node) : Except Error String :=
  match d.resolve node with
  | .scalar s _ _ => .ok s
  | _ => .error .shape

/-- Whether a scalar is read as what it spells: plain, or a literal block with a tag
that says so. -/
def spells (style : Style) (tag : Option String) (expected : String) : Bool :=
  style == .plain || (style == .literal && tag == some expected)

/-- A truth value. -/
def flag (d : Document) (node : Node) : Except Error Bool :=
  match d.resolve node with
  | .scalar s style tag =>
    if spells style tag "tag:yaml.org,2002:bool" then
      match bool? s with
      | some b => .ok b
      | none => .error .scalar
    else .error .scalar
  | _ => .error .shape

/-- A natural number below a bound. -/
def nat (bound : Nat) (d : Document) (node : Node) : Except Error Nat :=
  match d.resolve node with
  | .scalar s style tag =>
    if spells style tag "tag:yaml.org,2002:int" then
      match (natural? s.toList).filter (· < bound) with
      | some n => .ok n
      | none => .error .scalar
    else .error .scalar
  | _ => .error .shape

/-- An optional value. -/
def option (read : Document → Node → Except Error α) (d : Document) (node : Node) :
    Except Error (Option α) :=
  match d.resolve node with
  | .scalar s .plain none =>
    if s = "" || isNull s then .ok none else (read d node).map some
  | .scalar s .plain (some tag) =>
    if tag = "tag:yaml.org,2002:null" then
      if isNull s then .ok none else .error .scalar
    else (read d node).map some
  | _ => (read d node).map some

/-- Whether nothing was written for a node. -/
def isUnwritten : Node → Bool
  | .scalar "" .plain _ => true
  | _ => false

/-- The items of a sequence. -/
def items (d : Document) (node : Node) : Except Error (List Node) :=
  match d.resolve node with
  | .sequence xs => .ok xs
  | node => if isUnwritten node then .ok [] else .error .shape

/-- A list of values. -/
def list (read : Document → Node → Except Error α) (d : Document) (node : Node) :
    Except Error (List α) := do
  (← d.items node).mapM (read d)

/-- The entries of a mapping whose keys are texts. -/
def entries (d : Document) (node : Node) : Except Error (List (String × Node)) :=
  match d.resolve node with
  | .mapping es => es.mapM fun (key, value) => do return (← d.text key, value)
  | node => if isUnwritten node then .ok [] else .error .shape

/-- A table of values; of two under one key the later counts. -/
def table (read : Document → Node → Except Error α) (d : Document) (node : Node) :
    Except Error (Table α) := do
  let es ← (← d.entries node).mapM fun (key, value) => do return (key, ← read d value)
  return Table.ofList es

/-! ## Records -/

/-- The fields of a record that have one of the given names. None may be given twice;
other fields are passed over. -/
def fields (names : List String) (d : Document) (node : Node) :
    Except Error (List (String × Node)) := do
  let known := (← d.entries node).filter fun e => names.contains e.1
  if (known.map (·.1)).Nodup then return known else throw .repeatedField

/-- The value of a field that may be left out. -/
def field (fields : List (String × Node)) (name : String) (dflt : α)
    (read : Document → Node → Except Error α) (d : Document) : Except Error α :=
  match fields.lookup name with
  | some node => read d node
  | none => .ok dflt

/-- The value of a field that must be there. -/
def required (fields : List (String × Node)) (name : String)
    (read : Document → Node → Except Error α) (d : Document) : Except Error α :=
  match fields.lookup name with
  | some node => read d node
  | none => .error (.missingField name)

/-- A value read from the root of a document. Without a root, nothing was written. -/
def readRoot (read : Document → Node → Except Error α) (d : Document) : Except Error α :=
  read d (d.root.getD .empty)

end Groundwork.Yaml.Document
