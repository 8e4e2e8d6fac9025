/-
Where the reading of a record stops. A text that holds no record of some form either
breaks off as JSON, or is JSON up to a value that the form has no place for, whichever
comes first.
-/
import Groundwork.Json.Reader
import Groundwork.Json.Whole

set_option autoImplicit false

namespace Groundwork.Json

/-- Why a text holds no record of some form. -/
inductive Fault where
  /-- It is not JSON. -/
  | malformed
  /-- It holds something else, less or more. -/
  | mismatch
deriving DecidableEq, Repr

namespace Fault

/-- What a field holds. -/
inductive Kind where
  | text
  /-- One of some words. -/
  | choice (words : List String)

/-- A field of a form. -/
structure Field where
  name : String
  kind : Kind := .text
  required : Bool := true

/-! ## Values -/

/-- The fault of a value that starts here and is of another kind than its field. Of an
array or an object, no more than its start is looked at. -/
def otherValue (bs : Bytes) : Fault :=
  match bs with
  | 0x5B :: _ => mismatch
  | 0x7B :: _ => mismatch
  | bs =>
    match readValue 1 bs with
    | some (v, _) => if v.isReadable then mismatch else malformed
    | none => malformed

/-- Reads a text. -/
def readText (bs : Bytes) : Except Fault (String × Bytes) :=
  match bs with
  | 0x22 :: rest =>
    match readString rest with
    | some (some s, rest) => .ok (s, rest)
    | _ => .error malformed
  | bs => .error (otherValue bs)

/-- Goes past a byte and the blanks before and after it. -/
def pass (b : UInt8) (bs : Bytes) : Except Fault Bytes :=
  match skipBlanks bs with
  | c :: rest => if c == b then .ok (skipBlanks rest) else .error malformed
  | [] => .error malformed

/-- Goes past `null`. -/
def passNull (bs : Bytes) : Except Fault Bytes :=
  match readValue 1 bs with
  | some (.null, rest) => .ok rest
  | _ => .error (otherValue bs)

/-- Goes past one of some words. -/
def passWord (words : List String) (bs : Bytes) : Except Fault Bytes := do
  let (word, rest) ← readText bs
  if words.contains word then return rest else throw mismatch

/-- Goes past a choice: a word, or an object with `null` under a word. -/
def passChoice (words : List String) (bs : Bytes) : Except Fault Bytes :=
  match bs with
  | 0x22 :: _ => passWord words bs
  | 0x7B :: rest => do
    let rest ← passNull (← pass 0x3A (← passWord words (skipBlanks rest)))
    match skipBlanks rest with
    | 0x7D :: rest => return rest
    | _ => throw malformed
  | _ => .error malformed

/-- Goes past the value of a field. -/
def passKind (kind : Kind) (bs : Bytes) : Except Fault Bytes :=
  match kind with
  | .text => (readText bs).map (·.2)
  | .choice words => passChoice words bs

/-- Goes past any value. -/
def passAny (bs : Bytes) : Except Fault Bytes :=
  match ofStart? bs with
  | some (_, rest) => .ok rest
  | none => .error malformed

/-! ## Records -/

/-- What follows a record whose end is reached, if all fields that have to be there were
seen. -/
def finish (fields : List Field) (seen : List String) (rest : Bytes) : Except Fault Bytes :=
  if fields.all fun f => !f.required || seen.contains f.name then .ok rest else .error mismatch

/-- Goes past the members of an object; `seen` holds the names of those before. -/
def passMembers (fields : List Field) : Nat → List String → Bytes → Except Fault Bytes
  | 0, _, _ => .error malformed
  | fuel + 1, seen, bs => do
    let (name, rest) ← match bs with
      | 0x22 :: _ => readText bs
      | _ => throw malformed
    let field := fields.find? (·.name == name)
    -- A field that is named twice counts as soon as its name is read.
    if field.isSome && seen.contains name then throw mismatch
    let rest ← pass 0x3A rest
    let rest ← match field with
      | some f => passKind f.kind rest
      | none => passAny rest
    match skipBlanks rest with
    | 0x2C :: rest => passMembers fields fuel (name :: seen) (skipBlanks rest)
    | 0x7D :: rest => finish fields (name :: seen) rest
    | _ => throw malformed

/-- Goes past the items of an array that holds the fields in order; `first` says that none
was read yet. -/
def passItems (first : Bool) : List Field → Bytes → Except Fault Bytes
  | [], bs =>
    match bs with
    | 0x5D :: rest => .ok rest
    | _ => .error malformed
  | f :: fs, bs =>
    match bs, first with
    | 0x5D :: rest, _ => finish (f :: fs) [] rest
    | 0x2C :: rest, false => do
      match skipBlanks rest with
      | 0x5D :: _ => throw malformed
      | bs => passItems false fs (skipBlanks (← passKind f.kind bs))
    | bs, true => do passItems false fs (skipBlanks (← passKind f.kind bs))
    | _, false => .error malformed

/-- Goes past a record. -/
def passRecord (fields : List Field) (bs : Bytes) : Except Fault Bytes :=
  match bs with
  | 0x7B :: rest =>
    match skipBlanks rest with
    | 0x7D :: rest => finish fields [] rest
    | bs => passMembers fields bs.length [] bs
  | 0x5B :: rest => passItems true fields (skipBlanks rest)
  | bs => .error (otherValue bs)

/-- Why a text holds no record of a form, which it is known not to hold. -/
def ofText (fields : List Field) (bs : Bytes) : Fault :=
  match passRecord fields (skipBlanks bs) with
  | .error fault => fault
  | .ok rest => if (skipBlanks rest).isEmpty then mismatch else malformed

end Fault

end Groundwork.Json
