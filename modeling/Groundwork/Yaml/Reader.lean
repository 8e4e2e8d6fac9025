/-
Reading a document from its tokens. Every node but an alias may have an anchor and a
tag before it; where a node may be left out, nothing was written.
-/
import Groundwork.Yaml.Lexer
import Groundwork.Yaml.Node

set_option autoImplicit false

namespace Groundwork.Yaml

/-- What is known while a document is read. -/
structure Progress where
  rest : List Token
  /-- The prefixes of the declared tag handles. -/
  tags : List (String × String) := []
  /-- The anchors' names with their numbers, latest first. -/
  names : List (String × Nat) := []
  /-- How many anchors were met. -/
  anchors : Nat := 0
  /-- The anchored nodes read to their end. -/
  anchored : List Anchored := []

/-- A step of reading. -/
abbrev Read := StateT Progress (Except Error)

namespace Read

/-- The next token. -/
def peek : Read (Option Token) := do
  return (← get).rest.head?

/-- Passes over the next token. -/
def skip : Read Unit :=
  modify fun p => { p with rest := p.rest.drop 1 }

/-- Passes over the next token if it is a given one. -/
def accept (t : Token) : Read Bool := do
  if (← peek) == some t then
    skip
    return true
  return false

/-- Passes over the next token, which must be a given one. -/
def expect (t : Token) (e : Error) : Read Unit := do
  if !(← accept t) then throw e

/-- The full tag of a handle and its suffix. -/
def fullTag (handle suffix : String) : Read String := do
  if handle = "" then return suffix
  match (← get).tags.lookup handle with
  | some start => return start ++ suffix
  | none => throw .tagHandle

/-- The anchor and the tag before a node, in either order. -/
def properties : Read (Option String × Option String) := do
  let anchor : Read (Option String) := do
    match ← peek with
    | some (.anchor name) => skip; return some name
    | _ => return none
  let tag : Read (Option (String × String)) := do
    match ← peek with
    | some (.tag handle suffix) => skip; return some (handle, suffix)
    | _ => return none
  let name ← anchor
  let raw ← tag
  let name ← if name.isNone && raw.isSome then anchor else pure name
  match raw with
  | none => return (name, none)
  | some (handle, suffix) => return (name, some (← fullTag handle suffix))

/-- Gives the node that is read its anchor's number. -/
def withAnchor (name : Option String) (node : Read Node) : Read Node := do
  match name with
  | none => node
  | some name =>
    let p ← get
    -- Numbers count the names, so that one may be given twice where a name is used again;
    -- the order tells such nodes apart.
    let number := p.names.length
    let order := p.anchors
    set { p with names := (name, number) :: p.names.filter (·.1 ≠ name), anchors := order + 1 }
    let node ← node
    modify fun p => { p with anchored := ⟨number, order, node⟩ :: p.anchored }
    return node

/-- Whether the next token is one of those that end a place where a node may stand. -/
def ends (ts : List Token) : Read Bool := do
  return (← peek).elim true ts.contains

mutual

/-- Reads a node. Blocks may start in a block only, and a sequence may go without
indentation as a value of a block mapping only. -/
def node (inBlock indentless : Bool) : Nat → Read Node
  | 0 => throw .node
  | fuel + 1 => do
    match ← peek with
    | some (.reference name) =>
      skip
      match (← get).names.lookup name with
      | some number => return .reference number
      | none => throw .unknownAlias
    | _ =>
      let (name, tag) ← properties
      withAnchor name do
        match ← peek with
        | some (.scalar text style) => skip; return .scalar text style tag
        | some .flowSequence => skip; return .sequence (← flowItems true fuel)
        | some .flowMapping => skip; return .mapping (← flowEntries true fuel)
        | some .blockEntry =>
          -- A dash right below a key, no further in: no sequence was opened for it.
          if indentless then return .sequence (← indentlessItems fuel)
          else if name.isSome || tag.isSome then return .scalar "" .plain tag
          else throw .node
        | some .blockSequence =>
          if inBlock then skip; return .sequence (← blockItems fuel)
          else if name.isSome || tag.isSome then return .scalar "" .plain tag
          else throw .node
        | some .blockMapping =>
          if inBlock then skip; return .mapping (← blockEntries fuel)
          else if name.isSome || tag.isSome then return .scalar "" .plain tag
          else throw .node
        | _ =>
          if name.isSome || tag.isSome then return .scalar "" .plain tag else throw .node

/-- Reads a node, or nothing where one of the given tokens stands. -/
def nodeUnless (ts : List Token) (inBlock indentless : Bool) : Nat → Read Node
  | 0 => throw .node
  | fuel + 1 => do
    if ← ends ts then return .empty
    node inBlock indentless fuel

/-- Reads the items of an indented sequence, up to and with its end. -/
def blockItems : Nat → Read (List Node)
  | 0 => throw .entry
  | fuel + 1 => do
    if ← accept .blockEntry then
      let item ← nodeUnless [.blockEntry, .blockEnd] true false fuel
      return item :: (← blockItems fuel)
    expect .blockEnd .entry
    return []

/-- Reads the items of a sequence without indentation. -/
def indentlessItems : Nat → Read (List Node)
  | 0 => throw .entry
  | fuel + 1 => do
    if ← accept .blockEntry then
      let item ← nodeUnless [.blockEntry, .key, .value, .blockEnd] true false fuel
      return item :: (← indentlessItems fuel)
    return []

/-- Reads the entries of an indented mapping, up to and with its end. -/
def blockEntries : Nat → Read (List (Node × Node))
  | 0 => throw .entry
  | fuel + 1 => do
    if ← accept .key then
      let key ← nodeUnless [.key, .value, .blockEnd] true true fuel
      let value ← blockValue fuel
      return (key, value) :: (← blockEntries fuel)
    expect .blockEnd .entry
    return []

/-- Reads the value of an entry of an indented mapping. -/
def blockValue : Nat → Read Node
  | 0 => throw .entry
  | fuel + 1 => do
    if ← accept .value then nodeUnless [.key, .value, .blockEnd] true true fuel
    else return .empty

/-- Reads the items of a sequence in brackets, up to and with its end. An item with a
key is a mapping of one entry. -/
def flowItems (first : Bool) : Nat → Read (List Node)
  | 0 => throw .entry
  | fuel + 1 => do
    if ← accept .flowSequenceEnd then return []
    if !first then expect .flowEntry .entry
    if ← accept .key then
      let key ←
        -- The sign that shows the key to be empty is passed over with it.
        if ← ends [.value, .flowEntry, .flowSequenceEnd] then do skip; pure Node.empty
        else node false false fuel
      let value ←
        if ← accept .value then nodeUnless [.flowEntry, .flowSequenceEnd] false false fuel
        else pure Node.empty
      return .mapping [(key, value)] :: (← flowItems false fuel)
    -- A comma may stand before the end.
    if ← accept .flowSequenceEnd then return []
    let item ← node false false fuel
    return item :: (← flowItems false fuel)

/-- Reads the entries of a mapping in braces, up to and with its end. -/
def flowEntries (first : Bool) : Nat → Read (List (Node × Node))
  | 0 => throw .entry
  | fuel + 1 => do
    if ← accept .flowMappingEnd then return []
    if !first then expect .flowEntry .entry
    if ← accept .key then
      let key ← nodeUnless [.value, .flowEntry, .flowMappingEnd] false false fuel
      let value ←
        if ← accept .value then nodeUnless [.flowEntry, .flowMappingEnd] false false fuel
        else pure Node.empty
      return (key, value) :: (← flowEntries false fuel)
    -- A comma may stand before the end.
    if ← accept .flowMappingEnd then return []
    let key ← node false false fuel
    return (key, .empty) :: (← flowEntries false fuel)

end

/-- The tag handles that need no declaration. -/
def defaultTags : List (String × String) :=
  [("!", "!"), ("!!", "tag:yaml.org,2002:")]

/-- Reads the directives before a document. -/
def directives : Nat → Bool → List (String × String) → Read (List (String × String))
  | 0, _, _ => throw .directive
  | fuel + 1, versioned, tags => do
    match ← peek with
    | some (.version major minor) =>
      -- The version may be given once, and is one of those that this grammar is for.
      if versioned || major ≠ 1 || (minor ≠ 1 && minor ≠ 2) then throw .directive
      skip
      directives fuel true tags
    | some (.tagPrefix handle start) =>
      if (tags.lookup handle).isSome then throw .directive
      skip
      directives fuel versioned (tags ++ [(handle, start)])
    | _ => return tags

/-- Whether the next token starts or ends a document, or the text is at its end. -/
def atBoundary : Read Bool := do
  match ← peek with
  | none | some .documentStart | some .documentEnd => return true
  | some (.version ..) | some (.tagPrefix ..) => return true
  | _ => return false

/-- Reads the content of a document, and its end mark if it has one. Only a document
with a marked start may be empty. -/
def content (marked : Bool) (fuel : Nat) : Read Node := do
  let isEmpty ← if marked then atBoundary else pure false
  let root ← if isEmpty then pure Node.empty else node true false fuel
  let _ ← accept .documentEnd
  return root

/-- Passes over end marks. -/
def skipEnds : Nat → Read Unit
  | 0 => pure ()
  | fuel + 1 => do
    if ← accept .documentEnd then skipEnds fuel

/-- Reads the only document of a text. Its start need not be marked unless there are
directives. -/
def document (fuel : Nat) : Read Document := do
  match ← peek with
  | none => return { root := none }
  | some t =>
    let bare := match t with
      | .version .. | .tagPrefix .. | .documentStart => false
      | _ => true
    let declared ← if bare then pure [] else directives fuel false []
    if !bare then expect .documentStart .documentStart
    modify fun p => { p with tags := declared ++ defaultTags }
    let root ← content (!bare) fuel
    skipEnds fuel
    match ← peek with
    | none => return { root := some root, anchored := (← get).anchored }
    | some .documentStart | some (.version ..) | some (.tagPrefix ..) => throw .manyDocuments
    | _ => throw .documentStart

end Read

/-- The document that a text holds. -/
def Document.ofText (text : List Char) : Except Error Document := do
  let ts ← tokens text
  let (d, _) ← (Read.document (4 * ts.length + 4)).run { rest := ts }
  return d

/-- The document that bytes hold. -/
def Document.ofBytes (bytes : ByteArray) : Except Error Document :=
  match String.fromUTF8? bytes with
  | some text => ofText text.toList
  | none => .error .character

end Groundwork.Yaml
