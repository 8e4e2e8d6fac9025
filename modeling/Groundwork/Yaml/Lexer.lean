/-
Reading tokens. Indentation opens and closes blocks, so the lexer keeps the columns
of the blocks around a place. A key is known as one only by the colon behind it:
wherever a key may start the place is kept, and at the colon the key's token is put
in there.
-/
import Groundwork.Yaml.Scalar

set_option autoImplicit false

namespace Groundwork.Yaml

/-- A place where a key may have started. -/
structure KeyPlace where
  /-- How many tokens stand before it. -/
  token : Nat
  /-- Whether nothing but a key can stand there. -/
  required : Bool
  index : Nat
  line : Nat
  column : Nat

/-- The state of the lexer. -/
structure Lexer where
  cursor : Cursor
  tokens : Array Token := #[]
  /-- The column of the innermost block, and those of the blocks around it. -/
  indent : Int := -1
  indents : List Int := []
  /-- How many flow collections are open. -/
  flowLevel : Nat := 0
  keyAllowed : Bool := true
  /-- Where a key may have started, innermost flow collection first. -/
  keys : List (Option KeyPlace) := [none]

namespace Lexer

/-- The lexer at another place. -/
def move (s : Lexer) (c : Cursor) : Lexer :=
  { s with cursor := c }

/-- The lexer with one more token. -/
def push (s : Lexer) (t : Token) : Lexer :=
  { s with tokens := s.tokens.push t }

/-- The lexer with a token put in after the first `n`. -/
def insert (s : Lexer) (n : Nat) (t : Token) : Lexer :=
  { s with tokens := s.tokens.insertIdxIfInBounds n t }

/-- Whether the lexer is inside a flow collection. -/
def inFlow (s : Lexer) : Bool :=
  s.flowLevel != 0

/-! ## Blocks -/

/-- Closes the blocks that start after a column. -/
def closeBlocks (column : Int) (s : Lexer) : Lexer :=
  if s.inFlow then s
  else
    let closing := (s.indent :: s.indents).takeWhile (column < ·)
    match (s.indent :: s.indents).dropWhile (column < ·) with
    | [] => s
    | indent :: indents =>
      { s with indent, indents, tokens := s.tokens ++ (closing.map fun _ => Token.blockEnd).toArray }

/-- Opens a block at a column if that is further in, with its token after the first
`n`. -/
def openBlock (column : Nat) (n : Nat) (t : Token) (s : Lexer) : Lexer :=
  if s.inFlow || column ≤ s.indent then s
  else { (s.insert n t) with indent := column, indents := s.indent :: s.indents }

/-! ## Keys -/

/-- Gives up a place where a key may have started; an error if it must have. -/
def dropKey (s : Lexer) : Except Error Lexer :=
  match s.keys with
  | some k :: keys => if k.required then .error .keyWithoutColon else .ok { s with keys := none :: keys }
  | _ => .ok s

/-- Keeps this place as one where a key may start. -/
def markKey (s : Lexer) : Except Error Lexer := do
  if !s.keyAllowed then return s
  let s ← s.dropKey
  let c := s.cursor
  let place : KeyPlace :=
    { token := s.tokens.size, required := !s.inFlow && s.indent == c.column,
      index := c.index, line := c.line, column := c.column }
  return { s with keys := some place :: s.keys.drop 1 }

/-- Whether a key that started there can still end here: on the same line, and no
more than 1024 characters further on. -/
def KeyPlace.isOpen (k : KeyPlace) (c : Cursor) : Bool :=
  k.line == c.line && c.index ≤ k.index + 1024

/-- Gives up the places from which a key cannot reach here. -/
def dropStaleKeys (s : Lexer) : Except Error Lexer :=
  if s.keys.any (·.any fun k => !KeyPlace.isOpen k s.cursor && k.required) then
    .error .keyWithoutColon
  else .ok { s with keys := s.keys.map (·.filter (KeyPlace.isOpen · s.cursor)) }

/-! ## Between tokens -/

/-- Passes over blanks, comments and line ends. A tab is no blank where a key may
start in a block. -/
def skipGap : Nat → Lexer → Lexer
  | 0, s => s
  | fuel + 1, s =>
    let c := s.cursor
    -- A byte order mark counts at the very start only.
    let c := if c.index == 0 && c.at? '\ufeff' then c.advance 1 else c
    -- Where a key may start in a block, what is before it is indentation.
    let tabs := s.inFlow || !s.keyAllowed
    let c := c.skipWhile fun x => x = ' ' || (tabs && x = '\t')
    let c := if c.at? '#' then c.skipWhile (!isBreak ·) else c
    if c.head?.any isBreak then
      skipGap fuel { s with cursor := c.skipBreak, keyAllowed := s.keyAllowed || !s.inFlow }
    else s.move c

/-! ## Directives -/

/-- Reads a number of no more than nine digits. -/
def readNumber (c : Cursor) : Except Error (Nat × Cursor) :=
  let (ds, c) := c.takeWhile Char.isDigit
  if ds.isEmpty || 9 < ds.length then .error .directive
  else .ok (ds.foldl (fun n d => n * 10 + (d.toNat - '0'.toNat)) 0, c)

/-- Reads the handle of a tag. -/
def readHandle (directive : Bool) (c : Cursor) : Except Error (String × Cursor) :=
  if !c.at? '!' then .error .tag
  else
    let (name, c) := (c.advance 1).takeWhile isWord
    if c.at? '!' then .ok (String.ofList ('!' :: name ++ ['!']), c.advance 1)
    else if directive && !name.isEmpty then .error .tag
    else .ok (String.ofList ('!' :: name), c)

/-- The number of bytes of a character, told by its first byte. -/
def byteCount? (b : Nat) : Option Nat :=
  if b < 0x80 then some 1
  else if 0xC0 ≤ b && b < 0xE0 then some 2
  else if 0xE0 ≤ b && b < 0xF0 then some 3
  else if 0xF0 ≤ b && b < 0xF8 then some 4
  else none

/-- The byte written as a percent sign and two digits, at the start of a text. -/
def escapedByte? : List Char → Option (Nat × List Char)
  | '%' :: h :: l :: rest => do
    let h ← hexDigit? h
    let l ← hexDigit? l
    return (h * 16 + l, rest)
  | _ => none

/-- Reads `n` more bytes of an escaped character. -/
def readTrail : Nat → Nat → List Char → Option (Nat × List Char)
  | 0, code, rest => some (code, rest)
  | n + 1, code, rest => do
    let (b, rest) ← escapedByte? rest
    if 0x80 ≤ b && b < 0xC0 then readTrail n (code * 64 + (b - 0x80)) rest else none

/-- Reads a character escaped byte by byte. -/
def readEscaped? (rest : List Char) : Option (Char × Nat) := do
  let (b, rest) ← escapedByte? rest
  let n ← byteCount? b
  let lead := if n = 1 then b else b % (1 <<< (7 - n))
  let (code, _) ← readTrail (n - 1) lead rest
  return (Char.ofNat code, 3 * n)

/-- Whether a character may stand in a tag; some only in one between angle brackets
or in a directive. -/
def isTagChar (wide : Bool) (c : Char) : Bool :=
  isWord c || ";/?:@&=+$.%!~*'()".toList.contains c || (wide && (c = ',' || c = '[' || c = ']'))

/-- Reads the rest of a tag, given what was read in reverse. -/
def readTagText (wide : Bool) : Nat → List Char → Cursor → Except Error (List Char × Cursor)
  | 0, text, c => .ok (text.reverse, c)
  | fuel + 1, text, c =>
    match c.head? with
    | none => .ok (text.reverse, c)
    | some x =>
      if x = '%' then
        match readEscaped? c.rest with
        | none => .error .tag
        | some (y, n) => readTagText wide fuel (y :: text) (c.advance n)
      else if isTagChar wide x then readTagText wide fuel (x :: text) (c.advance 1)
      else .ok (text.reverse, c)

/-- Reads the suffix of a tag, or its prefix in a directive; it may not be empty
unless something of it was read already. -/
def readSuffix (wide : Bool) (start : List Char) (c : Cursor) : Except Error (String × Cursor) := do
  -- A tag ends at the next blank or line end at the latest.
  let (text, c) ← readTagText wide ((c.rest.takeWhile isSolid).length + 1) [] c
  if text.isEmpty && start.isEmpty then throw .tag
  return (String.ofList (start.drop 1 ++ text), c)

/-- Passes over the rest of a directive's line, which holds nothing but a comment. -/
def endDirective (c : Cursor) : Except Error Cursor :=
  let c := c.skipWhile isBlank
  let c := if c.at? '#' then c.skipWhile (!isBreak ·) else c
  if atLineEnd c.rest then .ok c.skipBreak else .error .directive

/-- Reads a directive after its percent sign. -/
def readDirective (c : Cursor) : Except Error (Token × Cursor) := do
  let (name, c) := c.takeWhile isWord
  if !atGap c.rest then throw .directive
  if name = "YAML".toList then
    let (major, c) ← readNumber (c.skipWhile isBlank)
    if !c.at? '.' then throw .directive
    let (minor, c) ← readNumber (c.advance 1)
    return (.version major minor, ← endDirective c)
  else if name = "TAG".toList then
    let (handle, c) ← readHandle true (c.skipWhile isBlank)
    if !c.head?.any isBlank then throw .directive
    let (start, c) ← readSuffix true [] (c.skipWhile isBlank)
    if !atGap c.rest then throw .directive
    return (.tagPrefix handle start, ← endDirective c)
  else throw .directive

/-! ## Anchors and tags -/

/-- Reads the name of an anchor or alias after its sign. -/
def readName (c : Cursor) : Except Error (String × Cursor) :=
  let (name, c) := c.takeWhile isWord
  let ends := atGap c.rest || c.head?.any fun x => "?:,]\x7d%@`".toList.contains x
  if name.isEmpty || !ends then .error .anchorName else .ok (String.ofList name, c)

/-- Reads a tag. -/
def readTag (inFlow : Bool) (c : Cursor) : Except Error (Token × Cursor) := do
  let (tag, c) ←
    if c.rest.drop 1 |>.head? |>.any (· = '<') then do
      let (suffix, c) ← readSuffix true [] (c.advance 2)
      if !c.at? '>' then throw .tag
      pure (Token.tag "" suffix, c.advance 1)
    else do
      let (handle, c) ← readHandle false c
      let h := handle.toList
      if 1 < h.length && h.getLast? = some '!' then
        let (suffix, c) ← readSuffix false [] c
        pure (Token.tag handle suffix, c)
      else
        let (suffix, c) ← readSuffix false h c
        -- A sign alone is the tag that keeps a scalar from being taken for anything but text.
        pure (if suffix = "" then Token.tag "" "!" else Token.tag "!" suffix, c)
  if atGap c.rest || (inFlow && c.at? ',') then return (tag, c) else throw .tag

/-! ## Tokens -/

/-- Reads a sign that opens a flow collection. -/
def openFlow (t : Token) (s : Lexer) : Except Error Lexer := do
  let s ← s.markKey
  let s := { s with keys := none :: s.keys, flowLevel := s.flowLevel + 1, keyAllowed := true }
  return (s.push t).move (s.cursor.advance 1)

/-- Reads a sign that closes a flow collection. -/
def closeFlow (t : Token) (s : Lexer) : Except Error Lexer := do
  let s ← s.dropKey
  let s := if s.inFlow then { s with keys := s.keys.drop 1, flowLevel := s.flowLevel - 1 } else s
  return ({ s with keyAllowed := false }.push t).move (s.cursor.advance 1)

/-- Reads the sign between the entries of a flow collection. -/
def flowEntry (s : Lexer) : Except Error Lexer := do
  let s ← s.dropKey
  return ({ s with keyAllowed := true }.push .flowEntry).move (s.cursor.advance 1)

/-- Opens a block here, where its first entry or complex key may stand. -/
def openBlockHere (t : Token) (s : Lexer) : Except Error Lexer :=
  if s.inFlow then .ok s
  else if !s.keyAllowed then .error .misplaced
  else .ok (s.openBlock s.cursor.column s.tokens.size t)

/-- Reads the dash of a block sequence's entry. -/
def blockEntry (s : Lexer) : Except Error Lexer := do
  let s ← s.openBlockHere .blockSequence
  let s ← s.dropKey
  return ({ s with keyAllowed := true }.push .blockEntry).move (s.cursor.advance 1)

/-- Reads the sign of a complex key. -/
def complexKey (s : Lexer) : Except Error Lexer := do
  let s ← s.openBlockHere .blockMapping
  let s ← s.dropKey
  return ({ s with keyAllowed := !s.inFlow }.push .key).move (s.cursor.advance 1)

/-- Reads a colon: what stood at the last place kept was a key, or else the value of
a complex key follows. -/
def value (s : Lexer) : Except Error Lexer := do
  let s ← match s.keys with
    -- The key's token goes in where the key started, and before it the block that it opens.
    | some k :: keys =>
      let s := (s.insert k.token .key).openBlock k.column k.token .blockMapping
      pure { s with keys := none :: keys, keyAllowed := false }
    | _ => do
      let s ← s.openBlockHere .blockMapping
      pure { s with keyAllowed := !s.inFlow }
  return (s.push .value).move (s.cursor.advance 1)

/-- Reads a token that may be a key. -/
def keyToken (read : Cursor → Except Error (Token × Cursor)) (s : Lexer) : Except Error Lexer := do
  let s ← s.markKey
  let (t, c) ← read s.cursor
  return ({ s with keyAllowed := false }.push t).move c

/-- Reads a scalar between quotes. -/
def quoted (single : Bool) (fuel : Nat) : Lexer → Except Error Lexer :=
  keyToken fun c => do
    let (text, c) ← readQuoted single fuel [] (c.advance 1)
    return (.scalar (String.ofList text) .quoted, c)

/-- Reads a plain scalar. -/
def plain (fuel : Nat) (s : Lexer) : Except Error Lexer := do
  let s ← s.markKey
  let p ← readPlain s.inFlow (s.indent + 1).toNat fuel [] {} s.cursor
  return ({ s with keyAllowed := p.lineEnded }.push (.scalar (String.ofList p.text) .plain)).move p.after

/-- Reads a block scalar. -/
def block (isLiteral : Bool) (fuel : Nat) (s : Lexer) : Except Error Lexer := do
  let s ← s.dropKey
  let (text, c) ← readBlock isLiteral s.indent fuel (s.cursor.advance 1)
  let style := if isLiteral then Style.literal else .folded
  return ({ s with keyAllowed := true }.push (.scalar (String.ofList text) style)).move c

/-- Leaves all blocks, as before a directive or a document's mark. -/
def leaveBlocks (s : Lexer) : Except Error Lexer := do
  let s ← (s.closeBlocks (-1)).dropKey
  return { s with keyAllowed := false }

/-- Reads a directive. -/
def directive (s : Lexer) : Except Error Lexer := do
  let s ← s.leaveBlocks
  let (t, c) ← readDirective (s.cursor.advance 1)
  return (s.push t).move c

/-- Reads a document's mark. -/
def documentMark (t : Token) (s : Lexer) : Except Error Lexer := do
  let s ← s.leaveBlocks
  return (s.push t).move (s.cursor.advance 3)

/-- The signs with which no plain scalar starts. -/
def indicators : List Char :=
  "-?:,[]\x7b\x7d#&*!|>'\"%@`".toList

/-- Whether a plain scalar starts at a solid character. -/
def startsPlain (inFlow : Bool) (x : Char) (rest : List Char) : Bool :=
  !indicators.contains x || (x = '-' && !rest.head?.any isBlank)
    || (!inFlow && (x = '?' || x = ':') && !atGap rest)

/-- Reads the token that starts with a character, which is solid. The fuel is for the
scalars. -/
def readToken (fuel : Nat) (x : Char) (rest : List Char) (s : Lexer) : Except Error Lexer :=
  -- Directives and document marks come first: they count even inside a flow collection.
  if s.cursor.column == 0 && x = '%' then s.directive
  else if s.cursor.atDocumentMark '-' then s.documentMark .documentStart
  else if s.cursor.atDocumentMark '.' then s.documentMark .documentEnd
  else if x = '[' then s.openFlow .flowSequence
  else if x = '\x7b' then s.openFlow .flowMapping
  else if x = ']' then s.closeFlow .flowSequenceEnd
  else if x = '\x7d' then s.closeFlow .flowMappingEnd
  else if x = ',' then s.flowEntry
  else if x = '-' && atGap rest then s.blockEntry
  else if x = '?' && (s.inFlow || atGap rest) then s.complexKey
  else if x = ':' && (s.inFlow || atGap rest) then s.value
  else if x = '*' then s.keyToken fun c => (readName (c.advance 1)).map fun (n, c) => (.reference n, c)
  else if x = '&' then s.keyToken fun c => (readName (c.advance 1)).map fun (n, c) => (.anchor n, c)
  else if x = '!' then s.keyToken (readTag s.inFlow)
  else if x = '|' && !s.inFlow then s.block true fuel
  else if x = '>' && !s.inFlow then s.block false fuel
  else if x = '\'' then s.quoted true fuel
  else if x = '"' then s.quoted false fuel
  -- What is left is a plain scalar, or nothing that a token starts with.
  else if isSolid x && startsPlain s.inFlow x rest then s.plain fuel
  else .error .unknownToken

/-- Reads tokens up to the end of the text. -/
def run : Nat → Lexer → Except Error (Array Token)
  | 0, s => .ok s.tokens
  | fuel + 1, s => do
    let s := skipGap (fuel + 1) s
    let s ← s.dropStaleKeys
    let s := s.closeBlocks s.cursor.column
    match s.cursor.rest with
    | [] => do
      let s ← s.leaveBlocks
      return s.tokens
    | x :: rest => do run fuel (← s.readToken (fuel + 1) x rest)

end Lexer

/-- The tokens of a text. -/
def tokens (text : List Char) : Except Error (List Token) :=
  if text.all isAllowed then
    (Lexer.run (text.length + 1) { cursor := { rest := text } }).map Array.toList
  else .error .character

end Groundwork.Yaml
