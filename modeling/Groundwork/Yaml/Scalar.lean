/-
The text of a scalar, as it stands in a document: plain, between quotes, or as an
indented block. Line ends inside plain and quoted scalars are folded: a single one
becomes a space, of several all but the first stay.

While a scalar is read its text is kept in reverse, so that a long one costs no more
than its length. The fuel of a reader bounds the characters that follow, and the
readers that it calls are handed the same.
-/
import Groundwork.Yaml.Cursor
import Groundwork.Yaml.Error
import Groundwork.Yaml.Token

set_option autoImplicit false

namespace Groundwork.Yaml

/-! ## Blanks between the words of a scalar -/

/-- The blanks and line ends met since the last word. -/
structure Gap where
  /-- The blanks in reverse, as long as no line has ended. -/
  blanks : List Char := []
  /-- Whether a line has ended. -/
  broken : Bool := false
  /-- The first line end. -/
  first : List Char := []
  /-- The other line ends in reverse. -/
  others : List Char := []

/-- What a gap becomes in the scalar, put after a text in reverse. -/
def Gap.foldedOnto (g : Gap) (text : List Char) : List Char :=
  if g.broken then
    -- Only a line feed folds: the two separators are kept as they are.
    if g.first.head? == some '\n' then (if g.others.isEmpty then ' ' :: text else g.others ++ text)
    else g.others ++ g.first.reverseAux text
  else g.blanks ++ text

/-- Reads blanks and line ends. On a line that follows a line end, a tab before the
given column is an error. -/
def readGap (tabsFrom : Nat) : Nat → Gap → Cursor → Except Error (Gap × Cursor)
  | 0, g, c => .ok (g, c)
  | fuel + 1, g, c =>
    match c.head? with
    | none => .ok (g, c)
    | some x =>
      if isBlank x then
        if g.broken then
          if x = '\t' && c.column < tabsFrom then .error .tab
          else readGap tabsFrom fuel g (c.advance 1)
        else readGap tabsFrom fuel { g with blanks := x :: g.blanks } (c.advance 1)
      else if isBreak x then
        let (b, c) := c.readBreak
        if g.broken then readGap tabsFrom fuel { g with others := b.reverseAux g.others } c
        else readGap tabsFrom fuel { g with blanks := [], broken := true, first := b } c
      else .ok (g, c)

/-! ## Plain scalars -/

/-- Whether a character ends a plain scalar inside a flow collection. -/
def isFlowMark (c : Char) : Bool :=
  c = ',' || c = '[' || c = ']' || c = '\x7b' || c = '\x7d'

/-- The length of the word at the start of a text that belongs to a plain scalar. -/
def plainRun (inFlow : Bool) : List Char → Except Error Nat
  | [] => .ok 0
  | c :: rest =>
    if !isSolid c then .ok 0
    else if inFlow && c = ':' && rest.head?.any (fun d => isFlowMark d || d = '?') then
      .error .flowColon
    else if (c = ':' && atGap rest) || (inFlow && isFlowMark c) then .ok 0
    else (plainRun inFlow rest).map (· + 1)

/-- A plain scalar that was read. -/
structure PlainScalar where
  text : List Char
  /-- Whether a line ended after the text. -/
  lineEnded : Bool
  after : Cursor

/-- Reads on in a plain scalar, given its text up to here in reverse and the gap
after it. -/
def readPlain (inFlow : Bool) (indent : Nat) : Nat → List Char → Gap → Cursor →
    Except Error PlainScalar
  | 0, text, g, c => .ok ⟨text.reverse, g.broken, c⟩
  | fuel + 1, text, g, c => do
    if c.atDocumentMark '-' || c.atDocumentMark '.' || c.at? '#' then
      return ⟨text.reverse, g.broken, c⟩
    let n ← plainRun inFlow c.rest
    -- A gap joins the text only once a word follows it.
    let text := if n = 0 then text else (c.rest.take n).reverseAux (g.foldedOnto text)
    let g := if n = 0 then g else {}
    let c := c.advance n
    if !c.head?.any (fun x => isBlank x || isBreak x) then
      return ⟨text.reverse, g.broken, c⟩
    let (g, c) ← readGap indent (fuel + 1) g c
    if !inFlow && c.column < indent then
      return ⟨text.reverse, g.broken, c⟩
    readPlain inFlow indent fuel text g c

/-! ## Quoted scalars -/

/-- The value of a hexadecimal digit, if it is one. -/
def hexDigit? (d : Char) : Option Nat :=
  if d.isDigit then some (d.toNat - '0'.toNat)
  else if 'a' ≤ d && d ≤ 'f' then some (d.toNat - 'a'.toNat + 10)
  else if 'A' ≤ d && d ≤ 'F' then some (d.toNat - 'A'.toNat + 10)
  else none

/-- The value of hexadecimal digits, if they are. -/
def hexNumber? (ds : List Char) : Option Nat :=
  ds.foldlM (fun n d => (hexDigit? d).map (n * 16 + ·)) 0

/-- What a letter after a backslash stands for: a character, or a code of some
number of digits. -/
def escapeOf? (c : Char) : Option (Char ⊕ Nat) :=
  match c with
  | '0' => some (.inl '\x00')
  | 'a' => some (.inl '\x07')
  | 'b' => some (.inl '\x08')
  | 't' | '\t' => some (.inl '\t')
  | 'n' => some (.inl '\n')
  | 'v' => some (.inl '\x0b')
  | 'f' => some (.inl '\x0c')
  | 'r' => some (.inl '\r')
  | 'e' => some (.inl '\x1b')
  | ' ' => some (.inl ' ')
  | '"' => some (.inl '"')
  | '/' => some (.inl '/')
  | '\\' => some (.inl '\\')
  | 'N' => some (.inl '\u0085')
  | '_' => some (.inl '\u00a0')
  | 'L' => some (.inl '\u2028')
  | 'P' => some (.inl '\u2029')
  | 'x' => some (.inr 2)
  | 'u' => some (.inr 4)
  | 'U' => some (.inr 8)
  | _ => none

/-- Reads an escape after its backslash. -/
def readEscape (c : Cursor) : Except Error (Char × Cursor) :=
  match c.head?.bind escapeOf? with
  | none => .error .escape
  | some (.inl x) => .ok (x, c.advance 1)
  | some (.inr width) =>
    let ds := (c.rest.drop 1).take width
    match hexNumber? ds with
    | none => .error .escape
    | some n =>
      if ds.length < width || (0xD800 ≤ n && n ≤ 0xDFFF) || 0x10FFFF < n then .error .escape
      else .ok (Char.ofNat n, c.advance (width + 1))

/-- What ended a run of words in a quoted scalar. -/
inductive RunEnd where
  | gap
  | quote
  /-- A backslash at the end of a line. -/
  | escapedBreak
deriving DecidableEq

/-- Reads the text up to a gap, an escaped line end or the closing quote, given what
was read in reverse. -/
def quotedRun (single : Bool) : Nat → List Char → Cursor → Except Error (List Char × RunEnd × Cursor)
  | 0, text, c => .ok (text, .gap, c)
  | fuel + 1, text, c =>
    match c.rest with
    | [] => .ok (text, .gap, c)
    | x :: rest =>
      if !isSolid x then .ok (text, .gap, c)
      else if single then
        if x = '\'' then
          if rest.head? == some '\'' then quotedRun single fuel ('\'' :: text) (c.advance 2)
          else .ok (text, .quote, c)
        else quotedRun single fuel (x :: text) (c.advance 1)
      else if x = '"' then .ok (text, .quote, c)
      else if x = '\\' then
        if rest.head?.any isBreak then .ok (text, .escapedBreak, (c.advance 1).skipBreak)
        else do
          let (y, c) ← readEscape (c.advance 1)
          quotedRun single fuel (y :: text) c
      else quotedRun single fuel (x :: text) (c.advance 1)

/-- Reads on in a quoted scalar, up to and with its closing quote, given what was read
in reverse. -/
def readQuoted (single : Bool) : Nat → List Char → Cursor → Except Error (List Char × Cursor)
  | 0, _, _ => .error .unclosedQuote
  | fuel + 1, text, c => do
    if c.atDocumentMark '-' || c.atDocumentMark '.' then throw .misplaced
    if c.rest.isEmpty then throw .unclosedQuote
    let (text, ending, c) ← quotedRun single (fuel + 1) text c
    if c.at? (if single then '\'' else '"') then
      return (text.reverse, c.advance 1)
    -- An escaped line end is passed over already, and no space stands for it.
    let start : Gap := { broken := ending = .escapedBreak }
    let (g, c) ← readGap 0 (fuel + 1) start c
    readQuoted single fuel (g.foldedOnto text) c

/-! ## Block scalars -/

/-- What becomes of the line ends at the end of a block scalar. -/
inductive Chomping where
  | strip
  | clip
  | keep
deriving DecidableEq

/-- Reads the sign for the line ends at the end of a block scalar. -/
def readChomping (c : Cursor) : Option Chomping × Cursor :=
  match c.head? with
  | some '+' => (some .keep, c.advance 1)
  | some '-' => (some .strip, c.advance 1)
  | _ => (none, c)

/-- Reads the digit for the indentation of a block scalar, zero if there is none. -/
def readIncrement (c : Cursor) : Except Error (Nat × Cursor) :=
  match c.head? with
  | some d =>
    if d.isDigit then
      if d = '0' then .error .blockHeader else .ok (d.toNat - '0'.toNat, c.advance 1)
    else .ok (0, c)
  | none => .ok (0, c)

/-- Reads the header of a block scalar: the two signs in either order, then nothing
but blanks and a comment. -/
def readBlockHeader (c : Cursor) : Except Error (Chomping × Nat × Cursor) := do
  let (chomping, c) := readChomping c
  let (increment, c) ← readIncrement c
  let (chomping, c) :=
    if chomping.isNone && increment ≠ 0 then readChomping c else (chomping, c)
  let c := c.skipWhile isBlank
  let c := if c.at? '#' then c.skipWhile (!isBreak ·) else c
  if !atLineEnd c.rest then throw .blockHeader
  return (chomping.getD .clip, increment, c.skipBreak)

/-- Reads indentation and empty lines; with no indentation given, up to the first
character that is no space. Gives the line ends in reverse and the widest
indentation. -/
def readEmptyLines (indent : Nat) : Nat → Nat → List Char → Cursor →
    Except Error (List Char × Nat × Cursor)
  | 0, widest, breaks, c => .ok (breaks, widest, c)
  | fuel + 1, widest, breaks, c =>
    let spaces := c.rest.takeWhile (· = ' ')
    let n := if indent = 0 then spaces.length else min spaces.length (indent - c.column)
    let c := c.advance n
    let widest := max widest c.column
    if (indent = 0 || c.column < indent) && c.at? '\t' then .error .tab
    else if !c.head?.any isBreak then .ok (breaks, widest, c)
    else
      let (b, c) := c.readBreak
      readEmptyLines indent fuel widest (b.reverseAux breaks) c

/-- A block scalar that is being read. -/
structure Block where
  /-- The text up to the last line's end, in reverse. -/
  text : List Char := []
  /-- The line end of the last line. -/
  lineEnd : List Char := []
  /-- The empty lines after it, in reverse. -/
  empties : List Char
  /-- Whether the last line started with a blank. -/
  blankStart : Bool := false
  after : Cursor

/-- Reads the lines of a block scalar. -/
def readBlockLines (isLiteral : Bool) (indent : Nat) : Nat → Block → Except Error Block
  | 0, b => .ok b
  | fuel + 1, b => do
    let c := b.after
    if c.column ≠ indent || c.rest.isEmpty then return b
    let blankStart := c.head?.any isBlank
    let fold := !isLiteral && b.lineEnd.head? == some '\n' && !b.blankStart && !blankStart
    let joint := if fold then (if b.empties.isEmpty then [' '] else []) else b.lineEnd
    let (line, c) := c.takeWhile (!isBreak ·)
    let (lineEnd, c) := c.readBreak
    let (empties, _, c) ← readEmptyLines indent (fuel + 1) 0 [] c
    let text := line.reverseAux (b.empties ++ joint.reverseAux b.text)
    readBlockLines isLiteral indent fuel { text, lineEnd, empties, blankStart, after := c }

/-- Reads a block scalar after its first character, given the column to which the
block around it is indented. -/
def readBlock (isLiteral : Bool) (parent : Int) (fuel : Nat) (c : Cursor) :
    Except Error (List Char × Cursor) := do
  let (chomping, increment, c) ← readBlockHeader c
  let given : Nat :=
    if increment = 0 then 0 else if 0 ≤ parent then parent.toNat + increment else increment
  let (empties, widest, c) ← readEmptyLines given fuel 0 [] c
  let indent := if given = 0 then max (max widest (parent + 1).toNat) 1 else given
  let b ← readBlockLines isLiteral indent fuel { empties, after := c }
  let text := match chomping with
    | .strip => b.text
    | .clip => b.lineEnd.reverseAux b.text
    | .keep => b.empties ++ b.lineEnd.reverseAux b.text
  return (text.reverse, b.after)

end Groundwork.Yaml
