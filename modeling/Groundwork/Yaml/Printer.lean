/-
Writing YAML. Records and lists are written as blocks, a list in a record without
further indentation; empty ones in braces and brackets. A text is plain if it would
be read as itself, a literal block if it has lines, and quoted otherwise.
-/
import Groundwork.Yaml.Character
import Groundwork.Yaml.Plain
import Groundwork.Yaml.Tree

set_option autoImplicit false

namespace Groundwork.Yaml

/-! ## How a text can be written -/

/-- What matters about a text for how it can be written. -/
structure Shape where
  /-- It has line ends. -/
  hasBreaks : Bool
  /-- It may be plain. -/
  plain : Bool
  /-- It may stand between single quotes. -/
  single : Bool
  /-- It may be a literal block. -/
  literal : Bool
deriving DecidableEq, Repr

/-- Whether a text goes on with a blank or the end of a line, or is at its end. -/
def gapNext (rest : List Char) : Bool :=
  atGap rest

/-- The characters with which no plain scalar starts, whatever follows. -/
def startMarks : List Char :=
  "#,[]\x7b\x7d&*!|>'\"%@`".toList

/-- Whether a plain scalar cannot start with a character before the rest. -/
def barsStart (c : Char) (rest : List Char) : Bool :=
  startMarks.contains c || ((c = '?' || c = ':' || c = '-') && gapNext rest)

/-- Whether somewhere after its start a text holds a mark that would end a plain
scalar: a colon before a gap or a number sign after one. -/
def hasInnerMark : Char → List Char → Bool
  | _, [] => false
  | before, c :: rest =>
    (c = ':' && gapNext rest) || (c = '#' && !isSolid before) || hasInnerMark c rest

/-- Whether a text has a space right before a line end. -/
def hasSpaceBreak : List Char → Bool
  | [] => false
  | c :: rest => (c = ' ' && rest.head?.any isBreak) || hasSpaceBreak rest

/-- Whether a text has a space right after a line end. -/
def hasBreakSpace : List Char → Bool
  | [] => false
  | c :: rest => (isBreak c && rest.head? == some ' ') || hasBreakSpace rest

/-- Whether a text starts like a document's mark. -/
def startsLikeMark (s : List Char) : Bool :=
  s.take 3 == ['-', '-', '-'] || s.take 3 == ['.', '.', '.']

/-- How a text can be written. -/
def shape (s : List Char) : Shape :=
  match s with
  | [] => ⟨false, true, true, false⟩
  | c :: rest =>
    let edge (x : Char) := x = ' ' || isBreak x
    let hasBreaks := s.any isBreak
    let marked := startsLikeMark s || barsStart c rest || hasInnerMark c rest
    let edged := edge c || s.getLast?.any edge
    let special := hasSpaceBreak s || !s.all isPrintable
    { hasBreaks
      plain := !marked && !edged && !hasBreaks && !special
      single := !special && !hasBreakSpace s
      literal := !special && s.getLast? != some ' ' }

/-- How a text is written. -/
inductive Form where
  | plain
  | single
  | double
  | literal
deriving DecidableEq, Repr

/-- How a text is written, as a key on one line or as a value. -/
def form (s : String) (key : Bool) : Form :=
  let sh := shape s.toList
  let quotes := if sh.single then Form.single else .double
  -- A key stands on one line, where only double quotes can hold line ends.
  if key && sh.hasBreaks then .double
  else if '\n' ∈ s.toList then
    if sh.literal && !key then .literal else .double
  else if needsQuotes s then quotes
  else if sh.plain then .plain
  else quotes

/-! ## Writing -/

/-- What is written so far, in reverse, and what matters for going on. -/
structure Page where
  out : List Char := []
  column : Nat := 0
  /-- Whether a blank or nothing stands before. -/
  spaced : Bool := true
  /-- Whether nothing but indentation and signs stands before on the line. -/
  indented : Bool := true

namespace Page

/-- Writes a character that ends no line. -/
def put (p : Page) (c : Char) : Page :=
  { p with out := c :: p.out, column := p.column + 1 }

/-- Writes characters that end no line. -/
def puts (p : Page) (cs : List Char) : Page :=
  cs.foldl put p

/-- Writes the end of a line. -/
def newline (p : Page) : Page :=
  { p with out := '\n' :: p.out, column := 0 }

/-- Writes a character that ends a line as it is. -/
def putBreak (p : Page) (c : Char) : Page :=
  { p with out := c :: p.out, column := 0 }

/-- Goes to a column of a line with nothing but indentation, this one if possible. -/
def indentTo (p : Page) (column : Nat) : Page :=
  let fresh := !p.indented || column < p.column || (p.column == column && !p.spaced)
  let p := if fresh then p.newline else p
  { p.puts (List.replicate (column - p.column) ' ') with spaced := true, indented := true }

/-- Writes a sign; `spaceBefore` if it must not touch what stands before, `opens` if
what it opens may go on at the same line's indentation. -/
def sign (p : Page) (s : String) (spaceBefore : Bool) (opens : Bool) : Page :=
  let p := if spaceBefore && !p.spaced then p.put ' ' else p
  { p.puts s.toList with spaced := false, indented := p.indented && opens }

/-- The page after a scalar. -/
def closed (p : Page) : Page :=
  { p with spaced := false, indented := false }

/-! ### Scalars -/

/-- Writes a plain scalar. -/
def plain (p : Page) (s : List Char) : Page :=
  let p := if !p.spaced && !s.isEmpty then p.put ' ' else p
  (p.puts s).closed

/-- Writes the inside of a scalar in single quotes; `broken` after a line end. -/
def singleText (column : Nat) : List Char → Bool → Page → Page
  | [], broken, p => if broken then p.indentTo column else p
  | c :: rest, broken, p =>
    if c = ' ' then singleText column rest broken (p.put ' ')
    else if isBreak c then
      let p := if !broken && c = '\n' then p.newline else p
      singleText column rest true { p.putBreak c with indented := true }
    else
      let p := if broken then p.indentTo column else p
      let p := if c = '\'' then p.put '\'' else p
      singleText column rest false { p.put c with indented := false }

/-- Writes a scalar in single quotes. -/
def single (p : Page) (column : Nat) (s : List Char) : Page :=
  ((singleText column s false (p.sign "'" true false)).sign "'" false false).closed

/-- A code point in hexadecimal, with capitals and of some width. -/
def hex (width n : Nat) : List Char :=
  let ds := (Nat.toDigits 16 n).map Char.toUpper
  List.replicate (width - ds.length) '0' ++ ds

/-- How a character stands between double quotes. -/
def doubleChar (c : Char) : List Char :=
  match c with
  | '\x00' => ['\\', '0']
  | '\x07' => ['\\', 'a']
  | '\x08' => ['\\', 'b']
  | '\t' => ['\\', 't']
  | '\n' => ['\\', 'n']
  | '\x0b' => ['\\', 'v']
  | '\x0c' => ['\\', 'f']
  | '\r' => ['\\', 'r']
  | '\x1b' => ['\\', 'e']
  | '"' => ['\\', '"']
  | '\\' => ['\\', '\\']
  | '\u0085' => ['\\', 'N']
  | '\u2028' => ['\\', 'L']
  | '\u2029' => ['\\', 'P']
  | c =>
    if isPrintable c then [c]
    else if c.toNat ≤ 0xFF then ['\\', 'x'] ++ hex 2 c.toNat
    else if c.toNat ≤ 0xFFFF then ['\\', 'u'] ++ hex 4 c.toNat
    else ['\\', 'U'] ++ hex 8 c.toNat

/-- Writes a scalar in double quotes. -/
def double (p : Page) (s : List Char) : Page :=
  (((p.sign "\"" true false).puts (s.flatMap doubleChar)).sign "\"" false false).closed

/-- The signs after the bar of a literal block: a digit if its first character could
be taken for indentation, and what becomes of its last line ends. -/
def literalHints (s : List Char) : List Char :=
  let first := if s.head?.any (fun c => c = ' ' || isBreak c) then ['2'] else []
  let last := match s.reverse with
    | [] => ['-']
    | c :: rest =>
      if !isBreak c then ['-']
      else if rest.isEmpty || rest.head?.any isBreak then ['+']
      else []
  first ++ last

/-- Writes the lines of a literal block; `broken` after a line end. -/
def literalText (column : Nat) : List Char → Bool → Page → Page
  | [], _, p => p
  | c :: rest, broken, p =>
    if isBreak c then literalText column rest true { p.putBreak c with indented := true }
    else
      let p := if broken then p.indentTo column else p
      literalText column rest false { p.put c with indented := false }

/-- Writes a literal block. -/
def literal (p : Page) (column : Nat) (s : List Char) : Page :=
  let p := (p.sign "|" true false).puts (literalHints s)
  literalText column s true { p.newline with spaced := true, indented := true }

/-- Writes a text in a form, with its further lines at a column. -/
def scalar (p : Page) (column : Nat) (s : String) : Form → Page
  | .plain => p.plain s.toList
  | .single => p.single column s.toList
  | .double => p.double s.toList
  | .literal => p.literal column s.toList

/-! ### Collections -/

/-- Whether a name is written on one line before its colon. -/
def isSimpleKey (name : String) : Bool :=
  !(shape name.toList).hasBreaks && name.utf8ByteSize ≤ 128

/-- Writes the name of a field and the colon after it. -/
def fieldName (p : Page) (column : Nat) (name : String) : Page :=
  let p := p.indentTo column
  if isSimpleKey name then (p.scalar (column + 2) name (form name true)).sign ":" false false
  else
    let p := (p.sign "?" true true).scalar (column + 2) name (form name false)
    (p.indentTo column).sign ":" true true

mutual

/-- Writes a value of a field or an item of a list; `column` is that of the block
around it, and `inRecord` tells which it is. -/
def value (inRecord : Bool) (column : Nat) : Tree → Page → Page
  | .text s, p => p.scalar (column + 2) s (form s false)
  | .flag b, p => p.plain (if b then "true" else "false").toList
  | .list [], p => (p.sign "[" true true).sign "]" false false
  | .record [], p => (p.sign "\x7b" true true).sign "\x7d" false false
  | .list items, p =>
    -- The dashes of a list in a record stand right below the field's name.
    listItems (if inRecord && !p.indented then column else column + 2) items p
  | .record fields, p => recordFields (column + 2) fields p

/-- Writes the items of a list at a column. -/
def listItems (column : Nat) : List Tree → Page → Page
  | [], p => p
  | t :: ts, p => listItems column ts (value false column t ((p.indentTo column).sign "-" true true))

/-- Writes the fields of a record at a column. -/
def recordFields (column : Nat) : List (String × Tree) → Page → Page
  | [], p => p
  | (name, t) :: fs, p => recordFields column fs (value true column t (p.fieldName column name))

end

/-- Writes the value of a document. -/
def root (p : Page) : Tree → Page
  | .list (t :: ts) => listItems 0 (t :: ts) p
  | .record (f :: fs) => recordFields 0 (f :: fs) p
  | t => value false 0 t p

end Page

/-- A value as a document. -/
def Tree.print (t : Tree) : String :=
  String.ofList ((({} : Page).root t).indentTo 0).out.reverse

end Groundwork.Yaml
