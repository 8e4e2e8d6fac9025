/-
Media types, as headers name them: `type/subtype`, with a suffix after a plus sign and
parameters after semicolons. Only JSON matters here.
-/
set_option autoImplicit false

namespace Groundwork.Web.MediaType

/-- Whether a character may stand in a name. -/
def isNameChar (c : Char) : Bool :=
  c.isAlphanum || "!#$%&'*+-.^_`|~".toList.contains c

/-- Whether a character may stand between quotes. -/
def isQuotedChar (c : Char) : Bool :=
  0x20 ≤ c.toNat && c.toNat < 0x7f && c ≠ '"' && c ≠ '\\'

/-- What follows a quoted value and the semicolon after it. -/
def dropQuoted : List Char → Option (List Char)
  | [] => none
  | '"' :: rest =>
    match rest.dropWhile (· == ' ') with
    | [] => some []
    | ';' :: rest => some rest
    | _ => none
  | '\\' :: c :: rest => if c.toNat < 0x80 then dropQuoted rest else none
  | c :: rest => if isQuotedChar c then dropQuoted rest else none

/-- What follows the value of a parameter and the semicolon after it. -/
def dropValue (s : List Char) : Option (List Char) :=
  match s with
  | '"' :: rest => if rest.head? == some '"' then none else dropQuoted rest
  | s =>
    let (value, rest) := s.span isNameChar
    match rest with
    | [] => some []
    | ';' :: rest => if value.isEmpty then none else some rest
    | _ => none

/-- Whether a text is made of parameters. -/
def areParameters : Nat → List Char → Bool
  | 0, s => s.isEmpty
  | fuel + 1, s =>
    match s.dropWhile (· == ' ') with
    | [] => true
    | s =>
      let (name, rest) := s.span isNameChar
      match name, rest with
      | _ :: _, '=' :: rest =>
        match dropValue rest with
        | some rest => areParameters fuel rest
        | none => false
      | _, _ => false

/-- A name cut at its last plus sign, unless that is its first character: the subtype,
and the suffix. -/
def splitSuffix (name : List Char) : List Char × Option (List Char) :=
  match name with
  | [] => ([], none)
  | c :: rest =>
    let tail := rest.reverse.takeWhile (· ≠ '+')
    if tail.length = rest.length then (name, none)
    else (c :: rest.take (rest.length - tail.length - 1), some tail.reverse)

/-- Whether a media type says that a body is JSON. -/
def isJson (text : String) : Bool :=
  let (kind, rest) := (text.toList.map Char.toLower).span isNameChar
  match rest with
  | '/' :: rest =>
    let (name, rest) := rest.span isNameChar
    let (subtype, suffix) := splitSuffix name
    let wellFormed := !name.isEmpty && match rest with
      | [] => true
      | ';' :: rest => areParameters rest.length rest
      | _ => false
    kind == "application".toList && wellFormed &&
      (subtype == "json".toList || suffix == some "json".toList)
  | _ => false

end Groundwork.Web.MediaType
