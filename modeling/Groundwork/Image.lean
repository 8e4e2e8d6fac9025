/-
References to container images: a registry, a path in it, and an optional tag and
digest. Reading fills in what is left out, so that `alpine` and
`docker.io/library/alpine` are one image, and only two images may be run.
-/
import Groundwork.Text.Quoted
import Groundwork.Text.Split
import Groundwork.Text.WordChar

set_option autoImplicit false

namespace Groundwork

/-- A reference to a container image with nothing left out but tag and digest. -/
structure Image where
  domain : String
  path : String
  tag : Option String
  digest : Option String
deriving DecidableEq, Repr

namespace Image

/-- Why a text refers to no image. -/
inductive Error where
  | empty
  | digest (text : String)
  | tag (text : String)
  | upperCase
  | component (text : String)
deriving DecidableEq, Repr

/-- What is said about such a text. -/
def Error.message : Error → String
  | empty => "empty reference"
  | digest text => "invalid digest " ++ text
  | tag text => "invalid tag " ++ text
  | upperCase => "repository name must be lowercase"
  | component text => "invalid path component " ++ Text.quoted text

/-! ## The parts of a reference -/

/-- Whether a text is a digest algorithm: words of a letter and then letters and
digits, with one of `+`, `.`, `-` and `_` between two of them. `start` tells whether
a word starts here. -/
def isAlgorithm (start : Bool) : List Char → Bool
  | [] => !start
  | c :: rest =>
    if start then c.isAlpha && isAlgorithm false rest
    else if c.isAlphanum then isAlgorithm false rest
    else (c = '-' || c = '_' || c = '+' || c = '.') && isAlgorithm true rest

/-- Whether a character is a hexadecimal digit of either case. -/
def isHex (c : Char) : Bool :=
  c.isDigit || ('a' ≤ c && c ≤ 'f') || ('A' ≤ c && c ≤ 'F')

/-- Whether a text is a digest: an algorithm, a colon and no fewer than 32
hexadecimal digits. -/
def isDigest (s : List Char) : Bool :=
  match Text.splitFirst? ':' s with
  | some (algorithm, digits) =>
    isAlgorithm true algorithm && digits.all isHex && 32 ≤ digits.length
  | none => false

/-- Whether a text is a tag: up to 128 word characters, dots and dashes, the first
one a word character. -/
def isTag : List Char → Bool
  | [] => false
  | c :: rest =>
    Text.isWordChar c && rest.all (fun d => Text.isWordChar d || d = '.' || d = '-')
      && rest.length ≤ 127

/-- Whether a character is a small letter or a digit. -/
def isNameChar (c : Char) : Bool :=
  c.isLower || c.isDigit

/-- What was read last in a path component. -/
inductive Reading where
  | start
  | name
  | mark
  | underscore
  | dash

/-- Whether a text continues a path component: runs of small letters and digits,
with a dot, one or two underscores, or dashes between two of them. -/
def isComponentAfter : Reading → List Char → Bool
  | .name, [] => true
  | _, [] => false
  | state, c :: rest =>
    if isNameChar c then isComponentAfter .name rest
    else match state with
      | .name =>
        if c = '.' then isComponentAfter .mark rest
        else if c = '_' then isComponentAfter .underscore rest
        else c = '-' && isComponentAfter .dash rest
      | .underscore => c = '_' && isComponentAfter .mark rest
      | .dash => c = '-' && isComponentAfter .dash rest
      | .start | .mark => false

/-- Whether a text is a path component. -/
def isComponent (s : List Char) : Bool :=
  isComponentAfter .start s

/-- Whether the part before the first slash names a registry. -/
def isDomain (s : List Char) : Bool :=
  s.contains '.' || s.contains ':' || s == "localhost".toList

/-! ## Reading -/

/-- The registry that is meant when none is named. -/
def defaultDomain : String := "docker.io"

/-- The namespace that is meant when the default registry is given a bare name. -/
def defaultNamespace : String := "library"

/-- Cuts off the digest. -/
def takeDigest (s : List Char) : Except Error (List Char × Option String) :=
  match Text.splitFirst? '@' s with
  | none => .ok (s, none)
  | some (name, digest) =>
    if isDigest digest then .ok (name, some (String.ofList digest))
    else .error (.digest (String.ofList digest))

/-- Cuts off the registry; the default one goes by two names. -/
def takeDomain (name : List Char) : String × List Char :=
  match Text.splitFirst? '/' name with
  | some (first, rest) =>
    if isDomain first then
      (if first = "index.docker.io".toList then defaultDomain else String.ofList first, rest)
    else (defaultDomain, name)
  | none => (defaultDomain, name)

/-- Cuts off the tag. -/
def takeTag (s : List Char) : Except Error (List Char × Option String) :=
  match Text.splitLast? ':' s with
  | none => .ok (s, none)
  | some (path, tag) =>
    if isTag tag then .ok (path, some (String.ofList tag)) else .error (.tag (String.ofList tag))

/-- The first fault of the components of a path. -/
def componentFault (components : List (List Char)) : Option Error :=
  (components.find? fun part => !isComponent part).map fun part =>
    if part.any Char.isUpper then .upperCase else .component (String.ofList part)

/-- Reads a reference, filling in the registry and the namespace. -/
def parse (image : String) : Except Error Image := do
  let s := image.toList
  if s = [] then throw .empty
  let (name, digest) ← takeDigest s
  let (domain, rest) := takeDomain name
  let (path, tag) ← takeTag rest
  if let some fault := componentFault (Text.splitAll '/' path) then throw fault
  let path := String.ofList path
  let path :=
    -- Only the default registry has a namespace for bare names.
    if domain = defaultDomain ∧ '/' ∉ path.toList then defaultNamespace ++ "/" ++ path else path
  return ⟨domain, path, tag, digest⟩

/-- The reference with its registry and path written out. -/
def fullPath (image : Image) : String :=
  image.domain ++ "/" ++ image.path

/-- The reference as text, with nothing left out. -/
def render (image : Image) : String :=
  image.fullPath ++ (image.tag.elim "" (":" ++ ·)) ++ (image.digest.elim "" ("@" ++ ·))

/-- The paths of the images that may be run, in the default registry. -/
def allowedPaths : List String := ["library/alpine", "library/debian"]

/-- Whether an image may be run. -/
def isAllowed (image : Image) : Bool :=
  image.domain == defaultDomain && allowedPaths.contains image.path

end Image

end Groundwork
