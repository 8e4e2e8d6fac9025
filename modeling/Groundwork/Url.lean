/-
Addresses. They are read as browsers read them: what can be understood is, and is
written in one normal form. Schemes that browsers know have rules of their own.
-/
import Groundwork.Url.Host

set_option autoImplicit false

namespace Groundwork

/-- The parts of an address, each as it is written in it. -/
structure Url where
  scheme : String
  /-- What comes after two slashes: user and password, host, and port. -/
  authority : Option (List Char × List Char × Url.Host × Option Nat) := none
  /-- The path; it has segments unless it starts with neither a slash nor a host. -/
  path : List Char
  query : Option (List Char) := none
  fragment : Option (List Char) := none
deriving DecidableEq, Repr

namespace Url

/-! ## Schemes -/

/-- The port that a scheme goes by; schemes that have one are special. -/
def defaultPort? (scheme : String) : Option Nat :=
  match scheme with
  | "http" | "ws" => some 80
  | "https" | "wss" => some 443
  | "ftp" => some 21
  | _ => none

/-- Whether a scheme has rules of its own. -/
def isSpecial (scheme : String) : Bool :=
  (defaultPort? scheme).isSome || scheme == "file"

/-- Reads a scheme and the colon after it. -/
def scheme? (s : List Char) : Option (String × List Char) :=
  let isSchemeChar (c : Char) := c.isAlphanum || c = '+' || c = '-' || c = '.'
  match s with
  | c :: _ =>
    if c.isAlpha then
      match s.dropWhile isSchemeChar with
      | ':' :: rest => some (String.ofList ((s.takeWhile isSchemeChar).map Char.toLower), rest)
      | _ => none
    else none
  | [] => none

/-! ## Paths -/

/-- Whether a segment stands for the directory itself. -/
def isDot (segment : List Char) : Bool :=
  segment = ['.'] || segment.map Char.toLower = "%2e".toList

/-- Whether a segment stands for the directory above. -/
def isTwoDots (segment : List Char) : Bool :=
  ["..", "%2e.", ".%2e", "%2e%2e"].contains (String.ofList (segment.map Char.toLower))

/-- Whether a text is the letter of a drive with a sign after it. -/
def isDrive (signs : List Char) : List Char → Bool
  | [c, sign] => c.isAlpha && signs.contains sign
  | _ => false

/-- Segments without the last one, but a drive is kept. -/
def shorten (file : Bool) : List (List Char) → List (List Char)
  | [] => []
  | [segment] => if file && isDrive [':'] segment then [segment] else []
  | _ :: above => above

/-- Resolves dots in segments; `above` holds those before them, last one first. -/
def resolveDots (file : Bool) (above : List (List Char)) : List (List Char) → List (List Char)
  | [] => above.reverse
  | segment :: rest =>
    if isTwoDots segment then
      -- At the end of a path dots leave a directory, which is written with a slash.
      let above := shorten file above
      resolveDots file (if rest.isEmpty then [] :: above else above) rest
    else if isDot segment then
      resolveDots file (if rest.isEmpty then [] :: above else above) rest
    else
      let segment := match segment with
        | [c, '|'] => if file && above.isEmpty && c.isAlpha then [c, ':'] else segment
        | _ => segment
      resolveDots file (segment :: above) rest

/-- Segments with a slash before each. -/
def pathText (segments : List (List Char)) : List Char :=
  segments.flatMap ('/' :: ·)

/-- A text cut into segments, at backslashes as well where they count as slashes. -/
def segmentsOf (special : Bool) (s : List Char) : List (List Char) :=
  Text.splitAll '/' (if special then s.map fun c => if c = '\\' then '/' else c else s)

/-- Segments with a drive at their start set apart from what follows it. -/
def splitDrive : List (List Char) → List (List Char)
  | (c :: ':' :: d :: rest) :: segments =>
    if c.isAlpha then [c, ':'] :: (d :: rest) :: segments else (c :: ':' :: d :: rest) :: segments
  | segments => segments

/-- A path in normal form. `s` starts after the first slash. -/
def normalPath (scheme : String) (s : List Char) : List Char :=
  let file := scheme == "file"
  let segments := (segmentsOf (isSpecial scheme) s).map (percentEncode inPathSet)
  let segments := resolveDots file [] (if file then splitDrive segments else segments)
  -- The path of a file starts with one slash, however many were there.
  if file then '/' :: (pathText segments).dropWhile (· = '/') else pathText segments

/-! ## Authorities -/

/-- A text without its first character, if that is a slash of some kind. -/
def dropSlash (special : Bool) : List Char → List Char
  | '/' :: rest => rest
  | '\\' :: rest => if special then rest else '\\' :: rest
  | s => s

/-- Whether a character ends the authority. -/
def endsAuthority (special : Bool) (c : Char) : Bool :=
  c = '/' || c = '?' || c = '#' || (special && c = '\\')

/-- Cuts a host from what comes after it. A colon between brackets belongs to it. -/
def takeHost (bracket : Bool) : List Char → List Char × List Char
  | [] => ([], [])
  | c :: rest =>
    if c = ':' && !bracket then ([], c :: rest)
    else
      let (host, rest) := takeHost (c = '[' || (bracket && c ≠ ']')) rest
      (c :: host, rest)

/-- Reads a port. One that the scheme goes by anyway is left out. -/
def port? (scheme : String) (s : List Char) : Option (Option Nat) :=
  if s.isEmpty then some none
  else if !s.all Char.isDigit then none
  else
    match readDigits 10 Hex.digit? s with
    | some n =>
      if UInt16.size ≤ n then none
      else some (if defaultPort? scheme = some n then none else some n)
    | none => none

/-- Reads a user and a password. -/
def userOf (s : List Char) : List Char × List Char :=
  match Text.splitFirst? ':' s with
  | some (user, password) => (percentEncode inUserSet user, percentEncode inUserSet password)
  | none => (percentEncode inUserSet s, [])

/-- Reads an authority. -/
def authority? (scheme : String) (s : List Char) :
    Option (List Char × List Char × Host × Option Nat) := do
  let special := isSpecial scheme
  -- Signs before the last one belong to the user or the password.
  let (user, password, rest) := match Text.splitLast? '@' s with
    | some (info, rest) => ((userOf info).1, (userOf info).2, rest)
    | none => ([], [], s)
  let (host, after) := takeHost false rest
  let hasPort := !after.isEmpty
  -- Special schemes need a host, and so do a user and a port.
  if host.isEmpty && (special || hasPort || s.contains '@') then none
  let host ← if special then Host.parse? host else Host.parseOther? host
  let port ← port? scheme (after.drop 1)
  return (user, password, host, port)

/-! ## Reading -/

/-- An address with its query and fragment, of which `s` holds what comes after the
path. -/
def withTail (u : Url) (s : List Char) : Url :=
  let (query, fragment) := match Text.splitFirst? '#' s with
    | some (query, fragment) => (query, some fragment)
    | none => (s, none)
  let set := if isSpecial u.scheme then inSpecialQuerySet else inQuerySet
  { u with
    query := match query with
      | '?' :: query => some (percentEncode set query)
      | _ => none
    fragment := fragment.map (percentEncode inFragmentSet) }

/-- Whether a character ends the path. -/
def endsPath (c : Char) : Bool :=
  c = '?' || c = '#'

/-- Reads what comes after the two slashes. -/
def afterSlashes? (scheme : String) (s : List Char) : Option Url := do
  let special := isSpecial scheme
  let authority ← authority? scheme (s.takeWhile (!endsAuthority special ·))
  let rest := s.dropWhile (!endsAuthority special ·)
  let path := rest.takeWhile (!endsPath ·)
  let path := if path.isEmpty && !special then [] else normalPath scheme (dropSlash special path)
  return withTail { scheme, authority := some authority, path } (rest.dropWhile (!endsPath ·))

/-- The authority of a file without a host. -/
def noHost : List Char × List Char × Host × Option Nat :=
  ([], [], .name [], none)

/-- Reads the address of a file after the colon. -/
def file? (s : List Char) : Option Url := do
  let isSlash (c : Char) := c = '/' || c = '\\'
  let (host, rest) := match s with
    | a :: b :: rest =>
      if isSlash a && isSlash b then
        let host := rest.takeWhile (!endsAuthority true ·)
        -- What looks like a drive starts the path.
        if isDrive [':', '|'] host then ([], rest) else (host, rest.drop host.length)
      else ([], s)
    | _ => ([], s)
  let host ← if host.isEmpty then some (Host.name []) else Host.parse? host
  let path := normalPath "file" (dropSlash true (rest.takeWhile (!endsPath ·)))
  let drive := match path with
    | ['/', c, ':'] => c.isAlpha
    | '/' :: c :: ':' :: '/' :: _ => c.isAlpha
    | _ => false
  -- A drive is on this machine, whatever host was named.
  let host := if drive || host = .name "localhost".toList then .name [] else host
  return withTail { scheme := "file", authority := some ([], [], host, none), path }
    (rest.dropWhile (!endsPath ·))

/-- Reads an address with another scheme and no authority. -/
def other (scheme : String) (s : List Char) : Url :=
  let path := s.takeWhile (!endsPath ·)
  let path := match path with
    | '/' :: rest => normalPath scheme rest
    | path => percentEncode isControl path
  withTail { scheme, path } (s.dropWhile (!endsPath ·))

/-- A text as it is read: blanks and controls at its ends do not count, nor do tabs and
line ends anywhere. -/
def significant (s : List Char) : List Char :=
  let isMargin (c : Char) := c.toNat ≤ 0x20
  let s := ((s.dropWhile isMargin).reverse.dropWhile isMargin).reverse
  s.filter fun c => c ≠ '\t' && c ≠ '\n' && c ≠ '\r'

/-- Reads an address. -/
def parse? (text : String) : Option Url := do
  let (scheme, rest) ← scheme? (significant text.toList)
  if scheme = "file" then file? rest
  else if isSpecial scheme then
    afterSlashes? scheme (rest.dropWhile fun c => c = '/' || c = '\\')
  else match rest with
    | '/' :: '/' :: rest => afterSlashes? scheme rest
    | rest => some (other scheme rest)

/-! ## Writing -/

/-- Writes an authority. -/
def authorityText : List Char × List Char × Host × Option Nat → List Char
  | (user, password, host, port) =>
    let login := if password.isEmpty then user else user ++ [':'] ++ password
    (if login.isEmpty then [] else login ++ ['@']) ++ host.text
      ++ match port with
        | some n => ':' :: Nat.toDigits 10 n
        | none => []

/-- The path with the query and the fragment. -/
def route (u : Url) : String :=
  String.ofList <| u.path
    ++ (match u.query with
      | some query => '?' :: query
      | none => [])
    ++ match u.fragment with
      | some fragment => '#' :: fragment
      | none => []

/-- Writes an address. A path that starts with two slashes is kept from looking like an
authority. -/
def text (u : Url) : String :=
  u.scheme ++ ":" ++ (match u.authority with
    | some authority => String.ofList ('/' :: '/' :: authorityText authority)
    | none => if ['/', '/'].isPrefixOf u.path then "/." else "") ++ u.route

/-! ## Routes -/

/-- The route that an address names on its host; a text that starts with a slash is a
route already. -/
def routeOf? (text : String) : Option String :=
  if text.toList.head? = some '/' then some text else (parse? text).map route

/-- What is said about a text that names no route. -/
def invalidMessage (text : String) : String :=
  "Invalid URL " ++ text

end Url

end Groundwork
