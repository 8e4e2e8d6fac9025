/-
Matching globs. A token takes bytes from the start of a text; what is left over is
for the tokens after it. A text matches if nothing can be left over in the end.
-/
import Groundwork.Glob.Reader

set_option autoImplicit false

namespace Groundwork.Glob

/-- The byte of a slash. -/
def slash : UInt8 := 0x2f

/-! ## Classes -/

/-- The ranges of bytes that a range of characters stands for. Of a character of more
bytes than one, each byte counts on its own. -/
def byteRanges : Char × Char → List (UInt8 × UInt8)
  | (first, last) =>
    let bytes := String.utf8EncodeChar first
    if first = last then bytes.map fun b => (b, b)
    else
      let others := String.utf8EncodeChar last
      bytes.dropLast.map (fun b => (b, b)) ++ [(bytes.getLastD 0, others.headD 0)]
        ++ others.tail.map fun b => (b, b)

/-- Whether a byte is in one of some ranges. -/
def inRanges (ranges : List (Char × Char)) (b : UInt8) : Bool :=
  (ranges.flatMap byteRanges).any fun (lo, hi) => lo ≤ b && b ≤ hi

/-! ## What tokens leave over -/

/-- What can be left of a text after any bytes other than slashes. -/
def withinName : List UInt8 → List (List UInt8)
  | [] => [[]]
  | b :: s => (b :: s) :: if b = slash then [] else withinName s

/-- What is left of a text after each of its slashes. -/
def afterSlashes : List UInt8 → List (List UInt8)
  | [] => []
  | b :: s => if b = slash then s :: afterSlashes s else afterSlashes s

/-- All that can be left of a text. -/
def tails : List UInt8 → List (List UInt8)
  | [] => [[]]
  | b :: s => (b :: s) :: tails s

/-- What is left of a text after given bytes. -/
def after : List UInt8 → List UInt8 → List (List UInt8)
  | [], s => [s]
  | b :: bs, c :: s => if b = c then after bs s else []
  | _ :: _, [] => []

/-- What is left of a text after one byte of some kind. -/
def afterOne (p : UInt8 → Bool) : List UInt8 → List (List UInt8)
  | b :: s => if p b then [s] else []
  | [] => []

/-- What is left of a text after a slash and what comes then. -/
def afterSlash (next : List UInt8 → List (List UInt8)) : List UInt8 → List (List UInt8)
  | b :: s => if b = slash then next s else []
  | [] => []

mutual

/-- Whether a token can only stand for nothing: a group with nothing in it. -/
def Token.isVoid : Token → Bool
  | .group branches => allVoid branches
  | _ => false

/-- Whether tokens can only stand for nothing. -/
def isVoid : List Token → Bool
  | [] => true
  | t :: ts => t.isVoid && isVoid ts

/-- Whether all alternatives can only stand for nothing. -/
def allVoid : List (List Token) → Bool
  | [] => true
  | ts :: branches => isVoid ts && allVoid branches

end

mutual

/-- What can be left of a text after a token. -/
def Token.rests : Token → List UInt8 → List (List UInt8)
  | .literal c, s => after (String.utf8EncodeChar c) s
  | .any, s => afterOne (· ≠ slash) s
  | .star, s => withinName s
  | .anyDepthStart, s => s :: afterSlashes s
  | .anyDepthEnd, s => afterSlash tails s
  | .anyDepthBetween, s => afterSlash (fun s => s :: afterSlashes s) s
  | .oneOf negated ranges, s => afterOne (fun b => inRanges ranges b != negated) s
  | .group branches, s => if allVoid branches then [s] else branchRests branches s

/-- What can be left of some texts after tokens, one after the other. -/
def rests : List Token → List (List UInt8) → List (List UInt8)
  | [], ss => ss
  | t :: ts, ss => rests ts (ss.flatMap t.rests).eraseDups

/-- What can be left of a text after one of some alternatives. Those that can only stand
for nothing are passed over. -/
def branchRests : List (List Token) → List UInt8 → List (List UInt8)
  | [], _ => []
  | ts :: branches, s => (if isVoid ts then [] else rests ts [s]) ++ branchRests branches s

end

/-! ## Matching -/

/-- Whether a token stands for itself. -/
def Token.isLiteral : Token → Bool
  | .literal _ => true
  | _ => false

/-- Whether tokens end with a dot. -/
def endsWithDot (ts : List Token) : Bool :=
  match ts.getLast? with
  | some (.literal '.') => true
  | _ => false

/-- Whether a glob can match at all. A glob that ends with an extension is for names
that have one, and a name that ends with a dot has none, so a dot at the end is for
globs without wildcards. -/
def isUsable (ts : List Token) : Bool :=
  !endsWithDot ts || ts.all Token.isLiteral

/-- Whether a path matches a glob. -/
def isMatch (ts : List Token) (path : String) : Bool :=
  isUsable ts && (rests ts [path.toUTF8.data.toList]).contains []

end Groundwork.Glob
