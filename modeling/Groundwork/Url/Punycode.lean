/-
Punycode: names of any characters, written in ASCII. The ASCII characters come first;
the others follow as steps from one to the next, in the order of their code points,
written in digits with a base that adapts.
-/
import Groundwork.Text.Split

set_option autoImplicit false

namespace Groundwork.Url.Punycode

/-- The digit with a value below 36. -/
def digit (n : Nat) : Char :=
  if n < 26 then Char.ofNat ('a'.toNat + n) else Char.ofNat ('0'.toNat + n - 26)

/-- The value of a digit, in either letter case. -/
def digit? (c : Char) : Option Nat :=
  if 'a' ≤ c ∧ c ≤ 'z' then some (c.toNat - 'a'.toNat)
  else if 'A' ≤ c ∧ c ≤ 'Z' then some (c.toNat - 'A'.toNat)
  else if '0' ≤ c ∧ c ≤ '9' then some (c.toNat - '0'.toNat + 26)
  else none

/-- The least value that a digit at a place must have to be followed by another. -/
def threshold (place bias : Nat) : Nat :=
  if place ≤ bias then 1 else min 26 (place - bias)

theorem one_le_threshold (place bias : Nat) : 1 ≤ threshold place bias := by
  unfold threshold
  split <;> omega

/-- Brings a step into the range that thresholds are made for. -/
def scale (delta places : Nat) : Nat × Nat :=
  if 455 < delta then scale (delta / 35) (places + 36) else (delta, places)
termination_by delta
decreasing_by exact Nat.div_lt_self (by omega) (by omega)

/-- The bias after a step among some number of characters. -/
def adapt (delta count : Nat) (first : Bool) : Nat :=
  let delta := if first then delta / 700 else delta / 2
  let (delta, places) := scale (delta + delta / count) 0
  places + 36 * delta / (delta + 38)

/-! ## Encoding -/

/-- The digits of a step. -/
def digits (bias place n : Nat) : List Char :=
  let t := threshold place bias
  if n < t then [digit n]
  else digit (t + (n - t) % (36 - t)) :: digits bias (place + 36) ((n - t) / (36 - t))
termination_by n
decreasing_by
  have h1 := one_le_threshold place bias
  have h2 : (n - threshold place bias) / (36 - threshold place bias) ≤ n - threshold place bias :=
    Nat.div_le_self _ _
  omega

/-- What is encoded so far. -/
structure Progress where
  out : List Char := []
  delta : Nat := 0
  bias : Nat := 72
  /-- The number of characters encoded. -/
  count : Nat

/-- Goes past a character, encoding it if it has the present code point. -/
def Progress.pass (basic code : Nat) (p : Progress) (c : Char) : Progress :=
  if c.toNat < code then { p with delta := p.delta + 1 }
  else if c.toNat = code then
    { out := p.out ++ digits p.bias 36 p.delta, delta := 0,
      bias := adapt p.delta (p.count + 1) (p.count == basic), count := p.count + 1 }
  else p

/-- Encodes the characters with some code points, in rising order, from one on. -/
def encodeCodes (s : List Char) (basic : Nat) : List Nat → Nat → Progress → Progress
  | [], _, p => p
  | code :: codes, start, p =>
    let p := { p with delta := p.delta + (code - start) * (p.count + 1) }
    let p := s.foldl (Progress.pass basic code) p
    encodeCodes s basic codes (code + 1) { p with delta := p.delta + 1 }

/-- Encodes a text. -/
def encode (s : List Char) : List Char :=
  let basic := s.filter (·.toNat < 0x80)
  let codes := (((s.map Char.toNat).filter (0x80 ≤ ·)).mergeSort).eraseDups
  basic ++ (if basic.isEmpty then [] else ['-'])
    ++ (encodeCodes s basic.length codes 0x80 { count := basic.length }).out

/-! ## Decoding -/

/-- Reads a step, after digits worth `n` with the next one counting `weight` times;
gives what is left as well. -/
def readStep (bias : Nat) : List Char → Nat → Nat → Nat → Option (Nat × List Char)
  | [], _, _, _ => none
  | c :: rest, place, weight, n =>
    match digit? c with
    | none => none
    | some d =>
      let t := threshold place bias
      if d < t then some (n + d * weight, rest)
      else readStep bias rest (place + 36) (weight * (36 - t)) (n + d * weight)

theorem length_readStep {bias : Nat} {s : List Char} {place weight n : Nat}
    {r : Nat × List Char} (h : readStep bias s place weight n = some r) :
    r.2.length < s.length := by
  induction s generalizing place weight n with
  | nil => simp [readStep] at h
  | cons c rest ih =>
    rw [readStep] at h
    split at h
    · simp at h
    · dsimp only at h
      split at h
      · cases h; simp
      · have := ih h
        simp only [List.length_cons]
        omega

/-- Reads the steps that are left. The next character goes at an index, has at least
some code point, and `first` tells whether it is the first one. -/
def readSteps (s : List Char) (out : List Char) (index code bias : Nat) (first : Bool) :
    Option (List Char) :=
  match s with
  | [] => some out
  | c :: rest =>
    match _h : readStep bias (c :: rest) 36 1 index with
    | none => none
    | some (n, left) =>
      let count := out.length + 1
      let code := code + n / count
      let place := n % count
      if code.isValidChar then
        readSteps left (out.take place ++ Char.ofNat code :: out.drop place) (place + 1) code
          (adapt (n - index) count first) false
      else none
termination_by s.length
decreasing_by
  have := length_readStep _h
  simpa using this

/-- Decodes a text. -/
def decode? (s : List Char) : Option (List Char) :=
  let (basic, steps) := match Text.splitLast? '-' s with
    | some (basic, steps) => (basic, steps)
    | none => ([], s)
  if basic.all (·.toNat < 0x80) then readSteps steps basic 0 0x80 72 true else none

end Groundwork.Url.Punycode
