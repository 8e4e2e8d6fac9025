/-
The SHA-256 digest. A message is padded to whole blocks of 64 bytes; each block is
spread over 64 words, which are mixed one by one into a state of eight.
-/
set_option autoImplicit false

namespace Groundwork.Sha256

/-- The eight words that blocks are mixed into. -/
structure State where
  a : UInt32
  b : UInt32
  c : UInt32
  d : UInt32
  e : UInt32
  f : UInt32
  g : UInt32
  h : UInt32
deriving DecidableEq, Repr

/-- The state before the first block. -/
def initial : State :=
  ⟨0x6a09e667, 0xbb67ae85, 0x3c6ef372, 0xa54ff53a, 0x510e527f, 0x9b05688c, 0x1f83d9ab, 0x5be0cd19⟩

/-- The constants that are mixed in with the words. -/
def constants : List UInt32 := [
  0x428a2f98, 0x71374491, 0xb5c0fbcf, 0xe9b5dba5, 0x3956c25b, 0x59f111f1, 0x923f82a4, 0xab1c5ed5,
  0xd807aa98, 0x12835b01, 0x243185be, 0x550c7dc3, 0x72be5d74, 0x80deb1fe, 0x9bdc06a7, 0xc19bf174,
  0xe49b69c1, 0xefbe4786, 0x0fc19dc6, 0x240ca1cc, 0x2de92c6f, 0x4a7484aa, 0x5cb0a9dc, 0x76f988da,
  0x983e5152, 0xa831c66d, 0xb00327c8, 0xbf597fc7, 0xc6e00bf3, 0xd5a79147, 0x06ca6351, 0x14292967,
  0x27b70a85, 0x2e1b2138, 0x4d2c6dfc, 0x53380d13, 0x650a7354, 0x766a0abb, 0x81c2c92e, 0x92722c85,
  0xa2bfe8a1, 0xa81a664b, 0xc24b8b70, 0xc76c51a3, 0xd192e819, 0xd6990624, 0xf40e3585, 0x106aa070,
  0x19a4c116, 0x1e376c08, 0x2748774c, 0x34b0bcb5, 0x391c0cb3, 0x4ed8aa4a, 0x5b9cca4f, 0x682e6ff3,
  0x748f82ee, 0x78a5636f, 0x84c87814, 0x8cc70208, 0x90befffa, 0xa4506ceb, 0xbef9a3f7, 0xc67178f2]

/-- A word turned right by some bits. -/
def rotate (x : UInt32) (n : UInt32) : UInt32 :=
  (x >>> n) ||| (x <<< (32 - n))

/-- The state with one word mixed in. -/
def State.mix (s : State) (k w : UInt32) : State :=
  let sum := rotate s.e 6 ^^^ rotate s.e 11 ^^^ rotate s.e 25
  let choice := (s.e &&& s.f) ^^^ (~~~s.e &&& s.g)
  let t := s.h + sum + choice + k + w
  let majority := (s.a &&& s.b) ^^^ (s.a &&& s.c) ^^^ (s.b &&& s.c)
  let u := (rotate s.a 2 ^^^ rotate s.a 13 ^^^ rotate s.a 22) + majority
  ⟨t + u, s.a, s.b, s.c, s.d + t, s.e, s.f, s.g⟩

/-- The sum of two states, word by word. -/
def State.add (s t : State) : State :=
  ⟨s.a + t.a, s.b + t.b, s.c + t.c, s.d + t.d, s.e + t.e, s.f + t.f, s.g + t.g, s.h + t.h⟩

/-- The byte of a message at an index, with its padding: a one bit, zeros, and the
length in bits in the last eight bytes. `size` is the padded length. -/
def paddedByte (message : ByteArray) (size i : Nat) : UInt8 :=
  if h : i < message.size then message[i]
  else if i = message.size then 0x80
  else if size - 8 ≤ i then UInt8.ofNat ((message.size * 8) >>> (8 * (size - 1 - i)))
  else 0

/-- The length of a message with its padding. -/
def paddedSize (message : ByteArray) : Nat :=
  (message.size + 8) / 64 * 64 + 64

/-- Four bytes of a padded message as a word. -/
def word (message : ByteArray) (size i : Nat) : UInt32 :=
  let at_ j := (paddedByte message size (i + j)).toUInt32
  (at_ 0 <<< 24) ||| (at_ 1 <<< 16) ||| (at_ 2 <<< 8) ||| at_ 3

/-- The words after those of a block, each made of earlier ones. `recent` holds the
last sixteen. -/
def spread : Nat → List UInt32 → List UInt32
  | 0, recent => recent
  | n + 1, recent =>
    match recent with
    | w0 :: rest =>
      let w1 := rest.getD 0 0
      let w9 := rest.getD 8 0
      let w14 := rest.getD 13 0
      let low := rotate w1 7 ^^^ rotate w1 18 ^^^ (w1 >>> 3)
      let high := rotate w14 17 ^^^ rotate w14 19 ^^^ (w14 >>> 10)
      w0 :: spread n (rest ++ [w0 + low + w9 + high])
    | [] => []

/-- The state with a block mixed in. -/
def block (message : ByteArray) (size : Nat) (s : State) (n : Nat) : State :=
  let ws := spread 48 ((List.range 16).map fun j => word message size (64 * n + 4 * j))
  s.add ((constants.zip ws).foldl (fun s (k, w) => s.mix k w) s)

/-- The bytes of a word, the high one first. -/
def wordBytes (w : UInt32) : List UInt8 :=
  [(w >>> 24).toUInt8, (w >>> 16).toUInt8, (w >>> 8).toUInt8, w.toUInt8]

/-- The 32 bytes of a state. -/
def State.bytes (s : State) : List UInt8 :=
  [s.a, s.b, s.c, s.d, s.e, s.f, s.g, s.h].flatMap wordBytes

/-- The digest of a message, 32 bytes. -/
def digest (message : ByteArray) : List UInt8 :=
  let size := paddedSize message
  ((List.range (size / 64)).foldl (block message size) initial).bytes

end Groundwork.Sha256
