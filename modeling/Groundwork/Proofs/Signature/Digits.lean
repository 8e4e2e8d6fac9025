/-
What counts as a signature. It is said without the reader of digits: the name of the
method, and then the digits that are written for the authentication code of the message,
in either letter case. The reader of digits takes these and nothing else
(`Hex.decode?_eq_some_iff`), so that a signature that is cut, filled up or goes on is none
(`Signature.verify_eq_ok_iff`).
-/
import Groundwork.Signature

set_option autoImplicit false

namespace Groundwork

/-! ## Digits -/

namespace Hex

/-- No character beyond ASCII is a digit, and none has a small letter. -/
theorem digit?_of_le {c : Char} (h : 128 ≤ c.toNat) : digit? c = none ∧ c.toLower = c := by
  have hbelow (d : Char) (hd : d.toNat < 128) : ¬ c ≤ d := by
    intro hle
    have hnat : c.toNat ≤ d.toNat := hle
    omega
  constructor
  · unfold digit?
    rw [if_neg fun hand => hbelow '9' (by decide) hand.2,
      if_neg fun hand => hbelow 'f' (by decide) hand.2,
      if_neg fun hand => hbelow 'F' (by decide) hand.2]
  · exact dif_neg fun hand => hbelow 'Z' (by decide) hand.2

/-- The value of a character is that of the digit that its small letter is. -/
theorem digit?_eq_some_iff {c : Char} {x : Nat} :
    digit? c = some x ↔ x < 16 ∧ c.toLower = digit x := by
  have hascii : ∀ n : Fin 16, (digit n).toNat < 128 := by decide
  by_cases hc : c.toNat < 128
  · have hvalues : ∀ n : Fin 128, ∀ x, digit? (Char.ofNat n) = some x → x < 16 := by decide
    have hdigits : ∀ n : Fin 128, ∀ m : Fin 16,
        digit? (Char.ofNat n) = some m.val ↔ (Char.ofNat n).toLower = digit m := by decide
    have hvalue := hvalues ⟨c.toNat, hc⟩ x
    have hdigit := fun hx => hdigits ⟨c.toNat, hc⟩ ⟨x, hx⟩
    simp only [Char.ofNat_toNat] at hvalue hdigit
    constructor
    · intro h
      exact ⟨hvalue h, (hdigit (hvalue h)).1 h⟩
    · rintro ⟨hx, h⟩
      exact (hdigit hx).2 h
  · obtain ⟨hnone, hsmall⟩ := digit?_of_le (Nat.le_of_not_lt hc)
    rw [hnone, hsmall]
    constructor
    · intro h
      cases h
    · rintro ⟨hx, rfl⟩
      exact absurd (hascii ⟨x, hx⟩) hc

/-- A byte is made of the values of its two digits. -/
theorem ofNat_eq_iff {x y : Nat} {b : UInt8} (hx : x < 16) (hy : y < 16) :
    UInt8.ofNat (16 * x + y) = b ↔ x = b.toNat / 16 ∧ y = b.toNat % 16 := by
  have hlt : 16 * x + y < UInt8.size := by
    have hsize : UInt8.size = 256 := rfl
    omega
  rw [← UInt8.toNat_inj, UInt8.toNat_ofNat_of_lt' hlt]
  omega

theorem decode?_cons_cons_eq_some_iff {a b : Char} {rest : List Char} {bytes : List UInt8} :
    decode? (a :: b :: rest) = some bytes ↔ ∃ byte tail, bytes = byte :: tail ∧
      a.toLower = digit (byte.toNat / 16) ∧ b.toLower = digit (byte.toNat % 16) ∧
      decode? rest = some tail := by
  simp only [decode?, Option.bind_eq_bind, Option.bind_eq_some_iff, digit?_eq_some_iff,
    Option.some.injEq]
  constructor
  · rintro ⟨x, ⟨hx, ha⟩, y, ⟨hy, hb⟩, tail, htail, rfl⟩
    obtain ⟨hhigh, hlow⟩ := (ofNat_eq_iff hx hy).1 rfl
    rw [hhigh] at ha
    rw [hlow] at hb
    exact ⟨_, tail, rfl, ha, hb, htail⟩
  · rintro ⟨byte, tail, rfl, ha, hb, htail⟩
    have hbyte := byte.toNat_lt
    have hhigh : byte.toNat / 16 < 16 := by omega
    have hlow : byte.toNat % 16 < 16 := by omega
    refine ⟨_, ⟨hhigh, ha⟩, _, ⟨hlow, hb⟩, tail, htail, ?_⟩
    rw [(ofNat_eq_iff hhigh hlow).2 ⟨rfl, rfl⟩]

/-- Digits spell bytes exactly if they are what is written for these, in either letter
case. -/
theorem decode?_eq_some_iff {digits : List Char} {bytes : List UInt8} :
    decode? digits = some bytes ↔ digits.map Char.toLower = encode bytes := by
  induction digits using decode?.induct generalizing bytes with
  | case1 => cases bytes <;> simp [decode?, encode]
  | case2 a b rest ih =>
    rw [decode?_cons_cons_eq_some_iff, List.map_cons, List.map_cons]
    simp only [ih]
    constructor
    · rintro ⟨byte, tail, rfl, ha, hb, hrest⟩
      rw [encode, ha, hb, hrest]
    · intro h
      cases bytes with
      | nil => cases h
      | cons byte tail =>
        simp only [encode, List.cons.injEq] at h
        exact ⟨byte, tail, rfl, h.1, h.2.1, h.2.2⟩
  | case3 a => cases bytes <;> simp [decode?, encode]

theorem length_encode (bytes : List UInt8) : (encode bytes).length = 2 * bytes.length := by
  induction bytes with
  | nil => rfl
  | cons byte bytes ih =>
    rw [encode, List.length_cons, List.length_cons, List.length_cons, ih]
    omega

/-- Digits are written in characters of ASCII that are small or have no case. -/
theorem of_mem_encode {bytes : List UInt8} {c : Char} (h : c ∈ encode bytes) :
    ∃ n : Fin 16, c = digit n := by
  induction bytes with
  | nil => cases h
  | cons byte bytes ih =>
    have hbyte := byte.toNat_lt
    rcases List.mem_cons.1 h with rfl | h
    · exact ⟨⟨byte.toNat / 16, by omega⟩, rfl⟩
    rcases List.mem_cons.1 h with rfl | h
    · exact ⟨⟨byte.toNat % 16, by omega⟩, rfl⟩
    · exact ih h

end Hex

/-! ## Signatures -/

namespace Signature

/-- A text is a signature of a message: it names the method, and goes on with the digits of
the authentication code of the message, in either letter case. -/
def Signs (secret : String) (message : ByteArray) (text : String) : Prop :=
  ∃ digits : String, text = "sha256=" ++ digits ∧
    digits.toList.map Char.toLower = Hex.encode (Hmac.sign secret.toUTF8 message)

theorem signs_iff {secret : String} {message : ByteArray} {text : String} :
    Signs secret message text ↔ ∃ digits, text.toList = method ++ digits ∧
      digits.map Char.toLower = Hex.encode (Hmac.sign secret.toUTF8 message) := by
  constructor
  · rintro ⟨digits, rfl, hdigits⟩
    exact ⟨digits.toList, String.toList_append, hdigits⟩
  · rintro ⟨digits, htext, hdigits⟩
    refine ⟨String.ofList digits, ?_, by rwa [String.toList_ofList]⟩
    rw [← String.toList_inj, htext, String.toList_append]
    show method ++ digits = method ++ (String.ofList digits).toList
    rw [String.toList_ofList]

/-- The signatures that are accepted are those of the message. -/
theorem verify_eq_ok_iff {secret text : String} {message : ByteArray} :
    verify secret text message = .ok () ↔ Signs secret message text := by
  rw [signs_iff]
  unfold verify
  simp only
  by_cases hmethod : method.isPrefixOf text.toList = true
  · obtain ⟨digits, hdigits⟩ := List.isPrefixOf_iff_prefix.1 hmethod
    rw [← hdigits, List.drop_left, List.isPrefixOf_iff_prefix.2 ⟨digits, rfl⟩, Bool.not_true,
      if_neg Bool.false_ne_true]
    simp only [List.append_cancel_left_eq, exists_eq_left', ← Hex.decode?_eq_some_iff]
    cases hcode : Hex.decode? digits with
    | none => simp
    | some code => simp
  · rw [Bool.not_eq_true] at hmethod
    rw [hmethod, Bool.not_false, if_pos rfl]
    refine iff_of_false (by simp) ?_
    rintro ⟨digits, htext, -⟩
    rw [htext, List.isPrefixOf_iff_prefix.2 ⟨digits, rfl⟩] at hmethod
    cases hmethod

/-- What a text is refused for that is not a signature of the message. -/
def refusalOf (text : String) : Error :=
  if !method.isPrefixOf text.toList then .method
  else if (Hex.decode? (text.toList.drop method.length)).isNone then .malformed
  else .mismatch

/-- That depends on the text alone, and neither on the message nor on the secret. -/
theorem verify_of_not_signs {secret text : String} {message : ByteArray}
    (h : ¬ Signs secret message text) : verify secret text message = .error (refusalOf text) := by
  rw [← verify_eq_ok_iff] at h
  unfold verify refusalOf at *
  simp only at h ⊢
  by_cases hmethod : (!method.isPrefixOf text.toList) = true
  · rw [if_pos hmethod, if_pos hmethod]
  · rw [if_neg hmethod] at h ⊢
    rw [if_neg hmethod]
    cases hcode : Hex.decode? (text.toList.drop method.length) with
    | none => rfl
    | some code =>
      rw [hcode] at h
      by_cases heq : code = Hmac.sign secret.toUTF8 message
      · exact absurd (if_pos heq) h
      · exact if_neg heq

/-- A signature has a name of 7 characters and 64 digits. -/
theorem Signs.length_eq {secret text : String} {message : ByteArray}
    (h : Signs secret message text) : text.toList.length = 71 := by
  obtain ⟨digits, htext, hdigits⟩ := signs_iff.1 h
  have hlength := congrArg List.length hdigits
  rw [List.length_map, Hex.length_encode, Hmac.length_sign] at hlength
  rw [htext, List.length_append, hlength]
  rfl

end Signature

end Groundwork
