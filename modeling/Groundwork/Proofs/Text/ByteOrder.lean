/-
The order of texts is that of their bytes. Tables are kept in the order of their keys,
which compares texts by their characters; one that sorts keys by their bytes comes to the same
order, since the bytes of a character never start those of another, and the greater of two
characters has the greater bytes.
-/
import Mathlib.Data.List.Basic

set_option autoImplicit false

namespace Groundwork.Text

/-- The bytes of a text are those of its characters. -/
theorem bytes_eq (s : String) : s.toUTF8.data.toList = s.toList.flatMap String.utf8EncodeChar := by
  have hbytes : s.toUTF8 = (s.toList.flatMap String.utf8EncodeChar).toByteArray := by
    rw [← List.utf8Encode, String.utf8Encode_toList]
    rfl
  rw [hbytes, List.toList_data_toByteArray]

/-- The bytes of two characters are told apart before either ends. -/
theorem encode_lt_encode {c d : Char} (h : c < d) (xs ys : List UInt8) :
    String.utf8EncodeChar c ++ xs < String.utf8EncodeChar d ++ ys := by
  have hval : c.val.toNat < d.val.toNat := h
  have hmax : d.val.toNat < 0x110000 := by
    rcases d.valid with hlow | ⟨-, hhigh⟩ <;> simp only [UInt32.toNat] at * <;> omega
  rw [String.utf8EncodeChar, String.utf8EncodeChar]
  generalize c.val.toNat = m at hval ⊢
  generalize d.val.toNat = n at hval hmax ⊢
  -- one case for each length of the one and each of the other
  by_cases hm₁ : m ≤ 0x7f <;> by_cases hm₂ : m ≤ 0x7ff <;> by_cases hm₃ : m ≤ 0xffff <;>
    by_cases hn₁ : n ≤ 0x7f <;> by_cases hn₂ : n ≤ 0x7ff <;> by_cases hn₃ : n ≤ 0xffff <;>
    simp only [hm₁, hm₂, hm₃, hn₁, hn₂, hn₃, if_true, if_false, List.cons_append, List.nil_append,
      List.cons_lt_cons_iff, UInt8.lt_iff_toNat_lt, ← UInt8.toNat_inj, UInt8.toNat_ofNat'] <;>
    simp (disch := omega) only [Nat.mod_eq_of_lt] <;> omega

theorem flatMap_encode_lt {cs ds : List Char} (h : cs < ds) :
    cs.flatMap String.utf8EncodeChar < ds.flatMap String.utf8EncodeChar := by
  have hlex : List.Lex (· < ·) cs ds := h
  clear h
  induction hlex with
  | @nil d ds =>
    rw [List.flatMap_nil, List.flatMap_cons]
    cases hbytes : String.utf8EncodeChar d with
    | nil => exact absurd hbytes String.utf8EncodeChar_ne_nil
    | cons b bs => exact List.Lex.nil
  | rel hlt =>
    rw [List.flatMap_cons, List.flatMap_cons]
    exact encode_lt_encode hlt _ _
  | @cons c cs ds _ ih =>
    rw [List.flatMap_cons, List.flatMap_cons]
    induction String.utf8EncodeChar c with
    | nil => exact ih
    | cons b bs hbs => exact List.Lex.cons hbs

/-- Of two texts the greater one has the greater bytes. -/
theorem bytes_lt_bytes {s t : String} (h : s < t) :
    s.toUTF8.data.toList < t.toUTF8.data.toList := by
  rw [bytes_eq, bytes_eq]
  exact flatMap_encode_lt h

end Groundwork.Text
