/-
Tags that every runtime takes. A runtime asks for letters, digits and the underscore of
ASCII, with dots and dashes after the first character. Reading asks for word characters, of
which every script has its own, so it takes more tags than a runtime does.

How much more is said here exactly: a tag is portable if it is read at all and has ASCII
characters only (`portableTag_iff`). So nothing that is portable is turned away, and nothing
but the script of a tag has to be looked at. For a workflow that can be run the same goes
for its image as a whole, since there the registry, the path and the digest have no other
characters anyway (`Image.tag_portable_iff`).
-/
import Groundwork.Proofs.Config.RoundTrip
import Groundwork.Proofs.Image.Canonical
import Mathlib.Order.CompletePartialOrder

set_option autoImplicit false

namespace Groundwork

namespace Image

open Text
open scoped Computability

/-! ## ASCII texts -/

/-- Whether a character is one of the 128 of ASCII. -/
def isAscii (c : Char) : Bool :=
  c.toNat < 128

/-- The texts of ASCII characters. -/
def ascii : Language Char :=
  (one isAscii)∗

theorem mem_ascii {s : List Char} : s ∈ ascii ↔ ∀ c ∈ s, isAscii c = true :=
  mem_one_kstar

theorem mem_ascii_iff_lt {s : List Char} : s ∈ ascii ↔ ∀ c ∈ s, c.toNat < 128 := by
  simp only [mem_ascii, isAscii, decide_eq_true_iff]

-- by the characters of the text, and not by all that there are
instance (s : List Char) : Decidable (s ∈ ascii) :=
  decidable_of_iff (s.all isAscii = true) (by rw [mem_ascii, List.all_eq_true])

theorem append_mem_ascii {s t : List Char} : s ++ t ∈ ascii ↔ s ∈ ascii ∧ t ∈ ascii := by
  rw [mem_ascii, mem_ascii, mem_ascii, List.forall_mem_append]

theorem mul_le_ascii {l m : Language Char} (hl : l ≤ ascii) (hm : m ≤ ascii) : l * m ≤ ascii :=
  (mul_le_mul' hl hm).trans (kstar_mul_kstar _).le

theorem kstar_le_ascii {l : Language Char} (hl : l ≤ ascii) : l∗ ≤ ascii :=
  (kstar_mono hl).trans (kstar_idem _).le

theorem one_le_ascii {holds : Char → Bool} (h : ∀ c, holds c = true → isAscii c = true) :
    one holds ≤ ascii := by
  rintro _ ⟨c, hc, rfl⟩
  exact mem_ascii.2 fun d hd => by rw [List.mem_singleton.1 hd]; exact h c hc

theorem spelled_le_ascii {s : String} (h : s.toList ∈ ascii) : spelled s ≤ ascii := by
  rintro _ rfl
  exact h

/-- A character that does not come after one of ASCII is of ASCII. -/
theorem isAscii_of_le {c d : Char} (h : c ≤ d) (hd : isAscii d = true) : isAscii c = true := by
  rw [isAscii, decide_eq_true_iff] at hd ⊢
  exact lt_of_le_of_lt (UInt32.le_iff_toNat_le.1 h) hd

theorem isAscii_of_isAlphanum {c : Char} (h : c.isAlphanum = true) : isAscii c = true := by
  have hranges : (decide ('A' ≤ c ∧ c ≤ 'Z') || 'a' ≤ c && c ≤ 'z' || '0' ≤ c && c ≤ '9') = true := h
  simp only [Bool.or_eq_true, Bool.and_eq_true, decide_eq_true_eq] at hranges
  rcases hranges with (⟨-, hle⟩ | ⟨-, hle⟩) | ⟨-, hle⟩
  · exact isAscii_of_le hle (by decide)
  · exact isAscii_of_le hle (by decide)
  · exact isAscii_of_le hle (by decide)

theorem isAscii_of_isHex {c : Char} (h : isHex c = true) : isAscii c = true := by
  simp only [isHex, Char.isDigit, Bool.or_eq_true, Bool.and_eq_true, decide_eq_true_eq] at h
  rcases h with (⟨-, h⟩ | ⟨-, h⟩) | ⟨-, h⟩
  · exact isAscii_of_le (d := '9') h (by decide)
  · exact isAscii_of_le h (by decide)
  · exact isAscii_of_le h (by decide)

theorem isAscii_of_isJoint {c : Char} (h : isJoint c = true) : isAscii c = true := by
  simp only [isJoint, Bool.or_eq_true, decide_eq_true_eq] at h
  rcases h with ((rfl | rfl) | rfl) | rfl <;> decide

/-- Neither the algorithm of a digest nor its digits are of any other script. -/
theorem digests_le_ascii : digests ≤ ascii := by
  have halpha : one Char.isAlpha ≤ ascii :=
    one_le_ascii fun c hc => isAscii_of_isAlphanum (by rw [Char.isAlphanum, hc, Bool.true_or])
  have halphanum : one Char.isAlphanum ≤ ascii := one_le_ascii fun c => isAscii_of_isAlphanum
  have hjoint : one isJoint ≤ ascii := one_le_ascii fun c => isAscii_of_isJoint
  have hhex : one isHex ≤ ascii := one_le_ascii fun c => isAscii_of_isHex
  have hwords : algorithmWords ≤ ascii := mul_le_ascii halpha (kstar_le_ascii halphanum)
  have halgorithms : algorithms ≤ ascii :=
    mul_le_ascii hwords (kstar_le_ascii (mul_le_ascii hjoint hwords))
  have hdigits : one isHex ^ 32 * (one isHex)∗ ≤ ascii :=
    mul_le_ascii (pow_le_kstar.trans (kstar_le_ascii hhex)) (kstar_le_ascii hhex)
  have hcolon : spelled ":" ≤ ascii := spelled_le_ascii (by decide)
  exact mul_le_ascii (mul_le_ascii halgorithms hcolon) hdigits

/-- What is marked with an ASCII character is ASCII if it is. -/
theorem marked_mem_ascii {mark : Char} (hmark : isAscii mark = true) {part : Option String} :
    marked mark part ∈ ascii ↔ ∀ text ∈ part, text.toList ∈ ascii := by
  cases part with
  | none => simp [marked, mem_ascii]
  | some text => simp [marked, mem_ascii, hmark]

/-! ## Portable tags -/

/-- The characters that a tag may start with everywhere: the letters and digits of ASCII,
and the underscore. -/
def isPlain (c : Char) : Bool :=
  c.isAlphanum || c == '_'

/-- What every runtime asks of a tag. -/
structure PortableTag (tag : String) : Prop where
  length : 1 ≤ tag.toList.length ∧ tag.toList.length ≤ 128
  first : ∀ c ∈ tag.toList.head?, isPlain c = true
  rest : ∀ c ∈ tag.toList.tail, isPlain c = true ∨ c = '.' ∨ c = '-'

theorem isPlain_iff {c : Char} : isPlain c = true ↔ isWordChar c = true ∧ isAscii c = true := by
  rw [isAscii, decide_eq_true_iff]
  constructor
  · intro h
    have hascii : c.toNat < 128 := by
      rw [isPlain, Bool.or_eq_true, beq_iff_eq] at h
      rcases h with h | rfl
      · exact of_decide_eq_true (isAscii_of_isAlphanum h)
      · decide
    rw [isWordChar_of_ascii hascii]
    exact ⟨h, hascii⟩
  · rintro ⟨h, hascii⟩
    rwa [isWordChar_of_ascii hascii] at h

/-- After the first character a dot and a dash may stand too. -/
theorem isPlain_or_iff {c : Char} : (isPlain c = true ∨ c = '.' ∨ c = '-') ↔
    (isWordChar c = true ∨ c = '.' ∨ c = '-') ∧ isAscii c = true := by
  rw [isPlain_iff]
  constructor
  · rintro (⟨hword, h⟩ | rfl | rfl)
    · exact ⟨.inl hword, h⟩
    · exact ⟨.inr (.inl rfl), by decide⟩
    · exact ⟨.inr (.inr rfl), by decide⟩
  · rintro ⟨hword | hmark, h⟩
    · exact .inl ⟨hword, h⟩
    · exact .inr hmark

/-- A tag is portable exactly if it is read as one and is of ASCII characters. -/
theorem portableTag_iff {tag : String} :
    PortableTag tag ↔ isTag tag.toList = true ∧ tag.toList ∈ ascii := by
  have hfields : PortableTag tag ↔ (1 ≤ tag.toList.length ∧ tag.toList.length ≤ 128) ∧
      (∀ c ∈ tag.toList.head?, isPlain c = true) ∧
      ∀ c ∈ tag.toList.tail, isPlain c = true ∨ c = '.' ∨ c = '-' :=
    ⟨fun h => ⟨h.length, h.first, h.rest⟩, fun h => ⟨h.1, h.2.1, h.2.2⟩⟩
  rw [hfields, mem_ascii]
  cases tag.toList with
  | nil => simp [isTag]
  | cons c rest =>
    have hlength : (1 ≤ (c :: rest).length ∧ (c :: rest).length ≤ 128) ↔ rest.length ≤ 127 := by
      rw [List.length_cons]
      omega
    have hrest : (∀ d ∈ rest, isPlain d = true ∨ d = '.' ∨ d = '-') ↔
        (∀ d ∈ rest, (isWordChar d || d = '.' || d = '-') = true) ∧ ∀ d ∈ rest, isAscii d = true := by
      rw [← forall₂_and]
      refine forall₂_congr fun d _ => ?_
      rw [isPlain_or_iff, Bool.or_eq_true, Bool.or_eq_true, decide_eq_true_iff,
        decide_eq_true_iff, or_assoc]
    rw [hlength, List.tail_cons, hrest, isTag, List.forall_mem_cons, Bool.and_eq_true,
      Bool.and_eq_true, List.all_eq_true, decide_eq_true_iff]
    simp only [List.head?_cons, Option.mem_some_iff, forall_eq', isPlain_iff]
    tauto

instance (tag : String) : Decidable (PortableTag tag) :=
  decidable_of_iff (isTag tag.toList = true ∧ tag.toList ∈ ascii) portableTag_iff.symm

/-! ## Tags that are read -/

/-- The tag that was read is portable unless it has a character of another script. -/
theorem portable_iff_of_canonical {r : Image} (h : r.Canonical) :
    (∀ tag ∈ r.tag, PortableTag tag) ↔ ∀ tag ∈ r.tag, tag.toList ∈ ascii := by
  constructor
  · exact fun htags tag htag => (portableTag_iff.1 (htags tag htag)).2
  · exact fun hascii tag htag => portableTag_iff.2 ⟨h.tag tag htag, hascii tag htag⟩

/-- With a portable tag in the place of its own a reference is still one that is read. -/
theorem parse_portable {r : Image} (h : r.Canonical) {tag : String} (htag : PortableTag tag) :
    parse { r with tag := some tag }.render = .ok { r with tag := some tag } := by
  refine parse_render { h with tag := ?_ }
  rintro _ ⟨⟩
  exact (portableTag_iff.1 htag).1

/-- An image that may be run is of ASCII characters if its tag is. -/
theorem mem_ascii_of_isAllowed {s : String} {r : Image} (h : parse s = .ok r)
    (hallowed : r.isAllowed = true) : s.toList ∈ ascii ↔ ∀ tag ∈ r.tag, tag.toList ∈ ascii := by
  obtain ⟨-, hdigest, registry, hregistry, path, hpath, hs⟩ := parts_of_isAllowed h hallowed
  -- all but the tag comes from languages of ASCII texts
  have hregistryAscii : registry ∈ ascii := by
    rcases mem_registryParts_iff.1 hregistry with rfl | rfl | rfl <;> decide
  have hpathAscii : path ∈ ascii := by
    rcases mem_pathParts_iff.1 hpath with rfl | rfl | rfl | rfl <;> decide
  have hdigestAscii : marked '@' r.digest ∈ ascii :=
    (marked_mem_ascii (by decide)).2 fun d hd => digests_le_ascii (isDigest_iff.1 (hdigest d hd))
  rw [hs, append_mem_ascii, append_mem_ascii, append_mem_ascii, marked_mem_ascii (by decide)]
  simp only [hregistryAscii, hpathAscii, hdigestAscii, true_and, and_true]

/-- **How far tags are portable.** The tag of a reference that is read is one that every
runtime takes exactly if it is of ASCII characters. No tag that every runtime takes is
turned away. The image of a workflow that can be run has a tag that every runtime takes, or
none, exactly if the image is of ASCII characters. -/
theorem tag_portable_iff {s : String} {r : Image} (h : parse s = .ok r) :
    ((∀ tag ∈ r.tag, PortableTag tag) ↔ ∀ tag ∈ r.tag, ∀ c ∈ tag.toList, c.toNat < 128) ∧
    (∀ tag, PortableTag tag →
      parse { r with tag := some tag }.render = .ok { r with tag := some tag }) ∧
    (∀ w : Workflow, { w with image := s }.validate = .ok () →
      ((∀ tag ∈ r.tag, PortableTag tag) ↔ ∀ c ∈ s.toList, c.toNat < 128)) := by
  have hcanonical := canonical_of_parse h
  simp only [← mem_ascii_iff_lt]
  refine ⟨portable_iff_of_canonical hcanonical, fun tag => parse_portable hcanonical, ?_⟩
  intro w hvalid
  obtain ⟨-, himage⟩ := Workflow.validate_eq_ok_iff.1 hvalid
  obtain ⟨-, r', h', hallowed⟩ := Workflow.validateImage_eq_ok_iff.1 himage
  obtain rfl : r = r' := Except.ok.inj (h.symm.trans h')
  rw [portable_iff_of_canonical hcanonical, mem_ascii_of_isAllowed h hallowed]

/-- The tag of an image that may be run, whose characters are of ASCII; its version can be
put in the place of its release, and so can the longest tag that there is. -/
theorem tag_portable_of_release :
    let r : Image := ⟨"docker.io", "library/debian", some "bookworm-slim", none⟩
    let longest := String.ofList (List.replicate 128 '_')
    parse "debian:bookworm-slim" = .ok r ∧ (∀ tag ∈ r.tag, PortableTag tag) ∧
      parse { r with tag := some "12.5" }.render = .ok { r with tag := some "12.5" } ∧
      parse { r with tag := some longest }.render = .ok { r with tag := some longest } := by
  intro r longest
  have hread : parse "debian:bookworm-slim" = .ok r := by decide +kernel
  obtain ⟨-, hall, hruns⟩ := tag_portable_iff hread
  have hvalid : { Config.plainWorkflow with image := "debian:bookworm-slim" }.validate = .ok () := by
    decide +kernel
  have hascii : "debian:bookworm-slim".toList ∈ ascii := by decide
  exact ⟨hread, (hruns _ hvalid).2 (mem_ascii_iff_lt.1 hascii), hall _ (by decide +kernel),
    hall _ (by decide +kernel)⟩

/-- A tag with an accent is read, in an image that may be run, and a workflow with it can be
run, but it is not portable. -/
theorem accented_tag_is_read :
    parse "alpine:é" = .ok ⟨"docker.io", "library/alpine", some "é", none⟩ ∧
      { Config.plainWorkflow with image := "alpine:é" }.validate = .ok () ∧
      ¬ PortableTag "é" := by
  decide +kernel

end Image

end Groundwork
