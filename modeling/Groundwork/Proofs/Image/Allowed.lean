/-
Which texts name an image that may be run. Reading a reference cuts one text at its
first `@`, at its first slash and at its last colon, and fills in and renames what is
before the path. What may be run is told from the result.

The texts that get there are given here as a language (`Image.allowed`): one of three
ways to name the default registry, the namespace or not, one of two names, and a tag and
a digest or not. Tags and digests are languages of their own, and the tests for them are
membership (`isTag_iff`, `isDigest_iff`). The main statement is that a text is in the
language exactly if it is read as an image that may be run (`Image.runs_iff_allowed`), so
a loaded configuration has no workflow with another image.
-/
import Groundwork.Proofs.Config.Loaded
import Mathlib.Computability.Language

set_option autoImplicit false

namespace Groundwork

namespace Image

open Text
open scoped Computability

/-! ## Languages of characters -/

/-- The language of one text. -/
def spelled (s : String) : Language Char :=
  {s.toList}

/-- The language of single characters that hold. -/
def one (holds : Char → Bool) : Language Char :=
  {s | ∃ c, holds c = true ∧ s = [c]}

theorem mem_spelled {s : String} {x : List Char} : x ∈ spelled s ↔ x = s.toList := Iff.rfl

theorem mem_spelled_mul {s : String} {l : Language Char} {x : List Char} :
    x ∈ spelled s * l ↔ ∃ rest ∈ l, x = s.toList ++ rest := by
  rw [Language.mem_mul]
  constructor
  · rintro ⟨a, ha, b, hb, rfl⟩
    rw [mem_spelled] at ha
    exact ⟨b, hb, by rw [ha]⟩
  · rintro ⟨b, hb, rfl⟩
    exact ⟨s.toList, rfl, b, hb, rfl⟩

/-- A part that may be left out. -/
theorem mem_optional {s : String} {l : Language Char} {x : List Char} :
    x ∈ 1 + spelled s * l ↔ x = [] ∨ ∃ rest ∈ l, x = s.toList ++ rest := by
  rw [Language.mem_add, Language.mem_one, mem_spelled_mul]

theorem nil_notMem_one_mul {holds : Char → Bool} {l : Language Char} : [] ∉ one holds * l := by
  rw [Language.mem_mul]
  rintro ⟨_, ⟨c, -, rfl⟩, b, -, h⟩
  cases h

theorem cons_mem_one_mul {holds : Char → Bool} {l : Language Char} {c : Char} {rest : List Char} :
    c :: rest ∈ one holds * l ↔ holds c = true ∧ rest ∈ l := by
  rw [Language.mem_mul]
  constructor
  · rintro ⟨_, ⟨d, hd, rfl⟩, b, hb, h⟩
    cases h
    exact ⟨hd, hb⟩
  · rintro ⟨hc, hrest⟩
    exact ⟨[c], ⟨c, hc, rfl⟩, rest, hrest, rfl⟩

/-- A run of characters that hold. -/
theorem mem_one_kstar {holds : Char → Bool} {s : List Char} :
    s ∈ (one holds)∗ ↔ ∀ c ∈ s, holds c = true := by
  induction s with
  | nil =>
    constructor
    · intro _ c hc
      cases hc
    · intro _
      exact Language.nil_mem_kstar _
  | cons c rest ih =>
    rw [← Language.one_add_self_mul_kstar_eq_kstar, Language.mem_add, cons_mem_one_mul, ih,
      List.forall_mem_cons, Language.mem_one]
    simp

/-- No more than some number of characters that hold. -/
theorem mem_one_upTo {holds : Char → Bool} {n : Nat} {s : List Char} :
    s ∈ (1 + one holds) ^ n ↔ s.length ≤ n ∧ ∀ c ∈ s, holds c = true := by
  induction n generalizing s with
  | zero =>
    rw [pow_zero, Language.mem_one, Nat.le_zero, List.length_eq_zero_iff]
    constructor
    · rintro rfl
      exact ⟨rfl, fun c hc => by cases hc⟩
    · exact fun h => h.1
  | succ n ih =>
    rw [pow_succ', add_mul, one_mul, Language.mem_add, ih]
    cases s with
    | nil => simp
    | cons c rest =>
      rw [cons_mem_one_mul, ih, List.length_cons, List.forall_mem_cons]
      constructor
      · rintro (⟨hlen, hall⟩ | ⟨hc, hlen, hall⟩)
        · exact ⟨by omega, hall⟩
        · exact ⟨by omega, hc, hall⟩
      · rintro ⟨hlen, hc, hall⟩
        exact .inr ⟨hc, by omega, hall⟩

/-- Some number of characters that hold, or more. -/
theorem mem_one_atLeast {holds : Char → Bool} {n : Nat} {s : List Char} :
    s ∈ one holds ^ n * (one holds)∗ ↔ n ≤ s.length ∧ ∀ c ∈ s, holds c = true := by
  induction n generalizing s with
  | zero => rw [pow_zero, one_mul, mem_one_kstar]; simp
  | succ n ih =>
    rw [pow_succ', mul_assoc]
    cases s with
    | nil => simp [nil_notMem_one_mul]
    | cons c rest =>
      rw [cons_mem_one_mul, ih, List.length_cons, List.forall_mem_cons]
      constructor
      · rintro ⟨hc, hlen, hall⟩
        exact ⟨by omega, hc, hall⟩
      · rintro ⟨hlen, hc, hall⟩
        exact ⟨hc, by omega, hall⟩

/-! ## Tags and digests -/

/-- A word character, and up to 127 word characters, dots and dashes. -/
def tags : Language Char :=
  one isWordChar * (1 + one fun d => isWordChar d || d = '.' || d = '-') ^ 127

theorem isTag_iff {s : List Char} : isTag s = true ↔ s ∈ tags := by
  cases s with
  | nil => simp [isTag, tags, nil_notMem_one_mul]
  | cons c rest =>
    rw [isTag, tags, cons_mem_one_mul, mem_one_upTo, Bool.and_eq_true, Bool.and_eq_true,
      List.all_eq_true, decide_eq_true_iff]
    tauto

/-- The characters that stand between the words of a digest algorithm. -/
def isJoint (c : Char) : Bool :=
  c = '-' || c = '_' || c = '+' || c = '.'

/-- A letter, and letters and digits. -/
def algorithmWords : Language Char :=
  one Char.isAlpha * (one Char.isAlphanum)∗

/-- Words with one character between two of them. -/
def algorithms : Language Char :=
  algorithmWords * (one isJoint * algorithmWords)∗

/-- What may follow inside a word of an algorithm. -/
def algorithmRests : Language Char :=
  (one Char.isAlphanum)∗ * (one isJoint * algorithmWords)∗

/-- An algorithm, a colon and 32 hexadecimal digits or more. -/
def digests : Language Char :=
  algorithms * spelled ":" * (one isHex ^ 32 * (one isHex)∗)

theorem algorithms_eq : algorithms = one Char.isAlpha * algorithmRests := by
  rw [algorithms, algorithmWords, mul_assoc, ← algorithmWords, algorithmRests]

/-- A word ends, goes on, or another word follows it. -/
theorem algorithmRests_eq :
    algorithmRests = 1 + one Char.isAlphanum * algorithmRests + one isJoint * algorithms := by
  have hwords : (one isJoint * algorithmWords)∗ = 1 + one isJoint * algorithms := by
    rw [algorithms, ← mul_assoc, Language.one_add_self_mul_kstar_eq_kstar]
  calc algorithmRests
      = (1 + one Char.isAlphanum * (one Char.isAlphanum)∗) * (one isJoint * algorithmWords)∗ := by
        rw [Language.one_add_self_mul_kstar_eq_kstar, algorithmRests]
    _ = (one isJoint * algorithmWords)∗ + one Char.isAlphanum * algorithmRests := by
        rw [add_mul, one_mul, mul_assoc, ← algorithmRests]
    _ = 1 + one Char.isAlphanum * algorithmRests + one isJoint * algorithms := by
        rw [hwords, add_right_comm]

theorem isAlphanum_of_isJoint {c : Char} (h : isJoint c = true) : c.isAlphanum = false := by
  simp only [isJoint, Bool.or_eq_true, decide_eq_true_eq] at h
  rcases h with ((rfl | rfl) | rfl) | rfl <;> decide

/-- The test for algorithms, at the start of a word and inside of one. -/
theorem isAlgorithm_iff {s : List Char} :
    (isAlgorithm true s = true ↔ s ∈ algorithms) ∧
      (isAlgorithm false s = true ↔ s ∈ algorithmRests) := by
  induction s with
  | nil =>
    rw [algorithms_eq, algorithmRests_eq, Language.mem_add, Language.mem_add]
    simp [isAlgorithm, nil_notMem_one_mul]
  | cons c rest ih =>
    constructor
    · rw [algorithms_eq, cons_mem_one_mul, ← ih.2, isAlgorithm, if_pos rfl, Bool.and_eq_true]
    · rw [algorithmRests_eq, Language.mem_add, Language.mem_add, cons_mem_one_mul,
        cons_mem_one_mul, ← ih.1, ← ih.2, isAlgorithm, if_neg (by decide)]
      by_cases hc : c.isAlphanum = true
      · have hjoint : isJoint c ≠ true := by
          intro hjoint
          rw [isAlphanum_of_isJoint hjoint] at hc
          cases hc
        rw [if_pos hc]
        simp [hc, hjoint]
      · rw [if_neg hc]
        simp [hc, isJoint]

theorem colon_notMem_of_isAlgorithm {s : List Char} :
    (isAlgorithm true s = true → ':' ∉ s) ∧ (isAlgorithm false s = true → ':' ∉ s) := by
  induction s with
  | nil => simp
  | cons c rest ih =>
    constructor
    · intro h
      rw [isAlgorithm, if_pos rfl, Bool.and_eq_true] at h
      have hc : ':' ≠ c := by
        rintro rfl
        exact absurd h.1 (by decide)
      simp [hc, ih.2 h.2]
    · intro h
      rw [isAlgorithm, if_neg (by decide)] at h
      split at h
      · next halphanum =>
        have hc : ':' ≠ c := by
          rintro rfl
          exact absurd halphanum (by decide)
        simp [hc, ih.2 h]
      · rw [Bool.and_eq_true] at h
        have hc : ':' ≠ c := by
          rintro rfl
          exact absurd h.1 (by decide)
        simp [hc, ih.1 h.2]

theorem isDigest_iff {s : List Char} : isDigest s = true ↔ s ∈ digests := by
  rw [digests, Language.mem_mul]
  constructor
  · intro h
    rw [isDigest] at h
    split at h
    · next algorithm digits hsplit =>
      obtain ⟨rfl, -⟩ := splitFirst?_eq_some.1 hsplit
      rw [Bool.and_eq_true, Bool.and_eq_true, List.all_eq_true, decide_eq_true_iff] at h
      refine ⟨algorithm ++ ":".toList, ?_, digits, mem_one_atLeast.2 ⟨h.2, h.1.2⟩, ?_⟩
      · exact Language.append_mem_mul (isAlgorithm_iff.1.1 h.1.1) rfl
      · rw [List.append_assoc]
        rfl
    · cases h
  · rintro ⟨_, hstart, digits, hdigits, rfl⟩
    obtain ⟨algorithm, halgorithm, _, rfl, rfl⟩ := Language.mem_mul.1 hstart
    have hword := isAlgorithm_iff.1.2 halgorithm
    have hsplit : splitFirst? ':' (algorithm ++ ":".toList ++ digits) = some (algorithm, digits) := by
      rw [splitFirst?_eq_some, List.append_assoc]
      exact ⟨rfl, colon_notMem_of_isAlgorithm.1 hword⟩
    obtain ⟨hlength, hhex⟩ := mem_one_atLeast.1 hdigits
    rw [isDigest, hsplit]
    simp only [hword, Bool.true_and, Bool.and_eq_true, List.all_eq_true, decide_eq_true_eq]
    exact ⟨hhex, hlength⟩

/-- What stands in a tag besides dots and dashes are word characters. -/
theorem notMem_of_mem_tags {c : Char} (hword : isWordChar c = false) (hdot : c ≠ '.')
    (hdash : c ≠ '-') {s : List Char} (h : s ∈ tags) : c ∉ s := by
  cases s with
  | nil => simp
  | cons first rest =>
    rw [tags, cons_mem_one_mul, mem_one_upTo] at h
    obtain ⟨hfirst, -, hrest⟩ := h
    intro hc
    rcases List.mem_cons.1 hc with rfl | hc
    · rw [hword] at hfirst
      cases hfirst
    · have hheld := hrest c hc
      simp [hword, hdot, hdash] at hheld

/-! ## Reading, step by step -/

/-- What may follow the name: a digest, or nothing. -/
def digestParts : Language Char :=
  1 + spelled "@" * digests

/-- What may follow the path: a tag, or nothing. -/
def tagParts : Language Char :=
  1 + spelled ":" * tags

/-- The ways to name the default registry. -/
def registryParts : Language Char :=
  1 + spelled "docker.io/" + spelled "index.docker.io/"

/-- The paths of the images that may be run, with the namespace or without. -/
def pathParts : Language Char :=
  (1 + spelled "library/") * (spelled "alpine" + spelled "debian")

/-- The texts that name an image that may be run. -/
def allowed : Language Char :=
  registryParts * pathParts * tagParts * digestParts

theorem mem_registryParts_iff {part : List Char} :
    part ∈ registryParts ↔
      part = [] ∨ part = "docker.io/".toList ∨ part = "index.docker.io/".toList := by
  rw [registryParts, Language.mem_add, Language.mem_add, Language.mem_one, mem_spelled, mem_spelled,
    or_assoc]

theorem mem_pathParts_iff {path : List Char} :
    path ∈ pathParts ↔ path = "alpine".toList ∨ path = "debian".toList ∨
      path = "library/alpine".toList ∨ path = "library/debian".toList := by
  rw [pathParts, add_mul, one_mul, Language.mem_add, mem_spelled_mul, Language.mem_add, mem_spelled,
    mem_spelled, or_assoc]
  refine or_congr Iff.rfl (or_congr Iff.rfl ?_)
  constructor
  · rintro ⟨rest, hrest, rfl⟩
    rw [Language.mem_add, mem_spelled, mem_spelled] at hrest
    rcases hrest with rfl | rfl
    · exact .inl rfl
    · exact .inr rfl
  · rintro (rfl | rfl)
    · exact ⟨_, .inl rfl, rfl⟩
    · exact ⟨_, .inr rfl, rfl⟩

/-- A part that may be left out, as it is written with the mark before it. -/
def marked (mark : Char) (part : Option String) : List Char :=
  part.elim [] fun s => mark :: s.toList

theorem mem_optional_iff_marked {s : String} {mark : Char} (hmark : s.toList = [mark])
    {l : Language Char} {test : List Char → Bool} (hl : ∀ {x}, test x = true ↔ x ∈ l)
    {x : List Char} :
    x ∈ 1 + spelled s * l ↔
      ∃ part : Option String, (∀ text ∈ part, test text.toList = true) ∧ x = marked mark part := by
  rw [mem_optional]
  constructor
  · rintro (rfl | ⟨rest, hrest, rfl⟩)
    · exact ⟨none, by simp, rfl⟩
    · refine ⟨some (String.ofList rest), ?_, ?_⟩
      · rintro _ ⟨⟩
        rwa [String.toList_ofList, hl]
      · rw [marked, Option.elim_some, String.toList_ofList, hmark]
        rfl
  · rintro ⟨part, htest, rfl⟩
    cases part with
    | none => exact .inl rfl
    | some text =>
      refine .inr ⟨text.toList, hl.1 (htest text rfl), ?_⟩
      rw [hmark]
      rfl

theorem mem_tagParts_iff {part : List Char} :
    part ∈ tagParts ↔
      ∃ tag : Option String, (∀ t ∈ tag, isTag t.toList = true) ∧ part = marked ':' tag :=
  mem_optional_iff_marked rfl isTag_iff

theorem mem_digestParts_iff {part : List Char} :
    part ∈ digestParts ↔
      ∃ digest : Option String, (∀ d ∈ digest, isDigest d.toList = true) ∧ part = marked '@' digest :=
  mem_optional_iff_marked rfl isDigest_iff

/-- A tag has no slash, no `@` and no further colon in it. -/
theorem notMem_of_mem_tagParts {part : List Char} (h : part ∈ tagParts) :
    '/' ∉ part ∧ '@' ∉ part := by
  rcases mem_optional.1 h with rfl | ⟨tag, htag, rfl⟩
  · simp
  · have hslash : '/' ∉ tag := notMem_of_mem_tags (by decide) (by decide) (by decide) htag
    have hat : '@' ∉ tag := notMem_of_mem_tags (by decide) (by decide) (by decide) htag
    simp [hslash, hat]

theorem takeDigest_eq_ok_iff {s name : List Char} {digest : Option String} :
    takeDigest s = .ok (name, digest) ↔
      s = name ++ marked '@' digest ∧ '@' ∉ name ∧ ∀ d ∈ digest, isDigest d.toList = true := by
  constructor
  · intro h
    rw [takeDigest] at h
    split at h
    · next hnone =>
      cases h
      exact ⟨(List.append_nil _).symm, splitFirst?_eq_none.1 hnone, fun d hd => by cases hd⟩
    · next before after hsome =>
      obtain ⟨hs, hat⟩ := splitFirst?_eq_some.1 hsome
      split at h
      · next hdigest =>
        cases h
        refine ⟨?_, hat, ?_⟩
        · rw [marked, Option.elim_some, String.toList_ofList, hs]
        · rintro _ ⟨⟩
          rwa [String.toList_ofList]
      · cases h
  · rintro ⟨rfl, hat, h⟩
    cases digest with
    | none =>
      rw [marked, Option.elim_none, List.append_nil, takeDigest, splitFirst?_eq_none.2 hat]
    | some d =>
      have hsplit : splitFirst? '@' (name ++ '@' :: d.toList) = some (name, d.toList) :=
        splitFirst?_eq_some.2 ⟨rfl, hat⟩
      rw [marked, Option.elim_some, takeDigest, hsplit]
      dsimp only
      rw [if_pos (h d rfl), String.ofList_toList]

/-- A tag has no colon in it, so that it is cut off at the last one. -/
theorem takeTag_eq_ok_iff {s path : List Char} {tag : Option String} :
    takeTag s = .ok (path, tag) ↔
      s = path ++ marked ':' tag ∧ (tag = none → ':' ∉ path) ∧
        ∀ t ∈ tag, isTag t.toList = true := by
  constructor
  · intro h
    rw [takeTag] at h
    split at h
    · next hnone =>
      cases h
      exact ⟨(List.append_nil _).symm, fun _ => splitLast?_eq_none.1 hnone, fun t ht => by cases ht⟩
    · next before after hsome =>
      obtain ⟨hs, -⟩ := splitLast?_eq_some.1 hsome
      split at h
      · next htag =>
        cases h
        refine ⟨?_, fun hnone => (by cases hnone), ?_⟩
        · rw [marked, Option.elim_some, String.toList_ofList, hs]
        · rintro _ ⟨⟩
          rwa [String.toList_ofList]
      · cases h
  · rintro ⟨rfl, hcolon, h⟩
    cases tag with
    | none =>
      rw [marked, Option.elim_none, List.append_nil, takeTag, splitLast?_eq_none.2 (hcolon rfl)]
    | some t =>
      have hfree : ':' ∉ t.toList :=
        notMem_of_mem_tags (by decide) (by decide) (by decide) (isTag_iff.1 (h t rfl))
      have hsplit : splitLast? ':' (path ++ ':' :: t.toList) = some (path, t.toList) :=
        splitLast?_eq_some.2 ⟨rfl, hfree⟩
      rw [marked, Option.elim_some, takeTag, hsplit]
      dsimp only
      rw [if_pos (h t rfl), String.ofList_toList]

theorem exists_of_takeDomain {name rest : List Char} (h : takeDomain name = (defaultDomain, rest)) :
    ∃ part ∈ registryParts, part ++ rest = name := by
  rw [takeDomain] at h
  split at h
  · next first after hsome =>
    obtain ⟨rfl, -⟩ := splitFirst?_eq_some.1 hsome
    split at h
    · rw [Prod.mk.injEq] at h
      obtain ⟨hdomain, rfl⟩ := h
      split at hdomain
      · next hindex =>
        exact ⟨_, mem_registryParts_iff.2 (.inr (.inr rfl)), by rw [hindex]; rfl⟩
      · have hfirst : first = "docker.io".toList := by
          rw [← String.toList_ofList (l := first), hdomain]
          rfl
        exact ⟨_, mem_registryParts_iff.2 (.inr (.inl rfl)), by rw [hfirst]; rfl⟩
    · cases h
      exact ⟨[], mem_registryParts_iff.2 (.inl rfl), rfl⟩
  · cases h
    exact ⟨[], mem_registryParts_iff.2 (.inl rfl), rfl⟩

theorem takeDomain_append {part path tail : List Char} (hpart : part ∈ registryParts)
    (hpath : path ∈ pathParts) (htail : '/' ∉ tail) :
    takeDomain (part ++ (path ++ tail)) = (defaultDomain, path ++ tail) := by
  have hcut : ∀ first rest : List Char, '/' ∉ first →
      splitFirst? '/' (first ++ '/' :: rest) = some (first, rest) :=
    fun first rest hfirst => splitFirst?_eq_some.2 ⟨rfl, hfirst⟩
  rcases mem_registryParts_iff.1 hpart with rfl | rfl | rfl
  · -- without a registry the text is cut at the slash of the path, if that has one
    rw [List.nil_append, takeDomain]
    rcases mem_pathParts_iff.1 hpath with rfl | rfl | rfl | rfl
    · rw [splitFirst?_eq_none.2 (by simp [htail])]
    · rw [splitFirst?_eq_none.2 (by simp [htail])]
    · rw [show splitFirst? '/' ("library/alpine".toList ++ tail) = _ from
        hcut "library".toList ("alpine".toList ++ tail) (by decide)]
      rfl
    · rw [show splitFirst? '/' ("library/debian".toList ++ tail) = _ from
        hcut "library".toList ("debian".toList ++ tail) (by decide)]
      rfl
  · rw [takeDomain, show splitFirst? '/' ("docker.io/".toList ++ (path ++ tail)) = _ from
      hcut "docker.io".toList (path ++ tail) (by decide)]
    rfl
  · rw [takeDomain, show splitFirst? '/' ("index.docker.io/".toList ++ (path ++ tail)) = _ from
      hcut "index.docker.io".toList (path ++ tail) (by decide)]
    rfl

/-- The path with its namespace, which may be left out in the default registry. -/
def withNamespace (domain : String) (path : List Char) : String :=
  if domain = defaultDomain ∧ '/' ∉ path then defaultNamespace ++ "/" ++ String.ofList path
  else String.ofList path

theorem parse_eq_ok_iff {image : String} {r : Image} :
    parse image = .ok r ↔ image.toList ≠ [] ∧ ∃ name digest path tag,
      takeDigest image.toList = .ok (name, digest) ∧
      takeTag (takeDomain name).2 = .ok (path, tag) ∧
      componentFault (splitAll '/' path) = none ∧
      r = ⟨(takeDomain name).1, withNamespace (takeDomain name).1 path, tag, digest⟩ := by
  unfold parse
  by_cases hnil : image.toList = []
  · rw [if_pos hnil]
    constructor
    · intro h
      cases h
    · exact fun h => absurd hnil h.1
  · rw [if_neg hnil]
    constructor
    · intro h
      obtain ⟨⟨name, digest⟩, hdigest, h⟩ := Config.bind_eq_ok_iff.1 h
      obtain ⟨⟨path, tag⟩, htag, h⟩ := Config.bind_eq_ok_iff.1 h
      refine ⟨hnil, name, digest, path, tag, hdigest, htag, ?_⟩
      cases hfault : componentFault (splitAll '/' path) with
      | some fault =>
        simp only [hfault] at h
        cases h
      | none =>
        simp only [hfault, String.toList_ofList] at h
        cases h
        exact ⟨rfl, rfl⟩
    · rintro ⟨-, name, digest, path, tag, hdigest, htag, hfault, rfl⟩
      refine Config.bind_eq_ok_iff.2 ⟨(name, digest), hdigest, ?_⟩
      refine Config.bind_eq_ok_iff.2 ⟨(path, tag), htag, ?_⟩
      simp only [hfault, withNamespace, String.toList_ofList]
      rfl

theorem withNamespace_mem_iff {path : List Char} :
    withNamespace defaultDomain path ∈ allowedPaths ↔ path ∈ pathParts := by
  have hlist : ∀ (s : String) (t : List Char), String.ofList t = s ↔ t = s.toList := by
    intro s t
    rw [← String.toList_inj, String.toList_ofList]
  rw [mem_pathParts_iff, withNamespace, allowedPaths, List.mem_pair]
  by_cases hslash : '/' ∈ path
  · rw [if_neg (by simp [hslash]), hlist, hlist]
    constructor
    · exact fun h => .inr (.inr h)
    · rintro (rfl | rfl | h)
      · exact absurd hslash (by decide)
      · exact absurd hslash (by decide)
      · exact h
  · have happend : ∀ s t : String, t.toList = "library/".toList ++ s.toList →
        (defaultNamespace ++ "/" ++ String.ofList path = t ↔ path = s.toList) := by
      intro s t ht
      rw [← String.toList_inj, ht, String.toList_append, String.toList_ofList]
      exact List.append_right_inj _
    rw [if_pos ⟨rfl, hslash⟩, happend "alpine" _ (by rfl), happend "debian" _ rfl]
    constructor
    · rintro (h | h)
      · exact .inl h
      · exact .inr (.inl h)
    · rintro (h | h | rfl | rfl)
      · exact .inl h
      · exact .inr h
      · exact absurd (by decide) hslash
      · exact absurd (by decide) hslash

/-! ## What may be run -/

theorem isAllowed_iff {r : Image} :
    r.isAllowed = true ↔ r.domain = defaultDomain ∧ r.path ∈ allowedPaths := by
  rw [isAllowed, Bool.and_eq_true, beq_iff_eq, List.contains_iff_mem]

/-- The text of an image that may be run, cut into what is read from it. -/
theorem parts_of_isAllowed {s : String} {r : Image} (h : parse s = .ok r)
    (hallowed : r.isAllowed = true) :
    (∀ tag ∈ r.tag, isTag tag.toList = true) ∧
      (∀ digest ∈ r.digest, isDigest digest.toList = true) ∧
      ∃ registry ∈ registryParts, ∃ path ∈ pathParts,
        s.toList = registry ++ (path ++ (marked ':' r.tag ++ marked '@' r.digest)) := by
  obtain ⟨-, name, digest, path, tag, hdigest, htag, -, rfl⟩ := parse_eq_ok_iff.1 h
  obtain ⟨hdomain, hpath⟩ := isAllowed_iff.1 hallowed
  simp only at hdomain hpath
  rw [hdomain, withNamespace_mem_iff] at hpath
  obtain ⟨hs, -, hdigest⟩ := takeDigest_eq_ok_iff.1 hdigest
  obtain ⟨hrest, -, htag⟩ := takeTag_eq_ok_iff.1 htag
  have hcut : takeDomain name = (defaultDomain, (takeDomain name).2) := by rw [← hdomain]
  obtain ⟨registry, hregistry, hname⟩ := exists_of_takeDomain hcut
  refine ⟨htag, hdigest, registry, hregistry, path, hpath, ?_⟩
  rw [hs, ← hname, hrest]
  simp only [List.append_assoc]

/-- A text is read as an image that may be run exactly if it is in the language. -/
theorem exists_isAllowed_iff (s : String) :
    (∃ r, parse s = .ok r ∧ r.isAllowed = true) ↔ s.toList ∈ allowed := by
  rw [allowed, mul_assoc, mul_assoc, Language.mem_mul]
  constructor
  · rintro ⟨r, hread, hr⟩
    obtain ⟨htag, hdigest, registry, hregistry, path, hpath, hs⟩ := parts_of_isAllowed hread hr
    have htail : marked ':' r.tag ++ marked '@' r.digest ∈ tagParts * digestParts :=
      Language.append_mem_mul (mem_tagParts_iff.2 ⟨r.tag, htag, rfl⟩)
        (mem_digestParts_iff.2 ⟨r.digest, hdigest, rfl⟩)
    exact ⟨registry, hregistry, _, Language.append_mem_mul hpath htail, hs.symm⟩
  · rintro ⟨registry, hregistry, _, hrest, hs⟩
    obtain ⟨path, hpath, _, htail, rfl⟩ := Language.mem_mul.1 hrest
    obtain ⟨tagPart, htagPart, digestPart, hdigestPart, rfl⟩ := Language.mem_mul.1 htail
    obtain ⟨hslash, hat⟩ := notMem_of_mem_tagParts htagPart
    have hpathFree : ':' ∉ path ∧ '@' ∉ path ∧ path ≠ [] ∧ componentFault (splitAll '/' path) = none := by
      rcases mem_pathParts_iff.1 hpath with rfl | rfl | rfl | rfl <;> decide
    have hregistryFree : '@' ∉ registry := by
      rcases mem_registryParts_iff.1 hregistry with rfl | rfl | rfl <;> decide
    obtain ⟨hcolon, hpathAt, hne, hfault⟩ := hpathFree
    have hdomain := takeDomain_append hregistry hpath hslash
    have hfree : '@' ∉ registry ++ (path ++ tagPart) := by simp [hregistryFree, hpathAt, hat]
    have hwhole : s.toList = registry ++ (path ++ tagPart) ++ digestPart := by simp [← hs]
    obtain ⟨digest, hdigest, rfl⟩ := mem_digestParts_iff.1 hdigestPart
    obtain ⟨tag, htag, rfl⟩ := mem_tagParts_iff.1 htagPart
    refine ⟨_, parse_eq_ok_iff.2 ⟨?_, _, digest, path, tag,
      takeDigest_eq_ok_iff.2 ⟨hwhole, hfree, hdigest⟩, ?_, hfault, rfl⟩, ?_⟩
    · rw [← hs]
      simp [hne]
    · rw [hdomain]
      exact takeTag_eq_ok_iff.2 ⟨rfl, fun _ => hcolon, htag⟩
    · rw [isAllowed_iff, hdomain]
      exact ⟨rfl, withNamespace_mem_iff.2 hpath⟩

/-- **Which images are run.** A text is read as an image that may be run exactly if it is
one of three ways to name the default registry, the namespace or not, one of two names,
and a tag and a digest or not. So in a configuration that is loaded every workflow, and
every project's workflow, has such an image, and no other repository of the default
registry and no other registry is named. -/
theorem runs_iff_allowed :
    (∀ s : String, (∃ r, parse s = .ok r ∧ r.isAllowed = true) ↔ s.toList ∈ allowed) ∧
    (∀ bytes c, Config.load bytes = .ok c →
      (∀ name w, c.workflows.find? name = some w → w.image.toList ∈ allowed) ∧
      (∀ p ∈ c.projects, p.workflow.image.toList ∈ allowed)) ∧
    (∀ s : String, s.toList ∈ allowed → ∃ r, parse s = .ok r ∧
      (r.fullPath = "docker.io/library/alpine" ∨ r.fullPath = "docker.io/library/debian")) := by
  refine ⟨exists_isAllowed_iff, ?_, ?_⟩
  · intro bytes c hload
    have hworkflows : ∀ name w, c.workflows.find? name = some w → w.image.toList ∈ allowed := by
      intro name w hw
      obtain ⟨-, himage⟩ := Workflow.validate_eq_ok_iff.1 (Config.validate_of_load hload hw)
      obtain ⟨-, hruns⟩ := Workflow.validateImage_eq_ok_iff.1 himage
      exact (exists_isAllowed_iff w.image).1 hruns
    refine ⟨hworkflows, ?_⟩
    intro p hp
    obtain ⟨-, -, hfind⟩ := Config.bound_of_parse (Config.load_eq_ok_iff.1 hload).1 hp
    exact hworkflows _ _ hfind
  · intro s hs
    obtain ⟨r, hread, hr⟩ := (exists_isAllowed_iff s).2 hs
    refine ⟨r, hread, ?_⟩
    rw [isAllowed, Bool.and_eq_true, beq_iff_eq, List.contains_iff_mem, allowedPaths,
      List.mem_pair] at hr
    rw [fullPath, hr.1]
    rcases hr.2 with hpath | hpath
    · exact .inl (by rw [hpath]; rfl)
    · exact .inr (by rw [hpath]; rfl)

/-- The workflow of a configuration that was loaded runs an image of the language, and one
of another registry is not in it. -/
theorem runs_allowed_written :
    Config.load Config.written.toUTF8 = .ok Config.sample ∧
      (∀ p ∈ Config.sample.projects, p.workflow.image.toList ∈ allowed) ∧
      "index.docker.io/library/debian:12".toList ∈ allowed ∧
      "quay.io/library/debian:12".toList ∉ allowed := by
  obtain ⟨hiff, hload, -⟩ := runs_iff_allowed
  obtain ⟨-, hprojects⟩ := hload Config.written.toUTF8 Config.sample Config.load_written
  have hruns (s : String) : s.toList ∈ allowed ↔ (parse s).toOption.any isAllowed = true := by
    rw [← hiff s]
    cases parse s with
    | error e => simp [Except.toOption]
    | ok r => simp [Except.toOption]
  refine ⟨Config.load_written, hprojects, ?_, ?_⟩
  · rw [hruns]
    decide +kernel
  · rw [hruns]
    decide +kernel

end Image

end Groundwork
