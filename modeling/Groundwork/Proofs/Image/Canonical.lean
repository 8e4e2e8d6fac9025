/-
References with nothing left out. Reading tells from dots, colons and one special name
whether a reference starts with a registry, gives the default registry the first of its two
names, and puts a namespace before a bare name. None of this can happen a second time: what
was read is canonical (`Image.canonical_of_parse`), and what is written for a canonical
reference is cut where it was joined and nothing is filled in (`Image.parse_render`). So
reading and then writing brings every spelling to one normal form
(`Image.canonical_form_is_read`).

That the text is cut at the same places rests on what the parts are made of: neither a tag
nor a path has an `@` or a colon in it, and no registry has a slash.
-/
import Groundwork.Proofs.Check.Context
import Groundwork.Proofs.Image.Allowed

set_option autoImplicit false

namespace Groundwork

namespace Image

open Text

/-! ## What the parts are made of -/

/-- The characters of path components. -/
def isPathChar (c : Char) : Bool :=
  isNameChar c || c = '.' || c = '_' || c = '-'

/-- A component goes on with one of its characters, in whatever state it is read. -/
theorem isComponentAfter_cons {state : Reading} {c : Char} {rest : List Char}
    (h : isComponentAfter state (c :: rest) = true) :
    isPathChar c = true ∧ ∃ next, isComponentAfter next rest = true := by
  by_cases hname : isNameChar c = true
  · cases state <;> rw [isComponentAfter, if_pos hname] at h <;>
      exact ⟨by simp [isPathChar, hname], .name, h⟩
  · cases state with
    | start | mark =>
      rw [isComponentAfter, if_neg hname] at h
      cases h
    | name =>
      rw [isComponentAfter, if_neg hname] at h
      split at h
      · next hdot => exact ⟨by simp [isPathChar, hdot], .mark, h⟩
      · split at h
        · next hline => exact ⟨by simp [isPathChar, hline], .underscore, h⟩
        · rw [Bool.and_eq_true, decide_eq_true_iff] at h
          exact ⟨by simp [isPathChar, h.1], .dash, h.2⟩
    | underscore =>
      rw [isComponentAfter, if_neg hname] at h
      simp only [Bool.and_eq_true, decide_eq_true_iff] at h
      exact ⟨by simp [isPathChar, h.1], .mark, h.2⟩
    | dash =>
      rw [isComponentAfter, if_neg hname] at h
      simp only [Bool.and_eq_true, decide_eq_true_iff] at h
      exact ⟨by simp [isPathChar, h.1], .dash, h.2⟩

theorem isPathChar_of_mem {state : Reading} {part : List Char}
    (h : isComponentAfter state part = true) {c : Char} (hc : c ∈ part) : isPathChar c = true := by
  induction part generalizing state with
  | nil => cases hc
  | cons first rest ih =>
    obtain ⟨hfirst, next, hnext⟩ := isComponentAfter_cons h
    rcases List.mem_cons.1 hc with rfl | hc
    · exact hfirst
    · exact ih hnext hc

theorem componentFault_eq_none_iff {parts : List (List Char)} :
    componentFault parts = none ↔ ∀ part ∈ parts, isComponent part = true := by
  rw [componentFault, Option.map_eq_none_iff, List.find?_eq_none]
  simp only [Bool.not_eq_true', Bool.not_eq_false]

/-- A character that is joined in stands in one of the parts or is the separator. -/
theorem mem_joinWith {sep c : Char} {parts : List (List Char)} (h : c ∈ joinWith [sep] parts) :
    c = sep ∨ ∃ part ∈ parts, c ∈ part := by
  induction parts with
  | nil => cases h
  | cons part rest ih =>
    cases rest with
    | nil => exact .inr ⟨part, List.mem_cons_self, h⟩
    | cons other rest =>
      rw [joinWith, List.mem_append, List.mem_append, List.mem_singleton] at h
      · rcases h with (h | h) | h
        · exact .inr ⟨part, List.mem_cons_self, h⟩
        · exact .inl h
        · rcases ih h with h | ⟨found, hfound, h⟩
          · exact .inl h
          · exact .inr ⟨found, List.mem_cons_of_mem _ hfound, h⟩
      · exact List.cons_ne_nil _ _

/-- What stands in a path besides slashes are characters of its components. -/
theorem notMem_path {path : List Char} (h : ∀ part ∈ splitAll '/' path, isComponent part = true)
    {c : Char} (hslash : c ≠ '/') (hc : isPathChar c = false) : c ∉ path := by
  intro hmem
  rw [← joinWith_splitAll '/' path] at hmem
  rcases mem_joinWith hmem with hsep | ⟨part, hpart, hmem⟩
  · exact hslash hsep
  · rw [isPathChar_of_mem (h part hpart) hmem] at hc
    cases hc

/-! ## The registry and the path -/

/-- The registry that is cut off is one, and never goes by its other name. -/
theorem of_takeDomain {name : List Char} (hat : '@' ∉ name) :
    isDomain (takeDomain name).1.toList = true ∧ '/' ∉ (takeDomain name).1.toList ∧
      '@' ∉ (takeDomain name).1.toList ∧ (takeDomain name).1.toList ≠ "index.docker.io".toList := by
  have hdefault : isDomain defaultDomain.toList = true ∧ '/' ∉ defaultDomain.toList ∧
      '@' ∉ defaultDomain.toList ∧ defaultDomain.toList ≠ "index.docker.io".toList := by decide
  rw [takeDomain]
  split
  · next first rest hsplit =>
    obtain ⟨rfl, hslash⟩ := splitFirst?_eq_some.1 hsplit
    split
    · next hdomain =>
      split
      · exact hdefault
      · next hindex =>
        rw [String.toList_ofList]
        exact ⟨hdomain, hslash, fun hmem => hat (List.mem_append_left _ hmem), hindex⟩
    · exact hdefault
  · exact hdefault

/-- A registry that is written is cut off again. -/
theorem takeDomain_slash {first rest : List Char} (hslash : '/' ∉ first)
    (hdomain : isDomain first = true) (hindex : first ≠ "index.docker.io".toList) :
    takeDomain (first ++ '/' :: rest) = (String.ofList first, rest) := by
  have hsplit : splitFirst? '/' (first ++ '/' :: rest) = some (first, rest) :=
    splitFirst?_eq_some.2 ⟨rfl, hslash⟩
  rw [takeDomain, hsplit]
  dsimp only
  rw [if_pos hdomain, if_neg hindex]

/-- With its namespace a path has components, and in the default registry a slash. -/
theorem of_withNamespace {path : List Char}
    (h : ∀ part ∈ splitAll '/' path, isComponent part = true) (domain : String) :
    (∀ part ∈ splitAll '/' (withNamespace domain path).toList, isComponent part = true) ∧
      (domain = defaultDomain → '/' ∈ (withNamespace domain path).toList) := by
  rw [withNamespace]
  split
  · have hlist : (defaultNamespace ++ "/" ++ String.ofList path).toList =
        "library".toList ++ '/' :: path := by
      rw [toList_slash, String.toList_ofList]
      rfl
    rw [hlist, splitAll_append_cons, splitAll_of_not_mem (by decide)]
    refine ⟨List.forall_mem_cons.2 ⟨by decide, h⟩, fun _ => ?_⟩
    exact List.mem_append_right _ List.mem_cons_self
  · next hbare =>
    rw [String.toList_ofList]
    refine ⟨h, fun hdefault => ?_⟩
    by_contra hslash
    exact hbare ⟨hdefault, hslash⟩

/-! ## Canonical references -/

/-- A reference with nothing left out but tag and digest, and with the first name of the
default registry. -/
structure Canonical (r : Image) : Prop where
  /-- The registry is seen to be one. -/
  registry : isDomain r.domain.toList = true
  registry_slash : '/' ∉ r.domain.toList
  registry_at : '@' ∉ r.domain.toList
  /-- It does not go by the other name of the default one. -/
  registry_name : r.domain.toList ≠ "index.docker.io".toList
  components : ∀ part ∈ splitAll '/' r.path.toList, isComponent part = true
  /-- In the default registry the namespace is there. -/
  namespaced : r.domain = defaultDomain → '/' ∈ r.path.toList
  tag : ∀ tag ∈ r.tag, isTag tag.toList = true
  digest : ∀ digest ∈ r.digest, isDigest digest.toList = true

/-- What was read is canonical. -/
theorem canonical_of_parse {s : String} {r : Image} (h : parse s = .ok r) : r.Canonical := by
  obtain ⟨-, name, digest, path, tag, hdigest, htag, hfault, rfl⟩ := parse_eq_ok_iff.1 h
  obtain ⟨-, hat, hdigest⟩ := takeDigest_eq_ok_iff.1 hdigest
  obtain ⟨-, -, htag⟩ := takeTag_eq_ok_iff.1 htag
  obtain ⟨hregistry, hslash, hfree, hname⟩ := of_takeDomain hat
  obtain ⟨hcomponents, hnamespaced⟩ :=
    of_withNamespace (componentFault_eq_none_iff.1 hfault) (takeDomain name).1
  exact {
    registry := hregistry
    registry_slash := hslash
    registry_at := hfree
    registry_name := hname
    components := hcomponents
    namespaced := hnamespaced
    tag := htag
    digest := hdigest }

/-! ## Reading what is written for them -/

/-- The characters of a reference. -/
theorem toList_render (r : Image) :
    r.render.toList =
      r.domain.toList ++ '/' :: (r.path.toList ++ marked ':' r.tag) ++ marked '@' r.digest := by
  have hmarked (mark : String) (c : Char) (hc : mark.toList = [c]) (part : Option String) :
      (part.elim "" (mark ++ ·)).toList = marked c part := by
    cases part with
    | none => rfl
    | some s => rw [Option.elim_some, String.toList_append, hc]; rfl
  rw [render, String.toList_append, String.toList_append, hmarked ":" ':' rfl,
    hmarked "@" '@' rfl, fullPath, toList_slash]
  simp only [List.append_assoc, List.cons_append]

/-- What is written for a canonical reference is read as that reference. -/
theorem parse_render {r : Image} (h : r.Canonical) : parse r.render = .ok r := by
  have hcolon : ':' ∉ r.path.toList := notMem_path h.components (by decide) (by decide)
  have hat : '@' ∉ r.path.toList := notMem_path h.components (by decide) (by decide)
  have hname : '@' ∉ r.domain.toList ++ '/' :: (r.path.toList ++ marked ':' r.tag) := by
    have htag := notMem_of_mem_tagParts (mem_tagParts_iff.2 ⟨r.tag, h.tag, rfl⟩)
    simp [h.registry_at, hat, htag.2]
  have hdomain : takeDomain (r.domain.toList ++ '/' :: (r.path.toList ++ marked ':' r.tag)) =
      (r.domain, r.path.toList ++ marked ':' r.tag) := by
    rw [takeDomain_slash h.registry_slash h.registry h.registry_name, String.ofList_toList]
  have hpath : withNamespace r.domain r.path.toList = r.path := by
    rw [withNamespace, if_neg fun hbare => hbare.2 (h.namespaced hbare.1), String.ofList_toList]
  rw [parse_eq_ok_iff, toList_render]
  refine ⟨by simp, _, r.digest, r.path.toList, r.tag,
    takeDigest_eq_ok_iff.2 ⟨rfl, hname, h.digest⟩, ?_, componentFault_eq_none_iff.2 h.components, ?_⟩
  · rw [hdomain]
    exact takeTag_eq_ok_iff.2 ⟨rfl, fun _ => hcolon, h.tag⟩
  · rw [hdomain, hpath]

/-- Canonical references that are written alike are the same. -/
theorem eq_of_render_eq {r r' : Image} (h : r.Canonical) (h' : r'.Canonical)
    (heq : r.render = r'.render) : r = r' := by
  have hread := parse_render h
  rw [heq, parse_render h'] at hread
  exact (Except.ok.inj hread).symm

/-! ## Spellings -/

/-- Whether a workflow can be run depends on the image that is read for it, and not on how
it is spelled. -/
theorem validate_congr {s s' : String} {r : Image} (h : parse s = .ok r) (h' : parse s' = .ok r)
    (w : Workflow) :
    { w with image := s }.validate = .ok () ↔ { w with image := s' }.validate = .ok () := by
  have hne {s : String} (h : parse s = .ok r) : s ≠ "" := by
    rintro rfl
    cases h
  simp only [Workflow.validate_eq_ok_iff, Workflow.validateImage_eq_ok_iff, h, h', hne h, hne h',
    ne_eq, not_false_eq_true, true_and]

/-- **One normal form.** What is written for a reference that was read, with nothing left
out, is read as that reference again. Any other text with the same normal form refers to the
same image, so that a workflow with the one text can be run exactly if it can with the
other. -/
theorem canonical_form_is_read {s : String} {r : Image} (h : parse s = .ok r) :
    parse r.render = .ok r ∧
    ∀ s' r', parse s' = .ok r' → r'.render = r.render →
      r' = r ∧ r'.isAllowed = r.isAllowed ∧
      ∀ w : Workflow,
        { w with image := s' }.validate = .ok () ↔ { w with image := s }.validate = .ok () := by
  refine ⟨parse_render (canonical_of_parse h), ?_⟩
  intro s' r' h' heq
  obtain rfl := eq_of_render_eq (canonical_of_parse h') (canonical_of_parse h) heq
  exact ⟨rfl, rfl, validate_congr h' h⟩

/-- Both names of the default registry, with the namespace and without, are one image. -/
theorem canonical_form_is_read_of_spellings :
    let r : Image := ⟨"docker.io", "library/alpine", some "3.19",
      some "sha256:00112233445566778899aabbccddeeff"⟩
    let short := "alpine:3.19@sha256:00112233445566778899aabbccddeeff"
    let long := "index.docker.io/alpine:3.19@sha256:00112233445566778899aabbccddeeff"
    parse long = .ok r ∧ r.render ≠ long ∧ parse r.render = .ok r ∧
      ∀ w : Workflow,
        { w with image := short }.validate = .ok () ↔ { w with image := long }.validate = .ok () := by
  intro r short long
  have hlong : parse long = .ok r := by decide +kernel
  have hshort : parse short = .ok r := by decide +kernel
  obtain ⟨hread, hspellings⟩ := canonical_form_is_read hlong
  obtain ⟨-, -, hvalid⟩ := hspellings short r hshort rfl
  exact ⟨hlong, by decide +kernel, hread, hvalid⟩

end Image

end Groundwork
