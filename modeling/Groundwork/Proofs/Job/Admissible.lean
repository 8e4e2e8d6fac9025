/-
Which jobs a cluster takes. It makes the name of a job from that of its record by an ending
of small letters and digits, and asks for the name of a host: parts of small letters,
digits and dashes, with dots between them, none of which starts or ends with a dash. The
label for the repository has bounded room and starts and ends with a letter or a digit.

Slashes and underscores become dashes on the way to a name, but dots stay. So a name is
that of a host exactly if each dot in it stands between letters and digits (`IsSheltered`),
and since nothing but dots makes that fail, it can be told from the names as people write
them, before anything is replaced or put in lower case (`admissible_iff`).
-/
import Groundwork.Proofs.Image.Portable
import Groundwork.Proofs.Job.Name
import Groundwork.Proofs.Job.Record
import Groundwork.Repository

set_option autoImplicit false

namespace Groundwork

/-! ## The parts at the ends of a text -/

namespace Text

variable {α : Type} [BEq α] [LawfulBEq α]

/-- A text starts with one of its parts. -/
theorem exists_first_part (sep : α) (s : List α) :
    ∃ part rest, s = part ++ rest ∧ part ∈ splitAll sep s := by
  cases h : splitFirst? sep s with
  | none =>
    refine ⟨s, [], (List.append_nil s).symm, ?_⟩
    rw [splitAll_of_not_mem (splitFirst?_eq_none.1 h)]
    exact List.mem_singleton_self s
  | some p =>
    obtain ⟨hs, hpart⟩ := splitFirst?_eq_some.1 h
    refine ⟨p.1, sep :: p.2, hs, ?_⟩
    rw [hs, splitAll_append_cons, splitAll_of_not_mem hpart]
    exact List.mem_cons_self

/-- A text ends with one of its parts. -/
theorem exists_last_part (sep : α) (s : List α) :
    ∃ rest part, s = rest ++ part ∧ part ∈ splitAll sep s := by
  cases h : splitLast? sep s with
  | none =>
    refine ⟨[], s, rfl, ?_⟩
    rw [splitAll_of_not_mem (splitLast?_eq_none.1 h)]
    exact List.mem_singleton_self s
  | some p =>
    obtain ⟨hs, hpart⟩ := splitLast?_eq_some.1 h
    refine ⟨p.1 ++ [sep], p.2, by rw [hs, List.append_assoc]; rfl, ?_⟩
    rw [hs, splitAll_append_cons, splitAll_of_not_mem hpart]
    exact List.mem_append_right _ (List.mem_singleton_self _)

end Text

namespace Job

/-! ## Names of hosts -/

/-- What every part of the name of a host is. -/
structure IsHostLabel (s : List Char) : Prop where
  first : ∃ c ∈ s.head?, c.isAlphanum = true
  last : ∃ c ∈ s.getLast?, c.isAlphanum = true
  chars : ∀ c ∈ s, c.isLower = true ∨ c.isDigit = true ∨ c = '-'

/-- The name of a host: parts with dots between them. -/
def IsSubdomain (s : List Char) : Prop :=
  ∀ part ∈ Text.splitAll '.' s, IsHostLabel part

/-- Each dot of a text stands between letters and digits. -/
def IsSheltered (s : List Char) : Prop :=
  ∀ before after, s = before ++ '.' :: after →
    (∃ c ∈ before.getLast?, c.isAlphanum = true) ∧ ∃ c ∈ after.head?, c.isAlphanum = true

theorem IsSheltered.of_subdomain {s : List Char} (h : IsSubdomain s) : IsSheltered s := by
  rintro before after rfl
  rw [IsSubdomain, Text.splitAll_append_cons, List.forall_mem_append] at h
  -- a dot stands right after a part and right before one
  obtain ⟨rest, part, hbefore, hpart⟩ := Text.exists_last_part '.' before
  obtain ⟨part', rest', hafter, hpart'⟩ := Text.exists_first_part '.' after
  obtain ⟨c, hc, hlast⟩ := (h.1 part hpart).last
  obtain ⟨d, hd, hfirst⟩ := (h.2 part' hpart').first
  refine ⟨⟨c, ?_, hlast⟩, d, ?_, hfirst⟩
  · rw [hbefore, List.getLast?_append, hc]
    rfl
  · rw [hafter, List.head?_append, hd]
    rfl

/-- After a dot a text is sheltered too. -/
theorem IsSheltered.after {s rest : List Char} (h : IsSheltered (s ++ '.' :: rest)) :
    IsSheltered rest := by
  rintro before after rfl
  obtain ⟨⟨c, hc, hlast⟩, hfirst⟩ := h (s ++ '.' :: before) after (by rw [List.append_assoc]; rfl)
  refine ⟨?_, hfirst⟩
  -- what stands before the second dot is not the first one
  cases before using List.reverseRecOn with
  | nil =>
    rw [List.getLast?_concat] at hc
    cases hc
    exact absurd hlast (by decide)
  | append_singleton before d =>
    rw [← List.cons_append, ← List.append_assoc, List.getLast?_concat] at hc
    exact ⟨c, by rwa [List.getLast?_concat], hlast⟩

/-- What has no other characters, starts and ends as a name does, and has its dots
sheltered, is the name of a host. -/
theorem IsSheltered.subdomain {s : List Char} (h : IsSheltered s)
    (hfirst : ∃ c ∈ s.head?, c.isAlphanum = true) (hlast : ∃ c ∈ s.getLast?, c.isAlphanum = true)
    (hchars : ∀ c ∈ s, c = '.' ∨ c.isLower = true ∨ c.isDigit = true ∨ c = '-') :
    IsSubdomain s := by
  -- a name without its first part is sheltered too, and shorter
  induction hn : s.length using Nat.strong_induction_on generalizing s with
  | _ n ih =>
    cases hsplit : Text.splitFirst? '.' s with
    | none =>
      have hdot := Text.splitFirst?_eq_none.1 hsplit
      intro part hpart
      rw [Text.splitAll_of_not_mem hdot, List.mem_singleton] at hpart
      subst hpart
      refine ⟨hfirst, hlast, fun c hc => (hchars c hc).resolve_left ?_⟩
      rintro rfl
      exact hdot hc
    | some p =>
      obtain ⟨part, rest⟩ := p
      obtain ⟨rfl, hdot⟩ := Text.splitFirst?_eq_some.1 hsplit
      obtain ⟨hbefore, hafter⟩ := h part rest rfl
      rw [List.forall_mem_append, List.forall_mem_cons] at hchars
      rw [IsSubdomain, Text.splitAll_append_cons, Text.splitAll_of_not_mem hdot,
        List.forall_mem_append, List.forall_mem_singleton]
      refine ⟨⟨?_, hbefore, fun c hc => (hchars.1 c hc).resolve_left ?_⟩, ?_⟩
      · cases part with
        | nil => simp at hbefore
        | cons d part => exact hfirst
      · rintro rfl
        exact hdot hc
      · refine ih rest.length ?_ (IsSheltered.after h) hafter ?_ hchars.2.2 rfl
        · rw [← hn, List.length_append, List.length_cons]
          omega
        · cases rest with
          | nil => simp at hafter
          | cons d rest => simpa [List.getLast?_append, List.getLast?_cons_cons] using hlast

/-! ## What shelters dots -/

/-- What comes after a text without dots of its own, and without a letter or a digit at its
start, shelters no dot. -/
theorem isSheltered_append_iff {s t : List Char} (hdot : '.' ∉ t)
    (hfirst : ∀ c ∈ t.head?, c.isAlphanum = false) : IsSheltered (s ++ t) ↔ IsSheltered s := by
  constructor
  · rintro h before after rfl
    obtain ⟨hbefore, c, hc, halpha⟩ := h before (after ++ t) (by rw [List.append_assoc]; rfl)
    refine ⟨hbefore, c, ?_, halpha⟩
    rw [List.head?_append, Option.mem_def, Option.or_eq_some_iff] at hc
    rcases hc with hc | ⟨-, hc⟩
    · exact hc
    · exact absurd halpha (by simp [hfirst c hc])
  · rintro h before after heq
    rcases List.append_eq_append_iff.1 heq with ⟨inner, rfl, rfl⟩ | ⟨inner, rfl, hinner⟩
    · exact absurd (List.mem_append_right _ List.mem_cons_self) hdot
    · cases inner with
      | nil => exact absurd (by rw [← List.nil_append t, ← hinner]; exact List.mem_cons_self) hdot
      | cons d inner =>
        rw [List.cons_append, List.cons.injEq] at hinner
        obtain ⟨rfl, rfl⟩ := hinner
        obtain ⟨hbefore, c, hc, halpha⟩ := h before inner rfl
        refine ⟨hbefore, c, ?_, halpha⟩
        rw [List.head?_append, hc]
        rfl

theorem isSheltered_iff_forall_lt {s : List Char} :
    IsSheltered s ↔ ∀ i < s.length, s[i]? = some '.' →
      (s.take i).getLast?.any Char.isAlphanum = true ∧
        (s.drop (i + 1)).head?.any Char.isAlphanum = true := by
  simp only [Option.any_eq_true]
  constructor
  · intro h i hi hdot
    refine h (s.take i) (s.drop (i + 1)) ?_
    rw [List.getElem?_eq_getElem hi, Option.some.injEq] at hdot
    rw [← hdot, List.getElem_cons_drop, List.take_append_drop]
  · rintro h before after rfl
    have hi := h before.length (by simp) (by simp)
    rwa [List.take_left, ← List.drop_drop, List.drop_left, List.drop_one, List.tail_cons] at hi

instance (s : List Char) : Decidable (IsSheltered s) :=
  decidable_of_iff _ isSheltered_iff_forall_lt.symm

/-- Characters of a kind are letters or digits alike. -/
theorem exists_alphanum_map_iff {f : Char → Char} {o : Option Char}
    (hf : ∀ c ∈ o, (f c).isAlphanum = c.isAlphanum) :
    (∃ c ∈ o.map f, c.isAlphanum = true) ↔ ∃ c ∈ o, c.isAlphanum = true := by
  cases o with
  | none => simp
  | some c => simpa using Bool.eq_iff_iff.1 (hf c rfl)

/-- Characters may be replaced by others of their kind. -/
theorem isSheltered_map_iff {f : Char → Char} {s : List Char}
    (hf : ∀ c ∈ s, (f c = '.' ↔ c = '.') ∧ (f c).isAlphanum = c.isAlphanum) :
    IsSheltered (s.map f) ↔ IsSheltered s := by
  have hends : ∀ {before after : List Char}, s = before ++ '.' :: after →
      ((∃ c ∈ (before.map f).getLast?, c.isAlphanum = true) ∧
        (∃ c ∈ (after.map f).head?, c.isAlphanum = true) ↔
      (∃ c ∈ before.getLast?, c.isAlphanum = true) ∧ ∃ c ∈ after.head?, c.isAlphanum = true) := by
    rintro before after rfl
    rw [List.forall_mem_append, List.forall_mem_cons] at hf
    rw [List.getLast?_map, List.head?_map,
      exists_alphanum_map_iff fun c hc => (hf.1 c (List.mem_of_getLast? hc)).2,
      exists_alphanum_map_iff fun c hc => (hf.2.2 c (List.mem_of_head? hc)).2]
  constructor
  · intro h before after hs
    refine (hends hs).1 (h _ _ ?_)
    subst hs
    have hdot : f '.' = '.' := (hf '.' (by simp)).1.2 rfl
    rw [List.map_append, List.map_cons, hdot]
  · intro h before after heq
    obtain ⟨before, rest, hs, rfl, hrest⟩ := List.map_eq_append_iff.1 heq
    obtain ⟨c, after, rfl, hdot, rfl⟩ := List.map_eq_cons_iff.1 hrest
    obtain rfl := (hf c (by simp [hs])).1.1 hdot
    exact (hends hs).2 (h before after hs)

/-! ## Names as people write them -/

/-- A text of the characters that names of owners, repositories and directories are made
of, with slashes between them. -/
def IsPlain (s : List Char) : Prop :=
  ∀ c ∈ s, Repository.isNameChar c = true ∨ c = '/'

-- by the characters of the text, and not by all that there are
instance (s : List Char) : Decidable (IsPlain s) :=
  decidable_of_iff (s.all (fun c => Repository.isNameChar c || c = '/') = true) (by
    simp only [IsPlain, List.all_eq_true, Bool.or_eq_true, decide_eq_true_eq])

/-- What a character becomes in a name. -/
def neatChar (c : Char) : Char :=
  nameChar c.toLower

/-- Only dots become dots, letters and digits stay such, and all else becomes a dash. -/
theorem kinds_of_lt : ∀ n < 128,
    (Repository.isNameChar (Char.ofNat n) = true ∨ Char.ofNat n = '/') →
      (neatChar (Char.ofNat n) = '.' ↔ Char.ofNat n = '.') ∧
      (neatChar (Char.ofNat n)).isAlphanum = (Char.ofNat n).isAlphanum ∧
      (neatChar (Char.ofNat n) = '.' ∨ (neatChar (Char.ofNat n)).isLower = true ∨
        (neatChar (Char.ofNat n)).isDigit = true ∨ neatChar (Char.ofNat n) = '-') := by
  decide +kernel

theorem IsPlain.toNat_lt {s : List Char} (h : IsPlain s) {c : Char} (hc : c ∈ s) : c.toNat < 128 := by
  rcases h c hc with hname | rfl
  · simp only [Repository.isNameChar, Bool.or_eq_true, decide_eq_true_eq] at hname
    rcases hname with ((halpha | rfl) | rfl) | rfl
    · exact of_decide_eq_true (Image.isAscii_of_isAlphanum halpha)
    · decide
    · decide
    · decide
  · decide

theorem IsPlain.kinds {s : List Char} (h : IsPlain s) {c : Char} (hc : c ∈ s) :
    (neatChar c = '.' ↔ c = '.') ∧ (neatChar c).isAlphanum = c.isAlphanum ∧
      (neatChar c = '.' ∨ (neatChar c).isLower = true ∨ (neatChar c).isDigit = true ∨
        neatChar c = '-') := by
  have hkinds := kinds_of_lt c.toNat (h.toNat_lt hc)
  rw [Char.ofNat_toNat] at hkinds
  exact hkinds (h c hc)

/-- The name of a job as its parts are written, before anything is put in lower case,
replaced or cut. -/
def spelledName (command : Command) (repo dir : String) : List Char :=
  let dir := trimSlashes dir.toList
  opening command ++ repo.toList ++ ['-'] ++ if dir = [] ∨ dir = ['.'] then [] else dir ++ ['-']

theorem mem_of_mem_trimSlashes {s : List Char} {c : Char} (h : c ∈ trimSlashes s) : c ∈ s :=
  List.dropWhile_subset _ ((trimEnd_isPrefix _ _).subset h)

theorem isPlain_append_iff {s t : List Char} : IsPlain (s ++ t) ↔ IsPlain s ∧ IsPlain t :=
  List.forall_mem_append

theorem isPlain_opening (command : Command) : IsPlain (opening command) := by
  cases command <;> decide

theorem isPlain_spelledName {command : Command} {repo dir : String} (hrepo : IsPlain repo.toList)
    (hdir : IsPlain dir.toList) : IsPlain (spelledName command repo dir) := by
  have hdash : IsPlain ['-'] := by decide
  have hinner : IsPlain (trimSlashes dir.toList) := fun c hc => hdir c (mem_of_mem_trimSlashes hc)
  rw [spelledName, isPlain_append_iff, isPlain_append_iff, isPlain_append_iff]
  refine ⟨⟨⟨isPlain_opening command, hrepo⟩, hdash⟩, ?_⟩
  split
  · intro c hc
    cases hc
  · exact isPlain_append_iff.2 ⟨hinner, hdash⟩

/-- For plain names that is all that happens before the cut. -/
theorem fullName_eq_map {command : Command} {repo dir : String} (hrepo : IsPlain repo.toList)
    (hdir : IsPlain dir.toList) :
    fullName command repo dir = (spelledName command repo dir).map neatChar := by
  have hopening : (opening command).map Char.toLower = opening command := by
    cases command <;> rfl
  have hlowerRepo := Text.lowerCase_of_ascii fun c hc => hrepo.toNat_lt hc
  have hlowerDir := Text.lowerCase_of_ascii (s := trimSlashes dir.toList)
    fun c hc => hdir.toNat_lt (mem_of_mem_trimSlashes hc)
  have hneat : neatChar = nameChar ∘ Char.toLower := rfl
  rw [hneat, ← List.map_map]
  unfold fullName spelledName
  simp only
  congr 1
  rw [hlowerRepo, hlowerDir, List.map_append, List.map_append, List.map_append, hopening]
  congr 1
  split
  · rfl
  · rw [List.map_append]
    rfl

/-! ## What is left of a name -/

/-- What the cut leaves of a name with a byte for each character, before dashes are
trimmed. -/
def keptName (name : List Char) : List Char :=
  if name.length ≤ maxNameBytes then name else name.take (maxNameBytes - 1)

theorem keptName_map (f : Char → Char) (name : List Char) :
    keptName (name.map f) = (keptName name).map f := by
  unfold keptName
  rw [List.length_map]
  split
  · rfl
  · exact List.map_take.symm

theorem mem_of_mem_keptName {name : List Char} {c : Char} (h : c ∈ keptName name) : c ∈ name := by
  unfold keptName at h
  split at h
  · exact h
  · exact List.mem_of_mem_take h

theorem utf8Size_of_lt {c : Char} (h : c.toNat < 128) : c.utf8Size = 1 :=
  Char.utf8Size_eq_one_iff.2 (UInt32.le_iff_toNat_le.2 (Nat.le_of_lt_succ h))

theorem byteLength_of_ascii {s : List Char} (h : ∀ c ∈ s, c.toNat < 128) :
    byteLength s = s.length := by
  induction s with
  | nil => rfl
  | cons c rest ih =>
    rw [List.forall_mem_cons] at h
    rw [byteLength, utf8Size_of_lt h.1, ih h.2, List.length_cons, Nat.add_comm]

theorem takeBytes_of_ascii {s : List Char} (h : ∀ c ∈ s, c.toNat < 128) (n : Nat) :
    takeBytes n s = s.take n := by
  induction s generalizing n with
  | nil => rw [takeBytes, List.take_nil]
  | cons c rest ih =>
    rw [List.forall_mem_cons] at h
    rw [takeBytes, utf8Size_of_lt h.1]
    cases n with
    | zero => rfl
    | succ n => rw [if_pos (Nat.le_add_left 1 n), ih h.2, Nat.add_sub_cancel, List.take_succ_cons]

/-- What is kept ends in some dashes, of which the cut leaves one. -/
theorem exists_keptName_eq {name : List Char} (hascii : ∀ c ∈ name, c.toNat < 128)
    (hlast : name.getLast? = some '-') :
    ∃ kept k, keptName name = kept ++ List.replicate k '-' ∧ cutName name = kept ++ ['-'] := by
  unfold keptName cutName
  rw [byteLength_of_ascii hascii, takeBytes_of_ascii hascii]
  split
  · obtain ⟨kept, rfl⟩ := List.getLast?_eq_some_iff.1 hlast
    exact ⟨kept, 1, rfl, rfl⟩
  · obtain ⟨-, k, hkept⟩ := trimEnd_dashes (name.take (maxNameBytes - 1))
    exact ⟨_, k, hkept, rfl⟩

/-- An ending, and the dash before it, shelter no dot. -/
theorem isSheltered_cutName_append_iff {name suffix : List Char}
    (hascii : ∀ c ∈ name, c.toNat < 128) (hlast : name.getLast? = some '-') (hdot : '.' ∉ suffix) :
    IsSheltered (cutName name ++ suffix) ↔ IsSheltered (keptName name) := by
  obtain ⟨kept, k, hkept, hcut⟩ := exists_keptName_eq hascii hlast
  have hdash : ∀ c ∈ List.replicate k '-', c = '-' := fun c => List.eq_of_mem_replicate
  rw [hkept, hcut, List.append_assoc, List.singleton_append, isSheltered_append_iff,
    isSheltered_append_iff]
  · exact fun h => absurd (hdash '.' h) (by decide)
  · intro c hc
    rw [hdash c (List.mem_of_head? hc)]
    rfl
  · simpa using hdot
  · rintro c ⟨⟩
    rfl

/-! ## Labels -/

/-- What the value of a label is. -/
structure IsLabelValue (s : List Char) : Prop where
  length : s.length ≤ 63
  first : ∃ c ∈ s.head?, c.isAlphanum = true
  last : ∃ c ∈ s.getLast?, c.isAlphanum = true
  chars : ∀ c ∈ s, c.isAlphanum = true ∨ c = '_' ∨ c = '.' ∨ c = '-'

theorem isAlphanum_nameChar (c : Char) : (nameChar c).isAlphanum = c.isAlphanum := by
  unfold nameChar
  split
  · next hdash => rcases hdash with rfl | rfl <;> rfl
  · rfl

theorem IsPlain.label {s : List Char} (h : IsPlain s) : ∀ c ∈ s, (nameChar c).isAlphanum = true ∨
    nameChar c = '_' ∨ nameChar c = '.' ∨ nameChar c = '-' := by
  intro c hc
  unfold nameChar
  split
  · exact .inr (.inr (.inr rfl))
  · next hkept =>
    have hname := (h c hc).resolve_right fun hslash => hkept (.inl hslash)
    simpa [Repository.isNameChar, or_assoc] using hname

/-- The label for a repository has the characters of one anyway. -/
theorem isLabelValue_dashed_iff {repo : String} (hrepo : IsPlain repo.toList) :
    IsLabelValue (dashed repo).toList ↔ repo.length ≤ 63 ∧
      (∃ c ∈ repo.toList.head?, c.isAlphanum = true) ∧
      ∃ c ∈ repo.toList.getLast?, c.isAlphanum = true := by
  have halpha : ∀ o : Option Char, (∃ c ∈ o.map nameChar, c.isAlphanum = true) ↔
      ∃ c ∈ o, c.isAlphanum = true :=
    fun o => exists_alphanum_map_iff fun c _ => isAlphanum_nameChar c
  have hfields : IsLabelValue (dashed repo).toList ↔ (dashed repo).toList.length ≤ 63 ∧
      (∃ c ∈ (dashed repo).toList.head?, c.isAlphanum = true) ∧
      (∃ c ∈ (dashed repo).toList.getLast?, c.isAlphanum = true) ∧
      ∀ c ∈ (dashed repo).toList, c.isAlphanum = true ∨ c = '_' ∨ c = '.' ∨ c = '-' :=
    ⟨fun h => ⟨h.length, h.first, h.last, h.chars⟩, fun h => ⟨h.1, h.2.1, h.2.2.1, h.2.2.2⟩⟩
  have hdashed : (dashed repo).toList = repo.toList.map nameChar := String.toList_ofList
  rw [hfields, hdashed, List.length_map, String.length_toList, List.head?_map, List.getLast?_map,
    halpha, halpha]
  exact and_congr_right' (and_congr_right' (and_iff_left (List.forall_mem_map.2 hrepo.label)))

/-! ## Jobs -/

/-- A job whose name, whatever its ending, and whose label for the repository are taken. -/
structure Admissible (job : Job) : Prop where
  name : ∀ suffix : List Char, suffix ≠ [] → (∀ c ∈ suffix, c.isLower = true ∨ c.isDigit = true) →
    IsSubdomain (job.baseName.toList ++ suffix)
  label : ∃ value, job.labels.find? "turnip.ivan.vc/repo" = some value ∧ IsLabelValue value.toList

theorem toNat_lt_of_hostChar {c : Char}
    (h : c = '.' ∨ c.isLower = true ∨ c.isDigit = true ∨ c = '-') : c.toNat < 128 := by
  rcases h with rfl | h | h | rfl
  · decide
  · exact of_decide_eq_true (Image.isAscii_of_isAlphanum (by simp [Char.isAlphanum, Char.isAlpha, h]))
  · exact of_decide_eq_true (Image.isAscii_of_isAlphanum (by simp [Char.isAlphanum, h]))
  · decide

theorem isSubdomain_generateName_iff {command : Command} {repo dir : String}
    (hrepo : IsPlain repo.toList) (hdir : IsPlain dir.toList) {suffix : List Char}
    (hne : suffix ≠ []) (hsuffix : ∀ c ∈ suffix, c.isLower = true ∨ c.isDigit = true) :
    IsSubdomain ((generateName command repo dir).toList ++ suffix) ↔
      IsSheltered (keptName (spelledName command repo dir)) := by
  have hplain : IsPlain (spelledName command repo dir) := isPlain_spelledName hrepo hdir
  have hfull : fullName command repo dir = (spelledName command repo dir).map neatChar :=
    fullName_eq_map hrepo hdir
  have hchars : ∀ c ∈ fullName command repo dir,
      c = '.' ∨ c.isLower = true ∨ c.isDigit = true ∨ c = '-' := by
    rw [hfull]
    exact List.forall_mem_map.2 fun c hc => (hplain.kinds hc).2.2
  have hascii : ∀ c ∈ fullName command repo dir, c.toNat < 128 :=
    fun c hc => toNat_lt_of_hostChar (hchars c hc)
  have hlast := getLast?_fullName command repo dir
  have hfirst := opening_prefix_cutName (opening_isPrefix_fullName command repo dir)
  have hdot : '.' ∉ suffix := fun hmem => absurd (hsuffix '.' hmem) (by decide)
  have hsheltered : IsSheltered (cutName (fullName command repo dir) ++ suffix) ↔
      IsSheltered (keptName (spelledName command repo dir)) := by
    rw [isSheltered_cutName_append_iff hascii hlast hdot, hfull, keptName_map, isSheltered_map_iff]
    intro c hc
    obtain ⟨hdots, halpha, -⟩ := hplain.kinds (mem_of_mem_keptName hc)
    exact ⟨hdots, halpha⟩
  rw [generateName, String.toList_ofList, ← hsheltered]
  constructor
  · exact IsSheltered.of_subdomain
  · intro h
    refine h.subdomain ?_ ?_ ?_
    · obtain ⟨rest, hrest⟩ := hfirst
      refine ⟨'t', ?_, rfl⟩
      rw [← hrest]
      cases command <;> rfl
    · have hend := List.getLast?_eq_some_getLast hne
      refine ⟨suffix.getLast hne, ?_, ?_⟩
      · rw [List.getLast?_append, hend]
        rfl
      · rcases hsuffix _ (List.getLast_mem hne) with h | h
        · simp [Char.isAlphanum, Char.isAlpha, h]
        · simp [Char.isAlphanum, h]
    · rw [List.forall_mem_append]
      refine ⟨fun c hc => ?_, fun c hc => ?_⟩
      · rcases mem_of_mem_cutName hc with hc | rfl
        · exact hchars c hc
        · exact .inr (.inr (.inr rfl))
      · rcases hsuffix c hc with h | h
        · exact .inr (.inl h)
        · exact .inr (.inr (.inl h))

theorem find?_repo_labels {o : Order} {s : Settings.Scheduler} {server value : String} :
    (ofOrder o s server).labels.find? "turnip.ivan.vc/repo" = some value ↔ value = dashed o.repo := by
  rw [labels_ofOrder, Order.labels, Table.find?_ofList_eq_some_iff]
  · simp
  · simp only [List.map_cons, List.map_nil]
    decide

/-- **Which jobs a cluster takes.** For a repository and a directory of plain characters, a
job is taken exactly if each dot among what the cut leaves of its name, as the parts of it
are written, stands between letters and digits, and the name of the repository has at most
63 characters and starts and ends with a letter or a digit. -/
theorem admissible_iff (o : Order) (s : Settings.Scheduler) (server : String)
    (hrepo : IsPlain o.repo.toList) (hdir : IsPlain o.project.dir.toList) :
    Admissible (ofOrder o s server) ↔
      IsSheltered (keptName (spelledName o.command o.repo o.project.dir)) ∧
        o.repo.length ≤ 63 ∧ (∃ c ∈ o.repo.toList.head?, c.isAlphanum = true) ∧
        ∃ c ∈ o.repo.toList.getLast?, c.isAlphanum = true := by
  rw [← isLabelValue_dashed_iff hrepo]
  constructor
  · rintro ⟨hname, value, hvalue, hvalid⟩
    obtain rfl := find?_repo_labels.1 hvalue
    have hending : ∀ c ∈ ['a'], c.isLower = true ∨ c.isDigit = true :=
      List.forall_mem_singleton.2 (.inl rfl)
    refine ⟨?_, hvalid⟩
    exact (isSubdomain_generateName_iff hrepo hdir (List.cons_ne_nil _ _) hending).1
      (hname ['a'] (List.cons_ne_nil _ _) hending)
  · rintro ⟨hname, hvalid⟩
    refine ⟨?_, _, find?_repo_labels.2 rfl, hvalid⟩
    intro suffix hne hsuffix
    exact (isSubdomain_generateName_iff hrepo hdir hne hsuffix).2 hname

/-- A repository and a directory with dots in their names, and with underscores, that a
dash and a slash stand before. The cut leaves one letter of the directory. -/
theorem admissible_of_dots_in_names :
    let o : Order := { sampleOrder with
      repo := "hashicorp/terraform.provider_aws"
      project := { sampleOrder.project with dir := "envs/v1.2/_prod" } }
    IsPlain o.repo.toList ∧ IsPlain o.project.dir.toList ∧
      ∀ s server, Admissible (ofOrder o s server) := by
  intro o
  have hrepo : IsPlain o.repo.toList := by decide +kernel
  have hdir : IsPlain o.project.dir.toList := by decide +kernel
  refine ⟨hrepo, hdir, fun s server => (admissible_iff o s server hrepo hdir).2 ?_⟩
  exact ⟨by decide +kernel, by decide +kernel, ⟨'h', by decide +kernel, rfl⟩,
    ⟨'s', by decide +kernel, rfl⟩⟩

/-- A configuration is accepted that has a project in a hidden directory, and the name of
its job is not that of a host: the dot comes after a dash. The label of a repository with a
long name is no label. -/
theorem hidden_directory_is_refused :
    let c := Config.pair ".github" "a" "live" "b"
    ∃ p q, Config.load c.toYaml.toUTF8 = .ok c ∧ p ∈ c.projects ∧ q ∈ c.projects ∧
      p.dir = ".github" ∧ q.dir = "live" ∧
      (∀ s server, (ofOrder { sampleOrder with project := p } s server).baseName =
          "turnip-plot-acme-infra-.github-" ∧
        ¬ IsSubdomain ("turnip-plot-acme-infra-.github-".toList ++ ['x'])) ∧
      ∀ s server, ¬ Admissible (ofOrder { sampleOrder with
        repo := "acme/" ++ String.ofList (List.replicate 60 'a'), project := q } s server) := by
  intro c
  have hload : Config.load c.toYaml.toUTF8 = .ok c :=
    Config.load_toYaml (by decide +kernel) (by decide +kernel)
  refine ⟨_, _, hload, List.mem_cons_self, List.mem_cons_of_mem _ List.mem_cons_self, rfl, rfl,
    fun s server => ⟨?_, fun hname => ?_⟩, ?_⟩
  · show generateName .plot "acme/infra" ".github" = _
    decide +kernel
  · exact absurd (IsSheltered.of_subdomain hname) (by decide +kernel)
  · rintro s server ⟨-, value, hvalue, hvalid⟩
    obtain rfl := find?_repo_labels.1 hvalue
    exact absurd hvalid.length (by decide +kernel)

end Job

end Groundwork
