/-
How people write the name of a repository. It is read by a pattern, where the one run may
go on into what comes after it: `.git` at the end could belong to the name. It could be
read by cutting as well: the address of the host and a slash are cut off, what is left is
cut at its one slash, and `.git` is cut off the name.

Both come down to one account of the texts that are understood (`Written`), which says of
`.git` that it is no part of the name unless it is all of it. The pattern leaves it out
since the name is as short as it can be (`parts?_named_iff`), the cuts since it is cut off
(`cutPair?_eq_some_iff`).
-/
import Groundwork.Proofs.Text.Pattern
import Groundwork.Repository
import Mathlib.Data.List.Basic

set_option autoImplicit false

namespace Groundwork.Repository

open Text

variable {s owner name : List Char}

/-- The name of an owner or of a repository. -/
def IsName (s : List Char) : Prop :=
  IsRun isNameChar s

instance (s : List Char) : Decidable (IsName s) :=
  inferInstanceAs (Decidable (IsRun isNameChar s))

/-! ## Cutting -/

/-- The end that a name is given where it is cloned from. -/
def git : List Char := ".git".toList

/-- A text without the address of the host at its start. -/
def dropHost (s : List Char) : List Char :=
  match dropStart? "https://github.com/".toList s with
  | some rest => rest
  | none => (dropStart? "http://github.com/".toList s).getD s

/-- A text without a slash at its end. -/
def dropSlash (s : List Char) : List Char :=
  if s.getLast? = some '/' then s.dropLast else s

/-- A name without `.git` at its end, if something is left. -/
def dropGit (name : List Char) : List Char :=
  if git <:+ name ∧ name ≠ git then name.take (name.length - git.length) else name

/-- Cuts a text at its one slash into two names. -/
def cutPair? (s : List Char) : Option (List Char × List Char) :=
  match splitAll '/' (dropSlash s) with
  | [owner, name] => if IsName owner ∧ IsName name then some (owner, dropGit name) else none
  | _ => none

/-- Reads the owner and the name of a repository by cutting off what is not part of them. -/
def cut? (value : String) : Option (String × String) :=
  (cutPair? (dropHost value.toList)).map fun (owner, name) =>
    (String.ofList owner, String.ofList name)

theorem slash_notMem (h : IsName s) : '/' ∉ s := by
  intro hmem
  have := h.2 _ hmem
  revert this
  decide

theorem dropSlash_append : dropSlash (s ++ ['/']) = s := by
  rw [dropSlash, if_pos List.getLast?_concat, List.dropLast_concat]

theorem dropSlash_append_of_notMem {last : List Char} (hne : last ≠ []) (h : '/' ∉ last)
    (s : List Char) : dropSlash (s ++ last) = s ++ last := by
  rw [dropSlash, List.getLast?_append_of_ne_nil _ hne, if_neg]
  exact fun hlast => h (List.mem_of_getLast? hlast)

theorem dropSlash_append_slash {slash : List Char} (h : '/' ∉ s) (hslash : slash ∈ [[], ['/']]) :
    dropSlash (s ++ slash) = s := by
  rcases List.mem_pair.1 hslash with rfl | rfl
  · rw [List.append_nil]
    by_cases hnil : s = []
    · rw [hnil]
      rfl
    · exact dropSlash_append_of_notMem hnil h []
  · exact dropSlash_append

/-- Where a slash is cut off, it was there. -/
theorem eq_dropSlash_append (s : List Char) : ∃ slash ∈ [[], ['/']], s = dropSlash s ++ slash := by
  unfold dropSlash
  split
  · next hlast => exact ⟨['/'], by simp, (List.dropLast_append_getLast? _ hlast).symm⟩
  · exact ⟨[], by simp, (List.append_nil s).symm⟩

theorem dropGit_append (h : s ≠ []) : dropGit (s ++ git) = s := by
  have hne : s ++ git ≠ git := fun heq => h (List.append_left_eq_self.1 heq)
  rw [dropGit, if_pos ⟨List.suffix_append _ _, hne⟩]
  simp

theorem dropGit_cases (name : List Char) :
    dropGit name = name ∨ (dropGit name ≠ [] ∧ name = dropGit name ++ git) := by
  by_cases h : git <:+ name ∧ name ≠ git
  · obtain ⟨⟨start, rfl⟩, hne⟩ := h
    have hstart : start ≠ [] := fun hnil => hne (by rw [hnil, List.nil_append])
    rw [dropGit_append hstart]
    exact .inr ⟨hstart, rfl⟩
  · exact .inl (if_neg h)

/-! ## The texts that are understood -/

/-- A text is an owner and a name, and nothing is before them. What is after the name is no
part of it. -/
def Written (s owner name : List Char) : Prop :=
  IsName owner ∧ IsName name ∧ ∃ ending ∈ [[], git], ∃ slash ∈ [[], ['/']],
    s = owner ++ '/' :: (name ++ (ending ++ slash)) ∧ (ending = [] → dropGit name = name)

theorem isName_append_git (h : IsName name) : IsName (name ++ git) := by
  have hgit : ∀ c ∈ git, isNameChar c = true := List.all_eq_true.1 (by decide)
  exact ⟨List.append_ne_nil_of_left_ne_nil h.1 _, List.forall_mem_append.2 ⟨h.2, hgit⟩⟩

theorem isName_append {ending : List Char} (h : IsName name) (hending : ending ∈ [[], git]) :
    IsName (name ++ ending) := by
  rcases List.mem_pair.1 hending with rfl | rfl
  · rwa [List.append_nil]
  · exact isName_append_git h

theorem isName_dropGit (h : IsName name) : IsName (dropGit name) := by
  rcases dropGit_cases name with hsame | ⟨hne, hgit⟩
  · rwa [hsame]
  · refine ⟨hne, fun c hc => h.2 c ?_⟩
    rw [hgit]
    exact List.mem_append_left _ hc

theorem dropGit_append_ending {ending : List Char} (h : IsName name) (hending : ending ∈ [[], git])
    (hkept : ending = [] → dropGit name = name) : dropGit (name ++ ending) = name := by
  rcases List.mem_pair.1 hending with rfl | rfl
  · rw [List.append_nil, hkept rfl]
  · exact dropGit_append h.1

/-! ## By cutting -/

theorem cutPair?_eq_some_iff : cutPair? s = some (owner, name) ↔ Written s owner name := by
  constructor
  · intro h
    unfold cutPair? at h
    split at h
    · next first second hparts =>
      split at h
      · next hnames =>
        cases h
        obtain ⟨slash, hslash, hs⟩ := eq_dropSlash_append s
        have hcut : dropSlash s = owner ++ '/' :: second := by
          rw [← joinWith_splitAll '/' (dropSlash s), hparts]
          simp [joinWith]
        refine ⟨hnames.1, isName_dropGit hnames.2, ?_⟩
        rcases dropGit_cases second with hsame | ⟨-, hgit⟩
        · refine ⟨[], by simp, slash, hslash, ?_, fun _ => by rw [hsame, hsame]⟩
          rw [hsame, hs, hcut]
          simp
        · refine ⟨git, by simp, slash, hslash, ?_, fun hnil => absurd hnil (by decide)⟩
          rw [← List.append_assoc, ← hgit, hs, hcut]
          simp
      · cases h
    · cases h
  · rintro ⟨howner, hname, ending, hending, slash, hslash, rfl, hkept⟩
    have hfull := isName_append hname hending
    -- the one slash that is left is the one between the names
    have hcut : dropSlash (owner ++ '/' :: (name ++ (ending ++ slash))) =
        owner ++ '/' :: (name ++ ending) := by
      rcases List.mem_pair.1 hslash with rfl | rfl
      · rw [List.append_nil, List.append_cons]
        exact dropSlash_append_of_notMem hfull.1 (slash_notMem hfull) _
      · rw [← List.append_assoc name, ← List.cons_append, ← List.append_assoc, dropSlash_append]
    have hparts : splitAll '/' (owner ++ '/' :: (name ++ ending)) = [owner, name ++ ending] := by
      rw [splitAll_append_cons, splitAll_of_not_mem (slash_notMem howner),
        splitAll_of_not_mem (slash_notMem hfull), List.singleton_append]
    unfold cutPair?
    rw [hcut, hparts]
    simp only [howner, hfull, and_self, if_true, dropGit_append_ending hname hending hkept]

/-! ## By the pattern -/

/-- What may come after a name. -/
def endingPieces : List Piece := [.option [git], .option [['/']]]

/-- A name and what may come after it. -/
def namePieces : List Piece := .run .shortest isNameChar :: endingPieces

theorem fits_ending_iff {parts : List (List Char)} : Fits endingPieces s parts ↔
    parts = [] ∧ ∃ ending ∈ [[], git], ∃ slash ∈ [[], ['/']], s = ending ++ slash := by
  have hslash {s : List Char} {parts : List (List Char)} : Fits [.option [['/']]] s parts ↔
      parts = [] ∧ s ∈ [[], ['/']] := by
    constructor
    · rintro (_ | _ | ⟨_, ⟨⟩⟩ | ⟨hmem, ⟨⟩⟩)
      · exact ⟨rfl, by simp⟩
      · rw [List.mem_singleton.1 hmem]
        exact ⟨rfl, by simp⟩
    · rintro ⟨rfl, hs⟩
      rcases List.mem_pair.1 hs with rfl | rfl
      · exact .none _ .nil
      · have hfits : Fits [.option [['/']]] (['/'] ++ []) [] := .option (List.mem_singleton.2 rfl) .nil
        exact hfits
  constructor
  · rintro (_ | _ | ⟨_, hfits⟩ | ⟨hmem, hfits⟩)
    · obtain ⟨rfl, hs⟩ := hslash.1 hfits
      exact ⟨rfl, [], by simp, s, hs, rfl⟩
    · obtain ⟨rfl, hs⟩ := hslash.1 hfits
      rw [List.mem_singleton.1 hmem]
      exact ⟨rfl, git, by simp, _, hs, rfl⟩
  · rintro ⟨rfl, ending, hending, slash, hs, rfl⟩
    rcases List.mem_pair.1 hending with rfl | rfl
    · exact .none _ (hslash.2 ⟨rfl, hs⟩)
    · exact .option (List.mem_singleton.2 rfl) (hslash.2 ⟨rfl, hs⟩)

theorem parts?_ending_iff {parts : List (List Char)} : parts? endingPieces s = some parts ↔
    parts = [] ∧ ∃ ending ∈ [[], git], ∃ slash ∈ [[], ['/']], s = ending ++ slash := by
  rw [← fits_ending_iff]
  refine ⟨fits_of_parts?, fun h => ?_⟩
  obtain ⟨parts', hparts'⟩ := Option.isSome_iff_exists.1 (isSome_parts?_iff.2 ⟨parts, h⟩)
  -- no part is taken, so all ways are alike
  rw [hparts', (fits_ending_iff.1 h).1, (fits_ending_iff.1 (fits_of_parts? hparts')).1]

/-- A name is the first that leaves a way for what may come after it exactly if `.git`
cannot be cut off it. -/
theorem isFirst_iff {ending slash : List Char} (hname : IsName name) (hending : ending ∈ [[], git])
    (hslash : slash ∈ [[], ['/']]) : IsFirst (parts? endingPieces) name (ending ++ slash) ↔
      (ending = [] → dropGit name = name) := by
  constructor
  · rintro hfirst rfl
    rcases dropGit_cases name with hsame | ⟨hne, hgit⟩
    · exact hsame
    · have hnone := hfirst (dropGit name) git hne (by decide) hgit
      rw [List.nil_append, parts?_ending_iff.2 ⟨rfl, git, by simp, slash, hslash, rfl⟩] at hnone
      cases hnone
  · rintro hkept start more hstart hmore rfl
    rw [Option.eq_none_iff_forall_ne_some]
    intro parts hparts
    obtain ⟨-, ending', hending', slash', hslash', heq⟩ := parts?_ending_iff.1 hparts
    -- up to the slash the two texts are the same
    have hmoreName : '/' ∉ more ++ ending := fun hmem =>
      slash_notMem (isName_append hname hending)
        (by rw [List.append_assoc]; exact List.mem_append_right _ hmem)
    have hendingName : '/' ∉ ending' := by
      rcases List.mem_pair.1 hending' with rfl | rfl <;> decide
    have hcut : more ++ ending = ending' := by
      rw [← dropSlash_append_slash hmoreName hslash, List.append_assoc, heq,
        dropSlash_append_slash hendingName hslash']
    rcases List.mem_pair.1 hending' with rfl | rfl
    · exact hmore (List.append_eq_nil_iff.1 hcut).1
    rcases List.mem_pair.1 hending with rfl | rfl
    · rw [List.append_nil] at hcut
      have hsame := hkept rfl
      rw [hcut, dropGit_append hstart, List.self_eq_append_right] at hsame
      exact absurd hsame (by decide)
    · exact hmore (List.append_left_eq_self.1 hcut)

theorem parts?_named_iff {parts : List (List Char)} : parts? namePieces s = some parts ↔
    ∃ name, parts = [name] ∧ IsName name ∧ ∃ ending ∈ [[], git], ∃ slash ∈ [[], ['/']],
      s = name ++ (ending ++ slash) ∧ (ending = [] → dropGit name = name) := by
  rw [namePieces, parts?, Option.map_eq_some_iff]
  constructor
  · rintro ⟨⟨name, parts⟩, hfound, rfl⟩
    obtain ⟨hname, rest, rfl, hparts, hfirst⟩ := firstRun_shortest_eq_some_iff.1 hfound
    obtain ⟨rfl, ending, hending, slash, hslash, rfl⟩ := parts?_ending_iff.1 hparts
    exact ⟨name, rfl, hname, ending, hending, slash, hslash, rfl, (isFirst_iff hname hending hslash).1 hfirst⟩
  · rintro ⟨name, rfl, hname, ending, hending, slash, hslash, rfl, hkept⟩
    refine ⟨(name, []), firstRun_shortest_eq_some_iff.2 ⟨hname, _, rfl, ?_, ?_⟩, rfl⟩
    · exact parts?_ending_iff.2 ⟨rfl, ending, hending, slash, hslash, rfl⟩
    · exact (isFirst_iff hname hending hslash).2 hkept

/-- An owner and a name, with nothing before them. -/
def pairPieces : List Piece := .run .longest isNameChar :: .text ['/'] :: namePieces

theorem parts?_pair_iff {parts : List (List Char)} : parts? pairPieces s = some parts ↔
    ∃ owner name, parts = [owner, name] ∧ Written s owner name := by
  have hstops (c : Char) (rest : List Char) (hc : isNameChar c = true) :
      parts? (.text ['/'] :: namePieces) (c :: rest) = none := by
    rw [parts?, Option.bind_eq_none_iff]
    intro after hafter
    rw [dropStart?_eq_some_iff, List.singleton_append, List.cons.injEq] at hafter
    rw [hafter.1] at hc
    exact absurd hc (by decide)
  rw [pairPieces, parts?, Option.map_eq_some_iff]
  constructor
  · rintro ⟨⟨owner, parts⟩, hfound, rfl⟩
    obtain ⟨howner, rest, rfl, hparts⟩ := (firstRun_eq_some_iff_of_stops hstops).1 hfound
    obtain ⟨after, hafter, hparts⟩ := Option.bind_eq_some_iff.1 hparts
    obtain ⟨name, rfl, hname, ending, hending, slash, hslash, rfl, hkept⟩ := parts?_named_iff.1 hparts
    rw [dropStart?_eq_some_iff, List.singleton_append] at hafter
    exact ⟨owner, name, rfl, howner, hname, ending, hending, slash, hslash, by rw [hafter], hkept⟩
  · rintro ⟨owner, name, rfl, howner, hname, ending, hending, slash, hslash, rfl, hkept⟩
    refine ⟨(owner, [name]), (firstRun_eq_some_iff_of_stops hstops).2 ⟨howner, _, rfl, ?_⟩, rfl⟩
    refine Option.bind_eq_some_iff.2 ⟨_, dropStart?_eq_some_iff.2 List.singleton_append.symm, ?_⟩
    exact parts?_named_iff.2 ⟨name, rfl, hname, ending, hending, slash, hslash, rfl, hkept⟩

/-! ## The host -/

/-- What may come before an owner. -/
def hosts : List String := ["", "https://github.com/", "http://github.com/"]

theorem dropHost_cases (s : List Char) : ∃ host ∈ hosts, s = host.toList ++ dropHost s := by
  unfold dropHost
  cases hhttps : dropStart? "https://github.com/".toList s with
  | some rest => exact ⟨_, by simp [hosts], dropStart?_eq_some_iff.1 hhttps⟩
  | none =>
    cases hhttp : dropStart? "http://github.com/".toList s with
    | some rest => exact ⟨_, by simp [hosts], dropStart?_eq_some_iff.1 hhttp⟩
    | none => exact ⟨"", by simp [hosts], rfl⟩

/-- No owner has a colon, so one cannot start with a host that is left in place. -/
theorem Written.host_eq {host : String} (hhost : host ∈ hosts)
    (h : Written (host.toList ++ s) owner name) : host = "" := by
  have hscheme {scheme rest : List Char} (hslash : '/' ∉ scheme) (hname : ¬ IsName scheme) :
      ¬ Written (scheme ++ '/' :: rest) owner name := by
    rintro ⟨howner, -, ending, -, slash, -, heq, -⟩
    have hsame := congrArg (splitFirst? '/') heq
    rw [splitFirst?_eq_some.2 ⟨rfl, hslash⟩, splitFirst?_eq_some.2 ⟨rfl, slash_notMem howner⟩,
      Option.some.injEq, Prod.mk.injEq] at hsame
    exact hname (hsame.1 ▸ howner)
  simp only [hosts, List.mem_cons, List.not_mem_nil, or_false] at hhost
  rcases hhost with rfl | rfl | rfl
  · rfl
  · exact absurd h (hscheme (by decide : '/' ∉ "https:".toList) (by decide))
  · exact absurd h (hscheme (by decide : '/' ∉ "http:".toList) (by decide))

theorem dropHost_append {host : String} (hhost : host ∈ hosts) (h : Written s owner name) :
    dropHost (host.toList ++ s) = s := by
  simp only [hosts, List.mem_cons, List.not_mem_nil, or_false] at hhost
  rcases hhost with rfl | rfl | rfl
  · obtain ⟨host, hhost, hs⟩ := dropHost_cases s
    rw [hs] at h
    rw [h.host_eq hhost] at hs
    exact hs.symm
  · unfold dropHost
    rw [dropStart?_eq_some_iff.2 rfl]
  · have hhttps : dropStart? "https://github.com/".toList ("http://github.com/".toList ++ s) = none := rfl
    unfold dropHost
    rw [hhttps, dropStart?_eq_some_iff.2 rfl]
    rfl

/-- A text is read as what it is without a host. -/
theorem parts?_spelling_iff {parts : List (List Char)} : parts? spelling s = some parts ↔
    ∃ owner name, parts = [owner, name] ∧ Written (dropHost s) owner name := by
  have hpieces : spelling = .option (hosts.tail.map String.toList) :: pairPieces := rfl
  have hread {parts : List (List Char)} (h : parts? spelling s = some parts) :
      ∃ owner name, parts = [owner, name] ∧ Written (dropHost s) owner name := by
    rw [hpieces, parts?] at h
    rcases firstOption_eq_some h with hnone | ⟨_, hmem, rest, rfl, hrest⟩
    · obtain ⟨owner, name, rfl, hwritten⟩ := parts?_pair_iff.1 hnone
      have hnone : "" ∈ hosts := by simp [hosts]
      have hdrop : dropHost s = s := dropHost_append hnone hwritten
      exact ⟨owner, name, rfl, by rwa [hdrop]⟩
    · obtain ⟨host, hhost, rfl⟩ := List.mem_map.1 hmem
      obtain ⟨owner, name, rfl, hwritten⟩ := parts?_pair_iff.1 hrest
      exact ⟨owner, name, rfl, by rwa [dropHost_append (List.mem_of_mem_tail hhost) hwritten]⟩
  refine ⟨hread, ?_⟩
  rintro ⟨owner, name, rfl, hwritten⟩
  have hpair := parts?_pair_iff.2 ⟨owner, name, rfl, hwritten⟩
  have hsome : (parts? spelling s).isSome := by
    rw [hpieces, parts?]
    obtain ⟨host, hhost, hs⟩ := dropHost_cases s
    rcases List.mem_cons.1 hhost with rfl | hhost
    · refine firstOption_isSome (.inl ?_)
      rw [hs]
      exact Option.isSome_of_eq_some hpair
    · exact firstOption_isSome
        (.inr ⟨_, List.mem_map_of_mem hhost, _, hs, Option.isSome_of_eq_some hpair⟩)
  -- whatever is read is the one pair that the text without the host is
  obtain ⟨parts, hparts⟩ := Option.isSome_iff_exists.1 hsome
  obtain ⟨owner', name', rfl, hwritten'⟩ := hread hparts
  rw [hparts, ← hpair, parts?_pair_iff.2 ⟨owner', name', rfl, hwritten'⟩]

/-! ## What is read -/

theorem parse?_eq_some_iff {value owner name : String} : parse? value = some (owner, name) ↔
    Written (dropHost value.toList) owner.toList name.toList := by
  unfold parse?
  constructor
  · intro h
    split at h
    · next first second hparts =>
      cases h
      obtain ⟨_, _, heq, hwritten⟩ := parts?_spelling_iff.1 hparts
      cases heq
      simpa using hwritten
    · cases h
  · intro h
    rw [parts?_spelling_iff.2 ⟨_, _, rfl, h⟩]
    simp

theorem cut?_eq_some_iff {value owner name : String} : cut? value = some (owner, name) ↔
    Written (dropHost value.toList) owner.toList name.toList := by
  unfold cut?
  rw [← cutPair?_eq_some_iff, Option.map_eq_some_iff]
  constructor
  · rintro ⟨⟨first, second⟩, hpair, heq⟩
    cases heq
    simpa using hpair
  · intro h
    exact ⟨_, h, by simp⟩

/-- **What people may write.** A text is read as it is by cutting off the address of the
host, a slash at the end, and `.git` at the end of the name if something is left, where
exactly one slash is left between two names. So an owner and a name that does not end in
`.git` are read from all of their spellings, and nothing is read but spellings of what is
read. -/
theorem parse?_reads_spellings :
    (∀ value, parse? value = cut? value) ∧
    (∀ owner name : String, IsName owner.toList → IsName name.toList → ¬ git <:+ name.toList →
      ∀ host ∈ hosts, ∀ ending ∈ ["", ".git"], ∀ slash ∈ ["", "/"],
        parse? (host ++ owner ++ "/" ++ name ++ ending ++ slash) = some (owner, name)) ∧
    (∀ value owner name, parse? value = some (owner, name) →
      IsName owner.toList ∧ IsName name.toList ∧
        ∃ host ∈ hosts, ∃ ending ∈ ["", ".git"], ∃ slash ∈ ["", "/"],
          value = host ++ owner ++ "/" ++ name ++ ending ++ slash) := by
  refine ⟨?_, ?_, ?_⟩
  · intro value
    ext ⟨owner, name⟩
    rw [parse?_eq_some_iff, cut?_eq_some_iff]
  · intro owner name howner hname hgit host hhost ending hending slash hslash
    have hwritten : Written (owner.toList ++ '/' :: (name.toList ++ (ending.toList ++ slash.toList)))
        owner.toList name.toList := by
      refine ⟨howner, hname, ending.toList, ?_, slash.toList, ?_, rfl, fun _ => if_neg ?_⟩
      · rcases List.mem_pair.1 hending with rfl | rfl <;> decide
      · rcases List.mem_pair.1 hslash with rfl | rfl <;> decide
      · exact fun hends => hgit hends.1
    rw [parse?_eq_some_iff]
    have hvalue : (host ++ owner ++ "/" ++ name ++ ending ++ slash).toList = host.toList ++
        (owner.toList ++ '/' :: (name.toList ++ (ending.toList ++ slash.toList))) := by
      simp [String.toList_append]
    rwa [hvalue, dropHost_append hhost hwritten]
  · intro value owner name h
    obtain ⟨howner, hname, ending, hending, slash, hslash, heq, -⟩ := parse?_eq_some_iff.1 h
    obtain ⟨host, hhost, hvalue⟩ := dropHost_cases value.toList
    refine ⟨howner, hname, host, hhost, String.ofList ending, ?_, String.ofList slash, ?_, ?_⟩
    · rcases List.mem_pair.1 hending with rfl | rfl <;> decide
    · rcases List.mem_pair.1 hslash with rfl | rfl <;> decide
    · apply String.toList_inj.1
      rw [hvalue, heq]
      simp [String.toList_append]

/-- A name whose `.git` is no part of it, and one that ends in another `.git`. -/
theorem parse?_reads_spellings_cloned :
    parse? "https://github.com/acme/infra.git/" = some ("acme", "infra") ∧
      parse? "acme/infra.git.git" = some ("acme", "infra.git") := by
  obtain ⟨hcut, hspellings, -⟩ := parse?_reads_spellings
  refine ⟨?_, ?_⟩
  · exact hspellings "acme" "infra" (by decide) (by decide) (by decide) "https://github.com/"
      (by decide) ".git" (by decide) "/" (by decide)
  · rw [hcut]
    decide

end Groundwork.Repository
