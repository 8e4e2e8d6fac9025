/-
Which paths lie below a directory, and how they are seen from there. A path goes on from
a directory if both start at the same place, neither leads above it, and the parts of
the path are those of the directory and then some names.

`relative?_eq_some` says what is seen. A path that goes on from the directory is seen as
the names by which it does, and any other is seen as a way that first leads up. In text
the two differ by what follows the first dots: `anchored_up` and `anchored_name` for the
ways, which start with two dots or with a dot and a slash. There is one name that blurs
this. A name may start with two dots and go on, and since a way that starts with two dots
is written without another dot before it, such a name then stands at the start
(`anchored_dots`). So what starts with one dot and a slash lies below the directory, but
not the other way round (`here_iff`).
-/
import Groundwork.Path

set_option autoImplicit false

namespace Groundwork.Path

/-! ## Names -/

/-- The parts that a path is left with: not empty, neither one dot nor two, and without
slashes. -/
structure IsName (part : List Char) : Prop where
  ne_nil : part ≠ []
  ne_dot : part ≠ ['.']
  ne_up : part ≠ ['.', '.']
  slash_notMem : '/' ∉ part

theorem isName_of_mem_resolve {above parts ps : List (List Char)} (h : resolve above parts = some ps)
    (habove : ∀ part ∈ above, IsName part) (hparts : ∀ part ∈ parts, '/' ∉ part) :
    ∀ part ∈ ps, IsName part := by
  induction parts generalizing above with
  | nil =>
    cases h
    exact habove
  | cons part parts ih =>
    have hrest : ∀ part ∈ parts, '/' ∉ part := fun p hp => hparts p (List.mem_cons_of_mem _ hp)
    simp only [resolve] at h
    split at h
    · exact ih h habove hrest
    · next hcounts =>
      split at h
      · -- two dots take back what was a name
        split at h
        · cases h
        · exact ih h (fun p hp => habove p (List.mem_cons_of_mem _ hp)) hrest
      · next hup =>
        refine ih h ?_ hrest
        intro p hp
        rcases List.mem_cons.1 hp with rfl | hp
        · exact ⟨fun hnil => hcounts (.inl hnil), fun hdot => hcounts (.inr hdot), hup,
            hparts p List.mem_cons_self⟩
        · exact habove p hp

/-- What is left of a path are names. -/
theorem isName_of_mem_components {path : List Char} {ps : List (List Char)}
    (h : components path = some ps) {part : List Char} (hpart : part ∈ ps) : IsName part := by
  obtain ⟨qs, hqs, rfl⟩ := Option.map_eq_some_iff.1 h
  exact isName_of_mem_resolve hqs (fun p hp => by cases hp)
    (fun p hp => Text.not_mem_of_mem_splitAll hp) part (List.mem_reverse.1 hpart)

/-! ## Ways -/

theorem sharedCount_append (base names : List (List Char)) :
    sharedCount base (base ++ names) = base.length := by
  induction base with
  | nil => simp only [sharedCount, List.length_nil]
  | cons part base ih => simp only [List.cons_append, sharedCount, if_true, ih, List.length_cons]

/-- Parts that share all of some others with them start with these. -/
theorem prefix_of_length_le_sharedCount {base target : List (List Char)}
    (h : base.length ≤ sharedCount base target) : base <+: target := by
  induction base generalizing target with
  | nil => exact List.nil_prefix
  | cons part base ih =>
    cases target with
    | nil => simp [sharedCount] at h
    | cons other target =>
      simp only [sharedCount, List.length_cons] at h
      split at h
      · next heq =>
        rw [heq, List.cons_prefix_cons]
        exact ⟨rfl, ih (Nat.le_of_succ_le_succ h)⟩
      · omega

theorem wayBetween_append (base names : List (List Char)) :
    wayBetween base (base ++ names) = names := by
  simp only [wayBetween, sharedCount_append, Nat.sub_self, List.replicate_zero, List.nil_append,
    List.drop_left]

/-- The way to any others leads up first. -/
theorem wayBetween_of_not_prefix {base target : List (List Char)} (h : ¬ base <+: target) :
    ∃ more, wayBetween base target = ['.', '.'] :: more := by
  have hlt : sharedCount base target < base.length :=
    Nat.lt_of_not_le fun hle => h (prefix_of_length_le_sharedCount hle)
  obtain ⟨ups, hups⟩ := Nat.exists_eq_add_of_lt hlt
  refine ⟨List.replicate ups ['.', '.'] ++ target.drop (sharedCount base target), ?_⟩
  have hcount : base.length - sharedCount base target = ups + 1 := by omega
  simp only [wayBetween, hcount, List.replicate_succ, List.cons_append]

/-! ## Directories and what is below them -/

/-- A path goes on from a directory by some names. -/
def GoesOn (dir path : String) (names : List (List Char)) : Prop :=
  isAbsolute dir.toList = isAbsolute path.toList ∧
    ∃ base, components dir.toList = some base ∧ components path.toList = some (base ++ names)

/-- A path lies strictly below a directory. -/
def Below (dir path : String) : Prop :=
  ∃ name names, GoesOn dir path (name :: names)

/-- A path is a directory or lies below it. -/
def Within (dir path : String) : Prop :=
  ∃ names, GoesOn dir path names

theorem GoesOn.unique {dir path : String} {names names' : List (List Char)}
    (h : GoesOn dir path names) (h' : GoesOn dir path names') : names = names' := by
  obtain ⟨-, base, hdir, hpath⟩ := h
  obtain ⟨-, base', hdir', hpath'⟩ := h'
  have hbase : base = base' := Option.some.inj (hdir.symm.trans hdir')
  have hparts : base ++ names = base' ++ names' := Option.some.inj (hpath.symm.trans hpath')
  rw [hbase] at hparts
  exact List.append_cancel_left hparts

theorem GoesOn.isName {dir path : String} {names : List (List Char)} (h : GoesOn dir path names)
    {name : List Char} (hname : name ∈ names) : IsName name := by
  obtain ⟨-, base, -, hpath⟩ := h
  exact isName_of_mem_components hpath (List.mem_append_right _ hname)

/-- A path is seen from a directory if both have parts and start at the same place. -/
theorem relative?_eq_some_iff {dir path seen : String} :
    relative? dir path = some seen ↔
      isAbsolute dir.toList = isAbsolute path.toList ∧
        ∃ base target, components dir.toList = some base ∧ components path.toList = some target ∧
          seen = String.ofList (anchored (wayBetween base target)) := by
  unfold relative?
  by_cases hroot : isAbsolute dir.toList = isAbsolute path.toList
  · rw [if_neg fun hne => hne hroot]
    constructor
    · intro h
      split at h
      · next base target hdir hpath =>
        exact ⟨hroot, base, target, hdir, hpath, (Option.some.inj h).symm⟩
      · cases h
    · rintro ⟨-, base, target, hdir, hpath, rfl⟩
      rw [hdir, hpath]
  · rw [if_pos hroot]
    constructor
    · intro h
      cases h
    · exact fun h => absurd h.1 hroot

/-- A path that goes on from a directory is seen as the names by which it does. -/
theorem relative?_of_goesOn {dir path : String} {names : List (List Char)}
    (h : GoesOn dir path names) : relative? dir path = some (String.ofList (anchored names)) := by
  obtain ⟨hroot, base, hdir, hpath⟩ := h
  refine relative?_eq_some_iff.2 ⟨hroot, base, _, hdir, hpath, ?_⟩
  rw [wayBetween_append]

/-- What is seen of a path is either the names by which it goes on, or a way up. -/
theorem relative?_eq_some {dir path seen : String} (h : relative? dir path = some seen) :
    (∃ names, GoesOn dir path names ∧ seen = String.ofList (anchored names)) ∨
      ¬ Within dir path ∧ ∃ more, seen = String.ofList (anchored (['.', '.'] :: more)) := by
  obtain ⟨hsame, base, target, hdir, hpath, hseen⟩ := relative?_eq_some_iff.1 h
  by_cases hprefix : base <+: target
  · obtain ⟨names, rfl⟩ := hprefix
    rw [wayBetween_append] at hseen
    exact .inl ⟨names, ⟨hsame, base, hdir, hpath⟩, hseen⟩
  · obtain ⟨more, hway⟩ := wayBetween_of_not_prefix hprefix
    refine .inr ⟨?_, more, by rw [hseen, hway]⟩
    rintro ⟨names, -, base', hdir', hpath'⟩
    rw [hdir] at hdir'
    rw [hpath] at hpath'
    cases hdir'
    cases hpath'
    exact hprefix (List.prefix_append _ _)

/-! ## Ways as text -/

theorem joinWith_cons (name : List Char) (names : List (List Char)) :
    Text.joinWith ['/'] (name :: names) =
      name ++ if names = [] then [] else '/' :: Text.joinWith ['/'] names := by
  cases names with
  | nil => simp only [Text.joinWith, if_true, List.append_nil]
  | cons other names =>
    rw [Text.joinWith, if_neg (by exact List.cons_ne_nil _ _), List.append_assoc]
    · rfl
    · exact List.cons_ne_nil _ _

/-- Whether some names start with two dots as text is whether the first name does. -/
theorem up_isPrefixOf_joinWith {name : List Char} (hname : IsName name) (names : List (List Char)) :
    ['.', '.'].isPrefixOf (Text.joinWith ['/'] (name :: names)) = ['.', '.'].isPrefixOf name := by
  rw [joinWith_cons]
  -- the first two characters settle it, and a name of one character is no dot
  match name, hname with
  | [], hname => exact absurd rfl hname.ne_nil
  | [c], hname =>
    have hdot : ('.' == c) = false := by
      rw [beq_eq_false_iff_ne]
      rintro rfl
      exact hname.ne_dot rfl
    simp only [List.cons_append, List.isPrefixOf, hdot, Bool.false_and]
  | c :: d :: more, _ => simp only [List.cons_append, List.isPrefixOf]

/-- A way up starts with two dots. -/
theorem anchored_up (more : List (List Char)) :
    ∃ rest, anchored (['.', '.'] :: more) = '.' :: '.' :: rest := by
  have hdots : ['.', '.'].isPrefixOf (Text.joinWith ['/'] (['.', '.'] :: more)) = true := by
    rw [joinWith_cons]
    rfl
  simp only [anchored, List.cons_ne_nil, if_false, hdots, if_true]
  rw [joinWith_cons]
  exact ⟨_, rfl⟩

/-- Names start with a dot and a slash, -/
theorem anchored_name {name : List Char} (hname : IsName name) (hdots : ¬ ['.', '.'] <+: name)
    (names : List (List Char)) :
    anchored (name :: names) = '.' :: '/' :: Text.joinWith ['/'] (name :: names) := by
  have hplain : ['.', '.'].isPrefixOf (Text.joinWith ['/'] (name :: names)) = false := by
    rw [up_isPrefixOf_joinWith hname, Bool.eq_false_iff]
    exact fun h => hdots (List.isPrefixOf_iff_prefix.1 h)
  simp only [anchored, List.cons_ne_nil, if_false, hplain, Bool.false_eq_true]

/-- but if the first one starts with two dots, then with these, and no slash after them. -/
theorem anchored_dots {name : List Char} (hname : IsName name) (hdots : ['.', '.'] <+: name)
    (names : List (List Char)) :
    ∃ c rest, anchored (name :: names) = '.' :: '.' :: c :: rest ∧ c ≠ '/' := by
  have hplain : ['.', '.'].isPrefixOf (Text.joinWith ['/'] (name :: names)) = true := by
    rw [up_isPrefixOf_joinWith hname]
    exact List.isPrefixOf_iff_prefix.2 hdots
  obtain ⟨more, rfl⟩ := hdots
  cases more with
  | nil => exact absurd rfl hname.ne_up
  | cons c more =>
    refine ⟨c, more ++ if names = [] then [] else '/' :: Text.joinWith ['/'] names, ?_, ?_⟩
    · simp only [anchored, List.cons_ne_nil, if_false, hplain, if_true]
      rw [joinWith_cons]
      rfl
    · rintro rfl
      exact hname.slash_notMem (by simp)

/-! ## Paths that are seen to start with dots and a slash -/

/-- A path is seen to start with one dot and a slash if it goes on from the directory by
some names of which the first one does not start with two dots. -/
theorem here_iff {dir path seen : String} (h : relative? dir path = some seen) :
    ['.', '/'] <+: seen.toList ↔
      ∃ name names, GoesOn dir path (name :: names) ∧ ¬ ['.', '.'] <+: name := by
  constructor
  · intro hhere
    rcases relative?_eq_some h with ⟨names, hgoes, rfl⟩ | ⟨-, more, rfl⟩
    · rw [String.toList_ofList] at hhere
      cases names with
      | nil => exact absurd hhere (by decide)
      | cons name names =>
        refine ⟨name, names, hgoes, ?_⟩
        intro hdots
        obtain ⟨c, rest, hanchored, -⟩ :=
          anchored_dots (hgoes.isName List.mem_cons_self) hdots names
        rw [hanchored, List.cons_prefix_cons, List.cons_prefix_cons] at hhere
        exact absurd hhere.2.1 (by decide)
    · obtain ⟨rest, hup⟩ := anchored_up more
      rw [String.toList_ofList, hup, List.cons_prefix_cons, List.cons_prefix_cons] at hhere
      exact absurd hhere.2.1 (by decide)
  · rintro ⟨name, names, hgoes, hdots⟩
    have hseen : seen = String.ofList (anchored (name :: names)) :=
      Option.some.inj (h.symm.trans (relative?_of_goesOn hgoes))
    rw [hseen, String.toList_ofList, anchored_name (hgoes.isName List.mem_cons_self) hdots]
    exact List.prefix_append ['.', '/'] _

/-- A path that is seen to start with two dots and a slash is not within the directory. -/
theorem not_within_of_up {dir path seen : String} (h : relative? dir path = some seen)
    (hup : ['.', '.', '/'] <+: seen.toList) : ¬ Within dir path := by
  rintro ⟨names, hgoes⟩
  have hseen : seen = String.ofList (anchored names) :=
    Option.some.inj (h.symm.trans (relative?_of_goesOn hgoes))
  rw [hseen, String.toList_ofList] at hup
  cases names with
  | nil => exact absurd hup (by decide)
  | cons name names =>
    have hname : IsName name := hgoes.isName List.mem_cons_self
    by_cases hdots : ['.', '.'] <+: name
    · -- the name goes on after its dots, and not with a slash
      obtain ⟨c, rest, hanchored, hc⟩ := anchored_dots hname hdots names
      rw [hanchored] at hup
      simp only [List.cons_prefix_cons, true_and] at hup
      exact hc hup.1.symm
    · rw [anchored_name hname hdots] at hup
      simp only [List.cons_prefix_cons, true_and] at hup
      exact absurd hup.1 (by decide)

end Groundwork.Path
