/-
Paths as they are seen from a directory. To see a path from a directory and to go on from
the directory by what is seen are inverse to each other (`relative_inverts_joining`): what
is seen leads from the directory to the path, it leads up first and only as often as it
must, and it depends on where the directory and the path lie, not on how they are spelled.

Two facts about the way between two paths carry this. Up to what they share and down again
is a way (`resolve_wayBetween`), and no way leads up less often, because of the names of
the directory all stay but as many as there are dots for (`drop_suffix_of_resolve`), and
what stays is shared (`length_sub_sharedCount_le`).
-/
import Groundwork.Proofs.Path.Spelling

set_option autoImplicit false

namespace Groundwork.Path

/-! ## What two paths share -/

theorem sharedCount_le_length (base target : List (List Char)) :
    sharedCount base target ≤ base.length := by
  induction base generalizing target with
  | nil => exact Nat.le_refl _
  | cons part base ih =>
    cases target with
    | nil => exact Nat.zero_le _
    | cons other target =>
      rw [sharedCount]
      split
      · exact Nat.succ_le_succ (ih target)
      · exact Nat.zero_le _

theorem take_sharedCount (base target : List (List Char)) :
    base.take (sharedCount base target) = target.take (sharedCount base target) := by
  induction base generalizing target with
  | nil => simp only [sharedCount, List.take_nil, List.take_zero]
  | cons part base ih =>
    cases target with
    | nil => simp only [sharedCount, List.take_zero]
    | cons other target =>
      rw [sharedCount]
      split
      · next heq => rw [List.take_succ_cons, List.take_succ_cons, heq, ih]
      · rfl

/-- What two paths both start with is not longer than what they share. -/
theorem length_le_sharedCount {common base target : List (List Char)} (hbase : common <+: base)
    (htarget : common <+: target) : common.length ≤ sharedCount base target := by
  induction common generalizing base target with
  | nil => exact Nat.zero_le _
  | cons part common ih =>
    obtain ⟨restBase, rfl, hrestBase⟩ := List.cons_prefix_iff.1 hbase
    obtain ⟨restTarget, rfl, hrestTarget⟩ := List.cons_prefix_iff.1 htarget
    rw [sharedCount, if_pos rfl, List.length_cons]
    exact Nat.succ_le_succ (ih hrestBase hrestTarget)

/-- The longest parts that two paths both start with. -/
structure IsShared (common base target : List (List Char)) : Prop where
  prefix_base : common <+: base
  prefix_target : common <+: target
  longest : ∀ other, other <+: base → other <+: target → other.length ≤ common.length

theorem isShared_take (base target : List (List Char)) :
    IsShared (base.take (sharedCount base target)) base target where
  prefix_base := List.take_prefix _ _
  prefix_target := by
    rw [take_sharedCount]
    exact List.take_prefix _ _
  longest := by
    intro other hbase htarget
    rw [List.length_take_of_le (sharedCount_le_length base target)]
    exact length_le_sharedCount hbase htarget

/-! ## The way between two paths -/

/-- The way from one path leads to the other. -/
theorem resolve_wayBetween (base : List (List Char)) {target : List (List Char)}
    (htarget : ∀ part ∈ target, isNaming part = true) :
    resolve base.reverse (wayBetween base target) = some target.reverse := by
  have hle : sharedCount base target ≤ base.length := sharedCount_le_length base target
  have hups : base.length - sharedCount base target ≤ base.reverse.length := by
    rw [List.length_reverse]
    omega
  -- what is left after leading up is what both share
  have hleft : base.reverse.drop (base.length - sharedCount base target) =
      (target.take (sharedCount base target)).reverse := by
    rw [List.drop_reverse, ← take_sharedCount]
    congr 2
    omega
  have hdown : ∀ part ∈ target.drop (sharedCount base target), isNaming part = true :=
    fun part hpart => htarget part (List.mem_of_mem_drop hpart)
  rw [wayBetween, resolve_replicate hups, hleft, resolve_names hdown, ← List.reverse_append,
    List.take_append_drop]

/-- The way leads up as often as there are names that the two do not share. -/
theorem ups_wayBetween (base : List (List Char)) {target : List (List Char)}
    (htarget : ∀ part ∈ target, IsName part) :
    ups (wayBetween base target) = base.length - sharedCount base target := by
  have hdown : ∀ part ∈ target.drop (sharedCount base target), IsName part :=
    fun part hpart => htarget part (List.mem_of_mem_drop hpart)
  rw [wayBetween, ups_append, ups_of_names hdown, ups, List.count_replicate_self, Nat.add_zero]

/-- No other way leads up less often. -/
theorem length_sub_sharedCount_le {base parts target : List (List Char)}
    (h : resolve base.reverse parts = some target.reverse) :
    base.length - sharedCount base target ≤ ups parts := by
  have hkept := drop_suffix_of_resolve h
  rw [List.drop_reverse, List.reverse_suffix] at hkept
  have hle : (base.take (base.length - ups parts)).length ≤ sharedCount base target :=
    length_le_sharedCount (List.take_prefix _ _) hkept
  rw [List.length_take] at hle
  omega

theorem slash_notMem_wayBetween (base : List (List Char)) {target : List (List Char)}
    (htarget : ∀ part ∈ target, IsName part) {part : List Char}
    (hpart : part ∈ wayBetween base target) : '/' ∉ part := by
  rcases List.mem_append.1 hpart with hup | hdown
  · rw [List.eq_of_mem_replicate hup]
    decide
  · exact (htarget part (List.mem_of_mem_drop hdown)).slash_notMem

/-! ## Ways as text -/

/-- Parts that first lead up, or start with a dot, and then only name what lies below. -/
def IsDirect (parts : List (List Char)) : Prop :=
  ∃ lead names, parts = lead ++ names ∧
    (lead = [['.']] ∨ ∃ n, lead = List.replicate n ['.', '.']) ∧ ∀ name ∈ names, IsName name

/-- After a dot at the start comes a name. -/
theorem IsDirect.isName_of_dot {part : List Char} {more : List (List Char)}
    (h : IsDirect (['.'] :: part :: more)) : IsName part := by
  obtain ⟨lead, names, hparts, hlead, hnames⟩ := h
  rcases hlead with rfl | ⟨n, rfl⟩
  · obtain rfl := (List.cons.inj hparts).2
    exact hnames part List.mem_cons_self
  · -- a dot is no name, and does not lead up
    cases n with
    | zero =>
      rw [List.replicate_zero, List.nil_append] at hparts
      rw [← hparts] at hnames
      exact absurd rfl (hnames ['.'] List.mem_cons_self).ne_dot
    | succ n =>
      rw [List.replicate_succ, List.cons_append] at hparts
      exact absurd (List.cons.inj hparts).1 (by decide)

/-- The parts of a way as text are the way, or a dot and then the way. A way that leads up
gets no dot. -/
theorem splitAll_anchored {way : List (List Char)} (hslash : ∀ part ∈ way, '/' ∉ part) :
    Text.splitAll '/' (anchored way) = way ∨
      Text.splitAll '/' (anchored way) = ['.'] :: way ∧ way.head? ≠ some ['.', '.'] := by
  by_cases hnil : way = []
  · rw [hnil]
    refine .inr ⟨rfl, ?_⟩
    decide
  · by_cases hdots : ['.', '.'].isPrefixOf (Text.joinWith ['/'] way) = true
    · rw [anchored, if_neg hnil]
      simp only [hdots, if_true]
      exact .inl (Text.splitAll_joinWith hnil hslash)
    · rw [anchored, if_neg hnil]
      simp only [hdots, Bool.false_eq_true, if_false]
      refine .inr ⟨?_, ?_⟩
      · have hcut := Text.splitAll_append_cons '/' ['.'] (Text.joinWith ['/'] way)
        rw [Text.splitAll_joinWith hnil hslash] at hcut
        exact hcut
      · intro hhead
        obtain ⟨more, rfl⟩ := List.head?_eq_some_iff.1 hhead
        apply hdots
        rw [joinWith_cons]
        rfl

/-- A dot before a way is all that the text adds, so it leads where the way does. -/
theorem resolve_splitAll_anchored {way : List (List Char)} (hslash : ∀ part ∈ way, '/' ∉ part)
    (above : List (List Char)) :
    resolve above (Text.splitAll '/' (anchored way)) = resolve above way := by
  rcases splitAll_anchored hslash with hway | ⟨hdot, -⟩
  · rw [hway]
  · rw [hdot, resolve_of_still _ _ (.inr rfl)]

theorem ups_splitAll_anchored {way : List (List Char)} (hslash : ∀ part ∈ way, '/' ∉ part) :
    ups (Text.splitAll '/' (anchored way)) = ups way := by
  rcases splitAll_anchored hslash with hway | ⟨hdot, -⟩
  · rw [hway]
  · rw [hdot, ups_of_still _ (.inr rfl)]

theorem isDirect_splitAll_anchored (base : List (List Char)) {target : List (List Char)}
    (htarget : ∀ part ∈ target, IsName part) :
    IsDirect (Text.splitAll '/' (anchored (wayBetween base target))) := by
  have hdown : ∀ part ∈ target.drop (sharedCount base target), IsName part :=
    fun part hpart => htarget part (List.mem_of_mem_drop hpart)
  rcases splitAll_anchored fun _ => slash_notMem_wayBetween base htarget with hway | ⟨hdot, hhead⟩
  · exact ⟨_, _, hway, .inr ⟨_, rfl⟩, hdown⟩
  · -- with a dot before it the way does not lead up at all
    have hups : base.length - sharedCount base target = 0 := by
      by_contra hne
      obtain ⟨n, hn⟩ := Nat.exists_eq_succ_of_ne_zero hne
      apply hhead
      rw [wayBetween, hn, List.replicate_succ, List.cons_append, List.head?_cons]
    refine ⟨[['.']], _, ?_, .inl rfl, hdown⟩
    rw [hdot, wayBetween, hups, List.replicate_zero, List.nil_append, List.singleton_append]

/-- Only the way that leads nowhere is written as a dot. -/
theorem anchored_eq_dot_iff {way : List (List Char)} (hslash : ∀ part ∈ way, '/' ∉ part)
    (hdot : ['.'] ∉ way) : anchored way = ['.'] ↔ way = [] := by
  constructor
  · intro h
    have hparts : Text.splitAll '/' (anchored way) = [['.']] := by
      rw [h]
      rfl
    rcases splitAll_anchored hslash with hway | ⟨hcut, -⟩
    · rw [← hway, hparts] at hdot
      exact absurd (List.mem_singleton_self _) hdot
    · rw [hcut] at hparts
      exact (List.cons.inj hparts).2
  · rintro rfl
    rfl

theorem wayBetween_eq_nil_iff {base target : List (List Char)} :
    wayBetween base target = [] ↔ base = target := by
  constructor
  · intro h
    obtain ⟨hup, hdown⟩ := List.append_eq_nil_iff.1 h
    have hbase : base.length ≤ sharedCount base target :=
      Nat.le_of_sub_eq_zero ((List.replicate_eq_nil_iff _).1 hup)
    have htarget : target.length ≤ sharedCount base target := List.drop_eq_nil_iff.1 hdown
    rw [← List.take_of_length_le hbase, take_sharedCount, List.take_of_length_le htarget]
  · rintro rfl
    have hself := wayBetween_append base []
    rwa [List.append_nil] at hself

/-! ## What is seen from a directory -/

theorem exists_relative?_iff {dir path : String} :
    (∃ seen, relative? dir path = some seen) ↔
      isAbsolute dir.toList = isAbsolute path.toList ∧
        ¬ Climbs dir.toList ∧ ¬ Climbs path.toList := by
  rw [← exists_components_iff, ← exists_components_iff]
  constructor
  · rintro ⟨seen, h⟩
    obtain ⟨hroot, base, target, hdir, hpath, -⟩ := relative?_eq_some_iff.1 h
    exact ⟨hroot, ⟨base, hdir⟩, ⟨target, hpath⟩⟩
  · rintro ⟨hroot, ⟨base, hdir⟩, ⟨target, hpath⟩⟩
    exact ⟨_, relative?_eq_some_iff.2 ⟨hroot, base, target, hdir, hpath, rfl⟩⟩

/-- What is seen first leads up, or starts with a dot, and then only names what lies below. -/
theorem isDirect_of_relative? {dir path seen : String} (h : relative? dir path = some seen) :
    IsDirect (Text.splitAll '/' seen.toList) := by
  obtain ⟨-, base, target, -, hpath, rfl⟩ := relative?_eq_some_iff.1 h
  rw [String.toList_ofList]
  exact isDirect_splitAll_anchored base fun part => isName_of_mem_components hpath

/-- From a directory a way leads to a path. -/
def LeadsTo (dir path way : String) : Prop :=
  ∃ target, components path.toList = some target ∧
    components (dir.toList ++ '/' :: way.toList) = some target

/-- To go on from a directory by a way is to resolve it from there. -/
theorem leadsTo_iff {dir path way : String} {base target : List (List Char)}
    (hdir : components dir.toList = some base) (hpath : components path.toList = some target) :
    LeadsTo dir path way ↔
      resolve base.reverse (Text.splitAll '/' way.toList) = some target.reverse := by
  have hjoin : LeadsTo dir path way ↔
      (resolve base.reverse (Text.splitAll '/' way.toList)).map List.reverse = some target := by
    rw [← components_append_cons hdir]
    constructor
    · rintro ⟨target', hpath', hway⟩
      rw [hway, ← hpath', hpath]
    · exact fun hway => ⟨target, hpath, hway⟩
  rw [hjoin, Option.map_eq_some_iff]
  constructor
  · rintro ⟨ps, hps, rfl⟩
    rw [hps, List.reverse_reverse]
  · exact fun h => ⟨_, h, List.reverse_reverse target⟩

/-- **To see a path from a directory is the inverse of going on from there.** A path is
seen from a directory exactly if both or neither start at the root and neither climbs above
its start. What is seen leads from the directory to the path. It has no empty parts, no dot
but one at its start, and leads up only at its start. It leads up once for each name of the
directory beyond the longest start that both share, and no way to the path leads up less
often. It is a dot exactly if the directory and the path are one. And neither spelling
matters, as long as it keeps to the root or away from it. -/
theorem relative_inverts_joining (dir path : String) :
    ((∃ seen, relative? dir path = some seen) ↔
      isAbsolute dir.toList = isAbsolute path.toList ∧
        ¬ Climbs dir.toList ∧ ¬ Climbs path.toList) ∧
    (∀ seen, relative? dir path = some seen →
      LeadsTo dir path seen ∧ IsDirect (Text.splitAll '/' seen.toList) ∧
      (∃ base target common, components dir.toList = some base ∧
        components path.toList = some target ∧ IsShared common base target ∧
        ups (Text.splitAll '/' seen.toList) = base.length - common.length) ∧
      (∀ way, LeadsTo dir path way →
        ups (Text.splitAll '/' seen.toList) ≤ ups (Text.splitAll '/' way.toList)) ∧
      (seen = "." ↔ components dir.toList = components path.toList)) ∧
    (∀ dir' path' : String, Respelled dir.toList dir'.toList →
      Respelled path.toList path'.toList → isAbsolute dir'.toList = isAbsolute dir.toList →
      isAbsolute path'.toList = isAbsolute path.toList →
      relative? dir' path' = relative? dir path) := by
  refine ⟨exists_relative?_iff, ?_, ?_⟩
  · intro seen hseen
    obtain ⟨-, base, target, hdir, hpath, rfl⟩ := relative?_eq_some_iff.1 hseen
    have hnames : ∀ part ∈ target, IsName part := fun part => isName_of_mem_components hpath
    have hslash : ∀ part ∈ wayBetween base target, '/' ∉ part :=
      fun part => slash_notMem_wayBetween base hnames
    have hups : ups (Text.splitAll '/' (anchored (wayBetween base target))) =
        base.length - sharedCount base target := by
      rw [ups_splitAll_anchored hslash, ups_wayBetween base hnames]
    have hdirect := isDirect_of_relative? hseen
    simp only [String.toList_ofList] at hdirect ⊢
    refine ⟨?_, hdirect, ?_, ?_, ?_⟩
    · rw [leadsTo_iff hdir hpath, String.toList_ofList, resolve_splitAll_anchored hslash]
      exact resolve_wayBetween base fun part hpart => (hnames part hpart).isNaming
    · refine ⟨base, target, _, hdir, hpath, isShared_take base target, ?_⟩
      rw [hups, List.length_take_of_le (sharedCount_le_length base target)]
    · intro way hway
      rw [hups]
      exact length_sub_sharedCount_le ((leadsTo_iff hdir hpath).1 hway)
    · have hdot : ['.'] ∉ wayBetween base target := by
        intro hmem
        rcases List.mem_append.1 hmem with hup | hdown
        · exact absurd (List.eq_of_mem_replicate hup) (by decide)
        · exact (hnames _ (List.mem_of_mem_drop hdown)).ne_dot rfl
      rw [hdir, hpath, Option.some_inj, ← wayBetween_eq_nil_iff, ← anchored_eq_dot_iff hslash hdot,
        ← String.toList_inj, String.toList_ofList]
      rfl
  · intro dir' path' hdir hpath hdirRoot hpathRoot
    unfold relative?
    rw [hdir.components_eq, hpath.components_eq, hdirRoot, hpathRoot]

/-- A path beside a directory, the one written with a dot before it and the other with two
slashes and a name that is taken back. It is seen by a way that leads up once, no way leads
up less often, and it is seen the same from the directory as it is written plainly. -/
theorem relative_inverts_joining_beside :
    let dir := "infra//prod/x/.."
    let path := "./infra/modules/a.tf"
    relative? dir path = some "../modules/a.tf" ∧ LeadsTo dir path "../modules/a.tf" ∧
      (∀ way, LeadsTo dir path way → 1 ≤ ups (Text.splitAll '/' way.toList)) ∧
      relative? "infra/prod" path = some "../modules/a.tf" := by
  intro dir path
  obtain ⟨hexists, hseen, hspelling⟩ := relative_inverts_joining dir path
  have hways : relative? dir path = some "../modules/a.tf" := by decide +kernel
  obtain ⟨hleads, -, -, hfewest, -⟩ := hseen _ hways
  obtain ⟨-, hclimbs, -⟩ := hexists.1 ⟨_, hways⟩
  have hplain : Respelled dir.toList "infra/prod".toList :=
    (respelled_iff hclimbs).2 (by decide +kernel)
  refine ⟨hways, hleads, ?_, ?_⟩
  · intro way hway
    have hups : ups (Text.splitAll '/' "../modules/a.tf".toList) = 1 := by decide +kernel
    rw [← hups]
    exact hfewest way hway
  · rw [← hways]
    exact hspelling "infra/prod" path hplain (.refl _) (by decide) rfl

end Groundwork.Path
