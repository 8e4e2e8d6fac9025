/-
Which addresses give a route that starts with a slash. A special scheme always does: its
path is cut into segments, which are written with a slash before each and are never resolved
to nothing (`head?_normalPath`). Any other scheme leaves the path as it is written, and then
it may be empty, or start with something else.

What such an address gives is not a route that it could be given for: read again, it loses
a scheme, and with it a colon. Encoding adds none, so it cannot be its own route
(`count_route_lt`).
-/
import Groundwork.Github.Client

set_option autoImplicit false

namespace Groundwork.Url

variable {scheme text r : String} {s rest : List Char} {v : Url}

/-! ## Paths of segments -/

theorem resolveDots_ne_nil (file : Bool) (above : List (List Char)) {segments : List (List Char)}
    (h : segments ≠ []) : resolveDots file above segments ≠ [] := by
  induction segments generalizing above with
  | nil => exact absurd rfl h
  | cons segment rest ih =>
    unfold resolveDots
    cases rest with
    | nil =>
      -- the last segment is put in, or an empty one in its place
      simp only [resolveDots, List.isEmpty_nil, if_true]
      split
      · simp
      · split <;> simp
    | cons next others =>
      have hrest (above) : resolveDots file above (next :: others) ≠ [] :=
        ih above (List.cons_ne_nil _ _)
      split
      · exact hrest _
      · split
        · exact hrest _
        · exact hrest _

theorem head?_pathText {segments : List (List Char)} (h : segments ≠ []) :
    (pathText segments).head? = some '/' := by
  obtain ⟨segment, segments, rfl⟩ := List.exists_cons_of_ne_nil h
  rfl

/-- A path that is cut into segments is written with a slash before it. -/
theorem head?_normalPath (scheme : String) (s : List Char) :
    (normalPath scheme s).head? = some '/' := by
  rw [normalPath]
  by_cases hfile : (scheme == "file") = true
  · simp only [hfile, if_true]
    rfl
  · simp only [hfile]
    refine head?_pathText (resolveDots_ne_nil _ _ ?_)
    simp [segmentsOf, Text.splitAll_ne_nil]

/-! ## Encoded texts -/

theorem upper_digit_ne_colon {n : Nat} (h : n < 16) : (Hex.digit n).toUpper ≠ ':' := by
  revert n
  decide

theorem colon_notMem_percentByte (b : UInt8) : ':' ∉ percentByte b := by
  have hhigh : b.toNat / 16 < 16 := by have := b.toNat_lt; omega
  have hlow : b.toNat % 16 < 16 := Nat.mod_lt _ (by decide)
  simp only [percentByte, List.mem_cons, List.not_mem_nil, or_false, not_or]
  exact ⟨by decide, (upper_digit_ne_colon hhigh).symm, (upper_digit_ne_colon hlow).symm⟩

theorem count_percentChar_le (set : Char → Bool) (c : Char) :
    (percentChar set c).count ':' ≤ [c].count ':' := by
  rw [percentChar]
  split
  · have hnot : ':' ∉ (String.utf8EncodeChar c).flatMap percentByte := by
      rw [List.mem_flatMap]
      rintro ⟨b, -, hmem⟩
      exact colon_notMem_percentByte b hmem
    rw [List.count_eq_zero.2 hnot]
    exact Nat.zero_le _
  · exact Nat.le_refl _

/-- Encoding adds no colon. -/
theorem count_percentEncode_le (set : Char → Bool) (s : List Char) :
    (percentEncode set s).count ':' ≤ s.count ':' := by
  induction s with
  | nil => exact Nat.le_refl _
  | cons c s ih =>
    have hsplit : percentEncode set (c :: s) = percentChar set c ++ percentEncode set s := rfl
    rw [hsplit, List.count_append, ← List.singleton_append, List.count_append]
    exact Nat.add_le_add (count_percentChar_le set c) ih

/-- What starts with a slash once it is encoded did before. -/
theorem head?_of_head?_percentEncode {set : Char → Bool}
    (h : (percentEncode set s).head? = some '/') : s.head? = some '/' := by
  cases s with
  | nil => cases h
  | cons c s =>
    have hsplit : percentEncode set (c :: s) = percentChar set c ++ percentEncode set s := rfl
    rw [hsplit, percentChar] at h
    split at h
    · obtain ⟨b, bs, hbytes⟩ : ∃ b bs, String.utf8EncodeChar c = b :: bs :=
        List.exists_cons_of_ne_nil fun hnil => by
          have := String.length_utf8EncodeChar c
          have := Char.utf8Size_pos c
          simp_all
      rw [hbytes] at h
      exact absurd h (by simp [percentByte])
    · exact h

/-! ## Parts of an address -/

theorem head?_route_iff : v.route.toList.head? = some '/' ↔ v.path.head? = some '/' := by
  rw [route, String.toList_ofList]
  cases v.path with
  | nil => cases v.query <;> cases v.fragment <;> simp
  | cons c path => rfl

theorem count_route (v : Url) : v.route.toList.count ':' =
    v.path.count ':' + (v.query.getD []).count ':' + (v.fragment.getD []).count ':' := by
  rw [route, String.toList_ofList, List.count_append, List.count_append]
  cases v.query <;> cases v.fragment <;> simp

/-- A route has no more colons than the path and what was read after it. -/
theorem count_route_withTail_le (u : Url) (s : List Char) :
    (withTail u s).route.toList.count ':' ≤ u.path.count ':' + s.count ':' := by
  rw [count_route, Nat.add_assoc, withTail]
  refine Nat.add_le_add_left ?_ (u.path.count ':')
  cases hsplit : Text.splitFirst? '#' s with
  | none =>
    dsimp only
    split
    · simpa using count_percentEncode_le _ _
    · simp
  | some parts =>
    obtain ⟨query, fragment⟩ := parts
    obtain ⟨rfl, -⟩ := Text.splitFirst?_eq_some.1 hsplit
    have hfragment := count_percentEncode_le inFragmentSet fragment
    rw [List.count_append]
    refine Nat.add_le_add ?_ (by simpa using hfragment)
    dsimp only
    split
    · simpa using count_percentEncode_le _ _
    · simp

/-! ## Addresses -/

theorem head?_dropWhile {p : Char → Bool} {c : Char} (h : (s.dropWhile (!p ·)).head? = some c) :
    p c = true := by
  have hhead := List.head?_dropWhile_not (fun c => !p c) s
  rw [h] at hhead
  simpa using hhead

theorem head?_of_takeWhile {p : Char → Bool} {c : Char} (h : (s.takeWhile p).head? = some c) :
    s.head? = some c := by
  rw [List.head?_takeWhile, Option.filter_eq_some_iff] at h
  exact h.1

/-- What comes after a host is a path, or there is none. -/
theorem isEmpty_path_iff :
    ((s.dropWhile (!endsAuthority false ·)).takeWhile (!endsPath ·)).isEmpty ↔
      (s.dropWhile (!endsAuthority false ·)).head? ≠ some '/' := by
  have hends (c : Char) := @head?_dropWhile s (endsAuthority false) c
  cases hrest : s.dropWhile (!endsAuthority false ·) with
  | nil => simp
  | cons c rest =>
    have hc := hends c (by rw [hrest, List.head?_cons])
    simp only [endsAuthority, Bool.false_and, Bool.or_false, Bool.or_eq_true,
      decide_eq_true_iff] at hc
    obtain (rfl | rfl) | rfl := hc <;> simp [endsPath]

/-- A path starts with a slash exactly in some case, and otherwise the route has no more
colons than what it was read from. -/
structure Rooted (case : Prop) (s : List Char) (v : Url) : Prop where
  head?_path_iff : v.path.head? = some '/' ↔ case
  count_le : ¬ case → v.route.toList.count ':' ≤ s.count ':'

theorem Rooted.of_slash {case : Prop} (hcase : case) (hpath : v.path.head? = some '/') :
    Rooted case s v :=
  ⟨iff_of_true hpath hcase, fun hnot => absurd hcase hnot⟩

theorem rooted_afterSlashes? (h : afterSlashes? scheme s = some v) :
    Rooted (isSpecial scheme ∨ (s.dropWhile (!endsAuthority false ·)).head? = some '/') s v := by
  obtain ⟨authority, -, h⟩ := Option.bind_eq_some_iff.1 h
  cases h
  cases hspecial : isSpecial scheme with
  | true => exact .of_slash (.inl rfl) (by simp [withTail, head?_normalPath])
  | false =>
    by_cases hslash : (s.dropWhile (!endsAuthority false ·)).head? = some '/'
    · have hpath := mt isEmpty_path_iff.1 (not_not_intro hslash)
      exact .of_slash (.inr hslash) (by simp [withTail, head?_normalPath, hpath])
    · -- there is no path, and the route is only what comes after it
      have hpath := isEmpty_path_iff.2 hslash
      refine ⟨by simp [withTail, hpath, hslash], fun _ => ?_⟩
      refine Nat.le_trans (count_route_withTail_le _ _) ?_
      simp only [hpath, Bool.not_false, Bool.and_self, if_true, List.count_nil, Nat.zero_add]
      exact ((List.dropWhile_sublist _).trans (List.dropWhile_sublist _)).count_le _

theorem head?_path_of_file? (h : file? s = some v) : v.path.head? = some '/' := by
  unfold file? at h
  extract_lets isSlash at h
  split at h
  next host rest _ =>
  have hv : ∃ authority path tail,
      v = withTail ⟨"file", authority, normalPath "file" path, none, none⟩ tail := by
    split at h <;>
    · obtain ⟨host, -, h⟩ := Option.bind_eq_some_iff.1 h
      cases h
      exact ⟨_, _, _, rfl⟩
  obtain ⟨authority, path, tail, rfl⟩ := hv
  exact head?_normalPath "file" path

theorem head?_path_other (scheme : String) (h : s.head? = some '/') :
    (other scheme s).path.head? = some '/' := by
  obtain ⟨rest, rfl⟩ := List.head?_eq_some_iff.1 h
  have htake : ('/' :: rest).takeWhile (!endsPath ·) = '/' :: rest.takeWhile (!endsPath ·) := rfl
  rw [other, htake]
  exact head?_normalPath _ _

/-- A path without a slash at its start is kept as it is written. -/
theorem other_eq_withTail (scheme : String) (h : s.head? ≠ some '/') : other scheme s =
    withTail ⟨scheme, none, percentEncode isControl (s.takeWhile (!endsPath ·)), none, none⟩
      (s.dropWhile (!endsPath ·)) := by
  rw [other]
  congr 2
  split
  next hpath => exact absurd (head?_of_takeWhile (by rw [hpath, List.head?_cons])) h
  next => rfl

theorem rooted_other (scheme : String) (s : List Char) :
    Rooted (s.head? = some '/') s (other scheme s) := by
  by_cases hslash : s.head? = some '/'
  · exact .of_slash hslash (head?_path_other scheme hslash)
  · rw [other_eq_withTail scheme hslash]
    refine ⟨iff_of_false (fun h => ?_) hslash, fun _ => ?_⟩
    · exact hslash (head?_of_takeWhile (head?_of_head?_percentEncode h))
    · have hcount : (s.takeWhile (!endsPath ·)).count ':' +
          (s.dropWhile (!endsPath ·)).count ':' = s.count ':' := by
        rw [← List.count_append, List.takeWhile_append_dropWhile]
      exact hcount ▸ Nat.le_trans (count_route_withTail_le _ _)
        (Nat.add_le_add_right (count_percentEncode_le _ _) _)

/-! ## Schemes -/

theorem count_significant_le (s : List Char) : (significant s).count ':' ≤ s.count ':' := by
  refine List.Sublist.count_le _ (List.filter_sublist.trans ?_)
  exact (List.reverse_sublist.2 ((List.dropWhile_sublist _).trans
    (List.reverse_sublist.2 (List.dropWhile_sublist _)))).trans (by simp)

/-- Reading a scheme takes a colon. -/
theorem count_lt_of_scheme? (h : scheme? s = some (scheme, rest)) :
    rest.count ':' < s.count ':' := by
  cases s with
  | nil => cases h
  | cons c s =>
    simp only [scheme?] at h
    split at h
    · split at h
      next hrest =>
        cases h
        have hcolon := hrest ▸ (List.dropWhile_sublist _).count_le ':'
        rw [List.count_cons_self] at hcolon
        exact hcolon
      · cases h
    · cases h

/-- Whether what comes after a scheme that is not special has a path that starts with a
slash: after a host, or else at once. -/
def hasSlashPath : List Char → Bool
  | '/' :: '/' :: rest => (rest.dropWhile (!endsAuthority false ·)).head? = some '/'
  | rest => rest.head? = some '/'

/-- Whether an address names a path that starts with a slash. A special scheme always
does. -/
def namesPath (text : String) : Bool :=
  (scheme? (significant text.toList)).any fun (scheme, rest) =>
    isSpecial scheme || hasSlashPath rest

/-- An address is read from what comes after its scheme. -/
theorem exists_rooted_of_parse? (h : parse? text = some v) :
    ∃ rest, Rooted (namesPath text) rest v ∧ rest.count ':' < text.toList.count ':' := by
  obtain ⟨⟨scheme, rest⟩, hscheme, h⟩ := Option.bind_eq_some_iff.1 h
  have hcount := Nat.lt_of_lt_of_le (count_lt_of_scheme? hscheme) (count_significant_le _)
  have hcase : namesPath text = (isSpecial scheme || hasSlashPath rest) := by
    rw [namesPath, hscheme, Option.any_some]
  dsimp only at h
  rw [hcase]
  split at h
  -- files are special too, so their route always starts with a slash
  next hfile =>
    have hspecial : isSpecial scheme = true := by rw [hfile]; decide
    exact ⟨rest, .of_slash (by simp [hspecial]) (head?_path_of_file? h), hcount⟩
  next =>
  split at h
  next hspecial =>
    exact ⟨rest, .of_slash (by simp [hspecial])
      ((rooted_afterSlashes? h).head?_path_iff.2 (.inl hspecial)), hcount⟩
  next hspecial =>
  rw [eq_false_of_ne_true hspecial, Bool.false_or]
  -- any other scheme has a host after two slashes, or else goes on with its path
  split at h
  next rest =>
    have hrooted := rooted_afterSlashes? h
    simp only [hspecial] at hrooted
    simp only [List.count_cons] at hcount
    exact ⟨rest, by simpa [hasSlashPath] using hrooted, by simpa using hcount⟩
  next hrest =>
    cases h
    have hlead : hasSlashPath rest = decide (rest.head? = some '/') := by
      rw [hasSlashPath]
      exact hrest
    refine ⟨rest, ?_, hcount⟩
    simpa [hlead] using rooted_other scheme rest

/-! ## Routes -/

/-- A route that does not start with a slash has fewer colons than what it was read from. -/
theorem count_route_lt (h : parse? text = some v) (hnames : namesPath text = false) :
    v.route.toList.count ':' < text.toList.count ':' := by
  obtain ⟨rest, hrooted, hcount⟩ := exists_rooted_of_parse? h
  exact Nat.lt_of_le_of_lt (hrooted.count_le (by simp [hnames])) hcount

theorem head?_route_iff_namesPath (h : parse? text = some v) :
    v.route.toList.head? = some '/' ↔ namesPath text = true := by
  obtain ⟨rest, hrooted, -⟩ := exists_rooted_of_parse? h
  exact head?_route_iff.trans hrooted.head?_path_iff

/-- Only a text that starts with a slash is its own route. -/
theorem routeOf?_eq_self_iff : routeOf? r = some r ↔ r.toList.head? = some '/' := by
  refine ⟨fun h => ?_, fun h => if_pos h⟩
  -- any other text would have fewer colons than it has
  refine Decidable.byContradiction fun hslash => ?_
  rw [routeOf?, if_neg hslash, Option.map_eq_some_iff] at h
  obtain ⟨v, hv, hroute⟩ := h
  have hnames : namesPath r = false := by
    rw [← Bool.not_eq_true, ← head?_route_iff_namesPath hv, hroute]
    exact hslash
  exact Nat.lt_irrefl _ (hroute ▸ count_route_lt hv hnames)

/-- Whether an address has a route: it is one, or it names a path. -/
def hasRoute (text : String) : Bool :=
  text.toList.head? = some '/' || namesPath text

example : hasRoute "data:text/plain,hello" = false ∧ hasRoute "forge://git.local" = false := by
  decide

theorem head?_routeOf?_iff (h : routeOf? text = some r) :
    r.toList.head? = some '/' ↔ hasRoute text = true := by
  rw [routeOf?] at h
  split at h
  next hslash =>
    cases h
    simp [hasRoute, hslash]
  next hslash =>
    obtain ⟨v, hv, rfl⟩ := Option.map_eq_some_iff.1 h
    simp [hasRoute, hslash, head?_route_iff_namesPath hv]

/-- A text that does not start with a slash is not sent. -/
theorem target?_eq_none (h : r.toList.head? ≠ some '/') : Http.target? r = none := by
  have hsent : ((r.toList.takeWhile (· != '#')).head? == some '/') = false :=
    beq_false_of_ne fun hhead => h (head?_of_takeWhile hhead)
  simp [Http.target?, hsent]

/-- Nothing is posted to a text that has no route. -/
theorem post_eq_throw (h : routeOf? text = some r) (hslash : r.toList.head? ≠ some '/')
    (what : String) (body : Json) :
    Github.post what text body = throw ⟨"Failed to " ++ what, []⟩ := by
  simp only [Github.post, Github.routeOf, h, Github.exchange, target?_eq_none hslash, pure_bind]

/-- What an address is reduced to starts with a slash, and is reduced to itself, exactly if
the address has a route. For any other one nothing is posted. -/
theorem routes_settled_iff (h : routeOf? text = some r) :
    (r.toList.head? = some '/' ↔ hasRoute text = true) ∧
      (routeOf? r = some r ↔ hasRoute text = true) ∧
      (hasRoute text = false → ∀ (what : String) (body : Json),
        Github.post what text body = throw ⟨"Failed to " ++ what, []⟩) := by
  have hself := routeOf?_eq_self_iff.trans (head?_routeOf?_iff h)
  refine ⟨head?_routeOf?_iff h, hself, fun hroute what body => ?_⟩
  refine post_eq_throw h (fun hslash => ?_) what body
  rw [head?_routeOf?_iff h, hroute] at hslash
  cases hslash

theorem routes_settled_of_local_host :
    routeOf? "https://[::1]/repos/acme?page=2" = some "/repos/acme?page=2" ∧
      routeOf? "/repos/acme?page=2" = some "/repos/acme?page=2" := by
  have hroute : routeOf? "https://[::1]/repos/acme?page=2" = some "/repos/acme?page=2" := by decide
  exact ⟨hroute, (routes_settled_iff hroute).2.1.2 (by decide)⟩

/-- What an address without a host or a slash is reduced to is no route, and is refused. -/
theorem opaque_address_astray : routeOf? "custom:opaque/x" = some "opaque/x" ∧
    "opaque/x".toList.head? ≠ some '/' ∧ routeOf? "opaque/x" = none := by
  decide

end Groundwork.Url
