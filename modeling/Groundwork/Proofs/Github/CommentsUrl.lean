/-
Where comments on a pull request are posted, if the payload only has its own address. In
that address the first part that is called `pulls`, and has something before and after it,
is renamed. It is meant to be the collection of the pull requests, which is the last but
one. What is before it are the host, the owner and the repository, and each of them may
have this name too.

The renaming is done in the text. On a text that is made of parts it renames the first part
of the name (`replaceFirst_led`), so which part it is can be told from the parts alone.
-/
import Groundwork.Proofs.Github.Files
import Groundwork.Proofs.Repository.Spelling

set_option autoImplicit false

namespace Groundwork

namespace Text

variable {sep : Char} {p q : List Char}

/-! ## Renaming a part of a text -/

theorem replaceFirst_of_leading {part new rest : List Char} (hpart : part ≠ []) :
    replaceFirst part new (part ++ rest) = new ++ rest := by
  obtain ⟨c, part, rfl⟩ := List.exists_cons_of_ne_nil hpart
  have hlead : (c :: part).isPrefixOf (c :: (part ++ rest)) = true :=
    List.isPrefixOf_iff_prefix.2 (List.prefix_append (c :: part) rest)
  rw [List.cons_append, replaceFirst, if_pos hlead]
  show new ++ ((c :: part) ++ rest).drop (c :: part).length = new ++ rest
  rw [List.drop_left]

theorem replaceFirst_of_not_leading {c : Char} {part new rest : List Char}
    (h : ¬ part <+: c :: rest) :
    replaceFirst part new (c :: rest) = c :: replaceFirst part new rest := by
  rw [replaceFirst, if_neg fun hlead => h (List.isPrefixOf_iff_prefix.1 hlead)]

/-- A text that starts with `sep` is not found before the first one. -/
theorem replaceFirst_append_of_notMem {before : List Char} (h : sep ∉ before)
    (part new s : List Char) : replaceFirst (sep :: part) new (before ++ s) =
      before ++ replaceFirst (sep :: part) new s := by
  induction before with
  | nil => rfl
  | cons c before ih =>
    have hbefore : sep ∉ before := fun hmem => h (List.mem_cons_of_mem _ hmem)
    rw [List.cons_append, replaceFirst_of_not_leading, ih hbefore, List.cons_append]
    intro hlead
    exact h (by rw [(List.cons_prefix_cons.1 hlead).1]; exact List.mem_cons_self)

/-- Parts with `sep` before each. -/
def led (sep : Char) (parts : List (List Char)) : List Char :=
  parts.flatMap (sep :: ·)

theorem led_cons (sep : Char) (part : List Char) (parts : List (List Char)) :
    led sep (part :: parts) = sep :: (part ++ led sep parts) :=
  rfl

/-- A name with `sep` around it is at the start exactly if the first part has it, and is not
the last. -/
theorem leading_iff {part : List Char} {parts : List (List Char)} (hp : sep ∉ p)
    (hpart : sep ∉ part) :
    sep :: (p ++ [sep]) <+: led sep (part :: parts) ↔ p = part ∧ parts ≠ [] := by
  rw [led_cons, List.cons_prefix_cons, and_iff_right rfl]
  cases parts with
  | nil =>
    refine iff_of_false (fun hlead => ?_) (by simp)
    rw [led, List.flatMap_nil, List.append_nil] at hlead
    exact hpart (hlead.mem (List.mem_append_right _ (List.mem_singleton.2 rfl)))
  | cons next others =>
    rw [led_cons]
    constructor
    · -- both are cut at their first `sep`, which is at the end of the name
      rintro ⟨rest, hrest⟩
      have hsame := congrArg (splitFirst? sep) hrest
      rw [List.append_assoc, List.singleton_append, splitFirst?_eq_some.2 ⟨rfl, hp⟩,
        splitFirst?_eq_some.2 ⟨rfl, hpart⟩, Option.some.injEq, Prod.mk.injEq] at hsame
      exact ⟨hsame.1, List.cons_ne_nil _ _⟩
    · rintro ⟨rfl, -⟩
      exact ⟨next ++ led sep others, by simp⟩

/-- In parts that are joined the first that has a name, and is not the last, is renamed. -/
theorem replaceFirst_led (hp : sep ∉ p) {parts : List (List Char)} {last : List Char}
    (hparts : ∀ part ∈ parts, sep ∉ part) (hlast : sep ∉ last) :
    replaceFirst (sep :: (p ++ [sep])) (sep :: (q ++ [sep])) (led sep (parts ++ [last])) =
      led sep (parts.replace p q ++ [last]) := by
  induction parts with
  | nil =>
    have hnot : ¬ sep :: (p ++ [sep]) <+: led sep [last] :=
      fun hlead => ((leading_iff hp hlast).1 hlead).2 rfl
    rw [led_cons] at hnot
    rw [List.nil_append, led_cons, replaceFirst_of_not_leading hnot,
      replaceFirst_append_of_notMem hlast]
    rfl
  | cons part parts ih =>
    obtain ⟨hpart, hparts⟩ := List.forall_mem_cons.1 hparts
    by_cases heq : p = part
    · subst heq
      obtain ⟨next, others, hnext⟩ : ∃ next others, parts ++ [last] = next :: others :=
        List.exists_cons_of_ne_nil (List.append_ne_nil_of_right_ne_nil _ (List.cons_ne_nil _ _))
      have htext : led sep (p :: parts ++ [last]) =
          sep :: (p ++ [sep]) ++ (next ++ led sep others) := by
        simp [led_cons, hnext]
      rw [htext, replaceFirst_of_leading (List.cons_ne_nil _ _), List.replace_cons_self]
      simp [led_cons, hnext]
    · have hnot : ¬ sep :: (p ++ [sep]) <+: led sep (part :: (parts ++ [last])) :=
        fun hlead => heq ((leading_iff hp hpart).1 hlead).1
      rw [led_cons] at hnot
      rw [List.cons_append, led_cons, replaceFirst_of_not_leading hnot,
        replaceFirst_append_of_notMem hpart, ih hparts, List.replace_cons, beq_false_of_ne heq]
      rfl

theorem splitAll_append_led {parts : List (List Char)} (hp : sep ∉ p)
    (hparts : ∀ part ∈ parts, sep ∉ part) : splitAll sep (p ++ led sep parts) = p :: parts := by
  induction parts generalizing p with
  | nil => rw [led, List.flatMap_nil, List.append_nil, splitAll_of_not_mem hp]
  | cons part parts ih =>
    obtain ⟨hpart, hparts⟩ := List.forall_mem_cons.1 hparts
    rw [led, List.flatMap_cons, List.cons_append, splitAll_append_cons, splitAll_of_not_mem hp]
    exact congrArg (p :: ·) (ih hpart hparts)

theorem led_append (sep : Char) (parts others : List (List Char)) :
    led sep (parts ++ others) = led sep parts ++ led sep others :=
  List.flatMap_append

/-- Parts can be told from the text. -/
theorem led_inj {parts others : List (List Char)} (hparts : ∀ part ∈ parts, sep ∉ part)
    (hothers : ∀ part ∈ others, sep ∉ part) : led sep parts = led sep others ↔ parts = others := by
  refine ⟨fun h => ?_, congrArg (led sep)⟩
  have hsplit := congrArg (fun s => splitAll sep ([] ++ s)) h
  simp only [splitAll_append_led List.not_mem_nil hparts,
    splitAll_append_led List.not_mem_nil hothers] at hsplit
  exact (List.cons.inj hsplit).2

theorem mem_or_eq_of_mem_replace {parts : List (List Char)} {part : List Char}
    (h : part ∈ parts.replace p q) : part ∈ parts ∨ part = q := by
  induction parts with
  | nil => exact .inl h
  | cons other parts ih =>
    rw [List.replace_cons] at h
    split at h
    · rcases List.mem_cons.1 h with rfl | h
      · exact .inr rfl
      · exact .inl (List.mem_cons_of_mem _ h)
    · rcases List.mem_cons.1 h with rfl | h
      · exact .inl List.mem_cons_self
      · exact (ih h).imp_left (List.mem_cons_of_mem _)

end Text

open Text Repository

/-! ## Addresses of a repository -/

namespace PullRequest

/-- Where comments are posted is told by the parts of the address. -/
theorem defaultCommentsUrl_of_parts {scheme number : String} {parts : List (List Char)}
    (hscheme : '/' ∉ scheme.toList) (hparts : ∀ part ∈ parts, '/' ∉ part)
    (hnumber : '/' ∉ number.toList) {url : String}
    (hurl : url.toList = scheme.toList ++ led '/' (parts ++ [number.toList])) :
    (defaultCommentsUrl url).toList = scheme.toList ++ led '/'
      (parts.replace "pulls".toList "issues".toList ++ [number.toList, "comments".toList]) := by
  have hfound : replaceFirst "/pulls/".toList "/issues/".toList url.toList = scheme.toList ++
      led '/' (parts.replace "pulls".toList "issues".toList ++ [number.toList]) := by
    rw [hurl]
    show replaceFirst ('/' :: ("pulls".toList ++ ['/'])) ('/' :: ("issues".toList ++ ['/'])) _ = _
    rw [replaceFirst_append_of_notMem hscheme, replaceFirst_led (by decide) hparts hnumber]
  rw [defaultCommentsUrl, String.toList_append, String.toList_ofList, hfound]
  simp [led]

end PullRequest

namespace Github

/-- The address of an item in a collection of a repository. -/
def itemUrl (scheme host owner name collection : String) (n : Nat) : String :=
  scheme ++ "://" ++ host ++ "/repos/" ++ owner ++ "/" ++ name ++ "/" ++ collection ++ "/" ++
    toString n

/-- The parts of such an address between the scheme and the number. -/
def itemParts (host owner name collection : String) : List (List Char) :=
  [[], host.toList, "repos".toList, owner.toList, name.toList, collection.toList]

variable {scheme host owner name : String} {n : Nat}

theorem toList_itemUrl (collection : String) :
    (itemUrl scheme host owner name collection n).toList = (scheme ++ ":").toList ++
      led '/' (itemParts host owner name collection ++ [(toString n).toList]) := by
  simp [itemUrl, itemParts, led]

theorem slash_notMem_toString (n : Nat) : '/' ∉ (toString n).toList := by
  intro hmem
  exact absurd (isDigit_of_mem_toString hmem) (by decide)

theorem slash_notMem_itemParts {collection : String} (hhost : '/' ∉ host.toList)
    (howner : IsName owner.toList) (hname : IsName name.toList)
    (hcollection : '/' ∉ collection.toList) :
    ∀ part ∈ itemParts host owner name collection, '/' ∉ part := by
  have howner := slash_notMem howner
  have hname := slash_notMem hname
  simp [itemParts, hhost, howner, hname, hcollection]

/-- The collection is what is renamed exactly if nothing before it has its name. -/
theorem replace_itemParts_iff :
    (itemParts host owner name "pulls").replace "pulls".toList "issues".toList =
      itemParts host owner name "issues" ↔ host ≠ "pulls" ∧ owner ≠ "pulls" ∧ name ≠ "pulls" := by
  have hword : "pulls".toList ≠ "issues".toList := by decide
  have hnil : ("pulls".toList == []) = false := by decide
  have heq (s : String) : ("pulls".toList == s.toList) = decide (s = "pulls") := by
    rw [Bool.eq_iff_iff, beq_iff_eq, decide_eq_true_iff, String.toList_inj, eq_comm]
  simp only [itemParts, List.replace_cons, heq, hnil]
  -- of the parts that have the name the first one decides
  by_cases hhost : host = "pulls"
  · subst hhost
    simp
  by_cases howner : owner = "pulls"
  · subst howner
    simp [hhost]
  by_cases hname : name = "pulls"
  · subst hname
    simp [hhost, howner]
  simp [hhost, howner, hname]

/-- Comments are posted with the issue of the pull request exactly if nothing before the
collection has its name. -/
theorem defaultCommentsUrl_itemUrl_iff (hscheme : '/' ∉ scheme.toList) (hhost : '/' ∉ host.toList)
    (howner : IsName owner.toList) (hname : IsName name.toList) :
    PullRequest.defaultCommentsUrl (itemUrl scheme host owner name "pulls" n) =
        itemUrl scheme host owner name "issues" n ++ "/comments" ↔
      host ≠ "pulls" ∧ owner ≠ "pulls" ∧ name ≠ "pulls" := by
  have hstart : '/' ∉ (scheme ++ ":").toList := by simp [hscheme]
  have hparts := slash_notMem_itemParts hhost howner hname (by decide : '/' ∉ "pulls".toList)
  have hwanted : (itemUrl scheme host owner name "issues" n ++ "/comments").toList =
      (scheme ++ ":").toList ++
        led '/' (itemParts host owner name "issues" ++ [(toString n).toList, "comments".toList]) := by
    rw [String.toList_append, toList_itemUrl]
    simp [led]
  rw [← String.toList_inj, hwanted, ← replace_itemParts_iff, PullRequest.defaultCommentsUrl_of_parts
    hstart hparts (slash_notMem_toString n) (toList_itemUrl "pulls"), List.append_cancel_left_eq,
    led_append, led_append, List.append_cancel_right_eq]
  refine led_inj (fun part hpart => ?_)
    (slash_notMem_itemParts hhost howner hname (by decide : '/' ∉ "issues".toList))
  rcases mem_or_eq_of_mem_replace hpart with hpart | rfl
  · exact hparts part hpart
  · decide

/-! ## Payloads -/

/-- The comments of a pull request whose payload does not say where they are posted are
posted where its address tells. -/
theorem commentsUrl_of_pullRequestOfJson? {members : List (String × Json)} {pull : PullRequest}
    {url : String} (hread : pullRequestOfJson? (.object members) = some pull)
    (hurl : members.lookup "url" = some (.string url))
    (hmissing : members.lookup "comments_url" = none ∨ members.lookup "comments_url" = some .null) :
    pull.commentsUrl = PullRequest.defaultCommentsUrl url := by
  rw [pullRequestOfJson?, Option.map_eq_some_iff] at hread
  obtain ⟨w, hread, rfl⟩ := hread
  obtain ⟨fields, hshape, hnames, hurlField, hcommentsField⟩ : ∃ fields,
      Event.pullRequestShape = .record fields ∧ (fields.map (·.1)).Nodup ∧
        ("url", .text) ∈ fields ∧ ("comments_url", .optional .url) ∈ fields :=
    ⟨_, rfl, by decide, by simp, by simp [Event.each]⟩
  rw [hshape, Json.Shape.read?_record_eq_some_iff] at hread
  obtain ⟨fs, vs, hfs, hvs, rfl⟩ := hread
  obtain ⟨hpositional, hfind⟩ := Json.fields?_object hfs
  have hurlRead : (Json.object vs).get? "url" = some (.string url) := by
    rw [Json.Shape.get?_of_readFields? hvs hnames hurlField, Json.Shape.readField?,
      hfind _ (List.mem_map_of_mem hurlField), hurl]
    simp only [Json.Shape.read?]
  have hcommentsRead : (Json.object vs).get? "comments_url" = some .null := by
    rw [Json.Shape.get?_of_readFields? hvs hnames hcommentsField, Json.Shape.readField?,
      hfind _ (List.mem_map_of_mem hcommentsField)]
    rcases hmissing with hnone | hnull
    · rw [hnone, hpositional]
      rfl
    · rw [hnull]
      simp only [Json.Shape.read?]
  simp only [Event.pullRequestOf, Event.textAt, Json.get, hurlRead, hcommentsRead, Option.getD_some,
    Json.string?, Option.getD_none]

/-- The comments of a pull request whose payload does not say where they are posted are
posted with its issue exactly if neither its host nor its owner nor its repository is called
like the collection of the pull requests. -/
theorem commentsUrl_derived_iff {members : List (String × Json)} {pull : PullRequest}
    (hread : pullRequestOfJson? (.object members) = some pull)
    (hurl : members.lookup "url" = some (.string (itemUrl scheme host owner name "pulls" n)))
    (hmissing : members.lookup "comments_url" = none ∨ members.lookup "comments_url" = some .null)
    (hscheme : '/' ∉ scheme.toList) (hhost : '/' ∉ host.toList) (howner : IsName owner.toList)
    (hname : IsName name.toList) :
    pull.commentsUrl = itemUrl scheme host owner name "issues" n ++ "/comments" ↔
      host ≠ "pulls" ∧ owner ≠ "pulls" ∧ name ≠ "pulls" := by
  rw [commentsUrl_of_pullRequestOfJson? hread hurl hmissing]
  exact defaultCommentsUrl_itemUrl_iff hscheme hhost howner hname

/-- A branch with nothing in it but what has to be. -/
def bareBranch : List (String × Json) :=
  [("ref", .string "main"), ("sha", .string "abc")]

/-- A pull request with nothing in it but what has to be. -/
def bareMembers (url : String) : List (String × Json) :=
  [("url", .string url), ("id", .ofNat 1), ("number", .ofNat 7), ("head", .object bareBranch),
    ("base", .object bareBranch)]

theorem isSome_read?_bareBranch : (Event.branchShape.read? (.object bareBranch)).isSome := by
  unfold Event.branchShape
  refine Json.Shape.isSome_read?_record
    (show Json.fields? _ (.object bareBranch) = some ⟨bareBranch, false⟩ from rfl) ?_
  simp [Json.Shape.readField?, Json.Fields.find?, bareBranch, Json.Shape.isOptional,
    List.lookup_cons, Json.Shape.read?]

theorem isSome_read?_long {n : Nat} (h : n < UInt64.size) :
    (Event.long.read? (.ofNat n)).isSome := by
  rw [Event.long, Json.Shape.read?, Json.nat?_ofNat, if_pos h]
  rfl

theorem isSome_read?_bareMembers (url : String) :
    (Event.pullRequestShape.read? (.object (bareMembers url))).isSome := by
  have htext : (Json.Shape.text.read? (.string url)).isSome := by
    rw [Json.Shape.read?]
    rfl
  have hlong := @isSome_read?_long
  unfold Event.pullRequestShape
  refine Json.Shape.isSome_read?_record
    (show Json.fields? _ (.object (bareMembers url)) = some ⟨bareMembers url, false⟩ from rfl) ?_
  simp [Event.each, Json.Shape.readField?, Json.Fields.find?, bareMembers, Json.Shape.isOptional,
    List.lookup_cons, htext, hlong, isSome_read?_bareBranch, UInt64.size]

theorem commentsUrl_derived_of_infra : ∃ pull,
    pullRequestOfJson? (.object
        (bareMembers (itemUrl "https" "api.github.com" "acme" "infra" "pulls" 7))) = some pull ∧
      pull.commentsUrl = "https://api.github.com/repos/acme/infra/issues/7/comments" := by
  obtain ⟨w, hw⟩ := Option.isSome_iff_exists.1 (isSome_read?_bareMembers
    (itemUrl "https" "api.github.com" "acme" "infra" "pulls" 7))
  have hread := congrArg (Option.map Event.pullRequestOf) hw
  have hderived := (commentsUrl_derived_iff (n := 7) hread rfl (.inl rfl) (by decide) (by decide)
    (by decide) (by decide)).2 (by decide)
  exact ⟨_, hread, hderived.trans (by decide)⟩

/-- The comments on a pull request of a repository that is called `pulls` are posted to an
address of another repository. -/
theorem comments_of_repository_pulls_astray : ∃ pull,
    pullRequestOfJson? (.object (bareMembers "https://api.github.com/repos/acme/pulls/pulls/7")) =
        some pull ∧
      pull.commentsUrl = "https://api.github.com/repos/acme/issues/pulls/7/comments" ∧
      pull.commentsUrl ≠ "https://api.github.com/repos/acme/pulls/issues/7/comments" := by
  obtain ⟨w, hw⟩ := Option.isSome_iff_exists.1 (isSome_read?_bareMembers
    "https://api.github.com/repos/acme/pulls/pulls/7")
  have hread := congrArg (Option.map Event.pullRequestOf) hw
  have hurl : (Event.pullRequestOf w).commentsUrl =
      "https://api.github.com/repos/acme/issues/pulls/7/comments" :=
    (commentsUrl_of_pullRequestOfJson? hread rfl (.inl rfl)).trans (by decide)
  exact ⟨_, hread, hurl, by rw [hurl]; decide⟩

end Github

end Groundwork
