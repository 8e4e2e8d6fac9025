/-
Rules that are anchored again. A dot and a slash before a rule anchor it at the directory.
Before a rule that has no anchor they change nothing, because such a rule is anchored in the
same way. A rule that has one is left as it is written, though, and so keeps both. Paths do
not: they are seen with one anchor at most (`Path.isDirect_of_relative?`), so that a rule
with two matches none of them (`isMatch_of_isAnchored`). `anchored_again` puts both
together.
-/
import Groundwork.Proofs.Glob.Readable
import Groundwork.Proofs.Path.Relative
import Groundwork.Proofs.Trigger.Isolation

set_option autoImplicit false

namespace Groundwork

/-- A path that is seen to start with a dot goes on by a name. -/
theorem Path.isName_of_relative? {dir path seen : String} (h : relative? dir path = some seen)
    {part : List Char} (hslash : '/' ∉ part) (hstart : ('.' :: '/' :: part) ++ ['/'] <+: seen.toList) :
    IsName part := by
  obtain ⟨rest, hrest⟩ := hstart
  have hafter : Text.splitAll '/' (part ++ '/' :: rest) = part :: Text.splitAll '/' rest := by
    rw [Text.splitAll_append_cons, Text.splitAll_of_not_mem hslash]
    rfl
  have hparts : Text.splitAll '/' seen.toList = ['.'] :: part :: Text.splitAll '/' rest := by
    have hdot := Text.splitAll_append_cons '/' ['.'] (part ++ '/' :: rest)
    rw [hafter] at hdot
    rw [← hrest, List.append_assoc]
    exact hdot
  have hdirect := isDirect_of_relative? h
  rw [hparts] at hdirect
  exact hdirect.isName_of_dot

namespace Rules

/-! ## Anchors -/

theorem anchor_of_not_isAnchored {rule : String} (h : ¬ IsAnchored rule) :
    anchor rule = "./" ++ rule := by
  unfold anchor
  rw [if_neg]
  rwa [Bool.or_eq_true, List.isPrefixOf_iff_prefix, List.isPrefixOf_iff_prefix]

/-- A rule with a dot and a slash put before it is left as it is then written. -/
theorem anchor_again (rule : String) : anchor ("./" ++ rule) = "./" ++ rule := by
  apply anchor_of_isAnchored
  left
  rw [String.toList_append]
  exact List.prefix_append _ _

/-- Whether a rule is a glob, and if not why, does not change when it is anchored again. -/
theorem outcome_parse_again (rule : String) :
    Glob.outcome (Glob.parse ("./" ++ rule)) = Glob.outcome (Glob.parse (anchor rule)) := by
  by_cases hrule : IsAnchored rule
  · rw [anchor_of_isAnchored hrule]
    have hplain : ['.', '/'].all Glob.isPlain = true := by decide
    exact Glob.outcome_parse_append (List.all_eq_true.1 hplain) String.toList_append
  · rw [anchor_of_not_isAnchored hrule]

/-! ## One rule -/

theorem ofList_of_parse_eq_ok {rule : String} {g : List Glob.Token}
    (h : Glob.parse (anchor rule) = .ok g) : ofList [rule] = .ok ⟨[anchor rule], [g]⟩ := by
  simp only [ofList, List.isEmpty_cons, Bool.false_eq_true, if_false, List.map_cons, List.map_nil,
    parseAll, h]
  rfl

theorem ofList_of_parse_eq_error {rule : String} {e : Glob.Error}
    (h : Glob.parse (anchor rule) = .error e) : ofList [rule] = .error (.rule (anchor rule) e) := by
  simp only [ofList, List.isEmpty_cons, Bool.false_eq_true, if_false, List.map_cons, List.map_nil,
    parseAll, h]
  rfl

/-- With a second anchor before it, a rule matches nothing that is seen from a directory. -/
theorem isMatch_of_isAnchored {rule : String} (hrule : IsAnchored rule) {g : List Glob.Token}
    (hparse : Glob.parse ("./" ++ rule) = .ok g) {dir path seen : String}
    (hseen : Path.relative? dir path = some seen) : Glob.isMatch g seen = false := by
  rw [Bool.eq_false_iff]
  intro hmatch
  -- what matches starts like the rule, so the part after its dot is that of the second anchor
  have hstart : ∀ part : List Char, ('.' :: '/' :: part).all Glob.isPlain = true →
      part ++ ['/'] <+: rule.toList → ('.' :: '/' :: part) ++ ['/'] <+: seen.toList := by
    intro part hplain hpart
    refine Glob.prefix_of_isMatch _ hplain ?_ hparse hmatch
    rw [String.toList_append]
    exact (List.prefix_append_right_inj ['.', '/']).2 hpart
  rcases hrule with hdot | hup
  · have hname := Path.isName_of_relative? hseen (by decide) (hstart ['.'] (by decide) hdot)
    exact hname.ne_dot rfl
  · have hname := Path.isName_of_relative? hseen (by decide) (hstart ['.', '.'] (by decide) hup)
    exact hname.ne_up rfl

/-- A rule that is anchored again selects what it did before if it had no anchor. Otherwise
it selects nothing. -/
theorem matchesAny_again {rule : String} {g g' : List Glob.Token}
    (h : Glob.parse (anchor rule) = .ok g) (h' : Glob.parse ("./" ++ rule) = .ok g') (dir : String)
    (cs : List Change) :
    matchesAny ⟨["./" ++ rule], [g']⟩ dir cs = matchesAny ⟨[anchor rule], [g]⟩ dir cs ↔
      ¬ IsAnchored rule ∨ matchesAny ⟨[anchor rule], [g]⟩ dir cs = false := by
  by_cases hrule : IsAnchored rule
  · have hnone : matchesAny ⟨["./" ++ rule], [g']⟩ dir cs = false := by
      rw [Bool.eq_false_iff, ne_eq, matchesAny_iff]
      rintro ⟨c, -, seen, hseen, hmatch⟩
      rw [isMatch, List.any_cons, List.any_nil, Bool.or_false,
        isMatch_of_isAnchored hrule h' hseen] at hmatch
      cases hmatch
    rw [hnone, iff_comm, or_iff_right (not_not.2 hrule)]
    exact eq_comm
  · -- without an anchor the rule gets the same one
    have hplain : anchor rule = "./" ++ rule := anchor_of_not_isAnchored hrule
    rw [hplain, h'] at h
    obtain rfl := Except.ok.inj h
    rw [hplain]
    exact iff_of_true rfl (.inl hrule)

/-- **When a rule may be anchored again.** A rule and the same with a dot and a slash before
it are both no globs, for the same reason, or both are. Then for a directory and some
changes they give the same answer exactly if the rule had no anchor before, or the changes
do not fall under it anyway. -/
theorem anchored_again (rule : String) :
    (∃ e, ofList [rule] = .error (.rule (anchor rule) e) ∧
      ofList ["./" ++ rule] = .error (.rule ("./" ++ rule) e)) ∨
    ∃ rules again, ofList [rule] = .ok rules ∧ ofList ["./" ++ rule] = .ok again ∧
      ∀ dir cs, again.matchesAny dir cs = rules.matchesAny dir cs ↔
        ¬ IsAnchored rule ∨ rules.matchesAny dir cs = false := by
  have hagain : anchor ("./" ++ rule) = "./" ++ rule := anchor_again rule
  have hsame := outcome_parse_again rule
  cases hfirst : Glob.parse (anchor rule) with
  | error e =>
    cases hsecond : Glob.parse ("./" ++ rule) with
    | error e' =>
      rw [hfirst, hsecond] at hsame
      obtain rfl := Except.error.inj hsame
      rw [← hagain] at hsecond
      have herror := ofList_of_parse_eq_error hsecond
      rw [hagain] at herror
      exact .inl ⟨e', ofList_of_parse_eq_error hfirst, herror⟩
    | ok g' =>
      rw [hfirst, hsecond] at hsame
      cases hsame
  | ok g =>
    cases hsecond : Glob.parse ("./" ++ rule) with
    | error e' =>
      rw [hfirst, hsecond] at hsame
      cases hsame
    | ok g' =>
      have hmatches := matchesAny_again hfirst hsecond
      rw [← hagain] at hsecond
      have hok := ofList_of_parse_eq_ok hsecond
      rw [hagain] at hok
      exact .inr ⟨_, _, ofList_of_parse_eq_ok hfirst, hok, hmatches⟩

/-- A rule for a directory beside takes in a change there, and no more so when it is
anchored again. -/
theorem lost_when_anchored_again :
    ∃ rules again, ofList ["../shared/*.tf"] = .ok rules ∧
      ofList ["./" ++ "../shared/*.tf"] = .ok again ∧
      rules.matchesAny "infra" [.modified "shared/a.tf"] = true ∧
      again.matchesAny "infra" [.modified "shared/a.tf"] = false :=
  ⟨_, _, rfl, rfl, by decide +kernel, by decide +kernel⟩

end Rules

end Groundwork
