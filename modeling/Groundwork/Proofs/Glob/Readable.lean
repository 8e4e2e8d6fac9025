/-
Which texts are globs. What is wrong with a text has to do with its groups, its classes and
its escapes. The tokens that were read before do not come into it, only how many groups are
open: two drafts with as many open groups read the rest of a text both or neither, and fail
for the same reason (`outcome_read_congr`).

Two stars are the one place where the tokens matter to reading. They say whether the stars
and the slash after them are one token, but then the slash is plain, so that nothing can go
wrong with it either way.
-/
import Groundwork.Proofs.Glob.Anchored

set_option autoImplicit false

namespace Groundwork.Glob

/-- What comes of reading, apart from the tokens. -/
def outcome (r : Except Error (List Token)) : Except Error Unit :=
  r.map fun _ => ()

/-- How many groups are open. -/
def Draft.depth (d : Draft) : Nat :=
  d.groups.length

theorem Draft.depth_comma (d : Draft) : d.comma.depth = d.depth := by
  unfold Draft.comma
  split
  · rfl
  · next g gs hgroups => simp only [Draft.depth, hgroups, List.length_cons]

/-- A group can be closed if one is open, and then there is one less. -/
theorem Draft.closeGroup_cases (d : Draft) :
    (d.depth = 0 ∧ d.closeGroup = .error .unopenedGroup) ∨
      ∃ e, d.closeGroup = .ok e ∧ e.depth + 1 = d.depth := by
  cases hgroups : d.groups with
  | nil =>
    left
    simp only [Draft.depth, Draft.closeGroup, hgroups, List.length_nil, true_and]
  | cons g gs =>
    right
    simp only [Draft.depth, Draft.closeGroup, hgroups, List.length_cons, Except.ok.injEq,
      exists_eq_left']

theorem Draft.depth_anyDepth {d e : Draft} {next : Option Char} (h : d.anyDepth? next = some e) :
    e.depth = d.depth := by
  rw [Draft.depth, (anyDepth?_eq_some h).1, Draft.depth]

theorem Draft.outcome_finish (d : Draft) :
    outcome d.finish = if d.depth = 0 then .ok () else .error .unclosedGroup := by
  unfold Draft.finish Draft.depth
  cases d.groups with
  | nil => rfl
  | cons g gs => rfl

/-- A class is read the same whatever was read before it. -/
theorem outcome_readClass_congr {d e : Draft} {cs : List Char}
    (hread : ∀ rest members, rest.length < cs.length →
      outcome (read (d.push members ']') rest) = outcome (read (e.push members ']') rest))
    (negated : Bool) (ranges : List (Char × Char)) (dashed : Bool) :
    outcome (readClass d negated ranges dashed cs) =
      outcome (readClass e negated ranges dashed cs) := by
  induction cs generalizing ranges dashed with
  | nil => rw [readClass, readClass]
  | cons c cs ih =>
    have onward := ih fun rest members hlt => hread rest members (Nat.lt_succ_of_lt hlt)
    by_cases hclose : c = ']'
    · subst hclose
      rw [readClass, readClass]
      split
      · exact onward _ _
      · exact hread _ _ (Nat.lt_succ_self _)
    · by_cases hdash : c = '-'
      · subst hdash
        rw [readClass, readClass]
        split
        · exact onward _ _
        · split
          · split
            · rfl
            · exact onward _ _
          · exact onward _ _
      · rw [readClass, readClass]
        · split
          · split
            · rfl
            · exact onward _ _
          · exact onward _ _
        all_goals assumption

/-- Two stars before a slash: whether or not the slash belongs to them, what is read next
comes after it. -/
theorem exists_read_stars_slash (d : Draft) (rest : List Char) :
    ∃ e : Draft, e.depth = d.depth ∧ read d ('*' :: '*' :: '/' :: rest) = read e rest := by
  rw [read]
  split
  · exact ⟨((d.push .star '*').push .star '*').push (.literal '/') '/', rfl,
      read_of_isPlain (by decide) _ rest⟩
  · next e hany =>
    have hdepth : e.depth = d.depth := Draft.depth_anyDepth hany
    exact ⟨{ e with last := some '/' }, hdepth, rfl⟩

/-- Two stars before anything else. -/
theorem exists_read_stars (d : Draft) {rest : List Char} (h : rest.head? ≠ some '/') :
    ∃ e : Draft, e.depth = d.depth ∧ read d ('*' :: '*' :: rest) = read e rest := by
  rw [read]
  split
  · exact ⟨(d.push .star '*').push .star '*', rfl, rfl⟩
  · next e hany =>
    have hdepth : e.depth = d.depth := Draft.depth_anyDepth hany
    split
    · exact absurd rfl h
    · exact ⟨{ e with last := some '*' }, hdepth, rfl⟩

/-- A class starts after its bracket, or after the sign that negates it. -/
theorem exists_read_class (rest : List Char) :
    ∃ negated inner, inner.length ≤ rest.length ∧
      ∀ d, read d ('[' :: rest) = readClass d negated [] false inner := by
  by_cases hnot : ∃ inner, rest = '!' :: inner
  · obtain ⟨inner, rfl⟩ := hnot
    refine ⟨true, inner, Nat.le_succ _, fun d => ?_⟩
    rw [read]
  · by_cases hhat : ∃ inner, rest = '^' :: inner
    · obtain ⟨inner, rfl⟩ := hhat
      refine ⟨true, inner, Nat.le_succ _, fun d => ?_⟩
      rw [read]
    · refine ⟨false, rest, Nat.le_refl _, fun d => ?_⟩
      rw [read]
      · exact fun inner heq => hnot ⟨inner, heq⟩
      · exact fun inner heq => hhat ⟨inner, heq⟩

theorem eq_of_not_isPlain {c : Char} (h : ¬ isPlain c = true) :
    c = '?' ∨ c = '*' ∨ c = '[' ∨ c = '\x7b' ∨ c = '\x7d' ∨ c = ',' ∨ c = '\\' := by
  rw [isPlain, Bool.not_eq_true', Bool.not_eq_false, List.contains_iff_mem] at h
  simpa only [List.mem_cons, List.not_mem_nil, or_false] using h

/-- Drafts with as many open groups read the rest of a text both or neither, and fail for
the same reason. -/
theorem outcome_read_congr {d e : Draft} (h : d.depth = e.depth) (cs : List Char) :
    outcome (read d cs) = outcome (read e cs) := by
  have onward : ∀ {d e : Draft} {rest : List Char}, d.depth = e.depth → rest.length < cs.length →
      outcome (read d rest) = outcome (read e rest) :=
    fun hdepth _ => outcome_read_congr hdepth _
  cases cs with
  | nil => rw [read, read, Draft.outcome_finish, Draft.outcome_finish, h]
  | cons c cs =>
    by_cases hplain : isPlain c = true
    · rw [read_of_isPlain hplain, read_of_isPlain hplain]
      exact onward h (Nat.lt_succ_self _)
    rcases eq_of_not_isPlain hplain with rfl | rfl | rfl | rfl | rfl | rfl | rfl
    · rw [read, read]
      exact onward h (Nat.lt_succ_self _)
    · -- one star, or two with a slash or without
      by_cases hstar : ∃ rest, cs = '*' :: rest
      · obtain ⟨rest, rfl⟩ := hstar
        by_cases hslash : ∃ more, rest = '/' :: more
        · obtain ⟨more, rfl⟩ := hslash
          obtain ⟨d', hd, hreadD⟩ := exists_read_stars_slash d more
          obtain ⟨e', he, hreadE⟩ := exists_read_stars_slash e more
          rw [hreadD, hreadE]
          exact onward (hd.trans (h.trans he.symm)) (by simp only [List.length_cons]; omega)
        · have hhead : rest.head? ≠ some '/' := by
            intro hhead
            exact hslash (List.head?_eq_some_iff.1 hhead)
          obtain ⟨d', hd, hreadD⟩ := exists_read_stars d hhead
          obtain ⟨e', he, hreadE⟩ := exists_read_stars e hhead
          rw [hreadD, hreadE]
          exact onward (hd.trans (h.trans he.symm)) (by simp only [List.length_cons]; omega)
      · rw [read, read]
        · exact onward h (Nat.lt_succ_self _)
        all_goals exact fun rest heq => hstar ⟨rest, heq⟩
    · obtain ⟨negated, inner, hle, hclass⟩ := exists_read_class cs
      rw [hclass, hclass]
      apply outcome_readClass_congr
      intro rest members hlt
      exact onward h (Nat.lt_succ_of_lt (Nat.lt_of_lt_of_le hlt hle))
    · rw [read, read]
      exact onward (congrArg (· + 1) h) (Nat.lt_succ_self _)
    · -- a group that is closed must be open in both
      rw [read, read]
      rcases d.closeGroup_cases with ⟨hd, hclose⟩ | ⟨d', hclose, hd⟩
      · rcases e.closeGroup_cases with ⟨-, hclose'⟩ | ⟨e', -, he⟩
        · rw [hclose, hclose']
        · omega
      · rcases e.closeGroup_cases with ⟨he, -⟩ | ⟨e', hclose', he⟩
        · omega
        · rw [hclose, hclose']
          exact onward (by omega) (Nat.lt_succ_self _)
    · rw [read, read]
      exact onward (by rw [Draft.depth_comma, Draft.depth_comma, h]) (Nat.lt_succ_self _)
    · cases cs with
      | nil => rw [read, read]
      | cons escaped rest =>
        rw [read, read]
        exact onward h (by simp only [List.length_cons]; omega)
termination_by cs.length

/-- Whether a text is a glob, and if not why, does not change when plain characters are put
before it. -/
theorem outcome_parse_append {first : List Char} (hfirst : ∀ c ∈ first, isPlain c = true)
    {rule more : String} (hmore : more.toList = first ++ rule.toList) :
    outcome (parse more) = outcome (parse rule) := by
  have hskip : ∀ d : Draft, ∃ e : Draft, e.depth = d.depth ∧
      read d (first ++ rule.toList) = read e rule.toList := by
    clear hmore
    induction first with
    | nil => exact fun d => ⟨d, rfl, rfl⟩
    | cons c first ih =>
      intro d
      obtain ⟨hc, hfirst⟩ := List.forall_mem_cons.1 hfirst
      obtain ⟨e, he, hread⟩ := ih hfirst (d.push (.literal c) c)
      refine ⟨e, he, ?_⟩
      rw [List.cons_append, read_of_isPlain hc, hread]
  obtain ⟨e, he, hread⟩ := hskip {}
  rw [parse, hmore, hread, parse]
  exact outcome_read_congr he _

end Groundwork.Glob
