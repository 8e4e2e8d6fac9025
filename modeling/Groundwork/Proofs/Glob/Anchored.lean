/-
Globs that start with plain characters and a slash. Whatever comes after them, a path
that matches starts with the same characters and a slash (`prefix_of_isMatch`).

For the plain characters this is clear, but not for the slash: two stars that follow it
take its place. Reading is taken as a sequence of additions to a draft
(`exists_adds_of_read`), and `StartsWith` is what each of them keeps: outside of all
groups the tokens start with the plain characters and then with a token for something
that starts with a slash. Groups and classes that are open do not matter to that, and
two stars can only put one such token in the place of another.
-/
import Groundwork.Glob.Match
import Groundwork.Proofs.Text.ByteOrder
import Mathlib.Logic.Relation

set_option autoImplicit false

namespace Groundwork.Glob

/-! ## Reading as additions to a draft -/

/-- What one addition makes of a draft. -/
inductive Draft.Adds : Draft → Draft → Prop
  | push (d : Draft) (t : Token) (c : Char) : Adds d (d.push t c)
  | openGroup (d : Draft) : Adds d d.openGroup
  | comma (d : Draft) : Adds d d.comma
  | closeGroup {d e : Draft} (h : d.closeGroup = .ok e) : Adds d e
  | anyDepth {d e : Draft} {next : Option Char} (h : d.anyDepth? next = some e) (c : Char) :
    Adds d { e with last := some c }

/-- Reading the rest of a class adds one token, and goes on with what comes after. -/
theorem exists_read_of_readClass {d : Draft} {negated : Bool} {ranges : List (Char × Char)}
    {dashed : Bool} {cs : List Char} {ts : List Token}
    (h : readClass d negated ranges dashed cs = .ok ts) :
    ∃ members rest, rest.length < cs.length ∧
      read (d.push (.oneOf negated members) ']') rest = .ok ts := by
  induction cs generalizing ranges dashed with
  | nil =>
    rw [readClass] at h
    cases h
  | cons c cs ih =>
    have onward : ∀ {ranges dashed}, readClass d negated ranges dashed cs = .ok ts →
        ∃ members rest, rest.length < (c :: cs).length ∧
          read (d.push (.oneOf negated members) ']') rest = .ok ts := by
      intro ranges dashed hcs
      obtain ⟨members, rest, hlt, hread⟩ := ih hcs
      exact ⟨members, rest, Nat.lt_succ_of_lt hlt, hread⟩
    unfold readClass at h
    split at h
    · next heq => cases heq
    · next heq => -- a bracket that closes the class, or its first member
      cases heq
      split at h
      · exact onward h
      · exact ⟨_, _, Nat.lt_succ_self _, h⟩
    · next heq => -- a dash
      cases heq
      split at h
      · exact onward h
      · split at h
        · split at h
          · cases h
          · exact onward h
        · exact onward h
    · next heq => -- any other member
      cases heq
      split at h
      · split at h
        · cases h
        · exact onward h
      · exact onward h

/-- What is read was made by additions to the draft. -/
theorem exists_adds_of_read {d : Draft} {cs : List Char} {ts : List Token}
    (h : read d cs = .ok ts) : ∃ e, Relation.ReflTransGen Draft.Adds d e ∧ e.finish = .ok ts := by
  have onward : ∀ {e : Draft} {rest : List Char}, Relation.ReflTransGen Draft.Adds d e →
      rest.length < cs.length → read e rest = .ok ts →
      ∃ e, Relation.ReflTransGen Draft.Adds d e ∧ e.finish = .ok ts := by
    intro e rest hadds hlt hread
    obtain ⟨last, hlast, hfinish⟩ := exists_adds_of_read hread
    exact ⟨last, hadds.trans hlast, hfinish⟩
  have pushed : ∀ {t : Token} {c : Char} {rest : List Char}, rest.length < cs.length →
      read (d.push t c) rest = .ok ts →
      ∃ e, Relation.ReflTransGen Draft.Adds d e ∧ e.finish = .ok ts := by
    intro t c rest hlt hread
    exact onward (.single (.push d t c)) hlt hread
  have classRead : ∀ {negated : Bool} {rest : List Char}, rest.length < cs.length →
      readClass d negated [] false rest = .ok ts →
      ∃ e, Relation.ReflTransGen Draft.Adds d e ∧ e.finish = .ok ts := by
    intro negated rest hlt hclass
    obtain ⟨members, after, hafter, hread⟩ := exists_read_of_readClass hclass
    exact pushed (Nat.lt_trans hafter hlt) hread
  unfold read at h
  split at h
  · exact ⟨d, .refl, h⟩
  · exact pushed (Nat.lt_succ_self _) h
  · -- two stars: two tokens, or one for any depth
    split at h
    · exact onward ((Relation.ReflTransGen.single (.push d _ _)).tail (.push _ _ _))
        (by simp only [List.length_cons]; omega) h
    · next hany =>
      split at h
      · exact onward (.single (.anyDepth hany '/')) (by simp only [List.length_cons]; omega) h
      · exact onward (.single (.anyDepth hany '*')) (by simp only [List.length_cons]; omega) h
  · exact pushed (Nat.lt_succ_self _) h
  -- the three ways in which a class can start
  · exact classRead (by simp only [List.length_cons]; omega) h
  · exact classRead (by simp only [List.length_cons]; omega) h
  · exact classRead (Nat.lt_succ_self _) h
  · exact onward (.single (.openGroup d)) (Nat.lt_succ_self _) h
  · -- the end of a group, if one is open
    split at h
    · cases h
    · next hclose => exact onward (.single (.closeGroup hclose)) (Nat.lt_succ_self _) h
  · exact onward (.single (.comma d)) (Nat.lt_succ_self _) h
  · exact pushed (by simp only [List.length_cons]; omega) h
  · cases h -- nothing is escaped
  · exact pushed (Nat.lt_succ_self _) h
termination_by cs.length

/-! ## The tokens outside of groups -/

/-- The tokens outside of all groups, last one first. -/
def Draft.outer (d : Draft) : List Token :=
  match d.groups.getLast? with
  | some g => g.before
  | none => d.tokens

/-- Whether what a token stands for starts with a slash. -/
def Token.startsWithSlash : Token → Bool
  | .literal c => c == '/'
  | .anyDepthBetween => true
  | .anyDepthEnd => true
  | _ => false

/-- Two stars for any depth stand at the start of the present alternative, or take the
place of its last token. They change no group. -/
theorem Draft.anyDepth?_eq_some {d e : Draft} {next : Option Char} (h : d.anyDepth? next = some e) :
    e.groups = d.groups ∧ (d.tokens = [] ∨
      ∃ t, t.startsWithSlash = true ∧ e.tokens = Draft.replaceSlash t d.tokens) := by
  unfold Draft.anyDepth? at h
  split at h
  · next hempty =>
    split at h
    · cases h
      exact ⟨rfl, .inl (List.isEmpty_iff.1 hempty)⟩
    · cases h
  · split at h
    · split at h
      · cases h
        exact ⟨rfl, .inr ⟨.anyDepthBetween, rfl, rfl⟩⟩
      · split at h
        · cases h
          exact ⟨rfl, .inr ⟨.anyDepthEnd, rfl, rfl⟩⟩
        · cases h
    · cases h

theorem Draft.outer_of_nil {d : Draft} (h : d.groups = []) : d.outer = d.tokens := by
  simp only [outer, h, List.getLast?_nil]

/-- While a group is open the tokens outside are those before the outermost group. -/
theorem Draft.outer_of_cons {d e : Draft} {g : OpenGroup} {gs : List OpenGroup}
    (hd : d.groups = g :: gs) (he : e.groups = g :: gs) : e.outer = d.outer := by
  obtain ⟨last, hlast⟩ : ∃ last, (g :: gs).getLast? = some last :=
    Option.isSome_iff_exists.1 (by simp)
  simp only [outer, hd, he, hlast]

/-- Further groups inside do not matter to them. -/
theorem Draft.outer_of_cons_cons {d e : Draft} {g h : OpenGroup} {gs : List OpenGroup}
    (hd : d.groups = g :: gs) (he : e.groups = h :: g :: gs) : e.outer = d.outer := by
  obtain ⟨last, hlast⟩ : ∃ last, (g :: gs).getLast? = some last :=
    Option.isSome_iff_exists.1 (by simp)
  simp only [outer, hd, he, List.getLast?_cons_cons, hlast]

/-- What an addition can do to the tokens outside of groups: nothing, one more of them,
or another one in the place of the last one for two stars. -/
theorem Draft.Adds.outer {d e : Draft} (h : d.Adds e) :
    e.outer = d.outer ∨ (∃ t, e.outer = t :: d.outer) ∨
      (∃ t, t.startsWithSlash = true ∧ e.outer = Draft.replaceSlash t d.outer) ∨ d.outer = [] := by
  cases h with
  | push t c =>
    cases hgroups : d.groups with
    | nil =>
      -- outside of groups it is one token more, and inside of one nothing changes outside
      rw [outer_of_nil hgroups, outer_of_nil (d := d.push t c) hgroups]
      exact .inr (.inl ⟨t, rfl⟩)
    | cons g gs => exact .inl (outer_of_cons hgroups hgroups)
  | openGroup =>
    left
    cases hgroups : d.groups with
    | nil => simp only [Draft.outer, Draft.openGroup, hgroups, List.getLast?_nil, List.getLast?_singleton]
    | cons g gs => exact outer_of_cons_cons hgroups (by rw [Draft.openGroup, hgroups])
  | comma =>
    cases hgroups : d.groups with
    | nil =>
      have hcomma : d.comma = d.push (.literal ',') ',' := by simp only [Draft.comma, hgroups]
      rw [hcomma, outer_of_nil hgroups, outer_of_nil (d := d.push _ _) hgroups]
      exact .inr (.inl ⟨.literal ',', rfl⟩)
    | cons g gs =>
      left
      cases gs with
      | nil => simp only [Draft.outer, Draft.comma, hgroups, List.getLast?_singleton]
      | cons g' gs =>
        obtain ⟨last, hlast⟩ : ∃ last, (g' :: gs).getLast? = some last :=
          Option.isSome_iff_exists.1 (by simp)
        simp only [Draft.outer, Draft.comma, hgroups, List.getLast?_cons_cons, hlast]
  | closeGroup hclose =>
    unfold Draft.closeGroup at hclose
    split at hclose
    · cases hclose
    · next g gs hgroups =>
      cases hclose
      cases gs with
      | nil =>
        -- the outermost group becomes a token
        simp only [Draft.outer, hgroups, List.getLast?_nil, List.getLast?_singleton]
        exact .inr (.inl ⟨_, rfl⟩)
      | cons g' gs => exact .inl (outer_of_cons_cons rfl hgroups).symm
  | @anyDepth e _ hany c =>
    obtain ⟨hsame, htokens⟩ := anyDepth?_eq_some hany
    cases hgroups : d.groups with
    | nil =>
      rw [outer_of_nil hgroups, outer_of_nil (d := { e with last := some c }) (hsame.trans hgroups)]
      rcases htokens with hnil | hreplaced
      · exact .inr (.inr (.inr hnil))
      · exact .inr (.inr (.inl hreplaced))
    | cons g gs => exact .inl (outer_of_cons hgroups (hsame.trans hgroups))

/-- Outside of groups a draft starts with some tokens and then with one for something
that starts with a slash. -/
def Draft.StartsWith (first : List Token) (d : Draft) : Prop :=
  ∃ slash more, slash.startsWithSlash = true ∧ d.outer = more ++ slash :: first.reverse

/-- Two stars take the place of one token, and start with a slash. -/
theorem Draft.replaceSlash_append {t slash : Token} (ht : t.startsWithSlash = true)
    (hslash : slash.startsWithSlash = true) (more ts : List Token) :
    ∃ slash' more', slash'.startsWithSlash = true ∧
      Draft.replaceSlash t (more ++ slash :: ts) = more' ++ slash' :: ts := by
  cases more with
  | nil =>
    -- nothing comes after the slash, so it is what the two stars take the place of
    cases slash with
    | anyDepthEnd => exact ⟨.anyDepthEnd, [], rfl, rfl⟩
    | literal c => exact ⟨t, [], ht, rfl⟩
    | anyDepthBetween => exact ⟨t, [], ht, rfl⟩
    | any => cases hslash
    | star => cases hslash
    | anyDepthStart => cases hslash
    | oneOf negated ranges => cases hslash
    | group branches => cases hslash
  | cons last more =>
    refine ⟨slash, ?_⟩
    rw [List.cons_append]
    unfold Draft.replaceSlash
    split
    · next heq =>
      cases heq
      exact ⟨.anyDepthStart :: more, hslash, rfl⟩
    · next heq =>
      cases heq
      exact ⟨.anyDepthEnd :: more, hslash, rfl⟩
    · next heq =>
      cases heq
      exact ⟨t :: more, hslash, rfl⟩
    · next heq => cases heq

/-- An addition keeps how a draft starts. -/
theorem Draft.StartsWith.adds {first : List Token} {d e : Draft} (hd : d.StartsWith first)
    (h : d.Adds e) : e.StartsWith first := by
  obtain ⟨slash, more, hslash, houter⟩ := hd
  rcases h.outer with hsame | ⟨t, hmore⟩ | ⟨t, ht, hreplaced⟩ | hnil
  · exact ⟨slash, more, hslash, hsame.trans houter⟩
  · exact ⟨slash, t :: more, hslash, by rw [hmore, houter, List.cons_append]⟩
  · rw [houter] at hreplaced
    obtain ⟨slash', more', hslash', hstart⟩ := Draft.replaceSlash_append ht hslash more first.reverse
    exact ⟨slash', more', hslash', hreplaced.trans hstart⟩
  · rw [houter] at hnil
    cases more <;> cases hnil

/-- What is read starts as the draft does. -/
theorem Draft.StartsWith.read {first : List Token} {d : Draft} (hd : d.StartsWith first)
    {cs : List Char} {ts : List Token} (h : Glob.read d cs = .ok ts) :
    ∃ slash more, slash.startsWithSlash = true ∧ ts = first ++ slash :: more := by
  obtain ⟨e, hadds, hfinish⟩ := exists_adds_of_read h
  have he : e.StartsWith first := by
    clear hfinish
    induction hadds with
    | refl => exact hd
    | tail _ hstep ih => exact ih.adds hstep
  obtain ⟨slash, more, hslash, houter⟩ := he
  unfold Draft.finish at hfinish
  split at hfinish
  · next hclosed =>
    cases hfinish
    rw [Draft.outer_of_nil (List.isEmpty_iff.1 hclosed)] at houter
    refine ⟨slash, more.reverse, hslash, ?_⟩
    rw [houter, List.reverse_append, List.reverse_cons, List.reverse_reverse, List.append_assoc]
    rfl
  · cases hfinish

/-! ## Plain characters and a slash -/

/-- Whether a character means nothing but itself. -/
def isPlain (c : Char) : Bool :=
  !(['?', '*', '[', '\x7b', '\x7d', ',', '\\'].contains c)

theorem read_of_isPlain {c : Char} (hc : isPlain c = true) (d : Draft) (rest : List Char) :
    read d (c :: rest) = read (d.push (.literal c) c) rest := by
  simp only [isPlain, List.contains_cons, List.contains_nil, Bool.or_false, Bool.not_eq_true',
    Bool.or_eq_false_iff, beq_eq_false_iff_ne] at hc
  obtain ⟨hany, hstar, hclass, hopen, hclose, hcomma, hescape⟩ := hc
  rw [read]
  all_goals intros
  all_goals contradiction

/-- A glob that starts with plain characters and a slash has the characters as its first
tokens, and then a token for something that starts with a slash. -/
theorem tokens_of_read (first : List Char) {cs rest : List Char} (hcs : ∀ c ∈ cs, isPlain c = true) {d : Draft}
    (hgroups : d.groups = []) (htokens : d.tokens = (first.map Token.literal).reverse)
    {ts : List Token} (h : read d (cs ++ '/' :: rest) = .ok ts) :
    ∃ slash more, slash.startsWithSlash = true ∧
      ts = (first ++ cs).map Token.literal ++ slash :: more := by
  induction cs generalizing d first with
  | nil =>
    -- with the slash the draft starts as it is to start, and it goes on to do so
    have hstart : (d.push (.literal '/') '/').StartsWith (first.map Token.literal) := by
      refine ⟨.literal '/', [], rfl, ?_⟩
      rw [Draft.outer_of_nil (d := d.push (.literal '/') '/') hgroups, ← htokens]
      rfl
    rw [List.nil_append, read_of_isPlain (by decide)] at h
    rw [List.append_nil]
    exact hstart.read h
  | cons c cs ih =>
    rw [List.cons_append, read_of_isPlain (hcs c List.mem_cons_self)] at h
    have hpushed : (d.push (.literal c) c).tokens = ((first ++ [c]).map Token.literal).reverse := by
      rw [List.map_append, List.reverse_append, ← htokens]
      rfl
    have hread := ih (first ++ [c]) (fun c hc => hcs c (List.mem_cons_of_mem _ hc))
      (d := d.push (.literal c) c) hgroups hpushed h
    rwa [List.append_assoc] at hread

/-! ## Matching from the start -/

theorem rests_nil (ts : List Token) : rests ts [] = [] := by
  induction ts with
  | nil => rw [rests]
  | cons t ts ih => rw [rests, List.flatMap_nil, List.eraseDups_nil, ih]

/-- Given bytes leave nothing of a text that does not start with them, and the rest of
one that does. -/
theorem after_eq (bytes s : List UInt8) :
    after bytes s = [] ∨ ∃ rest, s = bytes ++ rest ∧ after bytes s = [rest] := by
  induction bytes generalizing s with
  | nil => exact .inr ⟨s, rfl, by rw [after]⟩
  | cons b bytes ih =>
    cases s with
    | nil => exact .inl (by rw [after])
    | cons c s =>
      rw [after]
      split
      · next heq =>
        rcases ih s with hnone | ⟨rest, rfl, hone⟩
        · exact .inl hnone
        · exact .inr ⟨rest, by rw [heq, List.cons_append], hone⟩
      · exact .inl rfl

/-- A text of which tokens can leave nothing starts with what the first of them stands
for, if this is a character. -/
theorem bytes_of_literal {c : Char} {ts : List Token} {s : List UInt8}
    (h : [] ∈ rests (.literal c :: ts) [s]) :
    ∃ rest, s = String.utf8EncodeChar c ++ rest ∧ [] ∈ rests ts [rest] := by
  rw [rests, List.flatMap_singleton, Token.rests] at h
  rcases after_eq (String.utf8EncodeChar c) s with hnone | ⟨rest, hs, hone⟩
  · rw [hnone, List.eraseDups_nil, rests_nil] at h
    cases h
  · rw [hone] at h
    exact ⟨rest, hs, h⟩

/-- The same for a token that starts with a slash. -/
theorem slash_of_startsWithSlash {t : Token} (ht : t.startsWithSlash = true) {ts : List Token}
    {s : List UInt8} (h : [] ∈ rests (t :: ts) [s]) : ∃ rest, s = slash :: rest := by
  have afterSlash_ne : ∀ {next : List UInt8 → List (List UInt8)},
      [] ∈ rests ts (afterSlash next s).eraseDups → ∃ rest, s = slash :: rest := by
    intro next hrests
    cases s with
    | nil =>
      rw [afterSlash, List.eraseDups_nil, rests_nil] at hrests
      cases hrests
    | cons b s =>
      by_cases hb : b = slash
      · exact ⟨s, by rw [hb]⟩
      · rw [afterSlash, if_neg hb, List.eraseDups_nil, rests_nil] at hrests
        cases hrests
  cases t with
  | literal c =>
    obtain ⟨rest, hs, -⟩ := bytes_of_literal h
    rw [eq_of_beq ht] at hs
    exact ⟨rest, hs⟩
  | anyDepthBetween =>
    rw [rests, List.flatMap_singleton, Token.rests] at h
    exact afterSlash_ne h
  | anyDepthEnd =>
    rw [rests, List.flatMap_singleton, Token.rests] at h
    exact afterSlash_ne h
  | any => cases ht
  | star => cases ht
  | anyDepthStart => cases ht
  | oneOf negated ranges => cases ht
  | group branches => cases ht

/-- The same for characters and such a token. -/
theorem bytes_of_literals {cs : List Char} {t : Token} (ht : t.startsWithSlash = true)
    {ts : List Token} {s : List UInt8} (h : [] ∈ rests (cs.map Token.literal ++ t :: ts) [s]) :
    ∃ rest, s = (cs ++ ['/']).flatMap String.utf8EncodeChar ++ rest := by
  induction cs generalizing s with
  | nil => exact slash_of_startsWithSlash ht h
  | cons c cs ih =>
    obtain ⟨more, rfl, hmore⟩ := bytes_of_literal h
    obtain ⟨rest, rfl⟩ := ih hmore
    exact ⟨rest, by rw [List.cons_append, List.flatMap_cons, List.append_assoc]⟩

theorem prefix_of_bytes {cs : List Char} {path : String} {rest : List UInt8}
    (h : path.toUTF8.data.toList = cs.flatMap String.utf8EncodeChar ++ rest) : cs <+: path.toList := by
  have hencode : cs.utf8Encode ++ rest.toByteArray = path.toList.utf8Encode := by
    rw [List.utf8Encode, List.utf8Encode, ← List.toByteArray_append, ← h, Text.bytes_eq]
  exact List.isPrefix_of_utf8Encode_append_eq_utf8Encode rest.toByteArray hencode

/-- A path that matches a glob which starts with plain characters and a slash starts with
these characters and a slash. -/
theorem prefix_of_isMatch (cs : List Char) (hcs : cs.all isPlain = true) {rule path : String}
    (hrule : cs ++ ['/'] <+: rule.toList) {ts : List Token} (hparse : parse rule = .ok ts)
    (h : isMatch ts path = true) : cs ++ ['/'] <+: path.toList := by
  obtain ⟨rest, hrest⟩ := hrule
  rw [parse, ← hrest, List.append_assoc] at hparse
  obtain ⟨t, more, ht, rfl⟩ := tokens_of_read [] (List.all_eq_true.1 hcs) rfl rfl hparse
  obtain ⟨-, hmatch⟩ := Bool.and_eq_true_iff.1 h
  obtain ⟨bytes, hbytes⟩ := bytes_of_literals ht (List.contains_iff_mem.1 hmatch)
  exact prefix_of_bytes hbytes

end Groundwork.Glob
