/-
How names of jobs are cut. A name has bounded room, counted in bytes, and no character is
split, so what is kept of a long name ends at a boundary between characters.

The cut goes by characters. Here it is told by bytes as well: the last boundary at or
before a byte is looked for backwards (`lastBoundary?`), and the text is cut there
(`upTo?`), then once more before the dashes it ends in. Each of these steps comes to
nothing where it meets no boundary. `cutByBytes?_eq` says that none of them does, for any
text, and that they come to the same as the cut by characters.

The command is never lost to the cut (`opening_prefix_cutName`): if all that is kept after
it is dashes, one of them is put back.
-/
import Groundwork.Job.Name
import Mathlib

set_option autoImplicit false

namespace Groundwork

/-! ## Lower case -/

namespace Text

/-- The small letters of other scripts do not come before those of ASCII. -/
theorem lt_of_mem_capitals : ∀ run ∈ capitals, (0x5A : Int) < run.first + run.offset := by
  decide +kernel

theorem isUpper_of_lt {c : Char} (h : 0x5A < c.toNat) : c.isUpper = false := by
  rw [← Bool.not_eq_true, Char.isUpper, decide_eq_true_iff]
  rintro ⟨-, hle⟩
  have hbound : c.toNat ≤ 0x5A := UInt32.le_iff_toNat_le.1 hle
  omega

theorem isUpper_ofNat {n : Nat} (h : 0x5A < n) : (Char.ofNat n).isUpper = false := by
  by_cases hvalid : n.isValidChar
  · apply isUpper_of_lt
    rwa [Char.toNat_ofNat, if_pos hvalid]
  · rw [Char.ofNat, dif_neg hvalid]
    decide

/-- The small letters of a character are no capitals of ASCII. -/
theorem isUpper_of_mem_lowerChar {c d : Char} (h : d ∈ lowerChar c) : d.isUpper = false := by
  unfold lowerChar at h
  split at h
  · obtain rfl := List.mem_singleton.1 h
    exact Char.isUpper_toLower_eq_false c
  · next hascii =>
    split at h
    · obtain rfl | rfl : d = 'i' ∨ d = '\u0307' := by simpa using h
      · decide
      · decide
    · split at h
      · next run hrun =>
        obtain rfl := List.mem_singleton.1 h
        have hmem := List.mem_of_find?_eq_some hrun
        have hholds := List.find?_some hrun
        simp only [CaseRun.holds, Bool.and_eq_true, decide_eq_true_eq] at hholds
        have hoffset := lt_of_mem_capitals run hmem
        exact isUpper_ofNat (by omega)
      · obtain rfl := List.mem_singleton.1 h
        exact isUpper_of_lt (by omega)

theorem isUpper_of_mem_lowerAfter {before s : List Char} {d : Char} (h : d ∈ lowerAfter before s) :
    d.isUpper = false := by
  induction s generalizing before with
  | nil => cases h
  | cons c rest ih =>
    unfold lowerAfter at h
    split at h
    · rcases List.mem_cons.1 h with rfl | h
      · split <;> decide
      · exact ih h
    · rcases List.mem_append.1 h with h | h
      · exact isUpper_of_mem_lowerChar h
      · exact ih h

theorem isUpper_of_mem_lowerCase {s : List Char} {d : Char} (h : d ∈ lowerCase s) :
    d.isUpper = false :=
  isUpper_of_mem_lowerAfter h

end Text

namespace Job

open String (Pos.Raw)

/-! ## Bytes -/

theorem utf8ByteSize_ofList (s : List Char) : (String.ofList s).utf8ByteSize = byteLength s := by
  induction s with
  | nil => rfl
  | cons c rest ih =>
    have hcons : String.ofList (c :: rest) = String.singleton c ++ String.ofList rest := by
      rw [String.singleton_eq_ofList, ← String.ofList_append, List.singleton_append]
    rw [hcons, String.utf8ByteSize_append, String.utf8ByteSize_singleton, ih, byteLength]

theorem byteLength_append (s t : List Char) : byteLength (s ++ t) = byteLength s + byteLength t := by
  induction s with
  | nil => exact (Nat.zero_add _).symm
  | cons c rest ih => rw [List.cons_append, byteLength, byteLength, ih, Nat.add_assoc]

theorem takeBytes_isPrefix (n : Nat) (s : List Char) : takeBytes n s <+: s := by
  induction s generalizing n with
  | nil => exact List.prefix_refl _
  | cons c rest ih =>
    rw [takeBytes]
    split
    · exact List.cons_prefix_cons.2 ⟨rfl, ih _⟩
    · exact List.nil_prefix

theorem byteLength_takeBytes_le (n : Nat) (s : List Char) : byteLength (takeBytes n s) ≤ n := by
  induction s generalizing n with
  | nil => exact Nat.zero_le n
  | cons c rest ih =>
    rw [takeBytes]
    split
    · next hfits =>
      have hrest := ih (n - c.utf8Size)
      rw [byteLength]
      omega
    · exact Nat.zero_le n

/-- A start that has room is kept. -/
theorem takeBytes_append {n : Nat} {s : List Char} (h : byteLength s ≤ n) (t : List Char) :
    takeBytes n (s ++ t) = s ++ takeBytes (n - byteLength s) t := by
  induction s generalizing n with
  | nil => rfl
  | cons c rest ih =>
    rw [byteLength] at h
    rw [List.cons_append, takeBytes, if_pos (by omega), ih (by omega), byteLength, Nat.sub_add_eq,
      List.cons_append]

/-! ## Boundaries -/

/-- Between characters of a text, or at one of its ends. -/
theorem isValid_ofList_iff {s : List Char} {n : Nat} :
    (⟨n⟩ : Pos.Raw).IsValid (String.ofList s) ↔ ∃ t, t <+: s ∧ byteLength t = n := by
  rw [Pos.Raw.isValid_ofList]
  constructor
  · rintro ⟨i, hi⟩
    exact ⟨s.take i, List.take_prefix i s, (utf8ByteSize_ofList _).symm.trans hi.symm⟩
  · rintro ⟨t, ht, rfl⟩
    exact ⟨t.length, by rw [← List.prefix_iff_eq_take.1 ht, utf8ByteSize_ofList]⟩

/-- The last boundary of a text at or before a byte. -/
structure IsLastBoundary (s : String) (n stop : Nat) : Prop where
  le : stop ≤ n
  isValid : (⟨stop⟩ : Pos.Raw).IsValid s
  last : ∀ m ≤ n, (⟨m⟩ : Pos.Raw).IsValid s → m ≤ stop

/-- What is kept of a text ends at the last boundary. -/
theorem isLastBoundary_takeBytes (n : Nat) (s : List Char) :
    IsLastBoundary (String.ofList s) n (byteLength (takeBytes n s)) where
  le := byteLength_takeBytes_le n s
  isValid := isValid_ofList_iff.2 ⟨_, takeBytes_isPrefix n s, rfl⟩
  last m hm hvalid := by
    obtain ⟨t, ⟨rest, rfl⟩, rfl⟩ := isValid_ofList_iff.1 hvalid
    rw [takeBytes_append hm, byteLength_append]
    exact Nat.le_add_right _ _

/-- The last boundary at or before a byte, looked for backwards. -/
def lastBoundary? (s : String) (n : Nat) : Option Nat :=
  if Pos.Raw.isValid s ⟨n⟩ then some n
  else match n with
    | 0 => none
    | n + 1 => lastBoundary? s n

theorem lastBoundary?_of_isLastBoundary {s : String} {n stop : Nat} (h : IsLastBoundary s n stop) :
    lastBoundary? s n = some stop := by
  induction n with
  | zero =>
    obtain rfl := Nat.le_zero.1 h.le
    rw [lastBoundary?, if_pos (Pos.Raw.isValid_eq_true_iff.2 h.isValid)]
  | succ n ih =>
    rw [lastBoundary?]
    by_cases hvalid : (⟨n + 1⟩ : Pos.Raw).IsValid s
    · rw [if_pos (Pos.Raw.isValid_eq_true_iff.2 hvalid),
        Nat.le_antisymm h.le (h.last _ (Nat.le_refl _) hvalid)]
    · rw [if_neg fun htrue => hvalid (Pos.Raw.isValid_eq_true_iff.1 htrue)]
      have hne : stop ≠ n + 1 := fun heq => hvalid (heq ▸ h.isValid)
      exact ih ⟨Nat.le_of_lt_succ (Nat.lt_of_le_of_ne h.le hne), h.isValid,
        fun m hm => h.last m (Nat.le_succ_of_le hm)⟩

/-! ## The cut by bytes -/

/-- The text before a byte, if this is at a boundary. -/
def upTo? (s : String) (n : Nat) : Option String :=
  String.fromUTF8? (s.toByteArray.extract 0 n)

/-- The first bytes of a text are those of a start of it. -/
theorem extract_of_isPrefix {s t : List Char} (h : t <+: s) :
    (String.ofList s).toByteArray.extract 0 (byteLength t) = (String.ofList t).toByteArray := by
  obtain ⟨rest, rfl⟩ := h
  rw [String.ofList_append, String.toByteArray_append, ← utf8ByteSize_ofList,
    ← String.size_toByteArray, ByteArray.extract_append_eq_left rfl]

theorem upTo?_of_isPrefix {s t : List Char} (h : t <+: s) :
    upTo? (String.ofList s) (byteLength t) = some (String.ofList t) := by
  rw [upTo?, extract_of_isPrefix h, String.fromUTF8?, dif_pos (String.ofList t).isValidUTF8]
  rfl

/-- The cut as bytes have it: each step of it comes to nothing where it meets no boundary. -/
def cutByBytes? (name : String) : Option String := do
  if name.utf8ByteSize ≤ maxNameBytes then return name
  let start ← upTo? name (← lastBoundary? name (maxNameBytes - 1))
  let trimmed ← upTo? start (byteLength (trimEnd (· == '-') start.toList))
  return trimmed ++ "-"

theorem trimEnd_isPrefix (holds : Char → Bool) (s : List Char) : trimEnd holds s <+: s :=
  List.rdropWhile_prefix holds s

/-- No step of the cut meets a place that is no boundary, and the cut by bytes is the cut
by characters. -/
theorem cutByBytes?_eq (name : List Char) :
    cutByBytes? (String.ofList name) = some (String.ofList (cutName name)) := by
  rw [cutByBytes?, cutName, utf8ByteSize_ofList]
  split
  · rfl
  · have hstop := lastBoundary?_of_isLastBoundary (isLastBoundary_takeBytes (maxNameBytes - 1) name)
    have hstart := upTo?_of_isPrefix (takeBytes_isPrefix (maxNameBytes - 1) name)
    have htrimmed := upTo?_of_isPrefix (trimEnd_isPrefix (· == '-') (takeBytes (maxNameBytes - 1) name))
    simp only [hstop, hstart, String.toList_ofList, htrimmed, Option.bind_eq_bind,
      Option.bind_some, String.ofList_append]
    rfl

/-! ## What stays in a name -/

/-- What every name for a command starts with. -/
def opening (command : Command) : List Char :=
  "turnip-".toList ++ command.word.toList ++ ['-']

/-- A character that is neither a slash, nor an underscore, nor a capital of ASCII. -/
def isNeat (c : Char) : Bool :=
  c != '/' && c != '_' && !c.isUpper

theorem isNeat_nameChar {c : Char} (h : c.isUpper = false) : isNeat (nameChar c) = true := by
  unfold nameChar
  split
  · rfl
  · next hkept =>
    rw [not_or] at hkept
    simp [isNeat, hkept, h]

/-- What stands in a full name between its opening and the dash at its end. -/
theorem exists_fullName_eq (command : Command) (repo dir : String) :
    ∃ inner : List Char, (∀ c ∈ inner, isNeat c = true) ∧
      fullName command repo dir = opening command ++ inner ++ ['-'] := by
  have hopening : (opening command).map nameChar = opening command := by cases command <;> rfl
  -- the directory is left out, or stands after the repository and a dash
  have hinner : ∃ inner : List Char, (∀ c ∈ inner, c.isUpper = false) ∧
      fullName command repo dir = (opening command ++ inner ++ ['-']).map nameChar := by
    unfold fullName opening
    simp only
    split
    · refine ⟨Text.lowerCase repo.toList, fun c => Text.isUpper_of_mem_lowerCase, ?_⟩
      rw [List.append_nil]
    · refine ⟨Text.lowerCase repo.toList ++ '-' :: Text.lowerCase (trimSlashes dir.toList), ?_, ?_⟩
      · rw [List.forall_mem_append, List.forall_mem_cons]
        exact ⟨fun c => Text.isUpper_of_mem_lowerCase, by decide,
          fun c => Text.isUpper_of_mem_lowerCase⟩
      · simp only [List.append_assoc, List.cons_append, List.nil_append]
  obtain ⟨inner, hneat, heq⟩ := hinner
  refine ⟨inner.map nameChar, ?_, ?_⟩
  · exact List.forall_mem_map.2 fun c hc => isNeat_nameChar (hneat c hc)
  · rw [heq, List.map_append, List.map_append, hopening]
    rfl

theorem opening_isPrefix_fullName (command : Command) (repo dir : String) :
    opening command <+: fullName command repo dir := by
  obtain ⟨inner, -, hfull⟩ := exists_fullName_eq command repo dir
  rw [hfull, List.append_assoc]
  exact List.prefix_append _ _

theorem getLast?_fullName (command : Command) (repo dir : String) :
    (fullName command repo dir).getLast? = some '-' := by
  obtain ⟨inner, -, hfull⟩ := exists_fullName_eq command repo dir
  rw [hfull, List.getLast?_concat]

/-- Trimming after a text that is trimmed away, or of the text that is left. -/
theorem trimEnd_append (holds : Char → Bool) (s t : List Char) :
    trimEnd holds (s ++ t) =
      if trimEnd holds t = [] then trimEnd holds s else s ++ trimEnd holds t := by
  unfold trimEnd
  rw [List.reverse_append, List.dropWhile_append]
  simp only [List.isEmpty_iff, List.reverse_eq_nil_iff]
  split
  · rfl
  · rw [List.reverse_append, List.reverse_reverse]

theorem trimEnd_opening (command : Command) :
    trimEnd (· == '-') (opening command) ++ ['-'] = opening command := by
  cases command <;> rfl

/-- The opening stays: of the dashes that are trimmed one is put back. -/
theorem opening_prefix_trimmed (command : Command) (rest : List Char) :
    opening command <+: trimEnd (· == '-') (opening command ++ rest) ++ ['-'] := by
  rw [trimEnd_append]
  split
  · exact ⟨[], by rw [List.append_nil, trimEnd_opening]⟩
  · rw [List.append_assoc]
    exact List.prefix_append _ _

/-- What a text is trimmed to, and the dashes that are trimmed. -/
theorem trimEnd_dashes (s : List Char) :
    (trimEnd (· == '-') s).getLast? ≠ some '-' ∧
      ∃ k, s = trimEnd (· == '-') s ++ List.replicate k '-' := by
  constructor
  · intro hlast
    obtain ⟨rest, hrest⟩ := List.getLast?_eq_some_iff.1 hlast
    have hne : trimEnd (· == '-') s ≠ [] := by simp [hrest]
    have hkept := List.rdropWhile_last_not (· == '-') s hne
    exact hkept (by simp [trimEnd, List.rdropWhile] at hrest ⊢; simp [hrest])
  · have hdashes : ∀ c ∈ s.rtakeWhile (· == '-'), c = '-' :=
      fun c hc => eq_of_beq (List.mem_rtakeWhile_imp (p := (· == '-')) hc)
    refine ⟨(s.rtakeWhile (· == '-')).length, ?_⟩
    rw [← List.eq_replicate_of_mem hdashes]
    exact List.rdropWhile_append_rtakeWhile.symm

/-! ## Names -/

theorem byteLength_cutName_le (name : List Char) : byteLength (cutName name) ≤ maxNameBytes := by
  unfold cutName
  split
  · next hfits => exact hfits
  · have hkept := byteLength_takeBytes_le (maxNameBytes - 1) name
    obtain ⟨-, k, htrimmed⟩ := trimEnd_dashes (takeBytes (maxNameBytes - 1) name)
    have hdash : byteLength ['-'] = 1 := rfl
    rw [htrimmed, byteLength_append] at hkept
    rw [byteLength_append, hdash]
    unfold maxNameBytes at *
    omega

theorem opening_prefix_cutName {command : Command} {name : List Char} (h : opening command <+: name) :
    opening command <+: cutName name := by
  obtain ⟨rest, rfl⟩ := h
  unfold cutName
  split
  · exact List.prefix_append _ _
  · have hroom : byteLength (opening command) ≤ maxNameBytes - 1 := by cases command <;> decide
    rw [takeBytes_append hroom]
    exact opening_prefix_trimmed command _

theorem getLast?_cutName {name : List Char} (h : name.getLast? = some '-') :
    (cutName name).getLast? = some '-' := by
  unfold cutName
  split
  · exact h
  · exact List.getLast?_concat

/-- No character comes up in a cut but the dash. -/
theorem mem_of_mem_cutName {name : List Char} {c : Char} (h : c ∈ cutName name) :
    c ∈ name ∨ c = '-' := by
  unfold cutName at h
  split at h
  · exact .inl h
  · rcases List.mem_append.1 h with h | h
    · exact .inl ((takeBytes_isPrefix _ name).subset ((trimEnd_isPrefix _ _).subset h))
    · exact .inr (List.mem_singleton.1 h)

/-- A name is kept if it fits. Otherwise what it has before the last boundary that leaves
room for a dash is kept, less the dashes that this ends in, and a dash follows. -/
theorem cutName_eq (name : List Char) :
    if (String.ofList name).utf8ByteSize ≤ maxNameBytes then
      String.ofList (cutName name) = String.ofList name
    else ∃ (stop : Nat) (kept : String) (k : Nat),
      IsLastBoundary (String.ofList name) (maxNameBytes - 1) stop ∧
      (String.ofList name).toByteArray.extract 0 stop =
        (kept ++ String.ofList (List.replicate k '-')).toByteArray ∧
      kept.toList.getLast? ≠ some '-' ∧ String.ofList (cutName name) = kept ++ "-" := by
  rw [utf8ByteSize_ofList]
  split
  · next hfits => rw [cutName, if_pos hfits]
  · next hlong =>
    obtain ⟨hdash, k, hkept⟩ := trimEnd_dashes (takeBytes (maxNameBytes - 1) name)
    refine ⟨_, String.ofList (trimEnd (· == '-') (takeBytes (maxNameBytes - 1) name)), k,
      isLastBoundary_takeBytes _ name, ?_, ?_, ?_⟩
    · rw [← String.ofList_append, ← hkept]
      exact extract_of_isPrefix (takeBytes_isPrefix _ name)
    · rwa [String.toList_ofList]
    · rw [cutName, if_neg hlong, String.ofList_append]

theorem isNeat_of_mem_fullName {command : Command} {repo dir : String} {c : Char}
    (h : c ∈ fullName command repo dir) : isNeat c = true := by
  obtain ⟨inner, hinner, hfull⟩ := exists_fullName_eq command repo dir
  have hopening : ∀ c ∈ opening command, isNeat c = true := by
    cases command <;> exact List.all_eq_true.1 rfl
  rw [hfull, List.mem_append, List.mem_append, List.mem_singleton] at h
  rcases h with (h | h) | rfl
  · exact hopening c h
  · exact hinner c h
  · rfl

/-- **How names of jobs are bounded.** Whatever the repository and the directory are called,
the name of a job can be cut at its bytes, has at most 47 of them, starts with the command,
ends in a dash, and has no slash, no underscore and no capital of ASCII. It is the full
name if this fits; otherwise it is what the full name has before the last boundary at or
before its byte 46, with one dash for all those at the end. -/
theorem generateName_bounded (command : Command) (repo dir : String) :
    let full := String.ofList (fullName command repo dir)
    let name := generateName command repo dir
    cutByBytes? full = some name ∧
    name.utf8ByteSize ≤ 47 ∧
    ("turnip-" ++ command.word ++ "-").toList <+: name.toList ∧
    name.toList.getLast? = some '-' ∧
    (∀ c ∈ name.toList, c ≠ '/' ∧ c ≠ '_' ∧ c.isUpper = false) ∧
    if full.utf8ByteSize ≤ 47 then name = full
    else ∃ (stop : Nat) (kept : String) (k : Nat), IsLastBoundary full 46 stop ∧
      full.toByteArray.extract 0 stop = (kept ++ String.ofList (List.replicate k '-')).toByteArray ∧
      kept.toList.getLast? ≠ some '-' ∧ name = kept ++ "-" := by
  have hfirst := opening_isPrefix_fullName command repo dir
  have hlast := getLast?_fullName command repo dir
  have hneat : ∀ c ∈ fullName command repo dir, isNeat c = true := fun c => isNeat_of_mem_fullName
  rw [generateName]
  generalize fullName command repo dir = full at hfirst hlast hneat
  refine ⟨cutByBytes?_eq full, ?_, ?_, ?_, ?_, ?_⟩
  · rw [utf8ByteSize_ofList]
    exact byteLength_cutName_le full
  · rw [String.toList_ofList, String.toList_append, String.toList_append]
    exact opening_prefix_cutName hfirst
  · rw [String.toList_ofList]
    exact getLast?_cutName hlast
  · intro c hc
    rw [String.toList_ofList] at hc
    have hneatc : isNeat c = true := by
      rcases mem_of_mem_cutName hc with hc | rfl
      · exact hneat c hc
      · rfl
    simpa [isNeat, and_assoc] using hneatc
  · exact cutName_eq full

end Job

end Groundwork
