/-
What the comment about a job keeps of its report. The output and the error stand in it as
they were sent, between lines that either of them may contain, so the comment does not
always say where the one ends and the other begins. This module says exactly when: two
reports of one job have the same comment only if they say the same, or if the output of
the one is that of the other with a line of three backticks after it and the head of an
error, written by the job itself.

Both blocks together are told by two things: whether there is an output, and the two texts
as they stand after each other, with the lines between them (`shown`). So the question is
where a text can be cut at those lines. The lines overlap with themselves in their last
line break and in their last fence, hence nowhere before the head of the error
(`take_isPrefix_of_overlap`).

A comment could also start with all of another one, and so seem to end before it does. For
that the closing tag of the details has to stand in one of the texts: it overlaps neither
with itself nor with any line around the texts.
-/
import Groundwork.Proofs.Report.Notice

set_option autoImplicit false

namespace Groundwork.Report

variable {r t : Finished}

/-! ## The parts of a comment -/

/-- What a comment says before the status: which job this is about. -/
def Finished.heading (r : Finished) : String :=
  "Ran " ++ r.command ++ " for " ++ r.projectDir ++ " " ++ r.projectWorkspace ++ "\n\nStatus: "

/-- The line that opens the details. -/
def detailsHead : String := "\n\n<details><summary>Show Output</summary>\n\n"

/-- The tag that closes the details. -/
def detailsEnd : String := "</details>"

/-- The blocks of a comment. -/
def Finished.blocks (r : Finished) : String :=
  fenced "" "diff" r.output ++ fenced "Error:\n" "" r.error

theorem toList_comment (r : Finished) :
    r.comment.toList = r.heading.toList ++ (r.status.display.toList ++ (detailsHead.toList ++
      (r.blocks.toList ++ detailsEnd.toList))) := by
  have hparts : r.comment =
      r.heading ++ r.status.display ++ detailsHead ++ r.blocks ++ detailsEnd := by
    unfold Finished.comment Finished.heading Finished.blocks detailsHead detailsEnd
    simp only [String.append_assoc]
  simp only [hparts, String.toList_append, List.append_assoc]

theorem eq_of_display_isPrefix {a b : Job.Status} {x y : List Char}
    (h : a.display.toList ++ x <+: b.display.toList ++ y) : a = b := by
  cases a <;> cases b
  · rfl
  · exact absurd (List.cons_prefix_cons.1 h).1 (by decide)
  · exact absurd (List.cons_prefix_cons.1 h).1 (by decide)
  · rfl

/-- Whether one comment starts with another is told by their statuses and their blocks. -/
theorem comment_isPrefix_iff (hheading : r.heading = t.heading) :
    t.comment.toList <+: r.comment.toList ↔
      r.status = t.status ∧
        t.blocks.toList ++ detailsEnd.toList <+: r.blocks.toList ++ detailsEnd.toList := by
  rw [toList_comment, toList_comment, hheading, List.prefix_append_right_inj]
  constructor
  · intro h
    have hstatus := (eq_of_display_isPrefix h).symm
    rw [hstatus, List.prefix_append_right_inj, List.prefix_append_right_inj] at h
    exact ⟨hstatus, h⟩
  · rintro ⟨hstatus, h⟩
    rw [hstatus, List.prefix_append_right_inj, List.prefix_append_right_inj]
    exact h

theorem comment_eq_iff_blocks (hheading : r.heading = t.heading) :
    r.comment = t.comment ↔ r.status = t.status ∧ r.blocks = t.blocks := by
  constructor
  · intro h
    have hstatus := ((comment_isPrefix_iff hheading).1 (h ▸ List.prefix_rfl)).1
    rw [← String.toList_inj, toList_comment, toList_comment, hheading, hstatus] at h
    refine ⟨hstatus, String.toList_inj.1 ?_⟩
    simpa only [List.append_cancel_left_eq, List.append_cancel_right_eq] using h
  · rintro ⟨hstatus, hblocks⟩
    rw [← String.toList_inj, toList_comment, toList_comment, hheading, hstatus, hblocks]

/-! ## What the blocks tell -/

/-- The lines between the output and the error, if both are there: the end of the one
block, and the start of the other. -/
def between : String := "\n```\nError:\n```\n"

/-- The error as it stands after an output. -/
def Finished.errorShown (r : Finished) : String :=
  if r.error = "" then "" else between ++ r.error

/-- The output and the error as they stand after each other. -/
def Finished.shown (r : Finished) : String :=
  r.output ++ r.errorShown

theorem errorShown_inj : r.errorShown = t.errorShown ↔ r.error = t.error := by
  refine ⟨fun h => ?_, fun h => by rw [Finished.errorShown, Finished.errorShown, h]⟩
  unfold Finished.errorShown at h
  split at h <;> split at h
  · next hr ht => rw [hr, ht]
  · exact absurd (String.append_eq_empty_iff.1 h.symm).1 (by decide)
  · exact absurd (String.append_eq_empty_iff.1 h).1 (by decide)
  · exact (String.append_right_inj between).1 h

theorem blocks_of_output_ne (h : r.output ≠ "") :
    r.blocks = "```diff\n" ++ (r.shown ++ "\n```\n") := by
  have houtput : r.output.isEmpty = false := by simpa using h
  unfold Finished.blocks Finished.shown Finished.errorShown fenced between
  by_cases herror : r.error = ""
  · simp [houtput, herror, String.append_assoc]
  · have : r.error.isEmpty = false := by simpa using herror
    simp [houtput, herror, this, String.append_assoc, ← String.toList_inj]

theorem blocks_of_output_eq (h : r.output = "") : r.blocks = fenced "Error:\n" "" r.error := by
  simp [Finished.blocks, fenced, h]

theorem fenced_error_inj {a b : String} :
    fenced "Error:\n" "" a = fenced "Error:\n" "" b ↔ a = b := by
  refine ⟨fun h => ?_, fun h => h ▸ rfl⟩
  unfold fenced at h
  split at h <;> split at h
  · next ha hb => rw [String.isEmpty_iff.1 ha, String.isEmpty_iff.1 hb]
  · simp at h
  · simp at h
  · simpa [String.append_assoc] using h

/-- A block for an output starts as no other does. -/
theorem output_eq_of_blocks_eq (h : r.blocks = t.blocks) (hr : r.output = "") : t.output = "" := by
  refine Decidable.byContradiction fun ht => ?_
  rw [blocks_of_output_eq hr, blocks_of_output_ne ht] at h
  unfold fenced at h
  split at h
  · simp at h
  · rw [← String.toList_inj] at h
    simp at h

theorem blocks_eq_iff :
    r.blocks = t.blocks ↔ (r.output = "" ↔ t.output = "") ∧ r.shown = t.shown := by
  by_cases hr : r.output = "" <;> by_cases ht : t.output = ""
  · rw [blocks_of_output_eq hr, blocks_of_output_eq ht, fenced_error_inj, Finished.shown,
      Finished.shown, hr, ht, String.append_right_inj, errorShown_inj]
    exact ⟨fun h => ⟨Iff.rfl, h⟩, And.right⟩
  · exact ⟨fun h => absurd (output_eq_of_blocks_eq h hr) ht, fun h => absurd (h.1.1 hr) ht⟩
  · exact ⟨fun h => absurd (output_eq_of_blocks_eq h.symm ht) hr, fun h => absurd (h.1.2 ht) hr⟩
  · rw [blocks_of_output_ne hr, blocks_of_output_ne ht, String.append_right_inj,
      String.append_left_inj]
    exact ⟨fun h => ⟨iff_of_false hr ht, h⟩, And.right⟩

/-! ## Where a line can stand across another -/

/-- A text that stands after `x`, and that `x` goes on with as another text does after it,
leaves its first `n` characters in `x` if no longer end of it is one of its starts. -/
theorem take_isPrefix_of_overlap {α : Type} {d x e f : List α} {n : Nat}
    (hborder : ∀ k ≤ d.length, d.drop k <+: d → k = 0 ∨ n ≤ k) (hne : x ≠ [])
    (h : x ++ (d ++ e) = d ++ f) : d.take n <+: x := by
  rcases List.append_eq_append_iff.1 h with ⟨a, hd, hrest⟩ | ⟨rest, rfl, -⟩
  · -- `x` ends within `d`, so what is left of `d` is an end that it starts with.
    have hlength : a.length ≤ d.length := by
      rw [hd, List.length_append]
      omega
    have hstart : a <+: d :=
      List.prefix_of_prefix_length_le (hrest ▸ List.prefix_append a f) (List.prefix_append d e)
        hlength
    have hdrop : d.drop x.length = a := by rw [hd, List.drop_left]
    have hx : x.length ≤ d.length := by
      rw [hd, List.length_append]
      omega
    have hn : n ≤ x.length :=
      (hborder x.length hx (hdrop ▸ hstart)).resolve_left
        (fun h0 => hne (List.eq_nil_of_length_eq_zero h0))
    refine List.prefix_of_prefix_length_le (List.take_prefix n d)
      (hd ▸ List.prefix_append x a) ?_
    rw [List.length_take]
    omega
  · exact (List.take_prefix n d).trans (List.prefix_append d rest)

/-- The part of the lines between the blocks that an output has to say itself. -/
def errorHead : String := "\n```\nError:"

/-- The lines between the blocks start with their last fence and with their last line
break, and with no longer end. -/
theorem errorHead_isPrefix {x e f : List Char} (hne : x ≠ [])
    (h : x ++ (between.toList ++ e) = between.toList ++ f) : errorHead.toList <+: x :=
  take_isPrefix_of_overlap (n := 11) (by decide) hne h

/-- The closing tag starts with no end of it. -/
theorem detailsEnd_isPrefix {x e f : List Char} (hne : x ≠ [])
    (h : x ++ (detailsEnd.toList ++ e) = detailsEnd.toList ++ f) : detailsEnd.toList <+: x :=
  take_isPrefix_of_overlap (n := 10) (by decide) hne h

/-! ## When two reports have one comment -/

/-- An output that says itself what another report has in its error: it goes on after the
output of the other as if its block ended and that of an error began, and after that both
reports show the same. -/
structure Finished.Imitates (r t : Finished) : Prop where
  output_ne : t.output ≠ ""
  goes_on : t.output.toList ++ errorHead.toList <+: r.output.toList
  shown_eq : r.shown = t.shown

instance : Decidable (r.Imitates t) :=
  decidable_of_iff
    (t.output ≠ "" ∧ t.output.toList ++ errorHead.toList <+: r.output.toList ∧ r.shown = t.shown)
    ⟨fun h => ⟨h.1, h.2.1, h.2.2⟩, fun h => ⟨h.output_ne, h.goes_on, h.shown_eq⟩⟩

/-- Of two outputs that are shown with the same texts, the longer one imitates the other. -/
theorem imitates_of_longer (hne : t.output ≠ "") (hshown : r.shown = t.shown) {x : List Char}
    (hx : x ≠ []) (houtput : r.output.toList = t.output.toList ++ x) : r.Imitates t := by
  refine ⟨hne, ?_, hshown⟩
  rw [houtput, List.prefix_append_right_inj]
  have hrest : x ++ r.errorShown.toList = t.errorShown.toList := by
    rw [Finished.shown, Finished.shown, ← String.toList_inj, String.toList_append, houtput,
      String.toList_append, List.append_assoc] at hshown
    exact List.append_cancel_left hshown
  unfold Finished.errorShown at hrest
  split at hrest <;> split at hrest
  · exact absurd (List.append_eq_nil_iff.1 hrest).1 hx
  · -- Nothing but the output is shown, so all of the lines are in it.
    rw [String.toList_empty, List.append_nil, String.toList_append] at hrest
    exact hrest ▸ List.IsPrefix.trans (by decide) (List.prefix_append between.toList _)
  · exact absurd (List.append_eq_nil_iff.1 hrest).1 hx
  · rw [String.toList_append, String.toList_append] at hrest
    exact errorHead_isPrefix hx hrest

theorem shown_eq_iff (hr : r.output ≠ "") (ht : t.output ≠ "") :
    r.shown = t.shown ↔
      r.output = t.output ∧ r.error = t.error ∨ r.Imitates t ∨ t.Imitates r := by
  constructor
  · intro h
    by_cases houtput : r.output = t.output
    · have herror := h
      rw [Finished.shown, Finished.shown, houtput, String.append_right_inj, errorShown_inj]
        at herror
      exact .inl ⟨houtput, herror⟩
    · right
      have hlists := congrArg String.toList h
      rw [Finished.shown, Finished.shown, String.toList_append, String.toList_append] at hlists
      rcases List.append_eq_append_iff.1 hlists with ⟨x, hx, -⟩ | ⟨x, hx, -⟩
      · refine .inr (imitates_of_longer hr h.symm ?_ hx)
        rintro rfl
        exact houtput (String.toList_inj.1 (by rw [hx, List.append_nil]))
      · refine .inl (imitates_of_longer ht h ?_ hx)
        rintro rfl
        exact houtput (String.toList_inj.1 (by rw [hx, List.append_nil]))
  · rintro (⟨houtput, herror⟩ | h | h)
    · rw [Finished.shown, Finished.shown, houtput, errorShown_inj.2 herror]
    · exact h.shown_eq
    · exact h.shown_eq.symm

theorem Finished.Imitates.output_ne_left (h : r.Imitates t) : r.output ≠ "" := by
  intro hr
  have hgoes := h.goes_on
  rw [hr, String.toList_empty, List.prefix_nil] at hgoes
  exact absurd (List.append_eq_nil_iff.1 hgoes).2 (by decide)

theorem blocks_eq_iff_imitates :
    r.blocks = t.blocks ↔
      r.output = t.output ∧ r.error = t.error ∨ r.Imitates t ∨ t.Imitates r := by
  rw [blocks_eq_iff]
  constructor
  · rintro ⟨hempty, hshown⟩
    by_cases hr : r.output = ""
    · have ht := hempty.1 hr
      rw [Finished.shown, Finished.shown, hr, ht, String.append_right_inj, errorShown_inj]
        at hshown
      exact .inl ⟨hr.trans ht.symm, hshown⟩
    · exact (shown_eq_iff hr (fun ht => hr (hempty.2 ht))).1 hshown
  · rintro (⟨houtput, herror⟩ | h | h)
    · rw [houtput, Finished.shown, Finished.shown, houtput, errorShown_inj.2 herror]
      exact ⟨Iff.rfl, rfl⟩
    · exact ⟨iff_of_false h.output_ne_left h.output_ne, h.shown_eq⟩
    · exact ⟨iff_of_false h.output_ne h.output_ne_left, h.shown_eq.symm⟩

/-! ## Where the details end -/

/-- A text without a given character that stands in two texts with that character between
them stands in one of them. -/
theorem isInfix_or_isInfix {c : Char} {z u v : List Char} (hc : c ∉ z) (h : z <:+: u ++ c :: v) :
    z <:+: u ∨ z <:+: v := by
  obtain ⟨before, after, h⟩ := h
  rw [List.append_assoc] at h
  rcases List.append_eq_append_iff.1 h with ⟨w, rfl, hw⟩ | ⟨w, rfl, hw⟩
  · rcases List.append_eq_append_iff.1 hw with ⟨y, rfl, -⟩ | ⟨y, rfl, hy⟩
    · exact .inl ⟨before, y, by simp⟩
    · cases y with
      | nil => exact .inl ⟨before, [], by simp⟩
      | cons d y =>
        obtain ⟨rfl, -⟩ := List.cons.inj hy
        exact absurd (List.mem_append_right _ List.mem_cons_self) hc
  · cases w with
    | nil =>
      cases z with
      | nil => exact .inl List.nil_infix
      | cons d z =>
        obtain ⟨rfl, -⟩ := List.cons.inj hw
        exact absurd List.mem_cons_self hc
    | cons d w =>
      obtain ⟨-, rfl⟩ := List.cons.inj hw
      exact .inr ⟨w, after, by simp⟩

/-- A text without line breaks that has a character which is not in the lines of a block
stands in the text of the block, or after the block. -/
theorem infix_of_infix_fenced {head tag s : String} {c : Char} {z rest : List Char}
    (hz : '\n' ∉ z) (hc : c ∈ z) (hhead : c ∉ (head ++ "```" ++ tag).toList)
    (hfence : c ∉ "```".toList)
    (h : z <:+: (fenced head tag s).toList ++ rest) : z <:+: s.toList ∨ z <:+: rest := by
  unfold fenced at h
  split at h
  · exact .inr h
  · have hlines : (head ++ "```" ++ tag ++ "\n" ++ s ++ "\n```\n").toList ++ rest =
        (head ++ "```" ++ tag).toList ++ '\n' :: (s.toList ++ '\n' ::
          ("```".toList ++ '\n' :: rest)) := by
      simp [String.toList_append]
    rw [hlines] at h
    have htext := (isInfix_or_isInfix hz h).resolve_left fun hin => hhead (hin.mem hc)
    refine (isInfix_or_isInfix hz htext).imp_right fun hafter => ?_
    exact (isInfix_or_isInfix hz hafter).resolve_left fun hin => hfence (hin.mem hc)

theorem detailsEnd_infix_blocks (h : detailsEnd.toList <:+: r.blocks.toList) :
    detailsEnd.toList <:+: r.output.toList ∨ detailsEnd.toList <:+: r.error.toList := by
  have hz : '\n' ∉ detailsEnd.toList := by decide
  have hc : '<' ∈ detailsEnd.toList := by decide
  have hfence : '<' ∉ "```".toList := by decide
  rw [Finished.blocks, String.toList_append] at h
  refine (infix_of_infix_fenced hz hc (by decide) hfence h).imp_right fun h => ?_
  rw [← List.append_nil (fenced _ _ _).toList] at h
  refine (infix_of_infix_fenced hz hc (by decide) hfence h).resolve_right fun hnil => ?_
  exact List.not_mem_nil (hnil.mem hc)

/-- Blocks that start with other blocks and the tag after them have the tag in them. -/
theorem detailsEnd_infix_of_isPrefix (hne : r.blocks ≠ t.blocks)
    (h : t.blocks.toList ++ detailsEnd.toList <+: r.blocks.toList ++ detailsEnd.toList) :
    detailsEnd.toList <:+: r.blocks.toList := by
  obtain ⟨rest, h⟩ := h
  rw [List.append_assoc] at h
  rcases List.append_eq_append_iff.1 h with ⟨x, hx, hrest⟩ | ⟨x, hx, hrest⟩
  · have hx' : x ≠ [] := by
      rintro rfl
      exact hne (String.toList_inj.1 (by rw [hx, List.append_nil]))
    have hin := detailsEnd_isPrefix (e := []) (f := rest) hx'
      (by rw [List.append_nil, hrest])
    exact hx ▸ hin.isInfix.trans (List.suffix_append _ x).isInfix
  · -- Nothing is left for the blocks to be longer by.
    have hlength := congrArg List.length hrest
    rw [List.length_append, List.length_append] at hlength
    have hx' : x = [] := List.eq_nil_of_length_eq_zero (by omega)
    exact absurd (String.toList_inj.1 (by rw [hx, hx', List.append_nil])) hne.symm

/-- **What a comment tells.** Two reports of one job have the same comment exactly if their
statuses are the same and either both of their texts are, or the output of one of them
imitates the other. No comment starts with another one, unless the closing tag of the
details stands in its output or in its error. -/
theorem comment_eq_iff (hcommand : r.command = t.command) (hdir : r.projectDir = t.projectDir)
    (hworkspace : r.projectWorkspace = t.projectWorkspace) :
    (r.comment = t.comment ↔
      r.status = t.status ∧
        (r.output = t.output ∧ r.error = t.error ∨ r.Imitates t ∨ t.Imitates r)) ∧
      (t.comment.toList <+: r.comment.toList → r.comment ≠ t.comment →
        detailsEnd.toList <:+: r.output.toList ∨ detailsEnd.toList <:+: r.error.toList) := by
  have hheading : r.heading = t.heading := by
    rw [Finished.heading, Finished.heading, hcommand, hdir, hworkspace]
  refine ⟨?_, fun h hne => ?_⟩
  · rw [comment_eq_iff_blocks hheading, blocks_eq_iff_imitates]
  · obtain ⟨hstatus, hblocks⟩ := (comment_isPrefix_iff hheading).1 h
    refine detailsEnd_infix_blocks (detailsEnd_infix_of_isPrefix (fun heq => hne ?_) hblocks)
    exact (comment_eq_iff_blocks hheading).2 ⟨hstatus, heq⟩

/-- The report on a failed job with an output and an error. -/
def failedWith (output error : String) : Finished :=
  { failedJob with output, error }

/-- An output with a fence and a line on an error after it, which is not shown as the error
of the other report, and an output that leaves the details open. -/
theorem comment_ne_of_other_lines :
    let r := failedWith "a\n```\nError: b" ""
    let t := failedWith "a" "b"
    let q := failedWith "a\n```\n</details" ""
    r.command = t.command ∧ r.projectDir = t.projectDir ∧ r.projectWorkspace = t.projectWorkspace ∧
      r.comment ≠ t.comment ∧ ¬ t.comment.toList <+: q.comment.toList := by
  intro r t q
  have hr := comment_eq_iff (r := r) (t := t) rfl rfl rfl
  have hq := comment_eq_iff (r := q) (t := t) rfl rfl rfl
  have hne : q.comment ≠ t.comment := fun h => absurd (hq.1.1 h) (by decide +kernel)
  refine ⟨rfl, rfl, rfl, fun h => absurd (hr.1.1 h) (by decide +kernel), fun h => ?_⟩
  exact absurd (hq.2 h hne) (by decide +kernel)

/-- **An output that is told as an error.** Two reports of one job say different things, and
one comment tells both: the output of the first ends its block and begins that of an error.
The comment on a third report starts with all of the comment on a fourth. -/
theorem output_told_as_error :
    let r := failedWith "a\n```\nError:\n```\nb" ""
    let t := failedWith "a" "b"
    let q := failedWith "a\n```\n</details>\nb" ""
    let s := failedWith "a" ""
    r.command = t.command ∧ r.projectDir = t.projectDir ∧ r.projectWorkspace = t.projectWorkspace ∧
      r.comment = t.comment ∧ r.output ≠ t.output ∧ r.error ≠ t.error ∧
      s.comment.toList <+: q.comment.toList ∧ q.comment ≠ s.comment := by
  decide +kernel

end Groundwork.Report
