/-
The characters of what is written for a tree. All of them are shown as they are, so a
document may hold them: whatever else a text has is written as an escape.
-/
import Groundwork.Proofs.Yaml.Literal
import Groundwork.Proofs.Yaml.Plain
import Groundwork.Proofs.Yaml.Quoted

set_option autoImplicit false

namespace Groundwork.Yaml

/-- Whether a text has no character but those that are shown as they are. -/
def AllPrintable (s : List Char) : Prop :=
  ∀ x ∈ s, isPrintable x = true

@[simp] theorem allPrintable_nil : AllPrintable [] := by
  simp [AllPrintable]

@[simp] theorem allPrintable_cons {x : Char} {s : List Char} :
    AllPrintable (x :: s) ↔ isPrintable x = true ∧ AllPrintable s := by
  simp [AllPrintable]

@[simp] theorem allPrintable_append {s t : List Char} :
    AllPrintable (s ++ t) ↔ AllPrintable s ∧ AllPrintable t := by
  simp [AllPrintable, or_imp, forall_and]

theorem allPrintable_replicate {x : Char} (hx : isPrintable x = true) (n : Nat) :
    AllPrintable (List.replicate n x) := by
  intro y hy
  rwa [List.eq_of_mem_replicate hy]

@[simp] theorem allPrintable_spaces (n : Nat) : AllPrintable (spaces n) :=
  allPrintable_replicate (by decide) n

@[simp] theorem allPrintable_lineEnd (ended : Bool) : AllPrintable (lineEnd ended) := by
  cases ended with
  | true => exact allPrintable_nil
  | false => exact allPrintable_cons.2 ⟨by decide, allPrintable_nil⟩

/-! ## Scalars -/

theorem allPrintable_hex (width n : Nat) : AllPrintable (Page.hex width n) := by
  have hdigit {d : Nat} (hd : d < 16) : isPrintable d.digitChar.toUpper = true := by
    interval_cases d <;> decide
  have hdigits (n : Nat) : AllPrintable ((Nat.toDigits 16 n).map Char.toUpper) := by
    induction n using Nat.strong_induction_on with
    | _ n ih =>
      rw [Nat.toDigits_eq_if (by decide)]
      split
      · next hn => simp [hdigit hn]
      · rw [List.map_append, allPrintable_append]
        exact ⟨ih _ (by omega), by simp [hdigit (Nat.mod_lt n (by decide : 16 > 0))]⟩
  rw [Page.hex, allPrintable_append]
  exact ⟨allPrintable_replicate (by decide) _, hdigits n⟩

theorem allPrintable_doubleChar (x : Char) : AllPrintable (Page.doubleChar x) := by
  unfold Page.doubleChar
  split
  case h_15 =>
    split
    · next hprintable => simp [hprintable]
    · have hcode (letter : Char) (hletter : isPrintable letter = true) (width : Nat) :
          AllPrintable (['\\', letter] ++ Page.hex width x.toNat) := by
        simp only [allPrintable_append, allPrintable_cons, allPrintable_nil, hletter,
          allPrintable_hex, and_true]
        decide
      split
      · exact hcode 'x' (by decide) 2
      · split
        · exact hcode 'u' (by decide) 4
        · exact hcode 'U' (by decide) 8
  all_goals simp; decide

theorem allPrintable_brokenLines {shown : Char → List Char} {column : Nat} {last : List Char}
    (hlast : AllPrintable last) (s : List Char)
    (hs : ∀ x ∈ s, isPrintable x = true ∧ AllPrintable (shown x)) (broken : Bool) :
    AllPrintable (brokenLines shown column last s broken) := by
  induction s generalizing broken with
  | nil => cases broken <;> simp [brokenLines, hlast]
  | cons x s ih =>
    obtain ⟨hx, hshown⟩ := hs x List.mem_cons_self
    have hrest := ih fun y hy => hs y (List.mem_cons_of_mem x hy)
    rw [brokenLines]
    split
    · simp [hx, hrest]
    · cases broken <;> simp [hshown, hrest]

theorem allPrintable_literalHints (s : List Char) : AllPrintable (Page.literalHints s) := by
  rw [literalHints_eq, allPrintable_append]
  constructor
  · cases startsIndented s <;> simp
    decide
  · cases chomping s <;> simp [Chomping.sign] <;> decide

theorem allPrintable_body {f : Form} {s : List Char} (hsuits : f.Suits s) (column : Nat) :
    AllPrintable (f.body column s) := by
  cases f with
  | plain =>
    obtain ⟨x, xs, rfl, -, -, -, -, -, hprintable⟩ := plain_cases hsuits.1 hsuits.2
    exact fun y hy => (hprintable y hy).1
  | single =>
    obtain ⟨hprintable, -, -⟩ := single_cases hsuits.1
    have hshown (x : Char) (hx : x ∈ s) : isPrintable x = true ∧ AllPrintable (singleChar x) := by
      have hxs := hprintable x hx
      rw [singleChar]
      split <;> simp_all
    simp only [Form.body, allPrintable_append, allPrintable_cons, allPrintable_nil,
      allPrintable_brokenLines (allPrintable_spaces column) s hshown false, and_true]
    decide
  | double =>
    have htext : AllPrintable (s.flatMap Page.doubleChar) := by
      intro y hy
      obtain ⟨x, -, hyx⟩ := List.mem_flatMap.1 hy
      exact allPrintable_doubleChar x y hyx
    simp only [Form.body, allPrintable_append, allPrintable_cons, allPrintable_nil, htext, and_true]
    decide
  | literal =>
    obtain ⟨-, hprintable⟩ := literal_cases hsuits.1
    have hlines : AllPrintable (brokenLines (fun c => [c]) column [] s true) :=
      allPrintable_brokenLines allPrintable_nil s
        (fun x hx => ⟨hprintable x hx, by simp [hprintable x hx]⟩) true
    simp only [Form.body, allPrintable_append, allPrintable_cons, allPrintable_literalHints, hlines,
      and_true]
    decide

/-! ## Trees -/

theorem allPrintable_keyText (column : Nat) (name : String) : AllPrintable (keyText column name) := by
  rw [keyText]
  split
  · simp only [allPrintable_append, allPrintable_cons, allPrintable_nil,
      allPrintable_body (suits_form name true), and_true]
    decide
  · simp only [allPrintable_append, allPrintable_cons, allPrintable_nil, allPrintable_spaces,
      allPrintable_lineEnd, allPrintable_body (suits_form name false), and_true]
    decide

theorem allPrintable_openGap (onLine : Bool) (column : Nat) : AllPrintable (openGap onLine column) := by
  cases onLine with
  | true => exact allPrintable_cons.2 ⟨by decide, allPrintable_nil⟩
  | false => exact allPrintable_cons.2 ⟨by decide, allPrintable_spaces column⟩

mutual

theorem allPrintable_valueText (onLine : Bool) (column : Nat) (t : Tree) :
    AllPrintable (valueText onLine column t) := by
  match t with
  | .text s => exact allPrintable_cons.2 ⟨by decide, allPrintable_body (suits_form s false) _⟩
  | .flag b => cases b <;> (rw [valueText]; simp; decide)
  | .list [] | .record [] => rw [valueText]; simp; decide
  | .list (t :: ts) =>
    rw [valueText, allPrintable_append]
    exact ⟨allPrintable_openGap onLine _, allPrintable_itemsText _ (t :: ts)⟩
  | .record (f :: fs) =>
    rw [valueText, allPrintable_append]
    exact ⟨allPrintable_openGap onLine _, allPrintable_fieldsText _ (f :: fs)⟩

theorem allPrintable_itemsText (column : Nat) (items : List Tree) :
    AllPrintable (itemsText column items) := by
  match items with
  | [] => exact allPrintable_nil
  | t :: ts =>
    rw [itemsText, allPrintable_append, allPrintable_cons]
    refine ⟨⟨by decide, allPrintable_valueText true column t⟩, ?_⟩
    split
    · exact allPrintable_nil
    · simp [allPrintable_itemsText column ts]

theorem allPrintable_fieldsText (column : Nat) (fields : List (String × Tree)) :
    AllPrintable (fieldsText column fields) := by
  match fields with
  | [] => exact allPrintable_nil
  | (name, t) :: fs =>
    rw [fieldsText, allPrintable_append, allPrintable_append]
    refine ⟨⟨allPrintable_keyText column name, allPrintable_valueText _ column t⟩, ?_⟩
    split
    · exact allPrintable_nil
    · simp [allPrintable_fieldsText column fs]

end

theorem allPrintable_written (t : Tree) : AllPrintable t.written := by
  match t with
  | .text s => exact allPrintable_body (suits_form s false) 2
  | .flag b => cases b <;> (rw [Tree.written]; simp; decide)
  | .list [] | .record [] => rw [Tree.written]; simp; decide
  | .list (t :: ts) => exact allPrintable_itemsText 0 (t :: ts)
  | .record (f :: fs) => exact allPrintable_fieldsText 0 (f :: fs)

/-- What is written for a tree is shown as it is. -/
theorem allPrintable_print (t : Tree) : AllPrintable t.print.toList := by
  rw [Tree.toList_print, allPrintable_append]
  exact ⟨allPrintable_written t, allPrintable_lineEnd _⟩

end Groundwork.Yaml
