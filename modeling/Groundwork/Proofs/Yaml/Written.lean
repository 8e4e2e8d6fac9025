/-
What is written for a tree, as a text.

The printer goes over a page, and what it writes depends on what stands before: whether a
blank does, whether only indentation does, and the column. Here the text of each part is
given by itself (`Tree.written` and the functions it calls), and shown to be what is added
to the page (`Tree.toList_print`). A part starts right after a sign and ends before the gap that the
next part starts with; that gap is a line end and spaces, without the line end after a
literal block that ends in one.
-/
import Groundwork.Yaml.Printer
import Mathlib.Data.List.Basic

set_option autoImplicit false

namespace Groundwork.Yaml

/-! ## Texts of scalars -/

/-- Some spaces. -/
def spaces (n : Nat) : List Char :=
  List.replicate n ' '

@[simp] theorem length_spaces (n : Nat) : (spaces n).length = n :=
  List.length_replicate

/-- Whether a text ends in a line end, given whether one stands before it. -/
def endsBroken (broken : Bool) (s : List Char) : Bool :=
  (s.getLast?.map isBreak).getD broken

/-- The lines of a text, each but the first at a column; `broken` after a line end. At the
end, after a line end, stands a given text. -/
def brokenLines (shown : Char → List Char) (column : Nat) (last : List Char) :
    List Char → Bool → List Char
  | [], broken => if broken then last else []
  | c :: rest, broken =>
    if isBreak c then c :: brokenLines shown column last rest true
    else (if broken then spaces column else []) ++ shown c
      ++ brokenLines shown column last rest false

/-- How a character stands between single quotes. -/
def singleChar (c : Char) : List Char :=
  if c = '\'' then ['\'', '\''] else [c]

/-- The text of a scalar in a form, its further lines at a column. -/
def Form.body (column : Nat) (s : List Char) : Form → List Char
  | .plain => s
  | .single => '\'' :: brokenLines singleChar column (spaces column) s false ++ ['\'']
  | .double => '"' :: s.flatMap Page.doubleChar ++ ['"']
  | .literal => '|' :: Page.literalHints s ++ '\n' :: brokenLines (fun c => [c]) column [] s true

/-- Whether the text of a scalar ends in a line end. -/
def Form.endsLine (s : List Char) : Form → Bool
  | .literal => endsBroken true s
  | .plain | .single | .double => false

/-- The line end before the next part. -/
def lineEnd (ended : Bool) : List Char :=
  if ended then [] else ['\n']

theorem endsBroken_cons (broken : Bool) (c : Char) (rest : List Char) :
    endsBroken broken (c :: rest) = endsBroken (isBreak c) rest := by
  cases rest with
  | nil => rfl
  | cons d rest =>
    rw [endsBroken, endsBroken, List.getLast?_cons_cons, List.getLast?_eq_some_getLast (by simp)]
    rfl

/-! ## Pages -/

namespace Page

/-- A page with nothing but indentation up to a column on its last line. -/
structure Placed (p : Page) (column : Nat) : Prop where
  column_eq : p.column = column
  spaced : p.spaced = true
  indented : p.indented = true

/-- A page on which a part has ended. -/
structure Ended (p : Page) (line : Bool) : Prop where
  indented : p.indented = line
  placed : line = true → p.column = 0 ∧ p.spaced = true

@[simp] theorem out_puts (p : Page) (cs : List Char) : (p.puts cs).out = cs.reverse ++ p.out := by
  rw [puts]
  induction cs generalizing p with
  | nil => rfl
  | cons c cs ih => rw [List.foldl_cons, ih, put, List.reverse_cons, List.append_assoc]; rfl

@[simp] theorem column_puts (p : Page) (cs : List Char) :
    (p.puts cs).column = p.column + cs.length := by
  rw [puts]
  induction cs generalizing p with
  | nil => rfl
  | cons c cs ih =>
    rw [List.foldl_cons, ih, List.length_cons, put]
    simp only
    omega

@[simp] theorem spaced_puts (p : Page) (cs : List Char) : (p.puts cs).spaced = p.spaced := by
  rw [puts]
  induction cs generalizing p with
  | nil => rfl
  | cons c cs ih => rw [List.foldl_cons, ih, put]

@[simp] theorem indented_puts (p : Page) (cs : List Char) : (p.puts cs).indented = p.indented := by
  rw [puts]
  induction cs generalizing p with
  | nil => rfl
  | cons c cs ih => rw [List.foldl_cons, ih, put]

/-- Going on to a column of the same line. -/
theorem indentTo_of_le {p : Page} {column : Nat} (hindented : p.indented = true)
    (hlt : p.column < column ∨ (p.column = column ∧ p.spaced = true)) :
    p.indentTo column =
      { p.puts (spaces (column - p.column)) with spaced := true, indented := true } := by
  have hfresh : (!p.indented || column < p.column || (p.column == column && !p.spaced)) = false := by
    rcases hlt with hlt | ⟨heq, hspaced⟩
    · simp [hindented, Nat.ne_of_lt hlt]
      omega
    · simp [hindented, heq, hspaced]
  rw [indentTo, hfresh]
  rfl

/-- The gap before the next part. -/
theorem indentTo_of_ended {p : Page} {line : Bool} (h : p.Ended line) (column : Nat) :
    (p.indentTo column).out = (lineEnd line ++ spaces column).reverse ++ p.out ∧
      (p.indentTo column).Placed column := by
  cases line with
  | true =>
    obtain ⟨hcolumn, hspaced⟩ := h.placed rfl
    have hplace : p.column < column ∨ (p.column = column ∧ p.spaced = true) := by
      rcases Nat.eq_zero_or_pos column with hzero | hpos
      · exact .inr ⟨hcolumn.trans hzero.symm, hspaced⟩
      · exact .inl (by omega)
    rw [indentTo_of_le h.indented hplace]
    refine ⟨by simp [lineEnd, hcolumn], ⟨?_, rfl, rfl⟩⟩
    simp [hcolumn, spaces]
  | false =>
    have hfresh : (!p.indented || column < p.column || (p.column == column && !p.spaced)) = true := by
      simp [h.indented]
    rw [indentTo, hfresh]
    refine ⟨by simp [lineEnd, newline, spaces], ⟨?_, rfl, rfl⟩⟩
    simp [newline]

/-! ### Scalars -/

theorem singleText_out {column : Nat} (hcolumn : 0 < column) {s : List Char} {broken : Bool}
    {p : Page} (hs : '\n' ∉ s) (hspace : hasBreakSpace s = false)
    (hbroken : broken = true → p.column = 0 ∧ p.indented = true ∧ s.head? ≠ some ' ') :
    (singleText column s broken p).out =
      (brokenLines singleChar column (spaces column) s broken).reverse ++ p.out := by
  induction s generalizing broken p with
  | nil =>
    cases broken with
    | false => rfl
    | true =>
      obtain ⟨hzero, hindented, -⟩ := hbroken rfl
      rw [singleText, if_pos rfl, indentTo_of_le hindented (by omega)]
      simp [brokenLines, hzero]
  | cons c rest ih =>
    rw [List.mem_cons, not_or] at hs
    rw [hasBreakSpace, Bool.or_eq_false_iff] at hspace
    obtain ⟨hfirst, hspace⟩ := hspace
    rw [singleText, brokenLines]
    by_cases hblank : c = ' '
    · subst hblank
      have hnot : broken = false := by
        cases broken with
        | false => rfl
        | true => exact absurd rfl (hbroken rfl).2.2
      rw [if_pos rfl, if_neg (by decide), hnot, ih hs.2 hspace (by simp)]
      simp [singleChar, put]
    · rw [if_neg hblank]
      by_cases hbreak : isBreak c = true
      · rw [if_pos hbreak, if_pos hbreak]
        simp only [Ne.symm hs.1, decide_false, Bool.and_false, Bool.false_eq_true, if_false]
        rw [ih hs.2 hspace]
        · simp [putBreak]
        · intro _
          refine ⟨rfl, rfl, ?_⟩
          simpa [hbreak] using hfirst
      · rw [if_neg hbreak, if_neg hbreak, ih hs.2 hspace (by simp)]
        cases broken with
        | false => by_cases hquote : c = '\'' <;> simp [singleChar, hquote, put]
        | true =>
          obtain ⟨hzero, hindented, -⟩ := hbroken rfl
          rw [if_pos rfl, if_pos rfl, indentTo_of_le hindented (by omega)]
          by_cases hquote : c = '\'' <;> simp [singleChar, hquote, put, hzero]

theorem literalText_out {column : Nat} (hcolumn : 0 < column) {s : List Char} {broken : Bool}
    {p : Page} (hspaced : p.spaced = true) (hindented : p.indented = broken)
    (hbroken : broken = true → p.column = 0) :
    (literalText column s broken p).out =
      (brokenLines (fun c => [c]) column [] s broken).reverse ++ p.out ∧
    (literalText column s broken p).Ended (endsBroken broken s) := by
  induction s generalizing broken p with
  | nil =>
    rw [literalText]
    exact ⟨by cases broken <;> rfl, ⟨hindented, fun h => ⟨hbroken h, hspaced⟩⟩⟩
  | cons c rest ih =>
    rw [literalText, brokenLines, endsBroken_cons]
    by_cases hbreak : isBreak c = true
    · rw [if_pos hbreak, if_pos hbreak, hbreak]
      obtain ⟨hout, hended⟩ := @ih true { p.putBreak c with indented := true } hspaced rfl fun _ => rfl
      refine ⟨?_, hended⟩
      rw [hout]
      simp [putBreak]
    · rw [if_neg hbreak, if_neg hbreak, Bool.eq_false_iff.2 hbreak]
      cases broken with
      | false =>
        obtain ⟨hout, hended⟩ := @ih false { p.put c with indented := false } hspaced rfl (by simp)
        refine ⟨?_, hended⟩
        simp only [Bool.false_eq_true, if_false]
        rw [hout]
        simp [put]
      | true =>
        rw [if_pos rfl, if_pos rfl, indentTo_of_le hindented (by have := hbroken rfl; omega)]
        obtain ⟨hout, hended⟩ := @ih false
          { put { p.puts (spaces (column - p.column)) with spaced := true, indented := true } c
            with indented := false } rfl rfl (by simp)
        refine ⟨?_, hended⟩
        rw [hout]
        simp [put, hbroken rfl]

/-- The blank that parts a scalar from a sign before it. -/
def lead (p : Page) : List Char :=
  if p.spaced then [] else [' ']

@[simp] theorem out_sign (p : Page) (s : String) (spaceBefore opens : Bool) :
    (p.sign s spaceBefore opens).out =
      ((if spaceBefore then p.lead else []) ++ s.toList).reverse ++ p.out := by
  rw [sign, lead]
  cases spaceBefore <;> cases hspaced : p.spaced <;> simp [hspaced, put]

@[simp] theorem spaced_sign (p : Page) (s : String) (spaceBefore opens : Bool) :
    (p.sign s spaceBefore opens).spaced = false := rfl

@[simp] theorem indented_sign (p : Page) (s : String) (spaceBefore opens : Bool) :
    (p.sign s spaceBefore opens).indented = (p.indented && opens) := by
  rw [sign]
  cases spaceBefore <;> cases hspaced : p.spaced <;> simp [hspaced, put]

theorem ended_closed (p : Page) : p.closed.Ended false :=
  ⟨rfl, fun h => absurd h (by decide)⟩

end Page

/-! ### How a text may be written -/

/-- What is asked of a text for its form. -/
def Form.Suits (s : List Char) : Form → Prop
  | .plain => (shape s).plain = true ∧ s ≠ []
  | .single => (shape s).single = true ∧ '\n' ∉ s
  | .double => True
  | .literal => (shape s).literal = true ∧ '\n' ∈ s

theorem suits_form (s : String) (key : Bool) : (form s key).Suits s.toList := by
  have hquotes (hline : '\n' ∉ s.toList) :
      (if (shape s.toList).single then Form.single else .double).Suits s.toList := by
    split
    · next hsingle => exact ⟨hsingle, hline⟩
    · trivial
  rw [form]
  split
  · trivial
  · split
    · split
      · next hliteral =>
        rw [Bool.and_eq_true] at hliteral
        exact ⟨hliteral.1, by assumption⟩
      · trivial
    · next hline =>
      split
      · exact hquotes hline
      · next hneeds =>
        split
        · next hplain =>
          refine ⟨hplain, fun hempty => hneeds ?_⟩
          have hs : s = "" := String.toList_eq_nil_iff.1 hempty
          rw [hs]
          rfl
        · exact hquotes hline

theorem hasBreakSpace_of_single {s : List Char} (h : (shape s).single = true) :
    hasBreakSpace s = false := by
  cases s with
  | nil => rfl
  | cons c rest =>
    simp only [shape, Bool.and_eq_true, Bool.not_eq_true'] at h
    exact h.2

namespace Page

/-- What a scalar adds to a page. -/
theorem scalar_out (p : Page) {column : Nat} (hcolumn : 0 < column) (s : String) {f : Form}
    (hsuits : f.Suits s.toList) :
    (p.scalar column s f).out = (p.lead ++ f.body column s.toList).reverse ++ p.out ∧
      (p.scalar column s f).Ended (f.endsLine s.toList) := by
  cases f with
  | plain =>
    refine ⟨?_, ended_closed _⟩
    have hne : s.toList.isEmpty = false := List.isEmpty_eq_false_iff.2 hsuits.2
    rw [scalar, plain, closed, hne, lead, Form.body]
    cases hspaced : p.spaced <;> simp [hspaced, put]
  | double =>
    refine ⟨?_, ended_closed _⟩
    rw [scalar, double, closed, Form.body]
    simp [lead]
  | single =>
    refine ⟨?_, ended_closed _⟩
    obtain ⟨hsingle, hline⟩ := hsuits
    rw [scalar, single, closed, Form.body]
    simp only [out_sign, Bool.false_eq_true, if_false]
    rw [singleText_out hcolumn hline (hasBreakSpace_of_single hsingle) (by simp)]
    simp [lead]
  | literal =>
    obtain ⟨hout, hended⟩ := @literalText_out column hcolumn s.toList true
      { ((p.sign "|" true false).puts (literalHints s.toList)).newline with
        spaced := true, indented := true } rfl rfl fun _ => rfl
    refine ⟨?_, hended⟩
    rw [scalar, literal, hout, Form.body]
    simp [newline, lead]

end Page

/-! ## Texts of values -/

mutual

/-- Whether what is written for a tree ends in a line end. -/
def Tree.endsLine : Tree → Bool
  | .text s => (form s false).endsLine s.toList
  | .flag _ => false
  | .list items => itemsEnd false items
  | .record fields => fieldsEnd false fields

def itemsEnd (before : Bool) : List Tree → Bool
  | [] => before
  | t :: ts => itemsEnd t.endsLine ts

def fieldsEnd (before : Bool) : List (String × Tree) → Bool
  | [] => before
  | (_, t) :: fs => fieldsEnd t.endsLine fs

end

/-- The gap before the first part of a collection at a column, on the line of the sign
before it or on a new one. -/
def openGap (onLine : Bool) (column : Nat) : List Char :=
  if onLine then [' '] else '\n' :: spaces column

/-- The name of a field at a column and the colon after it. -/
def keyText (column : Nat) (name : String) : List Char :=
  if Page.isSimpleKey name then (form name true).body (column + 2) name.toList ++ [':']
  else '?' :: ' ' :: (form name false).body (column + 2) name.toList
    ++ lineEnd ((form name false).endsLine name.toList) ++ spaces column ++ [':']

mutual

/-- What stands after a sign for a tree, in a block at a column. A collection may start on
the line of the sign; if it may not, a list stands at the column of the block. -/
def valueText (onLine : Bool) (column : Nat) : Tree → List Char
  | .text s => ' ' :: (form s false).body (column + 2) s.toList
  | .flag b => ' ' :: (if b then "true" else "false").toList
  | .list [] => [' ', '[', ']']
  | .record [] => [' ', '\x7b', '\x7d']
  | .list (t :: ts) =>
    let inner := if onLine then column + 2 else column
    openGap onLine inner ++ itemsText inner (t :: ts)
  | .record (f :: fs) => openGap onLine (column + 2) ++ fieldsText (column + 2) (f :: fs)

/-- The items of a list at a column. -/
def itemsText (column : Nat) : List Tree → List Char
  | [] => []
  | t :: ts => '-' :: valueText true column t
    ++ if ts.isEmpty then [] else lineEnd t.endsLine ++ spaces column ++ itemsText column ts

/-- The fields of a record at a column. -/
def fieldsText (column : Nat) : List (String × Tree) → List Char
  | [] => []
  | (name, t) :: fs => keyText column name ++ valueText (!Page.isSimpleKey name) column t
    ++ if fs.isEmpty then [] else lineEnd t.endsLine ++ spaces column ++ fieldsText column fs

end

/-- What is written for a tree as the value of a document. -/
def Tree.written : Tree → List Char
  | .text s => (form s false).body 2 s.toList
  | .flag b => (if b then "true" else "false").toList
  | .list [] => ['[', ']']
  | .record [] => ['\x7b', '\x7d']
  | .list (t :: ts) => itemsText 0 (t :: ts)
  | .record (f :: fs) => fieldsText 0 (f :: fs)

namespace Page

/-- A page on which a sign stands after which a part may go on, on the same line or not. -/
structure Open (p : Page) (onLine : Bool) (column : Nat) : Prop where
  spaced : p.spaced = false
  indented : p.indented = onLine
  column_eq : onLine = true → p.column = column + 1

theorem open_sign {p : Page} {column : Nat} (h : p.Placed column) {s : String}
    (hs : s.toList.length = 1) : (p.sign s true true).Open true column := by
  have hcolumn : (p.sign s true true).column = p.column + s.toList.length := by
    rw [sign, h.spaced]
    simp
  exact ⟨rfl, by rw [indented_sign, h.indented]; rfl, fun _ => by rw [hcolumn, hs, h.column_eq]⟩

/-- The gap before the first part of a collection. -/
theorem indentTo_of_open {p : Page} {onLine : Bool} {column : Nat} (h : p.Open onLine column)
    (inner : Nat) (hinner : onLine = true → inner = column + 2) :
    (p.indentTo inner).out = (openGap onLine inner).reverse ++ p.out ∧
      (p.indentTo inner).Placed inner := by
  cases onLine with
  | true =>
    have hcolumn := h.column_eq rfl
    have hnext := hinner rfl
    rw [indentTo_of_le h.indented (.inl (by omega))]
    have hwidth : inner - p.column = 1 := by omega
    refine ⟨by simp [hwidth, openGap, spaces], ⟨?_, rfl, rfl⟩⟩
    simp only [column_puts, spaces, List.length_replicate]
    omega
  | false => exact indentTo_of_ended ⟨h.indented, fun h => absurd h (by decide)⟩ inner

/-- What the name of a field adds to a page. -/
theorem fieldName_out {p : Page} {column : Nat} (hplaced : (p.indentTo column).Placed column)
    (name : String) :
    (p.fieldName column name).out = (keyText column name).reverse ++ (p.indentTo column).out ∧
      (p.fieldName column name).Open (!isSimpleKey name) column := by
  rw [fieldName, keyText]
  by_cases hsimple : isSimpleKey name = true
  · obtain ⟨hout, -⟩ := scalar_out (p.indentTo column) (by omega : 0 < column + 2) name
      (suits_form name true)
    simp only [hsimple, if_true]
    refine ⟨?_, ⟨rfl, ?_, fun h => absurd h (by decide)⟩⟩
    · rw [out_sign, hout]
      simp [lead, hplaced.spaced]
    · rw [indented_sign]
      exact Bool.and_false _
  · have hopen := open_sign hplaced (s := "?") rfl
    obtain ⟨hout, hended⟩ := scalar_out ((p.indentTo column).sign "?" true true)
      (by omega : 0 < column + 2) name (suits_form name false)
    obtain ⟨hgap, hplaced'⟩ := indentTo_of_ended hended column
    simp only [Bool.eq_false_iff.2 hsimple, Bool.false_eq_true, if_false]
    refine ⟨?_, open_sign hplaced' rfl⟩
    rw [out_sign, hgap, hout, out_sign]
    simp [lead, hplaced.spaced, hplaced'.spaced]

mutual

theorem value_out (inRecord onLine : Bool) (column : Nat) (t : Tree) (p : Page)
    (h : p.Open onLine column) (hitem : inRecord = false → onLine = true) :
    (value inRecord column t p).out = (valueText onLine column t).reverse ++ p.out ∧
      (value inRecord column t p).Ended t.endsLine := by
  match t with
  | .text s =>
    obtain ⟨hout, hended⟩ := scalar_out p (by omega : 0 < column + 2) s (suits_form s false)
    refine ⟨?_, hended⟩
    rw [value, hout]
    simp [lead, h.spaced, valueText]
  | .flag b =>
    refine ⟨?_, ended_closed _⟩
    cases b <;> simp [value, plain, h.spaced, closed, put, valueText]
  | .list [] =>
    rw [value]
    refine ⟨by simp [lead, h.spaced, valueText], ⟨?_, fun h => absurd h (by decide)⟩⟩
    rw [indented_sign]
    exact Bool.and_false _
  | .record [] =>
    rw [value]
    refine ⟨by simp [lead, h.spaced, valueText], ⟨?_, fun h => absurd h (by decide)⟩⟩
    rw [indented_sign]
    exact Bool.and_false _
  | .list (t :: ts) =>
    have hinner : (if inRecord && !p.indented then column else column + 2) =
        if onLine then column + 2 else column := by
      rw [h.indented]
      cases onLine <;> cases inRecord <;> simp_all
    obtain ⟨hgap, hplaced⟩ := indentTo_of_open h (if onLine then column + 2 else column)
      fun hon => by rw [if_pos hon]
    rw [value, hinner, valueText, Tree.endsLine]
    · obtain ⟨hout, hended⟩ := listItems_out _ false (t :: ts) p (by simp) hplaced
      refine ⟨?_, hended⟩
      rw [hout, hgap]
      simp
    · simp
  | .record (f :: fs) =>
    obtain ⟨hgap, hplaced⟩ := indentTo_of_open h (column + 2) fun _ => rfl
    rw [value, valueText, Tree.endsLine]
    · obtain ⟨hout, hended⟩ := recordFields_out _ false (f :: fs) p (by simp) hplaced
      refine ⟨?_, hended⟩
      rw [hout, hgap]
      simp
    · simp

theorem listItems_out (column : Nat) (before : Bool) (ts : List Tree) (p : Page) (hne : ts ≠ [])
    (hplaced : (p.indentTo column).Placed column) :
    (listItems column ts p).out = (itemsText column ts).reverse ++ (p.indentTo column).out ∧
      (listItems column ts p).Ended (itemsEnd before ts) := by
  match ts with
  | [] => exact absurd rfl hne
  | t :: ts =>
    obtain ⟨hout, hended⟩ := value_out false true column t _ (open_sign hplaced (s := "-") rfl)
      fun _ => rfl
    rw [listItems, itemsText, itemsEnd]
    by_cases hts : ts = []
    · subst hts
      rw [listItems]
      refine ⟨?_, hended⟩
      rw [hout]
      simp [lead, hplaced.spaced]
    · obtain ⟨hgap, hplaced'⟩ := indentTo_of_ended hended column
      obtain ⟨hrest, hended'⟩ := listItems_out column t.endsLine ts _ hts hplaced'
      refine ⟨?_, hended'⟩
      rw [hrest, hgap, hout]
      simp [hts, lead, hplaced.spaced]

theorem recordFields_out (column : Nat) (before : Bool) (fs : List (String × Tree)) (p : Page)
    (hne : fs ≠ []) (hplaced : (p.indentTo column).Placed column) :
    (recordFields column fs p).out = (fieldsText column fs).reverse ++ (p.indentTo column).out ∧
      (recordFields column fs p).Ended (fieldsEnd before fs) := by
  match fs with
  | [] => exact absurd rfl hne
  | (name, t) :: fs =>
    obtain ⟨hname, hopen⟩ := fieldName_out hplaced name
    obtain ⟨hout, hended⟩ := value_out true (!isSimpleKey name) column t _ hopen (by simp)
    rw [recordFields, fieldsText, fieldsEnd]
    by_cases hfs : fs = []
    · subst hfs
      rw [recordFields]
      refine ⟨?_, hended⟩
      rw [hout, hname]
      simp
    · obtain ⟨hgap, hplaced'⟩ := indentTo_of_ended hended column
      obtain ⟨hrest, hended'⟩ := recordFields_out column t.endsLine fs _ hfs hplaced'
      refine ⟨?_, hended'⟩
      rw [hrest, hgap, hout, hname]
      simp [hfs]

end

/-- What is written for the value of a document. -/
theorem root_out (t : Tree) :
    (({} : Page).root t).out = t.written.reverse ∧ (({} : Page).root t).Ended t.endsLine := by
  have hstart : (({} : Page).indentTo 0).out = [] ∧ (({} : Page).indentTo 0).Placed 0 :=
    ⟨rfl, ⟨rfl, rfl, rfl⟩⟩
  match t with
  | .text s =>
    obtain ⟨hout, hended⟩ := scalar_out {} (by omega : 0 < 2) s (suits_form s false)
    refine ⟨?_, hended⟩
    rw [root, value, hout]
    · simp [lead, Tree.written]
    · simp
    · simp
  | .flag b => exact ⟨by cases b <;> rfl, ⟨by cases b <;> rfl, by simp [Tree.endsLine]⟩⟩
  | .list [] => exact ⟨rfl, ⟨rfl, fun h => absurd h (by decide)⟩⟩
  | .record [] => exact ⟨rfl, ⟨rfl, fun h => absurd h (by decide)⟩⟩
  | .list (t :: ts) =>
    obtain ⟨hout, hended⟩ := listItems_out 0 false (t :: ts) {} (by simp) hstart.2
    refine ⟨?_, hended⟩
    rw [root, hout, hstart.1, Tree.written, List.append_nil]
  | .record (f :: fs) =>
    obtain ⟨hout, hended⟩ := recordFields_out 0 false (f :: fs) {} (by simp) hstart.2
    refine ⟨?_, hended⟩
    rw [root, hout, hstart.1, Tree.written, List.append_nil]

end Page

/-- The text of a document ends in a line end. -/
theorem Tree.toList_print (t : Tree) : t.print.toList = t.written ++ lineEnd t.endsLine := by
  obtain ⟨hout, hended⟩ := Page.root_out t
  rw [print, String.toList_ofList, (Page.indentTo_of_ended hended 0).1, hout]
  simp [spaces]

end Groundwork.Yaml
