/-
The list of the files that a pull request changes, page by page. What is asked for is
decided by the replies, one after the other, so the list is followed in a run: `replies`
says what is answered to the first request, to the second, and so on, and the run says
which requests there are and what they lead to.

One page is one request at most (`run_filePage`), and its outcome is told by the reply
alone. From there the recursion over the pages is an induction on how many may still be
asked for: before each page as many requests were made as pages come before it
(`run_filesFrom`), so the reply to the request for a page is the reply of that number.
-/
import Groundwork.Github.Client
import Groundwork.Proofs.Json.Record
import Groundwork.Proofs.Program.Exchange
import Mathlib.Data.List.TakeWhile

set_option autoImplicit false

namespace Groundwork.Github

open Http (Reply)
open Groundwork.Program (run noting)

variable {repo : Repository} {number : Nat}

/-! ## One page -/

/-- The request for a page, if it can be sent. -/
def pageRequest? (repo : Repository) (number page : Nat) : Option Http.Request :=
  (Http.target? (Url.Form.addTo
      ("/repos/" ++ repo.fullName ++ "/pulls/" ++ toString number ++ "/files")
      [("per_page", toString pageSize), ("page", toString page)])).map
    fun target => { method := .get, target }

/-- What is asked for, as a failure names it. -/
def filesTask (repo : Repository) (number : Nat) : String :=
  "list files of " ++ repo.fullName ++ "#" ++ toString number

/-- Why a page is missing that could not be asked for, or was not answered with files. -/
def pageFailed (repo : Repository) (number : Nat) : Failure :=
  ⟨"Failed to " ++ filesTask repo number, []⟩

/-- Why a page is missing that was not answered in time. -/
def pageOverdue (repo : Repository) (number : Nat) : Failure :=
  ⟨"Timed out trying to " ++ filesTask repo number, []⟩

/-- What a reply to the request for a page tells. -/
def readPage (repo : Repository) (number : Nat) : Reply → Except Failure (List Change)
  | .answer status bytes =>
    if 200 ≤ status ∧ status < 300 then
      match (bodyJson? bytes).bind pageOfJson? with
      | some files => .ok files
      | none => .error (pageFailed repo number)
    else .error (pageFailed repo number)
  | .silence => .error (pageOverdue repo number)
  | .unreachable => .error (pageFailed repo number)

/-- What comes of a page. -/
def pageOutcome (repo : Repository) (number : Nat) (replies : Nat → Reply) (page : Nat) :
    Except Failure (List Change) :=
  if (pageRequest? repo number page).isSome then readPage repo number (replies page)
  else .error (pageFailed repo number)

/-- The exchange about a page, if there is one. -/
def pageLog (repo : Repository) (number : Nat) (replies : Nat → Reply) (page : Nat) :
    List (Exchange Http.Request fun _ => Reply) :=
  (pageRequest? repo number page).toList.map fun request => ⟨request, replies page⟩

/-- One who gives these replies, one after the other. -/
def inOrder (replies : Nat → Reply) (past : List (Exchange Http.Request fun _ => Reply))
    (_ : Http.Request) : Reply :=
  replies (past.length + 1)

variable {replies : Nat → Reply}

theorem run_filePage (repo : Repository) (number : Nat) (replies : Nat → Reply) {page : Nat}
    {past : List (Exchange Http.Request fun _ => Reply)}
    (hpast : past.length + 1 = page) :
    run (noting (inOrder replies)) past (filePage repo number page).run =
      (past ++ pageLog repo number replies page,
        some (pageOutcome repo number replies page)) := by
  subst hpast
  unfold filePage get exchange pageLog pageOutcome pageRequest?
  cases Http.target? _ with
  | none =>
    rw [Option.map_none, Option.toList_none, List.map_nil, List.append_nil]
    rfl
  | some target =>
    have hsend : run (noting (inOrder replies)) past
        (Http.send { method := .get, target }).run = (_, some (.ok (replies (past.length + 1)))) :=
      rfl
    rw [Option.map_some, Option.isSome_some, if_pos rfl, Option.toList_some]
    refine (Attempt.run_bind_ok hsend _).trans ?_
    show run _ (past ++ [⟨_, replies (past.length + 1)⟩]) _ =
      (past ++ [⟨_, replies (past.length + 1)⟩], _)
    cases replies (past.length + 1) with
    | answer status bytes =>
      simp only [readPage, Bool.and_eq_true, decide_eq_true_eq]
      by_cases hstatus : 200 ≤ status ∧ status < 300
      · rw [if_pos hstatus, if_pos hstatus]
        cases (bodyJson? bytes).bind pageOfJson? <;> rfl
      · rw [if_neg hstatus, if_neg hstatus]
        rfl
    | silence => rfl
    | unreachable => rfl

theorem length_pageLog {page : Nat} {files : List Change}
    (h : pageOutcome repo number replies page = .ok files) :
    (pageLog repo number replies page).length = 1 := by
  unfold pageOutcome at h
  unfold pageLog
  cases hrequest : pageRequest? repo number page with
  | none =>
    rw [hrequest] at h
    cases h
  | some request => rfl

/-! ## Several pages -/

/-- The files of some pages, or why there are none. -/
def joinPages (outcome : Nat → Except Failure (List Change)) (pages : List Nat) :
    Except Failure (List Change) :=
  (pages.mapM outcome).map List.flatten

section

variable {outcome : Nat → Except Failure (List Change)} {page left count : Nat}

theorem joinPages_nil : joinPages outcome [] = .ok [] := rfl

theorem joinPages_cons_error {e : Failure} (h : outcome page = .error e) (pages : List Nat) :
    joinPages outcome (page :: pages) = .error e := by
  rw [joinPages, List.mapM_cons, h]
  rfl

theorem joinPages_cons_ok {files : List Change} (h : outcome page = .ok files)
    (pages : List Nat) :
    joinPages outcome (page :: pages) = (joinPages outcome pages).map (files ++ ·) := by
  rw [joinPages, joinPages, List.mapM_cons, h]
  cases pages.mapM outcome <;> rfl

theorem joinPages_eq_error_iff {pages : List Nat} :
    (∃ e, joinPages outcome pages = .error e) ↔ ∃ page ∈ pages, ∃ e, outcome page = .error e := by
  induction pages with
  | nil => simp [joinPages_nil]
  | cons page pages ih =>
    cases hpage : outcome page with
    | error e =>
      rw [joinPages_cons_error hpage]
      exact iff_of_true ⟨e, rfl⟩ ⟨page, List.mem_cons_self, e, hpage⟩
    | ok files =>
      have hrest : (∃ e, (joinPages outcome pages).map (files ++ ·) = .error e) ↔
          ∃ e, joinPages outcome pages = .error e := by
        cases joinPages outcome pages <;> simp [Except.map]
      rw [joinPages_cons_ok hpage, hrest, ih]
      simp [hpage]

/-- How many of the pages from one on are asked for, if at most `left` may be: the pages
before the last are full, and the last is not, unless there may be no other. -/
structure Asks (outcome : Nat → Except Failure (List Change)) (page left count : Nat) : Prop where
  le_left : count ≤ left
  pos : 0 < left → 0 < count
  full : ∀ p, page ≤ p → p + 1 < page + count →
    ∃ files, outcome p = .ok files ∧ pageSize ≤ files.length
  last : ∀ p files, p + 1 = page + count → outcome p = .ok files → pageSize ≤ files.length →
    count = left

theorem Asks.zero : Asks outcome page 0 0 :=
  ⟨Nat.le_refl 0, id, fun p h1 h2 => by omega, fun _ _ _ _ _ => rfl⟩

/-- No other page is asked for after one that failed or is not full. -/
theorem Asks.one (h : ∀ files, outcome page = .ok files → files.length < pageSize) :
    Asks outcome page (left + 1) 1 := by
  refine ⟨by omega, fun _ => Nat.one_pos, fun p h1 h2 => by omega, fun p files hp hfiles hlong => ?_⟩
  obtain rfl : p = page := by omega
  have hshort := h files hfiles
  omega

theorem Asks.succ {files : List Change} (hfiles : outcome page = .ok files)
    (hlong : pageSize ≤ files.length) (h : Asks outcome (page + 1) left count) :
    Asks outcome page (left + 1) (count + 1) := by
  refine ⟨by have := h.le_left; omega, fun _ => Nat.succ_pos count, ?_, ?_⟩
  · intro p hp hlast
    by_cases hfirst : p = page
    · exact ⟨files, hfirst ▸ hfiles, hlong⟩
    · exact h.full p (by omega) (by omega)
  · intro p files' hp hfiles' hlong'
    by_cases hnone : left = 0
    · have := h.le_left
      omega
    · have := h.pos (by omega)
      have := h.last p files' (by omega) hfiles' hlong'
      omega

end

theorem filesFrom_succ (page left : Nat) :
    filesFrom repo number page (left + 1) = filePage repo number page >>= fun files =>
      if files.length < pageSize then pure files
      else filesFrom repo number (page + 1) left >>= fun rest => pure (files ++ rest) :=
  rfl

/-- Where as many requests were made as pages come before, the recursion asks for the pages
from there on, each answered by the reply of its number. -/
theorem run_filesFrom (repo : Repository) (number : Nat) (replies : Nat → Reply)
    (left page : Nat) (past : List (Exchange Http.Request fun _ => Reply))
    (hpast : past.length + 1 = page) :
    ∃ count, Asks (pageOutcome repo number replies) page left count ∧
      run (noting (inOrder replies)) past (filesFrom repo number page left).run =
        (past ++ (List.range' page count).flatMap (pageLog repo number replies),
          some (joinPages (pageOutcome repo number replies) (List.range' page count))) := by
  induction left generalizing page past with
  | zero =>
    refine ⟨0, Asks.zero, ?_⟩
    rw [List.range'_zero, List.flatMap_nil, List.append_nil]
    rfl
  | succ left ih =>
    have hpage := run_filePage repo number replies hpast
    rw [filesFrom_succ]
    cases houtcome : pageOutcome repo number replies page with
    | error e =>
      rw [houtcome] at hpage
      refine ⟨1, Asks.one fun files hfiles => (by cases houtcome.symm.trans hfiles), ?_⟩
      rw [Attempt.run_bind_error hpage, List.range'_one, joinPages_cons_error houtcome,
        List.flatMap_singleton]
    | ok files =>
      rw [houtcome] at hpage
      rw [Attempt.run_bind_ok hpage]
      by_cases hshort : files.length < pageSize
      · refine ⟨1, Asks.one fun files' hfiles' => ?_, ?_⟩
        · cases houtcome.symm.trans hfiles'
          exact hshort
        · rw [if_pos hshort, List.range'_one, joinPages_cons_ok houtcome, List.flatMap_singleton,
            joinPages_nil]
          show (_, some (Except.ok files)) = (_, some (Except.ok (files ++ [])))
          rw [List.append_nil]
      · have hnext : (past ++ pageLog repo number replies page).length + 1 = page + 1 := by
          rw [List.length_append, length_pageLog houtcome]
          omega
        obtain ⟨count, hasks, hrun⟩ := ih (page + 1) _ hnext
        refine ⟨count + 1, hasks.succ houtcome (by omega), ?_⟩
        rw [if_neg hshort, List.range'_succ, List.flatMap_cons, joinPages_cons_ok houtcome,
          ← List.append_assoc]
        cases hjoin : joinPages (pageOutcome repo number replies) (List.range' (page + 1) count) with
        | error e =>
          rw [hjoin] at hrun
          rw [Attempt.run_bind_error hrun]
          rfl
        | ok rest =>
          rw [hjoin] at hrun
          rw [Attempt.run_bind_ok hrun]
          rfl

/-! ## The names of the files -/

/-- The name of a file as it was sent. -/
def sentName? : Json → Option String
  | .object members => (members.lookup "filename").bind Json.string?
  | .array (name :: _) => name.string?
  | _ => none

/-- The names on a page as they were sent. -/
def sentNames : Reply → List (Option String)
  | .answer _ bytes => ((bodyJson? bytes).elim [] Json.items).map sentName?
  | _ => []

/-- Whatever became of a file, its name is the path that counts. -/
theorem path_changeOf (status filename : String) (previous : Option String) :
    (changeOf status filename previous).path = filename := by
  unfold changeOf
  split <;> rfl

theorem required_filename {v : Json} {fs : Json.Fields}
    (h : v.fields? ["filename", "status", "previous_filename"] = some fs) :
    fs.required "filename" Json.string? = sentName? v := by
  cases v with
  | object members =>
    simp only [Json.fields?] at h
    split at h
    · cases h
      rw [Json.Fields.required, Json.Fields.find?, Json.lookup_filter_of_keeps (by decide)]
      rfl
    · cases h
  | array items =>
    simp only [Json.fields?] at h
    split at h
    · cases h
      cases items <;> rfl
    · cases h
  | _ => cases h

theorem sentName?_of_changeOfJson? {v : Json} {change : Change}
    (h : changeOfJson? v = some change) : sentName? v = some change.path := by
  unfold changeOfJson? at h
  simp only [Option.bind_eq_bind, Option.bind_eq_some_iff] at h
  obtain ⟨fs, hfs, status, -, filename, hfilename, previous, -, hchange⟩ := h
  cases hchange
  rw [path_changeOf, ← required_filename hfs, hfilename]

theorem map_sentName?_of_mapM {items : List Json} {files : List Change}
    (h : items.mapM changeOfJson? = some files) :
    items.map sentName? = files.map fun change => some change.path := by
  induction items generalizing files with
  | nil =>
    cases h
    rfl
  | cons v items ih =>
    rw [List.mapM_cons] at h
    obtain ⟨change, hchange, h⟩ := Option.bind_eq_some_iff.1 h
    obtain ⟨rest, hrest, h⟩ := Option.bind_eq_some_iff.1 h
    cases h
    rw [List.map_cons, List.map_cons, sentName?_of_changeOfJson? hchange, ih hrest]

theorem sentNames_of_readPage {reply : Reply} {files : List Change}
    (h : readPage repo number reply = .ok files) :
    sentNames reply = files.map fun change => some change.path := by
  cases reply with
  | answer status bytes =>
    simp only [readPage] at h
    split at h
    · split at h
      · next hread =>
        cases h
        obtain ⟨v, hv, hpage⟩ := Option.bind_eq_some_iff.1 hread
        cases v with
        | array items =>
          rw [sentNames, hv]
          exact map_sentName?_of_mapM hpage
        | _ => cases hpage
      · cases h
    · cases h
  | silence => cases h
  | unreachable => cases h

theorem sentNames_of_pageOutcome {page : Nat} {files : List Change}
    (h : pageOutcome repo number replies page = .ok files) :
    sentNames (replies page) = files.map fun change => some change.path := by
  unfold pageOutcome at h
  split at h
  · exact sentNames_of_readPage h
  · cases h

/-- The files of some pages have the names on them, in their order. -/
theorem sentNames_of_joinPages {pages : List Nat} {files : List Change}
    (h : joinPages (pageOutcome repo number replies) pages = .ok files) :
    (pages.flatMap fun page => sentNames (replies page)) =
      files.map fun change => some change.path := by
  induction pages generalizing files with
  | nil =>
    cases h
    rfl
  | cons page pages ih =>
    cases hpage : pageOutcome repo number replies page with
    | error e =>
      rw [joinPages_cons_error hpage] at h
      cases h
    | ok first =>
      rw [joinPages_cons_ok hpage] at h
      cases hrest : joinPages (pageOutcome repo number replies) pages with
      | error e =>
        rw [hrest] at h
        cases h
      | ok rest =>
        rw [hrest] at h
        cases h
        rw [List.flatMap_cons, sentNames_of_pageOutcome hpage, ih hrest, List.map_append]

/-! ## Pages of one list -/

theorem joinPages_of_ok {outcome : Nat → Except Failure (List Change)}
    (onPage : Nat → List Change) {pages : List Nat} (h : ∀ page ∈ pages, outcome page = .ok (onPage page)) :
    joinPages outcome pages = .ok (pages.flatMap onPage) := by
  induction pages with
  | nil => rfl
  | cons page pages ih =>
    obtain ⟨hpage, hpages⟩ := List.forall_mem_cons.1 h
    rw [joinPages_cons_ok hpage, ih hpages]
    rfl

/-- The files on a page of a list, if each has 100. -/
def servedPage (files : List Change) (page : Nat) : List Change :=
  (files.drop (100 * (page - 1))).take 100

theorem flatMap_servedPage (files : List Change) (count : Nat) :
    (List.range' 1 count).flatMap (servedPage files) = files.take (100 * count) := by
  induction count with
  | zero => simp
  | succ count ih =>
    rw [List.range'_1_concat, List.flatMap_append, ih, List.flatMap_singleton, servedPage,
      Nat.add_sub_cancel_left, Nat.mul_succ, List.take_add]

/-- All files of a list of at most 3000 are on the pages that are asked for. -/
theorem length_le_of_asks {files : List Change} {outcome : Nat → Except Failure (List Change)}
    {count : Nat} (hfew : files.length ≤ 3000) (h : Asks outcome 1 maxPages count)
    (hserved : ∀ page, 1 ≤ page → page ≤ 30 → outcome page = .ok (servedPage files page)) :
    files.length ≤ 100 * count := by
  have hle : count ≤ 30 := h.le_left
  have hpos : 0 < count := h.pos (by decide)
  by_cases hall : count = 30
  · omega
  · have hshort : ¬ pageSize ≤ (servedPage files count).length := fun hlong =>
      hall (h.last count _ (by omega) (hserved count hpos hle) hlong)
    rw [servedPage, List.length_take, List.length_drop, pageSize] at hshort
    omega

/-! ## What is sent -/

/-- A path and a query are sent as they are if their characters may stand there. -/
theorem target?_of_chars {path query : String} (hslash : path.toList.head? = some '/')
    (hpath : ∀ c ∈ path.toList, Http.isTargetPathChar c = true)
    (hquery : ∀ c ∈ query.toList, Http.isTargetQueryChar c = true ∧ c ≠ '#')
    (hsize : (path ++ "?" ++ query).utf8ByteSize ≤ Http.maxTargetBytes) :
    Http.target? (path ++ "?" ++ query) = some (path ++ "?" ++ query) := by
  have hlist : (path ++ "?" ++ query).toList = path.toList ++ '?' :: query.toList := by
    rw [String.toList_append, String.toList_append, List.append_assoc]
    rfl
  have hplain : ∀ c ∈ path.toList, c ≠ '#' ∧ c ≠ '?' := by
    intro c hc
    have hchar := hpath c hc
    constructor
    · rintro rfl
      exact absurd hchar (by decide)
    · rintro rfl
      exact absurd hchar (by decide)
  have hsent : (path ++ "?" ++ query).toList.takeWhile (· != '#') =
      path.toList ++ '?' :: query.toList := by
    rw [hlist, List.takeWhile_eq_self_iff]
    intro c hc
    rcases List.mem_append.1 hc with hc | hc
    · simpa using (hplain c hc).1
    · rcases List.mem_cons.1 hc with rfl | hc
      · decide
      · simpa using (hquery c hc).2
  have hspan : (path.toList ++ '?' :: query.toList).span (· != '?') =
      (path.toList, '?' :: query.toList) := by
    rw [List.span_eq_takeWhile_dropWhile]
    have hpath' : ∀ c ∈ path.toList, (c != '?') = true := fun c hc => by simpa using (hplain c hc).2
    rw [List.takeWhile_append_of_pos hpath', List.dropWhile_append_of_pos hpath']
    simp
  unfold Http.target?
  simp only [hsent, hspan]
  rw [if_pos, ← hlist, String.ofList_toList]
  have hhead : (path.toList ++ '?' :: query.toList).head? = some '/' := by
    rw [List.head?_append, hslash]
    rfl
  have hmark : Http.isTargetQueryChar '?' = true := rfl
  simp only [Bool.and_eq_true, decide_eq_true_eq, beq_iff_eq, List.all_eq_true, List.forall_mem_cons]
  exact ⟨⟨⟨hsize, hhead⟩, hpath⟩, hmark, fun c hc => (hquery c hc).1⟩

theorem isDigit_of_mem_toString {n : Nat} {c : Char} (h : c ∈ (toString n).toList) :
    c.isDigit = true := by
  rw [Nat.toString_eq_repr, Nat.toList_repr] at h
  exact Nat.isDigit_of_mem_toDigits (by decide) (by decide) h

theorem encode_of_digits {s : String} (h : ∀ c ∈ s.toList, c.isDigit = true) :
    Url.Form.encode s = s := by
  have hchar : ∀ c ∈ s.toList,
      (if c = ' ' then ['+'] else Url.percentChar Url.Form.inSet c) = [c] := by
    intro c hc
    have hdigit := h c hc
    have hascii : c.toNat ≤ 57 := (Char.isDigit_iff_toNat.1 hdigit).2
    have hblank : c ≠ ' ' := by
      rintro rfl
      exact absurd hdigit (by decide)
    rw [if_neg hblank, Url.percentChar, if_neg]
    simp only [Url.Form.inSet, Char.isAlphanum, hdigit]
    simp
    omega
  rw [Url.Form.encode, List.flatMap_congr hchar, List.flatMap_singleton', String.ofList_toList]

/-- What is asked for as a page of a repository whose name can stand in a path. -/
def pageTarget (repo : Repository) (number page : Nat) : String :=
  "/repos/" ++ repo.fullName ++ "/pulls/" ++ toString number ++ "/files" ++ "?" ++
    ("per_page=100&page=" ++ toString page)

theorem addTo_pages {route : String} (hroute : '?' ∉ route.toList) (page : Nat) :
    Url.Form.addTo route [("per_page", toString pageSize), ("page", toString page)] =
      route ++ "?" ++ ("per_page=100&page=" ++ toString page) := by
  have hnew : route.toList.contains '?' = false := by simpa using hroute
  have hpage : Url.Form.encode (toString page) = toString page :=
    encode_of_digits fun c hc => isDigit_of_mem_toString hc
  have hquery : Url.Form.query [("per_page", toString pageSize), ("page", toString page)] =
      "per_page=100&page=" ++ toString page := by
    have hsize : Url.Form.encode "per_page" ++ "=" ++ Url.Form.encode (toString pageSize) ++ "&" ++
        (Url.Form.encode "page" ++ "=") = "per_page=100&page=" := by decide +kernel
    rw [← hsize, Url.Form.query]
    simp only [List.map_cons, List.map_nil, String.intercalate_cons_cons,
      String.intercalate_singleton, hpage, String.append_assoc]
  rw [Url.Form.addTo, if_neg (by simp), hnew, hquery]
  rfl

theorem pageRequest?_of_chars {page : Nat}
    (hname : ∀ c ∈ repo.fullName.toList, Http.isTargetPathChar c = true)
    (hsize : (pageTarget repo number page).utf8ByteSize ≤ Http.maxTargetBytes) :
    pageRequest? repo number page =
      some { method := .get, target := pageTarget repo number page } := by
  have hpath : ∀ c ∈ ("/repos/" ++ repo.fullName ++ "/pulls/" ++ toString number ++
      "/files").toList, Http.isTargetPathChar c = true := by
    intro c hc
    simp only [String.toList_append, List.mem_append] at hc
    rcases hc with (((hc | hc) | hc) | hc) | hc
    · exact List.all_eq_true.1 (by decide : "/repos/".toList.all Http.isTargetPathChar = true) c hc
    · exact hname c hc
    · exact List.all_eq_true.1 (by decide : "/pulls/".toList.all Http.isTargetPathChar = true) c hc
    · simp [Http.isTargetPathChar, Char.isAlphanum, isDigit_of_mem_toString hc]
    · exact List.all_eq_true.1 (by decide : "/files".toList.all Http.isTargetPathChar = true) c hc
  have hquery : ∀ c ∈ ("per_page=100&page=" ++ toString page).toList,
      Http.isTargetQueryChar c = true ∧ c ≠ '#' := by
    intro c hc
    rw [String.toList_append, List.mem_append] at hc
    rcases hc with hc | hc
    · have hall := List.all_eq_true.1 (by decide : "per_page=100&page=".toList.all
        (fun c => Http.isTargetQueryChar c && c != '#') = true) c hc
      simpa using hall
    · have hdigit := isDigit_of_mem_toString hc
      refine ⟨?_, ?_⟩
      · have hquote : c ≠ '"' := by
          rintro rfl
          exact absurd hdigit (by decide)
        simp [Http.isTargetQueryChar, Http.isTargetPathChar, Char.isAlphanum, hdigit, hquote]
      · rintro rfl
        exact absurd hdigit (by decide)
  have hmark : '?' ∉ ("/repos/" ++ repo.fullName ++ "/pulls/" ++ toString number ++
      "/files").toList := fun hc => absurd (hpath '?' hc) (by decide)
  have hslash : ("/repos/" ++ repo.fullName ++ "/pulls/" ++ toString number ++
      "/files").toList.head? = some '/' := by
    simp only [String.toList_append, List.append_assoc]
    rfl
  rw [pageRequest?, addTo_pages hmark, target?_of_chars hslash hpath hquery hsize]
  rfl

/-- With a name and a number of usual sizes no page is too long to be asked for. -/
theorem utf8ByteSize_pageTarget_le {page : Nat} (hpage : page ≤ 30)
    (hsize : repo.fullName.utf8ByteSize + (toString number).utf8ByteSize ≤ 65000) :
    (pageTarget repo number page).utf8ByteSize ≤ Http.maxTargetBytes := by
  have hdigits : ∀ n ≤ 30, (toString n).utf8ByteSize ≤ 2 := by decide +kernel
  have hshort := hdigits page hpage
  have hrepos : "/repos/".utf8ByteSize = 7 := rfl
  have hpulls : "/pulls/".utf8ByteSize = 7 := rfl
  have hfiles : "/files".utf8ByteSize = 6 := rfl
  have hmark : "?".utf8ByteSize = 1 := rfl
  have hquery : "per_page=100&page=".utf8ByteSize = 18 := rfl
  simp only [pageTarget, String.utf8ByteSize_append, Http.maxTargetBytes]
  omega

/-! ## The whole list -/

/-- With some replies, the files that a pull request changes are listed: up to the page `last`,
in the exchanges of `log`, with `result`. -/
structure Lists (repo : Repository) (number : Nat) (replies : Nat → Reply) (last : Nat)
    (log : List (Exchange Http.Request fun _ => Reply)) (result : Except Failure (List Change)) :
    Prop where
  one_le : 1 ≤ last
  le_thirty : last ≤ 30
  /-- All pages before the last one are full. -/
  full : ∀ page, 1 ≤ page → page < last →
    ∃ files, pageOutcome repo number replies page = .ok files ∧ 100 ≤ files.length
  /-- The last one is not, unless it is the 30th. -/
  stops : ∀ files, pageOutcome repo number replies last = .ok files → 100 ≤ files.length →
    last = 30
  /-- Each page is asked for once, in order, and nothing else is. -/
  log_eq : log = (List.range' 1 last).flatMap (pageLog repo number replies)
  targets_eq : (∀ c ∈ repo.fullName.toList, Http.isTargetPathChar c = true) →
    repo.fullName.utf8ByteSize + (toString number).utf8ByteSize ≤ 65000 →
    log = (List.range' 1 last).map fun page =>
      ⟨{ method := .get, target := pageTarget repo number page }, replies page⟩
  /-- The list is what the pages say, one after the other. -/
  result_eq : result = joinPages (pageOutcome repo number replies) (List.range' 1 last)
  fails_iff : (∃ e, result = .error e) ↔
    ∃ page, 1 ≤ page ∧ page ≤ last ∧ ∃ e, pageOutcome repo number replies page = .error e
  /-- Each path that counts is the name that was sent. -/
  names_eq : ∀ files, result = .ok files →
    (files.map fun change => some change.path) =
      (List.range' 1 last).flatMap fun page => sentNames (replies page)
  /-- What is answered in pages of 100 is had as a whole. -/
  whole : ∀ files : List Change, files.length ≤ 3000 →
    (∀ page, 1 ≤ page → page ≤ 30 →
      pageOutcome repo number replies page = .ok (servedPage files page)) →
    result = .ok files

/-- **Which pages are asked for, and what becomes of them.** Whatever is answered, the pages
of a list are asked for in their order, from the first one up to one that failed, that is not
full or that is the 30th, and nothing else is. The list is what the pages say under the names
that were sent, it fails if one of them does, and no file of at most 3000 is missing. -/
theorem listFiles_reads_pages (repo : Repository) (number : Nat) (replies : Nat → Reply) :
    ∃ last log result,
      run (noting (inOrder replies)) [] (listFiles repo number).run = (log, some result) ∧
        Lists repo number replies last log result := by
  obtain ⟨last, hasks, hrun⟩ := run_filesFrom repo number replies maxPages 1 [] rfl
  have hlast : last ≤ 30 := hasks.le_left
  refine ⟨last, _, _, hrun, ?_⟩
  constructor
  case one_le => exact hasks.pos (by decide)
  case le_thirty => exact hlast
  case full => exact fun page hpage hbefore => hasks.full page hpage (by omega)
  case stops => exact fun files hfiles hlong => hasks.last last files (by omega) hfiles hlong
  case log_eq => exact List.nil_append _
  case targets_eq =>
    intro hname hsize
    rw [List.nil_append, List.map_eq_flatMap]
    refine List.flatMap_congr fun page hpage => ?_
    rw [List.mem_range'_1] at hpage
    rw [pageLog, pageRequest?_of_chars hname (utf8ByteSize_pageTarget_le (by omega) hsize)]
    rfl
  case result_eq => rfl
  case fails_iff =>
    rw [joinPages_eq_error_iff]
    constructor
    · rintro ⟨page, hpage, hfailed⟩
      rw [List.mem_range'_1] at hpage
      exact ⟨page, hpage.1, by omega, hfailed⟩
    · rintro ⟨page, hpage, hbefore, hfailed⟩
      exact ⟨page, List.mem_range'_1.2 ⟨hpage, by omega⟩, hfailed⟩
  case names_eq => exact fun files hfiles => (sentNames_of_joinPages hfiles).symm
  case whole =>
    intro files hfew hserved
    rw [joinPages_of_ok (servedPage files), flatMap_servedPage,
      List.take_of_length_le (length_le_of_asks hfew hasks hserved)]
    intro page hpage
    rw [List.mem_range'_1] at hpage
    exact hserved page hpage.1 (by omega)

/-- A page with some new files of one name. -/
def pageOf (count : Nat) : Reply :=
  let files := List.replicate count "[\"a\",\"added\"]"
  .answer 200 ("[" ++ String.intercalate "," files ++ "]").toUTF8

/-- A list of a hundred files: after its first page there is another one to ask for. -/
theorem listFiles_reads_hundred_files :
    let repo := Repository.ofFullName "acme/infra"
    let replies := fun page => pageOf (if page = 1 then 100 else 0)
    let files := List.replicate 100 (Change.added "a")
    ∃ log, run (noting (inOrder replies)) [] (listFiles repo 7).run = (log, some (.ok files)) ∧
      log.length = 2 := by
  intro repo replies files
  have hname : ∀ c ∈ repo.fullName.toList, Http.isTargetPathChar c = true :=
    List.all_eq_true.1 (by decide)
  have hsize : repo.fullName.utf8ByteSize + (toString 7).utf8ByteSize ≤ 65000 := by decide +kernel
  have hread : ∀ page, 1 ≤ page → page ≤ 30 →
      pageOutcome repo 7 replies page = .ok (servedPage files page) := by
    intro page hpage hbefore
    rw [pageOutcome, pageRequest?_of_chars hname (utf8ByteSize_pageTarget_le hbefore hsize),
      Option.isSome_some, if_pos rfl]
    by_cases hone : page = 1
    · subst hone
      decide +kernel
    · have hnone : servedPage files page = [] := by
        rw [servedPage, List.drop_eq_nil_of_le, List.take_nil]
        rw [List.length_replicate]
        omega
      have hreply : replies page = pageOf 0 := congrArg pageOf (if_neg hone)
      rw [hnone, hreply]
      decide +kernel
  obtain ⟨last, log, result, hrun, h⟩ := listFiles_reads_pages repo 7 replies
  have hlast : last = 2 := by
    have hone : last ≠ 1 := by
      rintro rfl
      exact absurd (h.stops _ (hread 1 (by decide) (by decide)) (by decide +kernel)) (by decide)
    have htwo : ¬ 2 < last := by
      intro hlong
      obtain ⟨rest, hrest, hfull⟩ := h.full 2 (by decide) hlong
      cases (hread 2 (by decide) (by decide)).symm.trans hrest
      exact absurd hfull (by decide +kernel)
    have := h.one_le
    omega
  refine ⟨log, ?_, ?_⟩
  · rw [hrun, h.whole files (by decide +kernel) hread]
  · rw [h.targets_eq hname hsize, List.length_map, List.length_range', hlast]

end Groundwork.Github
