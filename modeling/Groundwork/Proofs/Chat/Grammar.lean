/-
The language of requests in comments. A request to run a command is the word that the bot
goes by, a word for the command, and flags with their values, in any order and each in any
of its spellings (`Item`). Reading an item sets its flag and goes on (`parseFlags_item`), so
the words of some items are read by setting their flags one after the other
(`parseFlags_items_append`). What is read without a fault is the words of some items, and
then either the end or a flag that asks for help (`parseFlags_eq_ok_iff`). Flags can be set
one after the other exactly if each of the two things that they say is said at most once
(`Run.setAll_eq_ok_iff`), which does not depend on the order.

From there on what a comment asks for can be told from its words: a command
(`parse_eq_run_iff`), help (`parse_eq_help_iff`), or nothing (`parse_eq_none_iff`). All
others have a fault.
-/
import Groundwork.Chat.Request
import Groundwork.Proofs.Config.Loaded
import Groundwork.Proofs.Text.Words
import Mathlib.Data.List.Perm.Basic

set_option autoImplicit false

namespace Groundwork.Chat

/-! ## Words with a meaning -/

/-- The words for the commands. -/
def commandWords : List (String × Command) := [
  ("plot", .plot), ("diff", .plot), ("plan", .plot), ("preview", .plot), ("pre", .plot),
  ("lift", .lift), ("apply", .lift), ("deploy", .lift), ("up", .lift)]

/-- The flags that ask for help. -/
def helpFlags : List String := ["-h", "--help"]

/-- The words that ask for help in the place of a command. -/
def helpWords : List String := "help" :: helpFlags

/-- The names of the flags. -/
def flagNames : List (String × Flag) := [
  ("-d", .directory), ("--directory", .directory),
  ("-w", .scope .workspace), ("--workspace", .scope .workspace),
  ("-e", .scope .environment), ("--environment", .scope .environment),
  ("-s", .scope .stack), ("--stack", .scope .stack)]

theorem mem_commandWords_iff {word : String} {c : Command} :
    (word, c) ∈ commandWords ↔ Command.ofWord? word = some c := by
  rw [Command.ofWord?_eq_some_iff]
  cases c <;> simp [commandWords, Command.word, Command.aliases]

theorem mem_helpFlags_iff {word : String} : word ∈ helpFlags ↔ isHelpFlag word = true := by
  simp [helpFlags, isHelpFlag]

theorem mem_helpWords_iff {word : String} :
    word ∈ helpWords ↔ (word = "help" || isHelpFlag word) = true := by
  rw [helpWords, List.mem_cons, mem_helpFlags_iff, Bool.or_eq_true, decide_eq_true_iff]

theorem mem_flagNames_iff {name : String} {flag : Flag} :
    (name, flag) ∈ flagNames ↔ Flag.ofWord? name = some flag := by
  constructor
  · intro h
    have hall : ∀ n ∈ flagNames, Flag.ofWord? n.1 = some n.2 := by decide
    exact hall _ h
  · intro h
    have hname := List.find?_some h
    simp only [Bool.or_eq_true, beq_iff_eq] at hname
    rcases hname with rfl | rfl
    · rcases flag with _ | _ | _ | _ <;> decide
    · rcases flag with _ | _ | _ | _ <;> decide

/-! ## Items -/

/-- A flag with its value, as it is written. -/
structure Item where
  name : String
  flag : Flag
  value : String
  /-- Whether the value is in the same word as the name. -/
  joined : Bool
  named : (name, flag) ∈ flagNames

/-- The words that it is written with. -/
def Item.words (i : Item) : List String :=
  if i.joined then [i.name ++ "=" ++ i.value] else [i.name, i.value]

/-- What it says, however it is written. -/
def Item.says (i : Item) : Flag × String :=
  (i.flag, i.value)

/-- The directory that is said. -/
def directory? : Flag × String → Option String
  | (.directory, value) => some value
  | (.scope _, _) => none

/-- The workspace that is said. -/
def scope? : Flag × String → Option (WorkspaceKind × String)
  | (.directory, _) => none
  | (.scope kind, value) => some (kind, value)

/-- Everything that the names of flags have in common. -/
theorem name_spec {name : String} {flag : Flag} (h : (name, flag) ∈ flagNames) :
    isHelpFlag name = false ∧ name.toList.head? = some '-' ∧ '=' ∉ name.toList := by
  have hall : ∀ n ∈ flagNames,
      isHelpFlag n.1 = false ∧ n.1.toList.head? = some '-' ∧ '=' ∉ n.1.toList := by decide
  exact hall _ h

theorem flagParts_of_notMem {word : String} (h : '=' ∉ word.toList) :
    flagParts word = (word, none) := by
  unfold flagParts
  rw [Text.splitFirst?_eq_none.2 h]

theorem flagParts_joined {name : String} (h : '=' ∉ name.toList) (value : String) :
    flagParts (name ++ "=" ++ value) = (name, some value) := by
  have hsplit : Text.splitFirst? '=' (name ++ "=" ++ value).toList =
      some (name.toList, value.toList) := by
    refine Text.splitFirst?_eq_some.2 ⟨?_, h⟩
    simp
  unfold flagParts
  simp only [hsplit, String.ofList_toList]

/-- A word is its parts. -/
theorem eq_of_flagParts {word name : String} {value? : Option String}
    (h : flagParts word = (name, value?)) :
    word = value?.elim name fun value => name ++ "=" ++ value := by
  unfold flagParts at h
  split at h
  · next before after hsplit =>
    obtain ⟨rfl, rfl⟩ := Prod.mk.inj h
    apply String.toList_inj.1
    rw [(Text.splitFirst?_eq_some.1 hsplit).1]
    simp
  · obtain ⟨rfl, rfl⟩ := Prod.mk.inj h
    rfl

/-! ## Setting flags -/

section

variable {α : Type}

theorem toList_inj {a b : Option α} : a.toList = b.toList ↔ a = b := by
  cases a <;> cases b <;> simp

/-- What holds at most one value takes one more only if it holds none. -/
theorem toList_concat_eq_toList_iff {a b : Option α} {value : α} :
    a.toList ++ [value] = b.toList ↔ a = none ∧ some value = b := by
  cases a <;> cases b <;> simp

/-- A list of at most one value is what something holds. -/
theorem length_le_one_iff {l : List α} : l.length ≤ 1 ↔ ∃ a : Option α, l = a.toList := by
  constructor
  · intro h
    match l with
    | [] => exact ⟨none, rfl⟩
    | [value] => exact ⟨some value, rfl⟩
    | _ :: _ :: _ => simp at h
  · rintro ⟨a, rfl⟩
    exact Option.length_toList_le

theorem exists_toList_of_append {l m : List α} {b : Option α} (h : l ++ m = b.toList) :
    ∃ a : Option α, l = a.toList := by
  cases b with
  | none => exact ⟨none, (List.append_eq_nil_iff.1 h).1⟩
  | some value =>
    rcases List.append_eq_singleton_iff.1 h with ⟨rfl, -⟩ | ⟨rfl, -⟩
    · exact ⟨none, rfl⟩
    · exact ⟨some value, rfl⟩

theorem eq_toList_of_perm {l m : List α} {b : Option α} (hperm : l.Perm m) (h : l = b.toList) :
    m = b.toList := by
  subst h
  cases b with
  | none => exact List.nil_perm.1 hperm
  | some value => exact (List.singleton_perm.1 hperm).symm

theorem filterMap_cons_toList {β : Type} (f : α → Option β) (a : α) (l : List α) :
    (a :: l).filterMap f = (f a).toList ++ l.filterMap f := by
  cases h : f a <;> simp [h]

end

namespace Run

variable {r c : Run} {said said' : List (Flag × String)}

/-- A request with some flags more, one after the other. -/
def setAll (r : Run) (said : List (Flag × String)) : Except Error Run :=
  said.foldlM (fun r flag => r.set flag.1 flag.2) r

/-- One more flag can be set exactly if what it says was not said before. -/
theorem set_eq_ok_iff {flag : Flag} {value : String} :
    r.set flag value = .ok c ↔ c.command = r.command ∧
      r.directory.toList ++ (directory? (flag, value)).toList = c.directory.toList ∧
      r.scope.toList ++ (scope? (flag, value)).toList = c.scope.toList := by
  obtain ⟨command, directory, scope⟩ := r
  obtain ⟨command', directory', scope'⟩ := c
  cases flag with
  | directory =>
    simp only [directory?, scope?, Option.toList_some, Option.toList_none, List.append_nil,
      toList_concat_eq_toList_iff, toList_inj]
    cases directory with
    | none => simp [set, eq_comm]
    | some given => simp [set]
  | scope kind =>
    simp only [directory?, scope?, Option.toList_some, Option.toList_none, List.append_nil,
      toList_concat_eq_toList_iff, toList_inj]
    cases scope with
    | none => simp [set, eq_comm]
    | some given => simp [set]

theorem setAll_cons (r : Run) (flag : Flag) (value : String) (said : List (Flag × String)) :
    r.setAll ((flag, value) :: said) = r.set flag value >>= fun r => r.setAll said :=
  List.foldlM_cons

/-- Flags can be set one after the other exactly if neither a directory nor a workspace is
said twice. -/
theorem setAll_eq_ok_iff :
    r.setAll said = .ok c ↔ c.command = r.command ∧
      r.directory.toList ++ said.filterMap directory? = c.directory.toList ∧
      r.scope.toList ++ said.filterMap scope? = c.scope.toList := by
  -- the request that was made so far stands for the flags that were set before
  induction said generalizing r with
  | nil =>
    obtain ⟨command, directory, scope⟩ := r
    obtain ⟨command', directory', scope'⟩ := c
    simp [setAll, pure, Except.pure, toList_inj, eq_comm]
  | cons flag said ih =>
    obtain ⟨flag, value⟩ := flag
    rw [setAll_cons, filterMap_cons_toList, filterMap_cons_toList, ← List.append_assoc,
      ← List.append_assoc]
    constructor
    · intro h
      obtain ⟨next, hset, hnext⟩ := Config.bind_eq_ok_iff.1 h
      obtain ⟨hcommand, hdirectory, hscope⟩ := set_eq_ok_iff.1 hset
      obtain ⟨hcommand', hdirectory', hscope'⟩ := ih.1 hnext
      exact ⟨hcommand'.trans hcommand, by rw [hdirectory, hdirectory'], by rw [hscope, hscope']⟩
    · rintro ⟨hcommand, hdirectory, hscope⟩
      -- what was said up to here is said at most once too, so it is what a request holds
      obtain ⟨directory, hdirectory'⟩ := exists_toList_of_append hdirectory
      obtain ⟨scope, hscope'⟩ := exists_toList_of_append hscope
      have hset : r.set flag value = .ok ⟨r.command, directory, scope⟩ :=
        set_eq_ok_iff.2 ⟨rfl, hdirectory', hscope'⟩
      rw [hdirectory'] at hdirectory
      rw [hscope'] at hscope
      exact Config.bind_eq_ok_iff.2 ⟨_, hset, ih.2 ⟨hcommand, hdirectory, hscope⟩⟩

/-- Nothing is wrong with some flags exactly if they say one directory at most and one
workspace at most. -/
theorem exists_setAll_iff {command : Command} :
    (∃ c, setAll { command } said = .ok c) ↔
      (said.filterMap directory?).length ≤ 1 ∧ (said.filterMap scope?).length ≤ 1 := by
  rw [length_le_one_iff, length_le_one_iff]
  constructor
  · rintro ⟨c, hset⟩
    obtain ⟨-, hdirectory, hscope⟩ := setAll_eq_ok_iff.1 hset
    exact ⟨⟨c.directory, hdirectory⟩, ⟨c.scope, hscope⟩⟩
  · rintro ⟨⟨directory, hdirectory⟩, ⟨scope, hscope⟩⟩
    exact ⟨⟨command, directory, scope⟩, setAll_eq_ok_iff.2 ⟨rfl, hdirectory, hscope⟩⟩

/-- The order of flags makes no difference to what can be set. -/
theorem setAll_of_perm (hperm : said.Perm said') (h : r.setAll said = .ok c) :
    r.setAll said' = .ok c := by
  obtain ⟨hcommand, hdirectory, hscope⟩ := setAll_eq_ok_iff.1 h
  refine setAll_eq_ok_iff.2 ⟨hcommand, ?_, ?_⟩
  · exact eq_toList_of_perm ((hperm.filterMap _).append_left _) hdirectory
  · exact eq_toList_of_perm ((hperm.filterMap _).append_left _) hscope

end Run

/-! ## Reading items -/

theorem isHelpFlag_joined (name value : String) : isHelpFlag (name ++ "=" ++ value) = false := by
  have hmem : '=' ∈ (name ++ "=" ++ value).toList := by simp
  have hne {word : String} (hword : '=' ∉ word.toList) : (name ++ "=" ++ value == word) = false := by
    refine beq_eq_false_iff_ne.2 ?_
    rintro rfl
    exact hword hmem
  rw [isHelpFlag, hne (by decide), hne (by decide)]
  rfl

/-- To read an item is to set its flag, and to go on. -/
theorem parseFlags_item (r : Run) (i : Item) (rest : List String) :
    parseFlags r (i.words ++ rest) =
      r.set i.flag i.value >>= fun r => parseFlags r rest := by
  obtain ⟨name, flag, value, joined, named⟩ := i
  obtain ⟨hhelp, hdash, heq⟩ := name_spec named
  have hflag := mem_flagNames_iff.1 named
  cases joined with
  | true =>
    -- no name has an equals sign, so the word is cut where the name ends
    have hdash' : (name ++ "=" ++ value).toList.head? = some '-' := by
      rw [String.toList_append, String.toList_append, List.append_assoc, List.head?_append, hdash]
      rfl
    show parseFlags r ((name ++ "=" ++ value) :: rest) = _
    rw [parseFlags, isHelpFlag_joined, if_neg Bool.false_ne_true, if_neg (not_not.2 hdash'),
      flagParts_joined heq]
    simp only [hflag]
  | false =>
    show parseFlags r (name :: value :: rest) = _
    rw [parseFlags, hhelp, if_neg Bool.false_ne_true, if_neg (not_not.2 hdash),
      flagParts_of_notMem heq]
    simp only [hflag]

/-- The words of some items are read by setting their flags, and what follows them then. -/
theorem parseFlags_items_append (r : Run) (items : List Item) (rest : List String) :
    parseFlags r (items.flatMap Item.words ++ rest) =
      r.setAll (items.map Item.says) >>= fun r => parseFlags r rest := by
  induction items generalizing r with
  | nil => rfl
  | cons i items ih =>
    rw [List.flatMap_cons, List.append_assoc, parseFlags_item, List.map_cons, Item.says,
      Run.setAll_cons]
    cases r.set i.flag i.value with
    | error e => rfl
    | ok next => exact ih next

/-- The words of some items are read by setting their flags. -/
theorem parseFlags_items (r : Run) (items : List Item) :
    parseFlags r (items.flatMap Item.words) =
      (r.setAll (items.map Item.says)).map Request.run := by
  have hread := parseFlags_items_append r items []
  rw [List.append_nil] at hread
  rw [hread]
  cases r.setAll (items.map Item.says) <;> rfl

/-- A flag that asks for help is answered with help, whatever follows it. -/
theorem parseFlags_help (r : Run) {flag : String} (h : flag ∈ helpFlags) (rest : List String) :
    parseFlags r (flag :: rest) = .ok .help := by
  rw [parseFlags, if_pos (mem_helpFlags_iff.1 h)]

/-- One item more before words that start with items. -/
theorem exists_items_cons {r next : Run} {i : Item} {ws : List String}
    {P : List String → Run → Prop} (hset : r.set i.flag i.value = .ok next)
    (h : ∃ (items : List Item) (rest : List String) (c : Run),
      ws = items.flatMap Item.words ++ rest ∧ next.setAll (items.map Item.says) = .ok c ∧ P rest c) :
    ∃ (items : List Item) (rest : List String) (c : Run),
      i.words ++ ws = items.flatMap Item.words ++ rest ∧
      r.setAll (items.map Item.says) = .ok c ∧ P rest c := by
  obtain ⟨items, rest, c, rfl, hall, hend⟩ := h
  refine ⟨i :: items, rest, c, ?_, Config.bind_eq_ok_iff.2 ⟨next, hset, hall⟩, hend⟩
  rw [List.flatMap_cons, List.append_assoc]

/-- Words are read without a fault exactly if they are those of some items that can be set,
and then come to an end or to a flag that asks for help. -/
theorem parseFlags_eq_ok_iff {r : Run} {ws : List String} {q : Request} :
    parseFlags r ws = .ok q ↔
      ∃ (items : List Item) (rest : List String) (c : Run), ws = items.flatMap Item.words ++ rest ∧
        r.setAll (items.map Item.says) = .ok c ∧
        (rest = [] ∧ q = .run c ∨ ∃ flag ∈ helpFlags, ∃ more, rest = flag :: more ∧ q = .help) := by
  constructor
  · intro h
    -- a step that goes on reads an item, and the others end otherwise
    fun_induction parseFlags r ws with
    | case1 r =>
      cases h
      exact ⟨[], [], r, rfl, rfl, .inl ⟨rfl, rfl⟩⟩
    | case2 r word rest hhelp =>
      cases h
      exact ⟨[], word :: rest, r, rfl, rfl, .inr ⟨word, mem_helpFlags_iff.2 hhelp, rest, rfl, rfl⟩⟩
    | case3 r word rest hhelp hdash => cases h
    | case4 r word rest hhelp hdash name value? hparts hnone => cases h
    | case5 r word hhelp hdash name flag value rest hflag hparts ih =>
      obtain ⟨next, hset, hnext⟩ := Config.bind_eq_ok_iff.1 h
      rw [eq_of_flagParts hparts]
      exact exists_items_cons (i := ⟨name, flag, value, true, mem_flagNames_iff.2 hflag⟩) hset
        (ih next hnext)
    | case6 r word hhelp hdash name flag hflag hparts => cases h
    | case7 r word hhelp hdash name flag value rest hflag hparts ih =>
      obtain ⟨next, hset, hnext⟩ := Config.bind_eq_ok_iff.1 h
      rw [eq_of_flagParts hparts]
      exact exists_items_cons (i := ⟨name, flag, value, false, mem_flagNames_iff.2 hflag⟩) hset
        (ih next hnext)
  · rintro ⟨items, rest, c, rfl, hset, hend⟩
    rw [parseFlags_items_append]
    refine Config.bind_eq_ok_iff.2 ⟨c, hset, ?_⟩
    rcases hend with ⟨rfl, rfl⟩ | ⟨flag, hflag, more, rfl, rfl⟩
    · rfl
    · exact parseFlags_help c hflag more

/-! ## Reading comments -/

/-- The words on the first line of a comment. -/
def tokens (body : String) : List String :=
  (Text.words (Text.firstLine body.toList)).map String.ofList

section

variable {body word : String} {items : List Item} {c : Run}

/-- The words that are addressed to the bot name a command, or ask for help. -/
theorem parseWords_addressed (word : String) (rest : List String) :
    parseWords ("/turnip" :: word :: rest) =
      if word = "help" || isHelpFlag word then .ok (some .help)
      else match Command.ofWord? word with
        | none => .error (.unknownCommand word)
        | some command => (parseFlags { command } rest).map some := by
  have haddressed : ¬ "/turnip" ≠ trigger := not_not.2 rfl
  unfold parseWords
  exact if_neg haddressed

theorem parse_eq_none_iff : parse body = .ok none ↔ (tokens body).head? ≠ some "/turnip" := by
  show parseWords (tokens body) = .ok none ↔ _
  cases tokens body with
  | nil => exact iff_of_true rfl nofun
  | cons first rest =>
    by_cases hfirst : first = "/turnip"
    · subst hfirst
      refine iff_of_false ?_ (not_not.2 rfl)
      cases rest with
      | nil => exact nofun
      | cons word rest =>
        rw [parseWords_addressed]
        split
        · exact nofun
        split
        · exact nofun
        · next command hcommand =>
          cases parseFlags { command } rest <;> exact nofun
    · exact iff_of_true (if_pos hfirst) (by simpa using hfirst)

/-- A comment whose words are items is read by setting their flags, unless it asks for help. -/
theorem parse_of_items (h : tokens body = "/turnip" :: word :: items.flatMap Item.words) :
    parse body =
      if word = "help" || isHelpFlag word then .ok (some .help)
      else match Command.ofWord? word with
        | none => .error (.unknownCommand word)
        | some command =>
          (Run.setAll { command } (items.map Item.says)).map fun r => some (.run r) := by
  show parseWords (tokens body) = _
  rw [h, parseWords_addressed]
  split
  · rfl
  split
  · rfl
  · next command hcommand =>
    rw [parseFlags_items]
    cases Run.setAll { command } (items.map Item.says) <;> rfl

/-- A word for a command does not ask for help. -/
theorem not_help_of_mem_commandWords {command : Command} (h : (word, command) ∈ commandWords) :
    (word = "help" || isHelpFlag word) = false := by
  have hall : ∀ w ∈ commandWords, (w.1 = "help" || isHelpFlag w.1) = false := by decide
  exact hall _ h

/-- What the words of a line ask for, if they are addressed to the bot: help, or what the
words after a command ask for. -/
theorem parseWords_eq_some_iff {ws : List String} {q : Request} :
    parseWords ws = .ok (some q) ↔
      (q = .help ∧ (ws = ["/turnip"] ∨
        ∃ word ∈ helpWords, ∃ rest, ws = "/turnip" :: word :: rest)) ∨
      ∃ word command rest, ws = "/turnip" :: word :: rest ∧ (word, command) ∈ commandWords ∧
        parseFlags { command } rest = .ok q := by
  constructor
  · intro h
    match ws with
    | [] => cases h
    | [first] =>
      rw [parseWords] at h
      split at h
      · cases h
      · next hfirst =>
        cases h
        exact .inl ⟨rfl, .inl (congrArg (· :: []) (not_not.1 hfirst))⟩
    | first :: word :: rest =>
      by_cases hfirst : first = "/turnip"
      · subst hfirst
        rw [parseWords_addressed] at h
        split at h
        · next hhelp =>
          cases h
          exact .inl ⟨rfl, .inr ⟨word, mem_helpWords_iff.2 hhelp, rest, rfl⟩⟩
        split at h
        · cases h
        · next command hcommand =>
          obtain ⟨q', hflags, hq⟩ := Config.map_eq_ok_iff.1 h
          cases hq
          exact .inr ⟨word, command, rest, rfl, mem_commandWords_iff.2 hcommand, hflags⟩
      · have hother : parseWords (first :: word :: rest) = .ok none := if_pos hfirst
        rw [hother] at h
        cases h
  · rintro (⟨rfl, rfl | ⟨word, hhelp, rest, rfl⟩⟩ | ⟨word, command, rest, rfl, hword, hflags⟩)
    · rfl
    · rw [parseWords_addressed, if_pos (mem_helpWords_iff.1 hhelp)]
    · rw [parseWords_addressed, not_help_of_mem_commandWords hword, if_neg Bool.false_ne_true,
        mem_commandWords_iff.1 hword]
      exact Config.map_eq_ok_iff.2 ⟨q, hflags, rfl⟩

/-- A comment is a request to run a command exactly if it is written as one. -/
theorem parse_eq_run_iff : parse body = .ok (some (.run c)) ↔
    ∃ (word : String) (items : List Item),
      tokens body = "/turnip" :: word :: items.flatMap Item.words ∧
      (word, c.command) ∈ commandWords ∧
      (items.map Item.says).filterMap directory? = c.directory.toList ∧
      (items.map Item.says).filterMap scope? = c.scope.toList := by
  show parseWords (tokens body) = _ ↔ _
  rw [parseWords_eq_some_iff]
  constructor
  · rintro (⟨hq, -⟩ | ⟨word, command, rest, htokens, hword, hflags⟩)
    · cases hq
    · obtain ⟨items, last, r, rfl, hset, ⟨rfl, hq⟩ | ⟨-, -, -, -, hq⟩⟩ :=
        parseFlags_eq_ok_iff.1 hflags
      · cases hq
        rw [List.append_nil] at htokens
        obtain ⟨hcommand, hdirectory, hscope⟩ := Run.setAll_eq_ok_iff.1 hset
        exact ⟨word, items, htokens, hcommand ▸ hword, hdirectory, hscope⟩
      · cases hq
  · rintro ⟨word, items, htokens, hword, hdirectory, hscope⟩
    have hset : Run.setAll { command := c.command } (items.map Item.says) = .ok c :=
      Run.setAll_eq_ok_iff.2 ⟨rfl, hdirectory, hscope⟩
    refine .inr ⟨word, c.command, _, htokens, hword, parseFlags_eq_ok_iff.2 ?_⟩
    exact ⟨items, [], c, (List.append_nil _).symm, hset, .inl ⟨rfl, rfl⟩⟩

/-- A comment is a request for help exactly if the bot is called by itself, or with a word
that asks for help, or with one for a command and then, after items with nothing wrong
about them, a flag that asks for help. What follows that has no part in it. -/
theorem parse_eq_help_iff : parse body = .ok (some .help) ↔
    tokens body = ["/turnip"] ∨
    (∃ word ∈ helpWords, ∃ rest, tokens body = "/turnip" :: word :: rest) ∨
    ∃ (word : String) (command : Command) (items : List Item) (rest : List String),
      ∃ flag ∈ helpFlags,
      tokens body = "/turnip" :: word :: (items.flatMap Item.words ++ flag :: rest) ∧
      (word, command) ∈ commandWords ∧
      ((items.map Item.says).filterMap directory?).length ≤ 1 ∧
      ((items.map Item.says).filterMap scope?).length ≤ 1 := by
  show parseWords (tokens body) = _ ↔ _
  rw [parseWords_eq_some_iff, ← or_assoc]
  refine or_congr (and_iff_right rfl) ⟨?_, ?_⟩
  · rintro ⟨word, command, rest, htokens, hword, hflags⟩
    obtain ⟨items, last, r, rfl, hset, ⟨-, hq⟩ | ⟨flag, hflag, more, rfl, -⟩⟩ :=
      parseFlags_eq_ok_iff.1 hflags
    · cases hq
    · have hsaid := Run.exists_setAll_iff.1 ⟨r, hset⟩
      exact ⟨word, command, items, more, flag, hflag, htokens, hword, hsaid⟩
  · rintro ⟨word, command, items, more, flag, hflag, htokens, hword, hsaid⟩
    obtain ⟨r, hset⟩ := Run.exists_setAll_iff.2 hsaid
    refine ⟨word, command, _, htokens, hword, parseFlags_eq_ok_iff.2 ?_⟩
    exact ⟨items, _, r, rfl, hset, .inr ⟨flag, hflag, more, rfl, rfl⟩⟩

/-- Items in another order are read to the same request, if they are read to one. -/
theorem parse_of_perm {other : String} {items' : List Item}
    (h : tokens body = "/turnip" :: word :: items.flatMap Item.words)
    (hother : tokens other = "/turnip" :: word :: items'.flatMap Item.words)
    (hperm : (items.map Item.says).Perm (items'.map Item.says)) {q : Option Request}
    (hparse : parse body = .ok q) : parse other = .ok q := by
  rw [parse_of_items h] at hparse
  rw [parse_of_items hother]
  split at hparse
  · next hhelp => rwa [if_pos hhelp]
  · next hhelp =>
    rw [if_neg hhelp]
    split at hparse
    · cases hparse
    · next command hcommand =>
      -- here the flags were set in one order, so they can be set in the other
      obtain ⟨r, hset, hq⟩ := Config.map_eq_ok_iff.1 hparse
      exact Config.map_eq_ok_iff.2 ⟨r, Run.setAll_of_perm hperm hset, hq⟩

theorem tokens_append {line : String} (h : '\n' ∉ line.toList) (rest : String) :
    tokens (line ++ "\n" ++ rest) = tokens line := by
  have htext : (line ++ "\n" ++ rest).toList = line.toList ++ '\n' :: rest.toList := by simp
  rw [tokens, htext, Text.words_firstLine_append h]
  rfl

end

/-! ## Writing requests -/

/-- The flags that say what a request holds. -/
def Run.flags (r : Run) : List String :=
  (r.directory.map fun value => "--directory=" ++ value).toList ++
    (r.scope.map fun scope => "--" ++ scope.1.word ++ "=" ++ scope.2).toList

/-- A request written out. -/
def Run.written (r : Run) : String :=
  String.intercalate " " ("/turnip" :: r.command.word :: r.flags)

/-- There is no white space in what a request holds. -/
def Run.IsSolid (r : Run) : Prop :=
  (∀ value ∈ r.directory, ∀ c ∈ value.toList, Text.isBlank c = false) ∧
    ∀ scope ∈ r.scope, ∀ c ∈ scope.2.toList, Text.isBlank c = false

/-- The items of what is written out. -/
def Run.items (r : Run) : List Item :=
  (r.directory.map fun value => ⟨"--directory", .directory, value, true, by decide⟩).toList ++
    (r.scope.map fun scope => ⟨"--" ++ scope.1.word, .scope scope.1, scope.2, true, by
      cases scope.1 <;> decide⟩).toList

theorem Run.flags_eq (r : Run) : r.flags = r.items.flatMap Item.words := by
  obtain ⟨command, directory, scope⟩ := r
  cases directory <;> cases scope <;> rfl

theorem Run.says_items (r : Run) :
    (r.items.map Item.says).filterMap directory? = r.directory.toList ∧
      (r.items.map Item.says).filterMap scope? = r.scope.toList := by
  obtain ⟨command, directory, scope⟩ := r
  cases directory <;> cases scope <;> exact ⟨rfl, rfl⟩

theorem isWord_append {first second : String} (h : Text.IsWord first.toList)
    (hsecond : ∀ c ∈ second.toList, Text.isBlank c = false) : Text.IsWord (first ++ second).toList := by
  rw [String.toList_append]
  exact ⟨List.append_ne_nil_of_left_ne_nil h.1 _, List.forall_mem_append.2 ⟨h.2, hsecond⟩⟩

theorem Run.isWord_written {r : Run} (h : r.IsSolid) :
    ∀ word ∈ "/turnip" :: r.command.word :: r.flags, Text.IsWord word.toList := by
  intro word hword
  simp only [List.mem_cons, Run.flags, List.mem_append, Option.mem_toList,
    Option.map_eq_some_iff] at hword
  rcases hword with rfl | rfl | ⟨value, hvalue, rfl⟩ | ⟨⟨kind, value⟩, hscope, rfl⟩
  · decide
  · cases r.command <;> decide
  · exact isWord_append (by decide) (h.1 value hvalue)
  · have hname : Text.IsWord ("--" ++ kind.word ++ "=").toList := by
      cases kind <;> decide
    exact isWord_append hname (h.2 _ hscope)

theorem tokens_written {r : Run} (h : r.IsSolid) :
    tokens r.written = "/turnip" :: r.command.word :: r.flags := by
  have hwords : ∀ w ∈ ("/turnip" :: r.command.word :: r.flags).map String.toList, Text.IsWord w := by
    intro w hw
    obtain ⟨word, hword, rfl⟩ := List.mem_map.1 hw
    exact r.isWord_written h word hword
  unfold tokens Run.written
  rw [String.toList_intercalate]
  show (Text.words (Text.firstLine ([' '].intercalate _))).map String.ofList = _
  rw [Text.firstLine_of_notMem (Text.newline_notMem_joined hwords), Text.words_joined hwords,
    List.map_map]
  exact (List.map_congr_left fun word _ => String.ofList_toList).trans (List.map_id _)

theorem mem_commandWords_word (c : Command) : (c.word, c) ∈ commandWords := by
  cases c <;> decide

/-- A request that is written out is read back. -/
theorem parse_written {r : Run} (h : r.IsSolid) : parse r.written = .ok (some (.run r)) := by
  refine parse_eq_run_iff.2 ⟨r.command.word, r.items, ?_, mem_commandWords_word _, r.says_items⟩
  rw [tokens_written h, r.flags_eq]

/-- **A comment is understood exactly if it is a request.** It is not addressed to the bot
exactly if its first word is another than the bot's. It is a request to run a command
exactly if a word for the command follows, and then items to the end of the line, among
which a directory is said once at most, and a workspace once at most; and nothing else is
asked for than what these say. So with its items in another order a comment is read to the
same request or is no request either, with its items in other spellings it is read alike,
whatever follows its first line has no part in it, and a request without white space in it
is read back from where it is written out. -/
theorem understood_iff_grammatical :
    (∀ body, parse body = .ok none ↔ (tokens body).head? ≠ some "/turnip") ∧
    (∀ (body : String) (c : Run), parse body = .ok (some (.run c)) ↔
      ∃ (word : String) (items : List Item),
        tokens body = "/turnip" :: word :: items.flatMap Item.words ∧
        (word, c.command) ∈ commandWords ∧
        (items.map Item.says).filterMap directory? = c.directory.toList ∧
        (items.map Item.says).filterMap scope? = c.scope.toList) ∧
    (∀ (body other word : String) (items items' : List Item),
      tokens body = "/turnip" :: word :: items.flatMap Item.words →
      tokens other = "/turnip" :: word :: items'.flatMap Item.words →
      ((items.map Item.says).Perm (items'.map Item.says) →
        ∀ q, parse body = .ok q ↔ parse other = .ok q) ∧
      (items.map Item.says = items'.map Item.says → parse body = parse other)) ∧
    (∀ line rest : String, '\n' ∉ line.toList → parse (line ++ "\n" ++ rest) = parse line) ∧
    ∀ c : Run, c.IsSolid → parse c.written = .ok (some (.run c)) := by
  refine ⟨fun _ => parse_eq_none_iff, fun _ _ => parse_eq_run_iff, ?_, ?_, fun _ => parse_written⟩
  · intro body other word items items' hbody hother
    refine ⟨fun hperm q => ⟨?_, ?_⟩, fun hsays => ?_⟩
    · exact parse_of_perm hbody hother hperm
    · exact parse_of_perm hother hbody hperm.symm
    · rw [parse_of_items hbody, parse_of_items hother, hsays]
  · intro line rest hline
    show parseWords (tokens _) = parseWords (tokens _)
    rw [tokens_append hline]

/-- Two flags in two orders and spellings, with thanks below the one and nothing below the
other. -/
theorem understood_iff_grammatical_thanks :
    parse "/turnip apply --directory=charts --environment prod\nthanks!" =
        .ok (some (.run ⟨.lift, some "charts", some (.environment, "prod")⟩)) ∧
      parse "/turnip apply -e=prod -d charts" =
        .ok (some (.run ⟨.lift, some "charts", some (.environment, "prod")⟩)) := by
  let items : List Item := [
    ⟨"--directory", .directory, "charts", true, by decide⟩,
    ⟨"--environment", .scope .environment, "prod", false, by decide⟩]
  let items' : List Item := [
    ⟨"-e", .scope .environment, "prod", true, by decide⟩,
    ⟨"-d", .directory, "charts", false, by decide⟩]
  have htokens : tokens "/turnip apply --directory=charts --environment prod\nthanks!" =
      "/turnip" :: "apply" :: items.flatMap Item.words := by decide +kernel
  have htokens' : tokens "/turnip apply -e=prod -d charts" =
      "/turnip" :: "apply" :: items'.flatMap Item.words := by decide +kernel
  have hrun := (understood_iff_grammatical.2.1 _ ⟨.lift, some "charts", some (.environment, "prod")⟩).2
    ⟨"apply", items, htokens, by decide, rfl, rfl⟩
  have horder := understood_iff_grammatical.2.2.1 _ _ _ _ _ htokens htokens'
  exact ⟨hrun, (horder.1 (List.Perm.swap _ _ _) _).1 hrun⟩

end Groundwork.Chat
