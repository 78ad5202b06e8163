import LogSpool.Shell.Line
import Mathlib.Data.List.DropRight

/-!
# The grammar of the shell's lines

This module says which lines the shell reads as which command, without a look at how they are read.  What
counts is the line without the blanks around it: nothing, one of four words, or three parts with bars
between them.  The parts are cut at the first two bars, and blanks around a part do not count.

* `Text.Pads` — a text with blanks around it; `trim_eq_iff` says that trimming takes them off.
* `Shell.Barred` — a text cut at its first two bars; `two_le_count_bar_iff` says when there are two.
* `Shell.Command.Grammar` — what a trimmed line is read as, case by case.
* `ofLine_follows_grammar` — every line is read so, and a triple written with bars is read back.
-/

namespace LogSpool

/-! ## Blanks -/

namespace Text

/-- All characters of a text are blank. -/
def AllBlank (s : List Char) : Prop :=
  ∀ c ∈ s, isBlank c = true

instance (s : List Char) : Decidable (AllBlank s) :=
  inferInstanceAs (Decidable (∀ c ∈ s, isBlank c = true))

/-- No blank stands at either end of a text. -/
def Trimmed (s : List Char) : Prop :=
  (∀ c ∈ s.head?, isBlank c = false) ∧ ∀ c ∈ s.getLast?, isBlank c = false

/-- The second text is the first one, which is trimmed, with blanks around it. -/
def Pads (t s : List Char) : Prop :=
  Trimmed t ∧ ∃ before after, AllBlank before ∧ AllBlank after ∧ s = before ++ t ++ after

theorem trimStart_append {before : List Char} (h : AllBlank before) (s : List Char) :
    trimStart (before ++ s) = trimStart s :=
  List.dropWhile_append_of_pos h

theorem trimStart_of_head {s : List Char} (h : ∀ c ∈ s.head?, isBlank c = false) :
    trimStart s = s := by
  cases s with
  | nil => rfl
  | cons c s =>
      have hc : isBlank c = false := h c rfl
      simp [trimStart, hc]

theorem trimEnd_append (s : List Char) {after : List Char} (h : AllBlank after) :
    trimEnd (s ++ after) = trimEnd s := by
  have hreverse : ∀ c ∈ after.reverse, isBlank c = true := fun c hc => h c (List.mem_reverse.1 hc)
  rw [trimEnd, List.reverse_append, List.dropWhile_append_of_pos hreverse]
  rfl

theorem trimEnd_of_getLast {s : List Char} (h : ∀ c ∈ s.getLast?, isBlank c = false) :
    trimEnd s = s := by
  have hreverse : trimStart s.reverse = s.reverse :=
    trimStart_of_head (by rwa [List.head?_reverse])
  exact (congrArg List.reverse hreverse).trans s.reverse_reverse

/-- A text is its trimmed part with blanks around it. -/
theorem pads_trim (s : List Char) : Pads (trim s) s := by
  have hfront : s.takeWhile isBlank ++ trimStart s = s := List.takeWhile_append_dropWhile
  have hback : trim s ++ (trimStart s).rtakeWhile isBlank = trimStart s :=
    List.rdropWhile_append_rtakeWhile
  refine ⟨⟨fun c hc => ?_, fun c hc => ?_⟩, s.takeWhile isBlank, (trimStart s).rtakeWhile isBlank,
    fun c hc => List.mem_takeWhile_imp hc, fun c hc => List.mem_rtakeWhile_imp hc, ?_⟩
  · -- the first character that is left is one where dropping stopped
    have hhead : (trimStart s).head? = some c := by
      rw [← hback, List.head?_append, Option.mem_def.1 hc]
      rfl
    exact Bool.eq_false_iff.2 fun hblank => by
      have hnot := List.head?_dropWhile_not isBlank s
      rw [show (s.dropWhile isBlank).head? = some c from hhead] at hnot
      simp [hblank] at hnot
  · have hlast : ((trimStart s).reverse.dropWhile isBlank).head? = some c := by
      have hc' := Option.mem_def.1 hc
      rwa [trim, trimEnd, List.getLast?_reverse] at hc'
    have hnot := List.head?_dropWhile_not isBlank (trimStart s).reverse
    rw [hlast] at hnot
    simpa using hnot
  · rw [List.append_assoc, hback, hfront]

/-- Trimming takes off the blanks around a text, all of them and nothing else. -/
theorem trim_eq_iff {s t : List Char} : trim s = t ↔ Pads t s := by
  constructor
  · rintro rfl
    exact pads_trim s
  · rintro ⟨⟨hhead, hlast⟩, before, after, hbefore, hafter, rfl⟩
    rw [trim, List.append_assoc, trimStart_append hbefore]
    cases t with
    | nil =>
        rw [List.nil_append, ← List.append_nil after, trimStart_append hafter]
        rfl
    | cons c t =>
        rw [trimStart_of_head (s := c :: t ++ after) hhead, trimEnd_append _ hafter,
          trimEnd_of_getLast hlast]

theorem trim_eq_nil_iff {s : List Char} : trim s = [] ↔ AllBlank s := by
  rw [trim_eq_iff]
  constructor
  · rintro ⟨-, before, after, hbefore, hafter, rfl⟩
    rw [List.append_nil]
    exact fun c hc => (List.mem_append.1 hc).elim (hbefore c) (hafter c)
  · intro h
    exact ⟨⟨nofun, nofun⟩, s, [], h, nofun, by simp⟩

end Text

namespace Shell

/-! ## Bars -/

/-- A text cut at its first two bars.  The last part may hold further ones. -/
structure Barred (text level source message : List Char) : Prop where
  text : text = level ++ '|' :: source ++ '|' :: message
  level : '|' ∉ level
  source : '|' ∉ source

theorem cutAtBar_of_not_mem {text : List Char} (h : '|' ∉ text) : cutAtBar text = (text, none) := by
  induction text with
  | nil => rfl
  | cons c text ih =>
      rw [List.mem_cons, not_or] at h
      rw [cutAtBar, if_neg (Ne.symm h.1), ih h.2]

theorem cutAtBar_append {before : List Char} (h : '|' ∉ before) (after : List Char) :
    cutAtBar (before ++ '|' :: after) = (before, some after) := by
  induction before with
  | nil => rfl
  | cons c before ih =>
      rw [List.mem_cons, not_or] at h
      rw [List.cons_append, cutAtBar, if_neg (Ne.symm h.1), ih h.2]

/-- A text with two bars can be cut, and no other one. -/
theorem two_le_count_bar_iff {text : List Char} :
    2 ≤ text.count '|' ↔ ∃ level source message, Barred text level source message := by
  constructor
  · intro h
    have hfirst : '|' ∈ text := List.count_pos_iff.1 (by omega)
    obtain ⟨level, rest, rfl, hlevel⟩ := List.eq_append_cons_of_mem hfirst
    rw [List.count_append, List.count_eq_zero.2 hlevel, List.count_cons_self] at h
    have hsecond : '|' ∈ rest := List.count_pos_iff.1 (by omega)
    obtain ⟨source, message, rfl, hsource⟩ := List.eq_append_cons_of_mem hsecond
    exact ⟨level, source, message, by simp, hlevel, hsource⟩
  · rintro ⟨level, source, message, rfl, -, -⟩
    simp only [List.count_append, List.count_cons_self]
    omega

/-- There is one way to cut a text. -/
theorem Barred.unique {text level source message level' source' message' : List Char}
    (h : Barred text level source message) (h' : Barred text level' source' message') :
    level' = level ∧ source' = source ∧ message' = message := by
  obtain ⟨rfl, hlevel, hsource⟩ := h
  obtain ⟨htext, hlevel', hsource'⟩ := h'
  rw [List.append_assoc, List.append_assoc, List.cons_append, List.cons_append] at htext
  have hfirst := congrArg cutAtBar htext
  rw [cutAtBar_append hlevel, cutAtBar_append hlevel', Prod.mk.injEq, Option.some.injEq] at hfirst
  have hsecond := congrArg cutAtBar hfirst.2
  rw [cutAtBar_append hsource, cutAtBar_append hsource', Prod.mk.injEq, Option.some.injEq] at hsecond
  exact ⟨hfirst.1.symm, hsecond.1.symm, hsecond.2.symm⟩

/-! ## Entries -/

theorem entryOf_of_count_lt (defaultSource : String) {text : List Char} (h : text.count '|' < 2) :
    entryOf defaultSource text = .invalid := by
  unfold entryOf
  by_cases hfirst : '|' ∈ text
  · obtain ⟨level, rest, rfl, hlevel⟩ := List.eq_append_cons_of_mem hfirst
    rw [List.count_append, List.count_cons_self] at h
    have hrest : '|' ∉ rest := List.count_eq_zero.1 (by omega)
    rw [cutAtBar_append hlevel]
    dsimp only
    rw [cutAtBar_of_not_mem hrest]
  · rw [cutAtBar_of_not_mem hfirst]

theorem entryOf_of_barred (defaultSource : String) {text level source message : List Char}
    (h : Barred text level source message) :
    entryOf defaultSource text =
      if Text.AllBlank message then .invalid
      else .add ⟨partOr defaultLevel level, partOr defaultSource source,
        String.ofList (Text.trim message)⟩ := by
  obtain ⟨rfl, hlevel, hsource⟩ := h
  unfold entryOf
  rw [List.append_assoc, List.cons_append, cutAtBar_append hlevel]
  dsimp only
  rw [cutAtBar_append hsource]
  simp only [List.isEmpty_iff, Text.trim_eq_nil_iff]

/-- A part is the text in it, or the default where it is blank. -/
theorem partOr_of_pads (default : String) {part text : List Char} (h : Text.Pads text part) :
    partOr default part = if text = [] then default else String.ofList text := by
  rw [partOr, Text.trim_eq_iff.2 h]
  simp only [List.isEmpty_iff]

/-! ## The grammar -/

namespace Command

/-- The words that are commands. -/
def words : List (String × Command) :=
  [("quit", .quit), ("process", .process), ("metrics", .metrics), ("pending", .pending)]

/-- A trimmed line that is an entry: it has two bars, and what comes after the second one is not
blank. -/
def IsEntry (text : List Char) : Prop :=
  2 ≤ text.count '|' ∧ ∀ level source message, Barred text level source message →
    ¬ Text.AllBlank message

/-- What a trimmed line is read as, case by case. -/
structure Grammar (defaultSource : String) (text : List Char) (command : Command) : Prop where
  skip : command = .skip ↔ text = []
  word : ∀ w ∈ words, command = w.2 ↔ text = w.1.toList
  add : (∃ fields, command = .add fields) ↔ IsEntry text
  invalid : command = .invalid ↔ text ≠ [] ∧ (∀ w ∈ words, text ≠ w.1.toList) ∧ ¬ IsEntry text
  /-- The fields are the three parts without the blanks around them.  A level or a source in which
  nothing is left is the default one. -/
  fields : ∀ level source message l s m, Barred text level source message →
    Text.Pads l level → Text.Pads s source → Text.Pads m message → m ≠ [] →
      command = .add ⟨if l = [] then "INFO" else String.ofList l,
        if s = [] then defaultSource else String.ofList s, String.ofList m⟩

/-- A line is blank, or a word, or looked at as an entry. -/
theorem ofLine_cases (defaultSource line : String) :
    let text := Text.trim line.toList
    (text = [] ∧ ofLine defaultSource line = .skip) ∨
      (∃ w ∈ words, text = w.1.toList ∧ ofLine defaultSource line = w.2) ∨
      (text ≠ [] ∧ (∀ w ∈ words, text ≠ w.1.toList) ∧
        ofLine defaultSource line = entryOf defaultSource text) := by
  intro text
  have hread {w : String} (h : String.ofList text = w) : text = w.toList := by
    rw [← h, String.toList_ofList]
  unfold ofLine
  dsimp only
  split
  · exact Or.inl ⟨hread (w := "") ‹_›, rfl⟩
  · exact Or.inr (Or.inl ⟨("quit", .quit), by simp [words], hread ‹_›, rfl⟩)
  · exact Or.inr (Or.inl ⟨("process", .process), by simp [words], hread ‹_›, rfl⟩)
  · exact Or.inr (Or.inl ⟨("metrics", .metrics), by simp [words], hread ‹_›, rfl⟩)
  · exact Or.inr (Or.inl ⟨("pending", .pending), by simp [words], hread ‹_›, rfl⟩)
  · rename_i hblank hquit hprocess hmetrics hpending
    have hother {w : String} (h : String.ofList text ≠ w) : text ≠ w.toList := by
      rintro heq
      exact h (by rw [heq, String.ofList_toList])
    refine Or.inr (Or.inr ⟨hother (w := "") hblank, ?_, rfl⟩)
    simp only [words, List.forall_mem_cons]
    exact ⟨hother hquit, hother hprocess, hother hmetrics, hother hpending, nofun⟩

theorem not_isEntry_of_count_lt {text : List Char} (h : text.count '|' < 2) : ¬ IsEntry text :=
  fun hentry => absurd hentry.1 (Nat.not_le_of_lt h)

theorem isEntry_iff {text level source message : List Char} (h : Barred text level source message) :
    IsEntry text ↔ ¬ Text.AllBlank message := by
  constructor
  · exact fun hentry => hentry.2 _ _ _ h
  · intro hsaid
    refine ⟨two_le_count_bar_iff.2 ⟨_, _, _, h⟩, fun _ _ _ h' => ?_⟩
    rwa [(h.unique h').2.2]

/-- Of an entry all three parts can be told. -/
theorem not_fields_of_not_isEntry {text level source message m : List Char} (h : ¬ IsEntry text)
    (hbarred : Barred text level source message) (hm : Text.Pads m message) : m = [] := by
  rw [isEntry_iff hbarred, not_not] at h
  exact (Text.trim_eq_iff.2 hm).symm.trans (Text.trim_eq_nil_iff.2 h)

theorem grammar_skip (defaultSource : String) : Grammar defaultSource [] .skip where
  skip := by simp
  word := by decide
  add := ⟨nofun, fun h => absurd h (not_isEntry_of_count_lt (by decide))⟩
  invalid := ⟨nofun, fun h => absurd rfl h.1⟩
  fields _ _ _ _ _ _ h _ _ hm hsome :=
    absurd (not_fields_of_not_isEntry (not_isEntry_of_count_lt (by decide)) h hm) hsome

theorem grammar_word (defaultSource : String) {w : String × Command} (hw : w ∈ words) :
    Grammar defaultSource w.1.toList w.2 := by
  have hbars : ∀ w ∈ words, w.1.toList.count '|' < 2 := by decide
  have hno := not_isEntry_of_count_lt (hbars w hw)
  have hother : ∀ w ∈ words, w.2 ≠ .skip ∧ w.2 ≠ .invalid ∧ w.1.toList ≠ [] ∧
      ∀ fields, w.2 ≠ .add fields := by simp [words]
  have hwords : ∀ w ∈ words, ∀ w' ∈ words, w.2 = w'.2 ↔ w.1.toList = w'.1.toList := by decide
  obtain ⟨hskip, hinvalid, hsome, hadd⟩ := hother w hw
  exact {
    skip := ⟨fun h => absurd h hskip, fun h => absurd h hsome⟩
    word := hwords w hw
    add := ⟨fun ⟨fields, h⟩ => absurd h (hadd fields), fun h => absurd h hno⟩
    invalid := ⟨fun h => absurd h hinvalid, fun h => absurd rfl (h.2.1 w hw)⟩
    fields := fun _ _ _ _ _ _ h _ _ hm hsaid => absurd (not_fields_of_not_isEntry hno h hm) hsaid }

section

variable (defaultSource : String) {text : List Char} (hsome : text ≠ [])
  (hwords : ∀ w ∈ words, text ≠ w.1.toList)

include hsome hwords

theorem grammar_invalid (hno : ¬ IsEntry text) : Grammar defaultSource text .invalid where
  skip := ⟨nofun, fun h => absurd h hsome⟩
  word w hw := by
    have hother : ∀ w ∈ words, Command.invalid ≠ w.2 := by decide
    exact ⟨fun h => absurd h (hother w hw), fun h => absurd h (hwords w hw)⟩
  add := ⟨nofun, fun h => absurd h hno⟩
  invalid := ⟨fun _ => ⟨hsome, hwords, hno⟩, fun _ => rfl⟩
  fields _ _ _ _ _ _ h _ _ hm hsaid := absurd (not_fields_of_not_isEntry hno h hm) hsaid

theorem grammar_entry {level source message : List Char} (h : Barred text level source message)
    (hsaid : ¬ Text.AllBlank message) :
    Grammar defaultSource text (.add ⟨partOr defaultLevel level, partOr defaultSource source,
      String.ofList (Text.trim message)⟩) where
  skip := ⟨nofun, fun h => absurd h hsome⟩
  word w hw := by
    have hother : ∀ w ∈ words, ∀ fields, Command.add fields ≠ w.2 := by simp [words]
    exact ⟨fun h => absurd h (hother w hw _), fun h => absurd h (hwords w hw)⟩
  add := ⟨fun _ => (isEntry_iff h).2 hsaid, fun _ => ⟨_, rfl⟩⟩
  invalid := ⟨nofun, fun ⟨_, _, hno⟩ => absurd ((isEntry_iff h).2 hsaid) hno⟩
  fields level' source' message' l s m h' hl hs hm _ := by
    obtain ⟨rfl, rfl, rfl⟩ := h.unique h'
    rw [partOr_of_pads _ hl, partOr_of_pads _ hs, Text.trim_eq_iff.2 hm]
    rfl

/-- What is looked at as an entry is one, or no command at all. -/
theorem grammar_entryOf : Grammar defaultSource text (entryOf defaultSource text) := by
  rcases Nat.lt_or_ge (text.count '|') 2 with hfew | henough
  · rw [entryOf_of_count_lt defaultSource hfew]
    exact grammar_invalid defaultSource hsome hwords (not_isEntry_of_count_lt hfew)
  · obtain ⟨level, source, message, h⟩ := two_le_count_bar_iff.1 henough
    rw [entryOf_of_barred defaultSource h]
    split
    · exact grammar_invalid defaultSource hsome hwords fun hentry => (isEntry_iff h).1 hentry ‹_›
    · exact grammar_entry defaultSource hsome hwords h ‹_›

end

/-- Every line is read by the grammar. -/
theorem ofLine_grammar (defaultSource line : String) :
    Grammar defaultSource (Text.trim line.toList) (ofLine defaultSource line) := by
  rcases ofLine_cases defaultSource line with
    ⟨htext, hline⟩ | ⟨w, hw, htext, hline⟩ | ⟨hsome, hwords, hline⟩
  · rw [htext, hline]
    exact grammar_skip defaultSource
  · rw [htext, hline]
    exact grammar_word defaultSource hw
  · rw [hline]
    exact grammar_entryOf defaultSource hsome hwords

/-! ## Triples -/

/-- Blanks around a text hold no bar. -/
theorem bar_not_mem_of_pads {t s : List Char} (h : Text.Pads t s) (ht : '|' ∉ t) : '|' ∉ s := by
  obtain ⟨-, before, after, hbefore, hafter, rfl⟩ := h
  have hbar {blanks : List Char} (hblanks : Text.AllBlank blanks) : '|' ∉ blanks :=
    fun hmem => absurd (hblanks _ hmem) (by decide)
  simp only [List.mem_append, not_or]
  exact ⟨⟨hbar hbefore, ht⟩, hbar hafter⟩

/-- To trim a line that begins and ends with something leaves the middle of it as it is. -/
theorem trim_between {t u s r : List Char} (hs : Text.Pads t s) (hr : Text.Pads u r) (ht : t ≠ [])
    (hu : u ≠ []) (middle : List Char) : ∃ s' r',
      Text.trim (s ++ middle ++ r) = s' ++ middle ++ r' ∧ Text.Pads t s' ∧ Text.Pads u r' := by
  obtain ⟨htrimmed, before, after, hbefore, hafter, rfl⟩ := hs
  obtain ⟨hutrimmed, before', after', hbefore', hafter', rfl⟩ := hr
  refine ⟨t ++ after, before' ++ u, ?_, ⟨htrimmed, [], after, nofun, hafter, by simp⟩,
    ⟨hutrimmed, before', [], hbefore', nofun, by simp⟩⟩
  rw [Text.trim_eq_iff]
  refine ⟨⟨?_, ?_⟩, before, after', hbefore, hafter', by simp⟩
  · intro c hc
    refine htrimmed.1 c ?_
    obtain ⟨first, rest, rfl⟩ := List.exists_cons_of_ne_nil ht
    exact hc
  · intro c hc
    refine hutrimmed.2 c ?_
    rwa [← List.append_assoc, List.getLast?_append_of_ne_nil _ hu] at hc

/-- A triple that is written with bars, and with any blanks around its parts, is read back. -/
theorem ofLine_triple (defaultSource : String) {f : Fields} {level source message : List Char}
    (hlevel : Text.Pads f.level.toList level) (hsource : Text.Pads f.source.toList source)
    (hmessage : Text.Pads f.message.toList message) (hl : f.level ≠ "") (hs : f.source ≠ "")
    (hm : f.message ≠ "") (hlbar : '|' ∉ f.level.toList) (hsbar : '|' ∉ f.source.toList) :
    ofLine defaultSource (String.ofList (level ++ '|' :: source ++ '|' :: message)) = .add f := by
  have hsome {s : String} (h : s ≠ "") : s.toList ≠ [] := mt String.toList_eq_nil_iff.1 h
  have hgrammar := ofLine_grammar defaultSource
    (String.ofList (level ++ '|' :: source ++ '|' :: message))
  obtain ⟨level', message', htrim, hlevel', hmessage'⟩ :=
    trim_between hlevel hmessage (hsome hl) (hsome hm) ('|' :: source ++ ['|'])
  have hline : level ++ '|' :: source ++ '|' :: message =
      level ++ ('|' :: source ++ ['|']) ++ message := by simp
  rw [hline] at hgrammar ⊢
  rw [String.toList_ofList, htrim] at hgrammar
  have hbarred : Barred (level' ++ ('|' :: source ++ ['|']) ++ message') level' source message' :=
    ⟨by simp, bar_not_mem_of_pads hlevel' hlbar, bar_not_mem_of_pads hsource hsbar⟩
  have hadd := hgrammar.fields _ _ _ _ _ _ hbarred hlevel' hsource hmessage' (hsome hm)
  rw [if_neg (hsome hl), if_neg (hsome hs)] at hadd
  simpa only [String.ofList_toList] using hadd

end Command

/-- The shell reads exactly the lines of its grammar.  A line has one trimmed text in it, and that is
read case by case: as nothing where it is empty, as a command where it is one of the four words, as an
entry where it has two bars and something is said after the second one, and as no command otherwise.  The
message keeps all further bars.

So a triple that is written with bars between its parts, and with any blanks around them, is read back as
it is. -/
theorem ofLine_follows_grammar (defaultSource : String) :
    (∀ line : String, ∃ text, Text.Pads text line.toList ∧
      (∀ other, Text.Pads other line.toList → other = text) ∧
      (Command.ofLine defaultSource line).Grammar defaultSource text) ∧
    ∀ (f : Fields) (level source message : List Char), Text.Pads f.level.toList level →
      Text.Pads f.source.toList source → Text.Pads f.message.toList message → f.level ≠ "" →
      f.source ≠ "" → f.message ≠ "" → '|' ∉ f.level.toList → '|' ∉ f.source.toList →
      Command.ofLine defaultSource (String.ofList (level ++ '|' :: source ++ '|' :: message)) =
        .add f := by
  refine ⟨fun line => ⟨Text.trim line.toList, Text.pads_trim _, ?_, ?_⟩, ?_⟩
  · exact fun other h => (Text.trim_eq_iff.2 h).symm
  · exact Command.ofLine_grammar defaultSource line
  · intro f level source message hlevel hsource hmessage
    exact Command.ofLine_triple defaultSource hlevel hsource hmessage

/-- A triple between wide spaces and tabs, a line that begins with a bar, one that ends with its second
bar, and a word in capital letters. -/
theorem ofLine_follows_grammar_of_padded_fields :
    Command.ofLine "cli" "\u3000WARN\t| web | a|b\u2028" = .add ⟨"WARN", "web", "a|b"⟩ ∧
      Command.ofLine "cli" " |web|m|" = .add ⟨"INFO", "web", "m|"⟩ ∧
      Command.ofLine "cli" "INFO|cli|  " = .invalid ∧ Command.ofLine "cli" "QUIT" = .invalid := by
  obtain ⟨hreads, htriple⟩ := ofLine_follows_grammar "cli"
  have hpads {t s : String} (h : Text.trim s.toList = t.toList) : Text.Pads t.toList s.toList :=
    Text.trim_eq_iff.1 h
  refine ⟨?_, ?_, ?_, ?_⟩
  · exact htriple ⟨"WARN", "web", "a|b"⟩ "\u3000WARN\t".toList " web ".toList " a|b\u2028".toList
      (hpads (by decide)) (hpads (by decide)) (hpads (by decide)) (by decide) (by decide) (by decide)
      (by decide) (by decide)
  · obtain ⟨text, -, honly, hgrammar⟩ := hreads " |web|m|"
    obtain rfl := honly "|web|m|".toList (hpads (by decide))
    exact hgrammar.fields [] "web".toList "m|".toList [] "web".toList "m|".toList
      ⟨by decide, by decide, by decide⟩ (hpads (t := "") (s := "") (by decide)) (hpads (by decide))
      (hpads (by decide)) (by decide)
  · obtain ⟨text, -, honly, hgrammar⟩ := hreads "INFO|cli|  "
    obtain rfl := honly "INFO|cli|".toList (hpads (by decide))
    have hbarred : Barred "INFO|cli|".toList "INFO".toList "cli".toList [] :=
      ⟨by decide, by decide, by decide⟩
    exact hgrammar.invalid.2 ⟨by decide, by decide, fun hentry => hentry.2 _ _ _ hbarred nofun⟩
  · obtain ⟨text, -, honly, hgrammar⟩ := hreads "QUIT"
    obtain rfl := honly "QUIT".toList (hpads (by decide))
    exact hgrammar.invalid.2 ⟨by decide, by decide, fun hentry => absurd hentry.1 (by decide)⟩

end Shell

end LogSpool
