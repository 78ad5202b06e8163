import LogSpool.Proofs.Engine.Termination
import LogSpool.Proofs.Sink.Obliging
import LogSpool.Proofs.Text.Lines
import LogSpool.Shell.Session
import Mathlib.Data.List.TakeWhile

/-!
# Sessions of the shell

This module shows that a session of the shell is the run of its lines up to the first that asks for the
end or is no text.  The commands of these lines are carried out one after the other, each on the engine
that the ones before it left, and what they make the shell say is its transcript.  If the sink answers every
call, no error of the engine changes this.

The end of a session is a matter of its lines alone.  So an input that ends a line and does not ask for the
end can be followed by another: both have the effect of two sessions.

* `Station.processAlone_of_replies`, `Station.addLog_of_replies` — the calls that a sink which answers lets
  come to an end.
* `commandsOf`, `endingOf` — what lines ask for, and how a session on them ends.
* `Command.operations`, `reactionsTo` — what commands make of an engine, and what the shell says to the
  answers; by `perform_eq` that is how a command is carried out.
* `Ready`, `asked_of_ready` — an engine whose calls are answered, and one command on it.
* `runLines_of_ready` — the run of lines.
* `session_runs_lines_until_quit` — the run of an input, and of two.
-/

namespace LogSpool

variable {σ : Type} [Sink σ] {P : σ → Prop}

/-! ## Calls of an engine -/

theorem Outcome.map_ne_abandoned {α β : Type} {outcome : Outcome α} (h : outcome ≠ .abandoned)
    (g : α → β) : outcome.map g ≠ .abandoned := by
  cases outcome <;> simp_all [Outcome.map]

theorem Outcome.ofExcept_ne_abandoned {α : Type} (answer : Except EngineError α) :
    Outcome.ofExcept answer ≠ .abandoned := by
  cases answer <;> simp [Outcome.ofExcept]

namespace Station

/-- A batch that nobody is in the way of is not given up, and nobody is in the way of the next one. -/
theorem processAlone_of_replies (hP : Sink.Replies P) (config : EngineConfig) (maxItems : Nat)
    {s : Station σ} (hidle : s.busy = false) (hs : P s.sink) :
    let batch := s.processAlone (Engine.intrude config) maxItems
    batch.1 ≠ .abandoned ∧ batch.2.busy = false ∧ P batch.2.sink := by
  have hprocess : process (Engine.intrude config) maxItems { s with busy := true } = (_, _) := rfl
  obtain ⟨taken, hyields, -, hreplies⟩ :=
    process_yields (Engine.intrude_onlyErrands config) hprocess
  rw [processAlone, if_neg (by simp [hidle])]
  exact ⟨hreplies hP hs, rfl, hyields.sink hP hs⟩

/-- A call that hands in an entry is answered, also where a batch follows. -/
theorem addLog_of_replies (hP : Sink.Replies P) (config : EngineConfig) (f : Fields)
    {s : Station σ} (hidle : s.busy = false) (hs : P s.sink) :
    let call := s.addLog config (Engine.intrude config) f
    call.1 ≠ .abandoned ∧ call.2.busy = false ∧ P call.2.sink := by
  obtain ⟨hbeside, hexits⟩ := s.addLog_exits config (Engine.intrude config) f
  have hidle := hbeside.busy.trans hidle
  have hs : P (s.enqueue f.withDefaults).2.sink := hbeside.sink ▸ hs
  rcases hexits with ⟨why, -, -, hexit⟩ | ⟨-, -, -, ⟨-, hexit⟩ | ⟨-, hexit⟩⟩ <;> rw [hexit]
  · exact ⟨by simp, hidle, hs⟩
  · exact ⟨by simp, hidle, hs⟩
  · obtain ⟨hanswered, hafter⟩ := processAlone_of_replies hP config config.processBatchSize
      (s := (s.enqueue f.withDefaults).2.record (.thresholdReached _)) hidle hs
    exact ⟨Outcome.map_ne_abandoned hanswered _, hafter⟩

end Station

namespace Shell

open Text.Utf8 (encode)

/-! ## Lines -/

section Lines

variable (defaultSource : String)

/-- Reads the bytes of a line. -/
def readLine (line : List UInt8) : Except Text.Utf8.Flaw Command :=
  (Text.Utf8.decode line).map fun text => .ofLine defaultSource (String.ofList text)

/-- Whether a session goes on after a line. -/
def goesOn (line : List UInt8) : Bool :=
  match readLine defaultSource line with
  | .ok command => decide (command ≠ .quit)
  | .error _ => false

/-- The commands of the lines before the first one that ends a session. -/
def commandsOf (lines : List (List UInt8)) : List Command :=
  (lines.takeWhile (goesOn defaultSource)).filterMap fun line => (readLine defaultSource line).toOption

/-- How the first line that ends a session ends it; without one, the lines are exhausted. -/
def endingOf (lines : List (List UInt8)) : Ending :=
  match (lines.dropWhile (goesOn defaultSource)).head? with
  | none => .exhausted
  | some line =>
    match readLine defaultSource line with
    | .ok _ => .left
    | .error flaw => .unreadable flaw

variable {defaultSource}

theorem readLine_encode (text : String) :
    readLine defaultSource (encode text) = .ok (.ofLine defaultSource text) := by
  rw [readLine, Text.Utf8.decode_encode]
  simp [Except.map]

theorem readLine_eq_ok {line : List UInt8} {command : Command}
    (h : readLine defaultSource line = .ok command) :
    ∃ text, line = encode text ∧ command = .ofLine defaultSource text := by
  cases hdecode : Text.Utf8.decode line with
  | error flaw =>
      rw [readLine, hdecode] at h
      cases h
  | ok chars =>
      obtain ⟨text, rfl⟩ := Text.Utf8.exists_decode_iff.mp ⟨chars, hdecode⟩
      rw [readLine_encode] at h
      exact ⟨text, rfl, (Except.ok.inj h).symm⟩

/-- A session goes on after a line that is a text and does not ask for the end. -/
theorem goesOn_iff {line : List UInt8} : goesOn defaultSource line = true ↔
    ∃ text, line = encode text ∧ Command.ofLine defaultSource text ≠ .quit := by
  unfold goesOn
  constructor
  · intro h
    split at h
    · rename_i command hread
      obtain ⟨text, rfl, rfl⟩ := readLine_eq_ok hread
      exact ⟨text, rfl, by simpa using h⟩
    · cases h
  · rintro ⟨text, rfl, hquit⟩
    rw [readLine_encode]
    simpa using hquit

theorem commandsOf_append {front : List (List UInt8)} (h : ∀ line ∈ front, goesOn defaultSource line = true)
    (back : List (List UInt8)) : commandsOf defaultSource (front ++ back) =
      commandsOf defaultSource front ++ commandsOf defaultSource back := by
  have hfront : front.takeWhile (goesOn defaultSource) = front := List.takeWhile_eq_self_iff.mpr h
  rw [commandsOf, commandsOf, commandsOf, List.takeWhile_append_of_pos h, List.filterMap_append, hfront]

theorem endingOf_append {front : List (List UInt8)} (h : ∀ line ∈ front, goesOn defaultSource line = true)
    (back : List (List UInt8)) :
    endingOf defaultSource (front ++ back) = endingOf defaultSource back := by
  rw [endingOf, List.dropWhile_append_of_pos h, endingOf]

/-- Lines after all of which a session goes on are exhausted. -/
theorem endingOf_of_goesOn {lines : List (List UInt8)}
    (h : ∀ line ∈ lines, goesOn defaultSource line = true) :
    endingOf defaultSource lines = .exhausted := by
  have happend := endingOf_append h []
  rwa [List.append_nil] at happend

/-- A line after which a session goes on adds its command to those of the others. -/
theorem commandsOf_cons {text : String} (hquit : Command.ofLine defaultSource text ≠ .quit)
    (rest : List (List UInt8)) : commandsOf defaultSource (encode text :: rest) =
      .ofLine defaultSource text :: commandsOf defaultSource rest := by
  have hgo : goesOn defaultSource (encode text) = true := goesOn_iff.mpr ⟨text, rfl, hquit⟩
  rw [commandsOf, List.takeWhile_cons_of_pos hgo, List.filterMap_cons_some (by rw [readLine_encode]; rfl)]
  rfl

theorem endingOf_cons {line : List UInt8} (hgo : goesOn defaultSource line = true)
    (rest : List (List UInt8)) :
    endingOf defaultSource (line :: rest) = endingOf defaultSource rest :=
  have hall : ∀ found ∈ [line], goesOn defaultSource found = true := by simpa using hgo
  endingOf_append hall rest

/-- Nothing after a line that ends a session is a command of it. -/
theorem commandsOf_of_end {line : List UInt8} (hend : goesOn defaultSource line = false)
    (rest : List (List UInt8)) : commandsOf defaultSource (line :: rest) = [] := by
  rw [commandsOf, List.takeWhile_cons_of_neg (by simp [hend]), List.filterMap_nil]

theorem endingOf_of_end {line : List UInt8} (hend : goesOn defaultSource line = false)
    (rest : List (List UInt8)) : endingOf defaultSource (line :: rest) =
      match readLine defaultSource line with
      | .ok _ => .left
      | .error flaw => .unreadable flaw := by
  rw [endingOf, List.dropWhile_cons_of_neg (by simp [hend]), List.head?_cons]

theorem endingOf_ne_stuck (lines : List (List UInt8)) : endingOf defaultSource lines ≠ .stuck := by
  unfold endingOf
  split
  · simp
  · split <;> simp

/-- A line that is no text ends a session as such. -/
theorem endingOf_of_no_text {line : List UInt8} (h : ∀ text, line ≠ encode text)
    (rest : List (List UInt8)) : ∃ flaw, endingOf defaultSource (line :: rest) = .unreadable flaw := by
  have hend : goesOn defaultSource line = false := by
    rw [Bool.eq_false_iff]
    intro hgo
    obtain ⟨text, hline, -⟩ := goesOn_iff.mp hgo
    exact h text hline
  rw [endingOf_of_end hend]
  cases hread : readLine defaultSource line with
  | error flaw => exact ⟨flaw, rfl⟩
  | ok command =>
      obtain ⟨text, hline, -⟩ := readLine_eq_ok hread
      exact absurd hline (h text)

/-- A session ends at a line that is no text exactly if there is one before any that asks for the end. -/
theorem endingOf_unreadable_iff {lines : List (List UInt8)} :
    (∃ flaw, endingOf defaultSource lines = .unreadable flaw) ↔
      ∃ before line after, lines = before ++ line :: after ∧ (∀ text, line ≠ encode text) ∧
        ∀ text, encode text ∈ before → Command.ofLine defaultSource text ≠ .quit := by
  constructor
  · rintro ⟨flaw, hending⟩
    induction lines with
    | nil => cases hending
    | cons line rest ih =>
        cases hgo : goesOn defaultSource line with
        | true =>
            obtain ⟨before, found, after, rfl, hfound, hbefore⟩ := ih (endingOf_cons hgo rest ▸ hending)
            refine ⟨line :: before, found, after, rfl, hfound, fun text htext => ?_⟩
            rcases List.mem_cons.mp htext with rfl | htext
            · obtain ⟨same, hsame, hquit⟩ := goesOn_iff.mp hgo
              rwa [Text.Utf8.encode_inj.mp hsame]
            · exact hbefore text htext
        | false =>
            refine ⟨[], line, rest, rfl, ?_, by simp⟩
            rintro text rfl
            rw [endingOf_of_end hgo, readLine_encode] at hending
            cases hending
  · rintro ⟨before, line, after, rfl, hline, hbefore⟩
    induction before with
    | nil => exact endingOf_of_no_text hline after
    | cons first before ih =>
        cases hgo : goesOn defaultSource first with
        | true =>
            rw [List.cons_append, endingOf_cons hgo]
            exact ih fun text htext => hbefore text (List.mem_cons_of_mem first htext)
        | false =>
            -- a line that ends the session here does not ask for it, so it is no text either
            refine endingOf_of_no_text ?_ (before ++ line :: after)
            rintro text rfl
            have hquit := hbefore text List.mem_cons_self
            exact absurd (goesOn_iff.mpr ⟨text, rfl, hquit⟩) (by simp [hgo])

end Lines

/-! ## Commands -/

/-- What a command asks of an engine that may change it.  The report and the preview only read. -/
def Command.operations {σ : Type} : Command → List (Engine.Operation σ)
  | .process => [.process 0]
  | .add fields => [.addLog fields]
  | _ => []

/-- What is said on the output. -/
def Reaction.said? : Reaction → Option String
  | .say line => some line
  | _ => none

/-- What is said on the error output. -/
def Reaction.complaint? : Reaction → Option String
  | .complain line => some line
  | _ => none

/-- A call of an engine, as the shell looks at it: by which name it speaks of its failure, and what comes
of it, with the document that is to be shown, if there is one. -/
structure Asked where
  name : String
  outcome : Outcome (Option Json)

/-- What is said about a call. -/
def Asked.reaction (asked : Asked) : Reaction :=
  match asked.outcome with
  | .answered none => .silent
  | .answered (some document) => .say document.write
  | .failed why => .complain (asked.name ++ " failed: " ++ why.message)
  | .abandoned => .giveUp

/-- The call that a command makes. -/
def Command.asked? (e : Engine σ) : Command → Option Asked
  | .process => some ⟨"process", (e.process 0).1.map fun report => some (batchDocument report)⟩
  | .metrics => some ⟨"metrics", (Outcome.ofExcept e.report).map fun report => some report.document⟩
  | .pending => some ⟨"pending", (Outcome.ofExcept e.pending).map fun preview => some preview.document⟩
  | .add fields => some ⟨"enqueue", (e.addLog fields).1.map fun _ => none⟩
  | .skip | .quit | .invalid => none

/-- The reaction to a command is that to its call, if it makes one. -/
def reactionTo (command : Command) (e : Engine σ) : Reaction :=
  match command.asked? e with
  | some asked => asked.reaction
  | none =>
    if command = .quit then .leave
    else if command = .invalid then .complain "Invalid input. Expected LEVEL|SOURCE|MESSAGE"
    else .silent

/-- The reactions to commands, each of them on the engine that the ones before it left. -/
def reactionsTo : List Command → Engine σ → List Reaction
  | [], _ => []
  | command :: rest, e => reactionTo command e :: reactionsTo rest (e.run command.operations)

theorem reactionsTo_append (front back : List Command) (e : Engine σ) :
    reactionsTo (front ++ back) e =
      reactionsTo front e ++ reactionsTo back (e.run (front.flatMap Command.operations)) := by
  induction front generalizing e with
  | nil => rfl
  | cons command front ih =>
      rw [List.cons_append, reactionsTo, ih, reactionsTo, List.cons_append, List.flatMap_cons,
        Engine.run_append]

/-- An engine that runs no batch, and whose sink answers. -/
structure Ready (P : σ → Prop) (e : Engine σ) : Prop where
  idle : e.station.busy = false
  sink : P e.station.sink

/-- To carry out a command is to make its call, and to react to it. -/
theorem perform_eq (command : Command) (e : Engine σ) :
    perform command e = (reactionTo command e, e.run command.operations) := by
  cases command with
  | skip => rfl
  | quit => rfl
  | invalid => rfl
  | metrics =>
      rw [perform, reactionTo, Command.asked?]
      cases e.report <;> rfl
  | pending =>
      rw [perform, reactionTo, Command.asked?]
      cases e.pending <;> rfl
  | process =>
      -- the engine after a call is the same one whatever the answer is
      have hrun : e.run Command.process.operations = (e.process 0).2 := rfl
      rw [perform, reactionTo, Command.asked?, hrun]
      rcases e.process 0 with ⟨report | why | _, after⟩ <;> rfl
  | add fields =>
      have hrun : e.run (Command.add fields).operations = (e.addLog fields).2 := rfl
      rw [perform, reactionTo, Command.asked?, hrun]
      rcases e.addLog fields with ⟨id | why | _, after⟩ <;> rfl

theorem Asked.reaction_ne_leave (asked : Asked) : asked.reaction ≠ .leave := by
  unfold reaction
  split <;> simp

theorem Asked.reaction_ne_giveUp {asked : Asked} (h : asked.outcome ≠ .abandoned) :
    asked.reaction ≠ .giveUp := by
  unfold reaction
  split <;> simp_all

/-- Only the command that asks for the end ends a session. -/
theorem reactionTo_ne_leave {command : Command} (hquit : command ≠ .quit) (e : Engine σ) :
    reactionTo command e ≠ .leave := by
  unfold reactionTo
  split
  · exact Asked.reaction_ne_leave _
  · rw [if_neg hquit]
    split <;> simp

/-- The call of a command on an engine that is ready is answered, and the engine is ready for the next
one. -/
theorem asked_of_ready (hP : Sink.Replies P) (command : Command) {e : Engine σ} (h : Ready P e) :
    (∀ asked, command.asked? e = some asked → asked.outcome ≠ .abandoned) ∧
      Ready P (e.run command.operations) := by
  cases command with
  | skip => exact ⟨nofun, h⟩
  | quit => exact ⟨nofun, h⟩
  | invalid => exact ⟨nofun, h⟩
  | metrics =>
      refine ⟨fun asked hasked => ?_, h⟩
      obtain rfl := Option.some.inj hasked
      exact Outcome.map_ne_abandoned (Outcome.ofExcept_ne_abandoned e.report) _
  | pending =>
      refine ⟨fun asked hasked => ?_, h⟩
      obtain rfl := Option.some.inj hasked
      exact Outcome.map_ne_abandoned (Outcome.ofExcept_ne_abandoned e.pending) _
  | process =>
      obtain ⟨hanswered, hidle, hsink⟩ := Station.processAlone_of_replies hP e.config 0 h.idle h.sink
      refine ⟨fun asked hasked => ?_, hidle, hsink⟩
      obtain rfl := Option.some.inj hasked
      exact Outcome.map_ne_abandoned hanswered _
  | add fields =>
      obtain ⟨hanswered, hidle, hsink⟩ := Station.addLog_of_replies hP e.config fields h.idle h.sink
      refine ⟨fun asked hasked => ?_, hidle, hsink⟩
      obtain rfl := Option.some.inj hasked
      exact Outcome.map_ne_abandoned hanswered _

theorem reactionTo_ne_giveUp (hP : Sink.Replies P) (command : Command) {e : Engine σ} (h : Ready P e) :
    reactionTo command e ≠ .giveUp := by
  unfold reactionTo
  split
  · exact Asked.reaction_ne_giveUp ((asked_of_ready hP command h).1 _ ‹_›)
  · split
    · simp
    · split <;> simp

/-- Lines are run as far as they go: what their commands ask of the engine is done, in order, and nothing
else; what is said are the reactions to them; and the end is that of the lines. -/
theorem runLines_of_ready (hP : Sink.Replies P) (defaultSource : String) (lines : List (List UInt8))
    {e : Engine σ} (h : Ready P e) :
    let commands := commandsOf defaultSource lines
    let reactions := reactionsTo commands e
    runLines defaultSource lines e =
      (⟨reactions.filterMap Reaction.said?, reactions.filterMap Reaction.complaint?,
        endingOf defaultSource lines⟩, e.run (commands.flatMap Command.operations)) := by
  induction lines generalizing e with
  | nil => rfl
  | cons line rest ih =>
      cases hgo : goesOn defaultSource line with
      | true =>
          obtain ⟨text, rfl, hquit⟩ := goesOn_iff.mp hgo
          have hready := (asked_of_ready hP (.ofLine defaultSource text) h).2
          have hanswered := reactionTo_ne_giveUp hP (.ofLine defaultSource text) h
          have hstays := reactionTo_ne_leave hquit e
          rw [runLines, Text.Utf8.decode_encode, commandsOf_cons hquit, endingOf_cons hgo]
          simp only [String.ofList_toList, perform_eq, reactionsTo, List.flatMap_cons, Engine.run_append]
          cases hreaction : reactionTo (.ofLine defaultSource text) e with
          | silent => exact ih hready
          | say line =>
              simp only [ih hready]
              rfl
          | complain line =>
              simp only [ih hready]
              rfl
          | leave => exact absurd hreaction hstays
          | giveUp => exact absurd hreaction hanswered
      | false =>
          rw [commandsOf_of_end hgo, endingOf_of_end hgo]
          cases hread : Text.Utf8.decode line with
          | error flaw =>
              rw [runLines, hread, readLine, hread]
              rfl
          | ok chars =>
              obtain ⟨text, rfl⟩ := Text.Utf8.exists_decode_iff.mp ⟨chars, hread⟩
              have hquit : Command.ofLine defaultSource text = .quit := by
                by_contra hquit
                exact absurd (goesOn_iff.mpr ⟨text, rfl, hquit⟩) (by simp [hgo])
              rw [readLine_encode, runLines, Text.Utf8.decode_encode]
              simp only [String.ofList_toList, hquit]
              rfl

/-! ## Sessions -/

theorem ready_run (hP : Sink.Replies P) (commands : List Command) {e : Engine σ} (h : Ready P e) :
    Ready P (e.run (commands.flatMap Command.operations)) := by
  induction commands generalizing e with
  | nil => exact h
  | cons command commands ih =>
      rw [List.flatMap_cons, Engine.run_append]
      exact ih (asked_of_ready hP command h).2

/-- The run of an input is that of its lines, after the banner. -/
theorem run_of_ready (hP : Sink.Replies P) (defaultSource : String) (input : List UInt8) {e : Engine σ}
    (h : Ready P e) :
    let commands := commandsOf defaultSource (Text.lines input)
    let reactions := reactionsTo commands e
    run defaultSource input e =
      (⟨banner :: reactions.filterMap Reaction.said?, reactions.filterMap Reaction.complaint?,
        endingOf defaultSource (Text.lines input)⟩, e.run (commands.flatMap Command.operations)) := by
  rw [run, runLines_of_ready hP defaultSource (Text.lines input) h]
  rfl

/-- An input that ends a line, and none of whose lines ends the session, is run as a session of its own;
what follows it is run as another. -/
theorem run_append_of_ready (hP : Sink.Replies P) {defaultSource : String} {front : List UInt8}
    (hline : front.getLast? = some 0x0A)
    (hgo : ∀ line ∈ Text.lines front, goesOn defaultSource line = true) (back : List UInt8)
    {e : Engine σ} (h : Ready P e) :
    let first := run defaultSource front e
    let second := run defaultSource back first.2
    first.1.ending = .exhausted ∧ ∃ said, second.1.output = banner :: said ∧
      run defaultSource (front ++ back) e =
        (⟨first.1.output ++ said, first.1.errors ++ second.1.errors, second.1.ending⟩, second.2) := by
  have hready := ready_run hP (commandsOf defaultSource (Text.lines front)) h
  rw [run_of_ready hP defaultSource front h, run_of_ready hP defaultSource (front ++ back) h]
  dsimp only
  rw [run_of_ready hP defaultSource back hready]
  refine ⟨endingOf_of_goesOn hgo, _, rfl, ?_⟩
  rw [Text.lines_append hline, commandsOf_append hgo, endingOf_append hgo, reactionsTo_append,
    List.filterMap_append, List.filterMap_append, List.flatMap_append, Engine.run_append]
  rfl

/-- A session of the shell is the run of its lines up to the first that asks for the end.  The engine is one
after some session of its own, with whatever storage, and its sink answers every call.  Then, for every
input:

* what the commands of these lines ask of the engine is done to it, in order, and nothing else; the texts on
  the output and the error output are the reactions to what their calls come to, each of them on the engine
  that the ones before it left;
* the session ends at a line that is no text exactly if there is one before any line that asks for the end,
  and otherwise at such a line or after the last one; no answer of the engine ends it.

Let an input be a text that ends a line and has no line that asks for the end.  With any bytes after it,
it leaves the engine that a session on these bytes leaves after one on the text, and says what both say,
but the banner once. -/
theorem session_runs_lines_until_quit (hP : Sink.Replies P) {config : EngineConfig} {sink : σ}
    {clock : Clock} {storage : Storage} {opened : Engine σ}
    (he : Engine.withSink config sink clock storage = .ok opened) (ops : List (Engine.Operation σ))
    (hs : P (opened.run ops).station.sink) (defaultSource : String) :
    let e := opened.run ops
    (∀ input,
      let lines := Text.lines input
      let commands := commandsOf defaultSource lines
      let reactions := reactionsTo commands e
      let session := run defaultSource input e
      session.2 = e.run (commands.flatMap Command.operations) ∧
      session.1.output = banner :: reactions.filterMap Reaction.said? ∧
      session.1.errors = reactions.filterMap Reaction.complaint? ∧
      session.1.ending = endingOf defaultSource lines ∧ session.1.ending ≠ .stuck ∧
      ((∃ flaw, session.1.ending = .unreadable flaw) ↔
        ∃ before line after, lines = before ++ line :: after ∧ (∀ text, line ≠ encode text) ∧
          ∀ text, encode text ∈ before → Command.ofLine defaultSource text ≠ .quit)) ∧
    ∀ (text : String) (more : List UInt8), (encode text).getLast? = some 0x0A →
      (∀ line, encode line ∈ Text.lines (encode text) → Command.ofLine defaultSource line ≠ .quit) →
      let first := run defaultSource (encode text) e
      let second := run defaultSource more first.2
      first.1.ending = .exhausted ∧ ∃ said, second.1.output = banner :: said ∧
        run defaultSource (encode text ++ more) e =
          (⟨first.1.output ++ said, first.1.errors ++ second.1.errors, second.1.ending⟩, second.2) := by
  intro e
  have hready : Ready P e := ⟨(Engine.run_course he ops).1, hs⟩
  refine ⟨fun input => ?_, fun text more hline hquit => ?_⟩
  · have hrun := run_of_ready hP defaultSource input hready
    intro lines commands reactions session
    have hsession : session = _ := hrun
    rw [hsession]
    exact ⟨rfl, rfl, rfl, rfl, endingOf_ne_stuck lines, endingOf_unreadable_iff⟩
  · refine run_append_of_ready hP hline (fun line hmem => goesOn_iff.mpr ?_) more hready
    obtain ⟨same, rfl⟩ := Text.lines_encode hmem
    exact ⟨same, rfl, hquit same hmem⟩

/-- An entry is handed in, and a line is no command.  In the session after it the sink refuses the delivery,
and then a byte is no text; so the end is not asked for. -/
theorem session_runs_lines_until_quit_of_refused_delivery :
    let sink : Scripted MemorySink :=
      ⟨[⟨.none, .refuse (.unavailable "down")⟩], [], [], [], .withRetention 4⟩
    let e : Engine (Scripted MemorySink) := ⟨⟨2, 2, 1, 50⟩,
      (Station.around ⟨2, [], 1, .initial 2 0, true⟩ sink ⟨0, 0⟩ 1).record (.initialized 2 2 1)⟩
    let text := "|db|a\nhello\r\n"
    let more := encode "process\n" ++ [0xFF, 0x0A] ++ encode "quit"
    let session := run "cli" (encode text ++ more) e
    let second := run "cli" more (run "cli" (encode text) e).2
    Engine.withSink ⟨2, 2, 1, 0⟩ sink ⟨0, 0⟩ = .ok e ∧
      session.2 = e.run [.addLog ⟨"INFO", "db", "a"⟩, .process 0] ∧ session.2 = second.2 ∧
      session.1.errors = ["Invalid input. Expected LEVEL|SOURCE|MESSAGE",
        "process failed: Failed to persist log 1 after 0 in this batch; log requeued"] ∧
      ∃ flaw, session.1.ending = .unreadable flaw := by
  intro sink e text more session second
  have he : Engine.withSink ⟨2, 2, 1, 0⟩ sink ⟨0, 0⟩ = .ok e := rfl
  have hsink : e.station.sink.Prompt := ⟨by decide, by decide⟩
  have hlines : Text.lines (encode text) = [encode "|db|a", encode "hello"] := by
    simp only [Text.Utf8.encode_eq]
    decide +kernel
  have hends : (encode text).getLast? = some 0x0A := by
    simp only [Text.Utf8.encode_eq]
    decide +kernel
  have hinput : Text.lines (encode text ++ more) =
      [encode "|db|a", encode "hello", encode "process", [0xFF], encode "quit"] := by
    rw [Text.lines_append hends, hlines]
    simp only [more, Text.Utf8.encode_eq]
    decide +kernel
  have hadd : Command.ofLine "cli" "|db|a" = .add ⟨"INFO", "db", "a"⟩ := by decide +kernel
  have hinvalid : Command.ofLine "cli" "hello" = .invalid := by decide +kernel
  have hprocess : Command.ofLine "cli" "process" = .process := by decide +kernel
  obtain ⟨hrun, happend⟩ :=
    session_runs_lines_until_quit (Scripted.replies MemorySink.answers) he [] hsink "cli"
  obtain ⟨hengine, -, herrors, -, -, hunreadable⟩ := hrun (encode text ++ more)
  have hcommands : commandsOf "cli" (Text.lines (encode text ++ more)) =
      [.add ⟨"INFO", "db", "a"⟩, .invalid, .process] := by
    rw [hinput, commandsOf_cons (by simp [hadd]), commandsOf_cons (by simp [hinvalid]),
      commandsOf_cons (by simp [hprocess]), commandsOf_of_end (by decide +kernel), hadd, hinvalid, hprocess]
  rw [hcommands] at hengine herrors
  have hquit (line : String) (hmem : encode line ∈ Text.lines (encode text)) :
      Command.ofLine "cli" line ≠ .quit := by
    rw [hlines, List.mem_cons, List.mem_singleton, Text.Utf8.encode_inj, Text.Utf8.encode_inj] at hmem
    rcases hmem with rfl | rfl
    · simp [hadd]
    · simp [hinvalid]
  obtain ⟨-, said, -, hboth⟩ := happend text more hends hquit
  have hsame := congrArg Prod.snd hboth
  have hcomplaints : (reactionsTo [.add ⟨"INFO", "db", "a"⟩, .invalid, .process] e).filterMap
      Reaction.complaint? = ["Invalid input. Expected LEVEL|SOURCE|MESSAGE",
        "process failed: Failed to persist log 1 after 0 in this batch; log requeued"] := by
    decide +kernel +zetaReduce
  refine ⟨he, hengine, hsame, herrors.trans hcomplaints, hunreadable.mpr ?_⟩
  refine ⟨[encode "|db|a", encode "hello", encode "process"], [0xFF], [encode "quit"], hinput, ?_, ?_⟩
  · intro text htext
    have hdecode := Text.Utf8.decode_encode text
    rw [← htext] at hdecode
    cases hdecode
  · intro line hmem
    simp only [List.mem_cons, List.not_mem_nil, or_false, Text.Utf8.encode_inj] at hmem
    rcases hmem with rfl | rfl | rfl
    · simp [hadd]
    · simp [hinvalid]
    · simp [hprocess]

end Shell

end LogSpool
