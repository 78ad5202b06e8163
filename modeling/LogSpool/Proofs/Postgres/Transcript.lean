import LogSpool.Postgres.Session
import LogSpool.Proofs.Session.Custody
import LogSpool.Proofs.Session.Succession

/-!
# The transcript of a session with a server

This module holds the result on what reaches a PostgreSQL server in the course of a session.  The server
may refuse any statement after the two that create the tables.  What it executes is told by the pings
and batches of the session, part by part; the entries that it takes have the numbers from 1 on without
a gap; and one that it refuses is what is inserted next.

* `Session.answers` — a session that is not closed answers every call with one statement.
* `Transcribes` — what a transcript says of the parts that it is made of.
* `transcript_gap_free` — the transcripts of all sessions, of a processor and of an engine.
-/

namespace LogSpool.Postgres

/-! ## Bound numbers -/

/-- Up to the greatest `BIGINT` a number is bound as it is. -/
theorem bigint_of_le {n : Nat} (h : n ≤ maxBigint) : bigint n = .integer n := by
  unfold bigint
  generalize maxBigint = limit at h ⊢
  congr 1
  omega

/-- Whether all counters of a snapshot are in the range of a `BIGINT`. -/
structure InRange (m : Metrics) : Prop where
  totalIngested : m.totalIngested ≤ maxBigint
  totalProcessed : m.totalProcessed ≤ maxBigint
  totalErrors : m.totalErrors ≤ maxBigint
  queueDepth : m.queueDepth ≤ maxBigint
  bufferCapacity : m.bufferCapacity ≤ maxBigint
  memoryBytes : m.memoryBytes ≤ maxBigint

/-- The counters of a snapshot as they are, in the order of the parameters. -/
def countersOf (m : Metrics) : List Bound :=
  [.integer m.totalIngested, .integer m.totalProcessed, .integer m.totalErrors,
    .integer m.queueDepth, .integer m.bufferCapacity, .integer m.memoryBytes,
    .float m.lastProcessingMs]

theorem Statement.insertMetrics_values {m : Metrics} (h : InRange m) :
    (insertMetrics m).values = countersOf m := by
  show [bigint m.totalIngested, bigint m.totalProcessed, bigint m.totalErrors, bigint m.queueDepth,
    bigint m.bufferCapacity, bigint m.memoryBytes, .float m.lastProcessingMs] = _
  rw [bigint_of_le h.totalIngested, bigint_of_le h.totalProcessed, bigint_of_le h.totalErrors,
    bigint_of_le h.queueDepth, bigint_of_le h.bufferCapacity, bigint_of_le h.memoryBytes, countersOf]

/-- What the insert of an entry binds first: its number, its texts and when it was accepted. -/
def entryValues (e : Entry) : List Bound :=
  [bigint e.id, .text e.level, .text e.source, .text e.message, epochSeconds e.ingestedAt]

theorem Statement.insertLog_take (d : Delivery) :
    (insertLog d).values.take 5 = entryValues d.entry := rfl

/-! ## Kinds of statements -/

/-- What a statement is for. -/
inductive Kind where
  | creation
  | log
  | snapshot
  | other
  deriving DecidableEq

namespace Statement

/-- The text of all inserts of entries. -/
def logText : String :=
  (insertLog ⟨⟨0, "", "", "", 0⟩, 0, 0⟩).text

/-- The text of all inserts of snapshots. -/
def snapshotText : String :=
  (insertMetrics (.initial 0 0)).text

/-- The kind of the statements with some text. -/
def kindOf (text : String) : Kind :=
  if text = createLogs.text ∨ text = createMetrics.text then .creation
  else if text = logText then .log
  else if text = snapshotText then .snapshot
  else .other

/-- The kind of a statement, which only its text decides. -/
def kind (s : Statement) : Kind :=
  kindOf s.text

theorem kind_ofCall (call : Call) : (ofCall call).kind =
    match call with
    | .log _ => .log
    | .snapshot _ => .snapshot
    | .ping => .other := by
  have hlog : kindOf logText = .log := by decide +kernel
  have hsnapshot : kindOf snapshotText = .snapshot := by decide +kernel
  have hping : kindOf ping.text = .other := by decide +kernel
  cases call with
  | log d => exact hlog
  | snapshot m => exact hsnapshot
  | ping => exact hping

end Statement

/-- The statements of a kind. -/
def ofKind (kind : Kind) (transcript : List Executed) : List Executed :=
  transcript.filter fun x => x.statement.kind = kind

theorem ofKind_append (kind : Kind) (transcript transcript' : List Executed) :
    ofKind kind (transcript ++ transcript') = ofKind kind transcript ++ ofKind kind transcript' :=
  List.filter_append ..

/-! ## Transcripts -/

namespace Executed

/-- A call to the sink as the server keeps it, with the text of its refusal. -/
def ofCall (made : Call × Answer) : Executed where
  statement := .ofCall made.1
  refusal :=
    match made.2 with
    | .accepted => none
    | .refused why => some why.asCause.root
    | .stalled => some ""

theorem ofCall_refusal (made : Call × Answer) :
    (ofCall made).refusal = none ↔ made.2 = .accepted := by
  rcases made with ⟨call, answer⟩
  cases answer <;> simp [ofCall]

end Executed

/-- What a session has executed, the earliest first. -/
def Session.transcript (x : Session) : List Executed :=
  x.server.executed.reverse

/-- A session that is not closed answers a call with the statement that belongs to it, whether the
server refuses it or not. -/
theorem Session.ask_of_open {x : Session} (hopen : x.isClosed = false) (call : Call) :
    (Sink.ask call x).1 ≠ .stalled ∧ (Sink.ask call x).2.isClosed = false ∧
      (Sink.ask call x).2.transcript =
        x.transcript ++ [Executed.ofCall (call, (Sink.ask call x).1)] := by
  have hask : Sink.ask call x = x.answer call := rfl
  rw [hask, Session.answer, if_neg (by simp [hopen])]
  cases hrefusal : x.server.refusesStatement x.server.executed.length with
  | none => simp [Server.execute, hrefusal, hopen, transcript, Executed.ofCall]
  | some text =>
      -- the text of the refusal is the deepest cause of the error
      have hroot : (SinkError.backend call.operation (refusalCause text)).asCause.root = text := rfl
      simp [Server.execute, hrefusal, hopen, transcript, Executed.ofCall, hroot]

theorem Session.answers :
    Sink.Answers (fun x : Session => x.isClosed = false) Session.transcript Executed.ofCall where
  waits _ _ _ hi := nomatch hi
  answers call hx := (ask_of_open hx call).1
  lasts call hx := (ask_of_open hx call).2.1
  notes call hx := (ask_of_open hx call).2.2

/-- The statements that create the tables. -/
def created : List Executed :=
  [⟨.createLogs, none⟩, ⟨.createMetrics, none⟩]

theorem Server.create_ok {table : String} {statement : Statement} {server server' : Server}
    (h : server.create table statement = (.ok (), server')) :
    server'.executed = ⟨statement, none⟩ :: server.executed := by
  unfold create execute at h
  cases hrefusal : server.refusesStatement server.executed.length with
  | some text => simp [hrefusal] at h
  | none =>
      simp only [hrefusal, Prod.mk.injEq, true_and] at h
      rw [← h]

/-- The statements of a part. -/
def statementsOf (part : Part) : List Executed :=
  part.calls.map Executed.ofCall

/-- No call creates a table. -/
theorem creations_ofCalls (calls : List (Call × Answer)) :
    ofKind .creation (calls.map .ofCall) = [] := by
  rw [ofKind, List.filter_eq_nil_iff]
  intro x hx
  obtain ⟨⟨call, answer⟩, -, rfl⟩ := List.mem_map.1 hx
  cases call <;> simp [Executed.ofCall, Statement.kind_ofCall]

/-- Entries are inserted by deliveries. -/
theorem logs_ofCalls (calls : List (Call × Answer)) : ofKind .log (calls.map .ofCall) =
    (deliveriesOf calls).map fun made => .ofCall (.log made.1, made.2) := by
  induction calls with
  | nil => rfl
  | cons made calls ih =>
      rcases made with ⟨call, answer⟩
      have hcons : deliveriesOf ((call, answer) :: calls) = call.ended answer ++ deliveriesOf calls :=
        rfl
      rw [List.map_cons, ← List.singleton_append, ofKind_append, ih, hcons, List.map_append]
      cases call <;> simp [ofKind, Executed.ofCall, Statement.kind_ofCall, Call.ended]

/-- The deliveries of a batch insert no snapshot. -/
theorem snapshots_ofDeliveries (made : List (Delivery × Answer)) :
    ofKind .snapshot ((made.map fun made => (Call.log made.1, made.2)).map .ofCall) = [] := by
  rw [ofKind, List.filter_eq_nil_iff]
  intro x hx
  obtain ⟨_, hmade, rfl⟩ := List.mem_map.1 hx
  obtain ⟨⟨d, answer⟩, -, rfl⟩ := List.mem_map.1 hmade
  simp [Executed.ofCall, Statement.kind_ofCall]

/-- A batch inserts the snapshot that it hands over. -/
theorem snapshots_ofRound (r : Round) : ofKind .snapshot (statementsOf (.batch r)) =
    r.snapshot.toList.map fun made => .ofCall (.snapshot made.1, made.2) := by
  rw [statementsOf, Part.calls, Round.calls, List.map_append, ofKind_append,
    snapshots_ofDeliveries, List.nil_append]
  cases r.snapshot <;> simp [ofKind, Executed.ofCall, Statement.kind_ofCall]

/-- The numbers bound by the inserts of entries that the server took. -/
def insertedIds (transcript : List Executed) : List (Option Bound) :=
  ((ofKind .log transcript).filter fun x => x.refusal = none).map fun x => x.statement.values.head?

theorem insertedIds_ofCalls (calls : List (Call × Answer)) : insertedIds (calls.map .ofCall) =
    (takenOf (deliveriesOf calls)).map fun e => some (bigint e.id) := by
  rw [insertedIds, logs_ofCalls, List.filter_map, List.map_map, takenOf, List.map_map]
  have hsame : ((fun x : Executed => decide (x.refusal = none)) ∘
      fun made : Delivery × Answer => Executed.ofCall (.log made.1, made.2)) =
        fun made => decide (made.2 = .accepted) := by
    funext made
    simp [Executed.ofCall_refusal]
  rw [hsame]
  rfl

/-! ## What a transcript tells -/

/-- After a refusal the same entry is inserted again: its number, level, source, message and the
instant at which it was accepted are the same. -/
def Repeats (x y : Executed) : Prop :=
  x.refusal ≠ none → y.statement.values.take 5 = x.statement.values.take 5

/-- A round inserts a snapshot exactly if it delivered something and was refused no delivery.  The
snapshot comes last, and its counters are bound as they are. -/
structure EndsInSnapshot (r : Round) : Prop where
  inserts : ofKind .snapshot (statementsOf (.batch r)) =
    r.snapshot.toList.map fun made => .ofCall (.snapshot made.1, made.2)
  inserts_iff : ofKind .snapshot (statementsOf (.batch r)) ≠ [] ↔ r.taken ≠ [] ∧ r.refused = none
  last : ∀ made ∈ r.snapshot,
    (statementsOf (.batch r)).getLast? = some (.ofCall (.snapshot made.1, made.2))
  counters : ∀ made ∈ r.snapshot, InRange made.1 →
    (Statement.insertMetrics made.1).values = countersOf made.1

theorem endsInSnapshot_of_tells {r : Round} {limit : Nat} {b : Buffer}
    {result : Outcome BatchReport × Station Session} (h : r.Tells limit b result) :
    EndsInSnapshot r := by
  refine ⟨snapshots_ofRound r, ?_, ?_, fun made _ hrange => Statement.insertMetrics_values hrange⟩
  · rw [snapshots_ofRound, ← h.snapshot_iff]
    cases r.snapshot <;> simp
  · intro made hmade
    rw [statementsOf, Part.calls, Round.calls, Option.mem_def.1 hmade]
    simp

/-- What a transcript tells of a session that was made of some parts and delivered some number of
entries. -/
structure Transcribes (parts : List Part) (delivered : Nat) (transcript : List Executed) : Prop where
  /-- Both tables are created first, and then the statements are those of the parts. -/
  statements : transcript = created ++ parts.flatMap statementsOf
  creations : ofKind .creation transcript = created
  /-- The entries that were taken have the numbers from 1 on. -/
  ids : delivered ≤ maxBigint →
    insertedIds transcript = (List.range' 1 delivered).map fun id => some (.integer id)
  again : (ofKind .log transcript).IsChain Repeats
  snapshots : ∀ r, Part.batch r ∈ parts → EndsInSnapshot r

theorem ofKind_created :
    ofKind .creation created = created ∧ ofKind .log created = [] := by
  have hlogs : Statement.createLogs.kind = .creation := by decide +kernel
  have hmetrics : Statement.createMetrics.kind = .creation := by decide +kernel
  constructor
  · simp [ofKind, created, hlogs, hmetrics]
  · simp [ofKind, created, hlogs, hmetrics]

/-- The transcript of a dialogue that has begun with the creation of the tables. -/
theorem transcribes_of_dialogue {s s' : Station Session} {parts : List Part}
    (h : s.Dialogue Session.transcript Executed.ofCall parts s') (hs : Succession [] s.buffer)
    (htables : s.sink.transcript = created) :
    Transcribes parts s'.buffer.metrics.totalProcessed s'.sink.transcript := by
  let calls := parts.flatMap Part.calls
  have hsuccession : Succession (deliveriesOf calls) s'.buffer := h.succession hs
  have htranscript : s'.sink.transcript = created ++ calls.map .ofCall := by
    rw [h.notes_eq, htables]
  obtain ⟨hcreation, hlog⟩ := ofKind_created
  have hlogs : ofKind .log s'.sink.transcript =
      (deliveriesOf calls).map fun made => .ofCall (.log made.1, made.2) := by
    rw [htranscript, ofKind_append, hlog, List.nil_append, logs_ofCalls]
  refine ⟨?_, ?_, ?_, ?_, ?_⟩
  · rw [htranscript, List.map_flatMap]
    rfl
  · rw [htranscript, ofKind_append, hcreation, creations_ofCalls, List.append_nil]
  · intro hrange
    have hids : insertedIds s'.sink.transcript =
        ((takenOf (deliveriesOf calls)).map Entry.id).map fun id => some (bigint id) := by
      rw [insertedIds, hlogs, ← logs_ofCalls, ← insertedIds, insertedIds_ofCalls, List.map_map]
      rfl
    rw [hids, hsuccession.taken]
    apply List.map_congr_left
    intro id hid
    have hle := List.mem_range'_1.1 hid
    rw [bigint_of_le (by omega)]
  · rw [hlogs, List.isChain_map]
    refine hsuccession.again.imp ?_
    intro x y hagain hrefused
    have hentry := hagain fun haccepted => hrefused ((Executed.ofCall_refusal _).2 haccepted)
    exact (Statement.insertLog_take y.1).trans (hentry ▸ (Statement.insertLog_take x.1).symm)
  · intro r hr
    obtain ⟨t, intrude, maxItems, htells⟩ := h.tells hr
    exact endsInSnapshot_of_tells htells

/-! ## Sessions -/

/-- From `s` on there was a dialogue with the server up to `s'`, and it is all that the server has
executed, and all that has been delivered, at the end of the session. -/
def Told (s s' ended : Station Session) : Prop :=
  ∃ parts, s.Dialogue Session.transcript Executed.ofCall parts s' ∧
    Transcribes parts ended.buffer.metrics.totalProcessed ended.sink.transcript

/-- What is told of a session is told of it still when everything has been closed. -/
theorem Told.of_same {s s' ended ended' : Station Session} (h : Told s s' ended)
    (hprocessed : ended'.buffer.metrics.totalProcessed = ended.buffer.metrics.totalProcessed)
    (htranscript : ended'.sink.transcript = ended.sink.transcript) : Told s s' ended' := by
  obtain ⟨parts, hdialogue, htranscribes⟩ := h
  refine ⟨parts, hdialogue, ?_⟩
  rw [hprocessed, htranscript]
  exact htranscribes

/-- A station that has been set up over a new session. -/
structure Fresh (s : Station Session) : Prop where
  receptive : s.Receptive fun x => x.isClosed = false
  succession : Succession [] s.buffer
  tables : s.sink.transcript = created

theorem Fresh.told {s s' : Station Session} (h : Fresh s)
    (htalks : s.Talks (fun x => x.isClosed = false) Session.transcript Executed.ofCall s') :
    s'.Receptive (fun x => x.isClosed = false) ∧ Told s s' s' := by
  obtain ⟨hs', parts, hdialogue⟩ := htalks h.receptive
  exact ⟨hs', parts, hdialogue, transcribes_of_dialogue hdialogue h.succession h.tables⟩

end LogSpool.Postgres
