import LogSpool.Proofs.Custody.Account
import LogSpool.Proofs.Engine.Drain
import LogSpool.Proofs.Engine.Exclusion
import LogSpool.Proofs.Session.Finality
import LogSpool.Sink.Memory
import LogSpool.Sink.Scripted

/-!
# What a shutdown accounts for

This module holds the result on shutting an engine down.  A shutdown drains the queue, batch by batch,
while the sink may refuse, may hand in further entries, and may never answer; and whatever it does,
short of closing the buffer, every entry that was queued when the shutdown began or came in meanwhile
is accounted for.

* `Station.Accounts` — what has become of the entries between two moments.
* `finalDrain_accounts` — every drain of an open engine accounts for the entries.
* `Completes`, `GivesUp`, `Settles` — how a shutdown ends.
* `shutdown_accounts` — every shutdown of an open engine ends so.
-/

namespace LogSpool

/-- The sink took as many entries as it accepted deliveries. -/
theorem takenIn_length (trace : List Moment) :
    (takenIn trace).length = acceptedIn (deliveriesIn trace) := by
  rw [takenIn, takenOf, List.length_map, acceptedIn, List.countP_eq_length_filter]

variable {σ : Type}

/-! ## Accounts -/

/-- What has become of the entries from `s` to `s'`, which used the sink as the trace tells.  The
entries that were queued at first and the ones accepted since, under the numbers that follow, are the
ones that the sink took, those that were lost and those that are left, each of them once; and the sink
took them in the order of their numbers. -/
structure Station.Accounts {τ : Type} (s : Station σ) (s' : Station τ) (trace : List Moment)
    (lost left : List Nat) : Prop where
  lostIds : s'.lostIds = s.lostIds ++ lost
  lost_le : lost.length ≤ 1
  ordered : ((takenIn trace).map Entry.id).Pairwise (· < ·)
  totalIngested_le : s.buffer.metrics.totalIngested ≤ s'.buffer.metrics.totalIngested
  entries : ((takenIn trace).map Entry.id ++ lost ++ left).Perm
    (s.buffer.queue.map Entry.id ++ List.range' (s.buffer.metrics.totalIngested + 1)
      (s'.buffer.metrics.totalIngested - s.buffer.metrics.totalIngested))

namespace Station.Accounts

variable {τ υ : Type} {s : Station σ} {s' : Station τ} {trace : List Moment} {lost left : List Nat}

/-- The same accounts hold of a station with the same losses and the same number of entries, if the
sink took the same entries. -/
theorem of_same {s'' : Station υ} {trace' : List Moment} (h : Accounts s s' trace lost left)
    (hlost : s''.lostIds = s'.lostIds)
    (hcount : s''.buffer.metrics.totalIngested = s'.buffer.metrics.totalIngested)
    (htaken : takenIn trace' = takenIn trace) : Accounts s s'' trace' lost left where
  lostIds := hlost.trans h.lostIds
  lost_le := h.lost_le
  ordered := htaken ▸ h.ordered
  totalIngested_le := hcount ▸ h.totalIngested_le
  entries := by
    rw [hcount, htaken]
    exact h.entries

/-- The numbers of entries add up. -/
theorem balance (h : Accounts s s' trace lost left) :
    (takenIn trace).length + lost.length + left.length + s.buffer.metrics.totalIngested =
      s.buffer.size + s'.buffer.metrics.totalIngested := by
  have hlength := h.entries.length_eq
  have hle := h.totalIngested_le
  simp only [List.length_append, List.length_map, List.length_range'] at hlength
  unfold Buffer.size
  omega

/-- A course of the processor accounts for the entries at the stations that its ends describe, if the
buffer is still open. -/
theorem of_course {s' : Station (Traced υ)} {w : Custody} (hw : w.InOrder) {acts : List Act}
    (hacts : ∀ a ∈ acts, a.isInternal = true) {track : List (Delivery × Answer) → σ → Prop}
    (hs : w.Describes track s) (hs' : (w.run acts).Describes
      (fun made x => made = w.attempts.map Attempt.call ++ deliveriesIn x.trace) s')
    (hopen : s'.buffer.isOpen = true) (hlost : s'.lostIds = s.lostIds ++ lost)
    (hle : lost.length ≤ 1) :
    Accounts s s' s'.sink.trace lost (s'.buffer.queue.map Entry.id) := by
  have hlost' : (w.run acts).lost.map Entry.id = w.lost.map Entry.id ++ lost := by
    rw [hs'.lost, hlost, hs.lost]
  have hentries := hw.accounts hacts (hs'.buffer ▸ hopen) hs.flight hs'.flight hs'.calls hlost'
  have hgrown := hw.conserved.totalIngested_le acts
  rw [hs'.buffer, hs.buffer] at hentries hgrown
  refine ⟨hlost, hle, ?_, hgrown, hentries⟩
  -- the deliveries of the course come after those that were made before
  have hall := (Custody.inOrder_run hacts hw).delivered_pairwise
  rw [Custody.delivered_eq, hs'.calls, takenOf_append, List.map_append] at hall
  exact (List.pairwise_append.1 hall).2.1

end Station.Accounts

namespace Engine

variable [Sink σ] {P : σ → Prop} {config : EngineConfig} {sink : σ} {clock : Clock} {e : Engine σ}

/-! ## The drain -/

/-- What a drain that was begun by the engine leaves: the buffer is open, the sink has not been closed,
the drain is answered with the number of entries that the sink took, and all entries are accounted
for.  An entry is lost only if the drain stopped with an error that says so or was given up, and only
if another one was accepted. -/
structure DrainedTo (e : Engine σ) (P : σ → Prop) (outcome : Outcome Nat)
    (s : Station (Traced σ)) : Prop where
  isOpen : s.buffer.isOpen = true
  sink : P s.sink.inner
  closings : closingsIn s.sink.trace = 0
  reported : ∀ n, outcome = .answered n → n = (takenIn s.sink.trace).length
  accounts : ∃ lost, e.station.Accounts s s.sink.trace lost (s.buffer.queue.map Entry.id) ∧
    ∀ n, outcome = .answered n → lost.length = lossOf (stopIn s.journal)
  spared : s.buffer.metrics.totalIngested = e.station.buffer.metrics.totalIngested →
    s.lostIds = e.station.lostIds

/-- The drain of an open engine is answered with the number of entries that the sink took. -/
theorem finalDrain_reported (hconfined : Sink.Confined (· ≠ .close) P) {e : Engine σ}
    (hopen : e.isOpen = true) (hsink : P e.station.sink) {n : Nat}
    (hn : e.withTrace.finalDrain.1 = .answered n) :
    n = (takenIn e.withTrace.finalDrain.2.sink.trace).length := by
  -- the trace is looked at as a record of the deliveries
  let began : Station (Traced σ) := { e.withTrace.station with busy := true }
  have hsame : drain (intrude e.config) e.config.processBatchSize drainLimit 0
      (began.map Traced.recorded) =
        (e.withTrace.finalDrain.1, e.withTrace.finalDrain.2.map Traced.recorded) :=
    drain_map Traced.recorded_morphism
      (Station.sameIntrusions_intrudeThrough Traced.recorded_morphism e.config nesting) _ _ _ began
  have hdrains : Drains (intrude e.config) e.config.processBatchSize drainLimit 0
      (began.map Traced.recorded) _ _ := drain_drains _ _ _
  rw [hsame] at hdrains
  have hkeeps := Station.keeps_isOpen e.config (hconfined.comap Recorded.morphism)
  obtain ⟨made, hmade, hcount⟩ := hdrains.reports hkeeps ⟨rfl, hsink, hopen⟩
  have hrecord : deliveriesIn e.withTrace.finalDrain.2.sink.trace = made := hmade
  rw [takenIn_length, hrecord, hcount n hn, Nat.zero_add]

/-- Every drain of an open engine accounts for the entries. -/
theorem finalDrain_accounts (hconfined : Sink.Confined (· ≠ .close) P)
    (he : withSink config sink clock = .ok e) (ops : List (Operation σ))
    (hopen : (e.run ops).isOpen = true) (hsink : P (e.run ops).station.sink) :
    (e.run ops).DrainedTo P (e.run ops).withTrace.finalDrain.1
      (e.run ops).withTrace.finalDrain.2 := by
  obtain ⟨-, hb, acts, hacts, hdescribes⟩ := run_course he ops
  generalize e.run ops = before at hopen hsink hdescribes ⊢
  let began : Station (Traced σ) := { before.withTrace.station with busy := true }
  have hdrains := before.withTrace.finalDrain_drains
  have herrands : Station.OnlyErrands (intrude (σ := Traced σ) before.config) began.busy :=
    intrude_onlyErrands before.config
  -- the custody of the entries when the drain begins, and when it ends
  let w := (Custody.around e.station.buffer).run acts
  have hw : w.InOrder := Custody.inOrder_run hacts (Custody.inOrder_around hb .ample)
  have hgauged : w.buffer.Gauged := Custody.gauged_run (Buffer.gauged_create hb) acts
  have hample : w.storage = .ample := Custody.run_ample rfl acts
  let earlier := w.attempts.map Attempt.call
  have hbegan : w.Describes (fun made x => made = earlier ++ deliveriesIn x.trace) began :=
    ⟨hdescribes.buffer, hdescribes.storage, hdescribes.flight, hdescribes.lost,
      (List.append_nil earlier).symm⟩
  obtain ⟨acts', hacts', hrun⟩ := (drain_follows (Traced.tracks_after earlier) _ drainLimit 0
    herrands.produces).course
  let drained := before.withTrace.finalDrain.2
  have hended : (w.run acts').Describes
      (fun made x => made = earlier ++ deliveriesIn x.trace) drained := hrun w hbegan
  have hkept : drained.Holds true (fun x => P x.inner) fun b => b.isOpen = true :=
    hdrains.keeps (Station.keeps_isOpen before.config (hconfined.comap Traced.inner_morphism))
      ⟨rfl, hsink, hopen⟩
  obtain ⟨lost, hlost, hle, hstopped⟩ := hdrains.losses herrands.produces hgauged
    ⟨hbegan.buffer, hbegan.storage, hbegan.flight, hbegan.lost, trivial⟩
    fun hzero => absurd hzero (by decide)
  have haccounts := Station.Accounts.of_course hw hacts' hdescribes hended hkept.buffer hlost hle
  refine ⟨hkept.buffer, hkept.sink, hdrains.closings herrands,
    fun _ => finalDrain_reported hconfined hopen hsink, ⟨lost, haccounts, hstopped⟩, ?_⟩
  intro hquiet
  have hsame := hw.lost_of_quiet hgauged hample hbegan.flight hacts'
    (hended.buffer ▸ hkept.buffer) (by
      rw [hended.buffer, hdescribes.buffer]
      exact hquiet)
  have hids := congrArg (List.map Entry.id) hsame
  rwa [hended.lost, hbegan.lost] at hids

/-! ## Shutdowns -/

/-- The error that stopped the drain of a shutdown that has just been completed, as the journal
tells. -/
def drainStop? (e : Engine σ) : Option EngineError :=
  match e.station.journal with
  | .shutdownCompleted _ _ :: .closed _ :: journal => stopIn journal
  | _ => none

/-- A shutdown is completed with a report.  What it drained is what the sink took, what it discarded
was left in the queue, and together with an entry that was lost where the drain stopped they are the
entries that were queued and those that were accepted in the meantime.  The buffer is closed, and the
sink has been closed once. -/
structure Completes (before after : Engine σ) (trace : List Moment) (report : ShutdownReport) :
    Prop where
  drained : report.drained = (takenIn trace).length
  accounts : ∃ lost left, before.station.Accounts after.station trace lost left ∧
    lost.length = lossOf after.drainStop? ∧ left.length = report.discarded
  total : report.drained + report.discarded + lossOf after.drainStop? +
      before.station.buffer.metrics.totalIngested =
    before.station.buffer.size + after.station.buffer.metrics.totalIngested
  closed : after.isOpen = false
  closings : closingsIn trace = 1

/-- A shutdown is given up, because the sink does not answer an insert.  The buffer is open, the sink
has not been closed, all entries are accounted for, and none is lost unless another one was accepted
in the meantime. -/
structure GivesUp (before after : Engine σ) (trace : List Moment) : Prop where
  waiting : Station.LeftWaiting trace
  isOpen : after.isOpen = true
  closings : closingsIn trace = 0
  accounts : ∃ lost, before.station.Accounts after.station trace lost
    (after.station.buffer.queue.map Entry.id)
  spared : after.station.buffer.metrics.totalIngested =
    before.station.buffer.metrics.totalIngested → after.station.lostIds = before.station.lostIds

/-- A shutdown is completed or given up, and accounts for the entries. -/
def Settles (e : Engine σ) : Prop :=
  (∃ report, e.shutdown.1 = .answered report ∧
      Completes e e.shutdown.2 (e.trace [.shutdown]) report) ∨
    e.shutdown.1 = .abandoned ∧ GivesUp e e.shutdown.2 (e.trace [.shutdown])

/-- What closing after a drain adds to what the drain has left: the buffer is dropped, the sink is
closed, and the journal says both. -/
structure ClosedAfter (drained : Nat) (s s' : Station (Traced σ)) : Prop where
  journal : s'.journal =
    .shutdownCompleted drained s.buffer.size :: .closed s.buffer.size :: s.journal
  lostIds : s'.lostIds = s.lostIds
  trace : s'.sink.trace = s.sink.trace ++ [.closed]
  isOpen : s'.buffer.isOpen = false
  totalIngested : s'.buffer.metrics.totalIngested = s.buffer.metrics.totalIngested

theorem closeAfter_closedAfter {s : Station (Traced σ)} (hopen : s.buffer.isOpen = true)
    (drained : Nat) : (closeAfter drained s).1 = ⟨drained, s.buffer.size⟩ ∧
      ClosedAfter drained s (closeAfter drained s).2 := by
  rw [closeAfter, Station.close_of_open hopen]
  refine ⟨rfl, rfl, ?_, rfl, rfl, rfl⟩
  have hbeside := ((Station.Beside.refl s).record (e := .closed s.buffer.size) rfl).record
    (e := .shutdownCompleted drained s.buffer.size) rfl
  exact hbeside.lostIds

omit [Sink σ] in
/-- A drain that is answered becomes a shutdown that is completed. -/
theorem DrainedTo.completes {before after : Engine σ} {drained : Nat} {s s' : Station (Traced σ)}
    (h : before.DrainedTo P (.answered drained) s) (hclosed : ClosedAfter drained s s')
    (hafter : after.station = { s'.map Traced.inner with busy := false }) :
    Completes before after s'.sink.trace ⟨drained, s.buffer.size⟩ := by
  have htaken : takenIn s'.sink.trace = takenIn s.sink.trace := by
    rw [takenIn, hclosed.trace, deliveriesIn_append, takenOf_append]
    exact List.append_nil _
  have hstop : after.drainStop? = stopIn s.journal := by
    have hjournal : after.station.journal = s'.journal := congrArg Station.journal hafter
    rw [drainStop?, hjournal, hclosed.journal]
  have hcount : after.station.buffer.metrics.totalIngested = s.buffer.metrics.totalIngested :=
    (congrArg (fun t => t.buffer.metrics.totalIngested) hafter).trans hclosed.totalIngested
  have hlostIds : after.station.lostIds = s.lostIds :=
    (congrArg Station.lostIds hafter).trans hclosed.lostIds
  obtain ⟨lost, haccounts, hlost⟩ := h.accounts
  have hbalance := haccounts.balance
  have hreported : drained = (takenIn s.sink.trace).length := h.reported drained rfl
  have hloss : lost.length = lossOf after.drainStop? := by
    rw [hstop]
    exact hlost drained rfl
  constructor
  · rw [htaken]
    exact hreported
  · exact ⟨lost, _, haccounts.of_same hlostIds hcount htaken, hloss, List.length_map _⟩
  · rw [hcount, ← hloss]
    simp only [List.length_map] at hbalance
    dsimp only [Buffer.size] at hbalance ⊢
    omega
  · exact (congrArg (fun t => t.buffer.isOpen) hafter).trans hclosed.isOpen
  · rw [hclosed.trace, closingsIn_append, h.closings]
    rfl

omit [Sink σ] in
/-- A drain that is given up becomes a shutdown that is given up. -/
theorem DrainedTo.givesUp {before after : Engine σ} {s : Station (Traced σ)}
    (h : before.DrainedTo P .abandoned s) (hwaiting : Station.LeftWaiting s.sink.trace)
    (hafter : after.station = { s.map Traced.inner with busy := false }) :
    GivesUp before after s.sink.trace := by
  have hbuffer : after.station.buffer = s.buffer := congrArg Station.buffer hafter
  have hlostIds : after.station.lostIds = s.lostIds := congrArg Station.lostIds hafter
  obtain ⟨lost, haccounts, -⟩ := h.accounts
  refine ⟨hwaiting, (congrArg Buffer.isOpen hbuffer).trans h.isOpen, h.closings, ⟨lost, ?_⟩, ?_⟩
  · rw [hbuffer]
    exact haccounts.of_same hlostIds (by rw [hbuffer]) rfl
  · rw [hbuffer, hlostIds]
    exact h.spared

/-- The shutdown of an open engine, with the drain that it begins with. -/
theorem shutdown_drains {e : Engine σ} (hidle : e.station.busy = false) (hopen : e.isOpen = true) :
    (∃ drained s, e.withTrace.finalDrain = (.answered drained, s) ∧
      e.shutdown.1 = .answered (closeAfter drained s).1 ∧
      e.shutdown.2.station = { (closeAfter drained s).2.map Traced.inner with busy := false } ∧
      e.trace [.shutdown] = (closeAfter drained s).2.sink.trace) ∨
    ∃ s, e.withTrace.finalDrain = (.abandoned, s) ∧ e.shutdown.1 = .abandoned ∧
      e.shutdown.2.station = { s.map Traced.inner with busy := false } ∧
      e.trace [.shutdown] = s.sink.trace := by
  have hsame : e.shutdown = (e.withTrace.shutdown.1, e.withTrace.shutdown.2.map Traced.inner) :=
    e.withTrace.shutdown_map Traced.inner_morphism
  have htrace : e.trace [.shutdown] = e.withTrace.shutdown.2.station.sink.trace := rfl
  rw [hsame, htrace]
  rcases shutdown_of_open (e := e.withTrace) hidle hopen with
    ⟨drained, s, hend, hs⟩ | ⟨s, hend, hs⟩
  · left
    rw [hs]
    exact ⟨drained, s, hend, rfl, rfl, rfl⟩
  · right
    rw [hs]
    exact ⟨s, hend, rfl, rfl, rfl⟩

/-- The shutdown of an engine that a session has left open is completed, or given up; then the sink is
as confined as before. -/
theorem run_settles (hconfined : Sink.Confined (· ≠ .close) P)
    (he : withSink config sink clock = .ok e) (ops : List (Operation σ))
    (hopen : (e.run ops).isOpen = true) (hsink : P (e.run ops).station.sink) :
    (e.run ops).Settles ∧
      ((e.run ops).shutdown.1 = .abandoned → P (e.run ops).shutdown.2.station.sink) := by
  have hdrained := finalDrain_accounts hconfined he ops hopen hsink
  obtain ⟨hidle, -⟩ := run_course he ops
  -- how the drain ends decides how the shutdown does
  rcases shutdown_drains hidle hopen with
    ⟨drained, s, hend, houtcome, hafter, htrace⟩ | ⟨s, hend, houtcome, hafter, htrace⟩ <;>
    rw [hend] at hdrained
  · obtain ⟨hreport, hclosedAfter⟩ := closeAfter_closedAfter hdrained.isOpen drained
    rw [hreport] at houtcome
    constructor
    · left
      rw [htrace]
      exact ⟨_, houtcome, hdrained.completes hclosedAfter hafter⟩
    · rw [houtcome]
      exact fun habandoned => by cases habandoned
  · have hwaiting : Station.LeftWaiting s.sink.trace := by
      have hgivenUp := drain_leftWaiting (congrArg Prod.fst hend)
      exact (congrArg (fun result => result.2.sink.trace) hend) ▸ hgivenUp
    constructor
    · right
      rw [htrace]
      exact ⟨houtcome, hdrained.givesUp hwaiting hafter⟩
    · intro _
      rw [hafter]
      exact hdrained.sink

/-- Once an engine is closed, every later shutdown has nothing to do and leaves the sink alone. -/
theorem shutdown_again (he : withSink config sink clock = .ok e) {ops : List (Operation σ)}
    (hclosed : (e.run ops).isOpen = false) (more : List (Operation σ)) :
    ((e.run ops).run more).shutdown = (.answered ⟨0, 0⟩, (e.run ops).run more) ∧
      ((e.run ops).run more).trace [.shutdown] = [] := by
  have hended := run_ended he hclosed
  have hclosed' : ((e.run ops).run more).isOpen = false :=
    (congrArg Buffer.isOpen (hended.rests more).buffer).trans hclosed
  rw [← run_append] at hclosed'
  have hlater := run_ended he hclosed'
  rw [run_append] at hlater
  exact ⟨(hended.refuses more).shutdown, hlater.unused [.shutdown]⟩

/-- A shutdown accounts for every entry.  In every state that a session leaves an engine open in,
with storage enough, and with every sink that does anything but close the buffer, which it cannot
reach through an engine:

A shutdown is completed or given up, and either way it accounts for the entries that were queued and
those that were accepted in the meantime.

Once a shutdown is completed, every later one has nothing to do and leaves the sink alone.  After one
that was given up a later one accounts for the remaining entries likewise. -/
theorem shutdown_accounts (hconfined : Sink.Confined (· ≠ .close) P)
    (he : withSink config sink clock = .ok e) (ops : List (Operation σ))
    (hopen : (e.run ops).isOpen = true) (hsink : P (e.run ops).station.sink) :
    let before := e.run ops
    let after := before.shutdown.2
    before.Settles ∧
    (∀ report, before.shutdown.1 = .answered report → ∀ more : List (Operation σ),
      let later := after.run more
      later.shutdown = (.answered ⟨0, 0⟩, later) ∧ later.trace [.shutdown] = []) ∧
    (before.shutdown.1 = .abandoned → P after.station.sink ∧ ∀ more : List (Operation σ),
      let later := after.run more
      later.isOpen = true → P later.station.sink → later.Settles) := by
  intro before after
  obtain ⟨hsettles, hstill⟩ := run_settles hconfined he ops hopen hsink
  -- what comes after the shutdown is a session of the same engine
  have hafter : after = e.run (ops ++ [.shutdown]) := by
    rw [run_append]
    exact (before.run_shutdown).symm
  refine ⟨hsettles, ?_, fun habandoned => ⟨hstill habandoned, fun more => ?_⟩⟩
  · intro report hreport more
    have hclosed : after.isOpen = false := by
      rcases hsettles with ⟨report', -, hcompletes⟩ | ⟨habandoned, -⟩
      · exact hcompletes.closed
      · cases hreport.symm.trans habandoned
    rw [hafter] at hclosed ⊢
    exact shutdown_again he hclosed more
  · rw [hafter, ← run_append]
    exact fun hopen' hsink' => (run_settles hconfined he _ hopen' hsink').1

/-- Three entries are queued.  The sink never answers the call for the first one, and the shutdown is
given up.  The next shutdown delivers it, while a fourth entry is handed in, and stops where the sink
refuses the second one: one entry is drained and three are discarded. -/
theorem shutdown_accounts_of_second_attempt :
    let fields : Fields := ⟨"INFO", "app", "a"⟩
    let sink : Scripted MemorySink :=
      ⟨[⟨.none, .stall⟩, ⟨⟨0, none, [.add fields]⟩, .passOn⟩,
        ⟨.none, .refuse (.unavailable "")⟩], [], [], [], .withRetention 4⟩
    let e : Engine (Scripted MemorySink) := ⟨⟨4, 4, 1, 50⟩,
      (Station.around ⟨4, [], 1, .initial 4 0, true⟩ sink ⟨0, 0⟩ 1).record (.initialized 4 4 1)⟩
    let before := e.run [.addLog fields, .addLog fields, .addLog fields]
    let after := before.shutdown.2
    withSink ⟨4, 4, 1, 0⟩ sink ⟨0, 0⟩ = .ok e ∧ before.shutdown.1 = .abandoned ∧ before.Settles ∧
      after.shutdown.1 = .answered ⟨1, 3⟩ ∧ after.Settles ∧
      after.shutdown.2.shutdown = (.answered ⟨0, 0⟩, after.shutdown.2) := by
  intro fields sink e before after
  have he : withSink ⟨4, 4, 1, 0⟩ sink ⟨0, 0⟩ = .ok e := rfl
  have habandoned : before.shutdown.1 = .abandoned := by decide
  have hreport : after.shutdown.1 = .answered ⟨1, 3⟩ := by decide
  obtain ⟨hsettles, -, hlater⟩ := shutdown_accounts Scripted.confined he
    [.addLog fields, .addLog fields, .addLog fields] (by decide) (by decide)
  obtain ⟨hsink, hretried⟩ := hlater habandoned
  obtain ⟨-, hagain, -⟩ := shutdown_accounts Scripted.confined he
    [.addLog fields, .addLog fields, .addLog fields, .shutdown] (by decide) hsink
  exact ⟨he, habandoned, hsettles, hreport, hretried [] (by decide) hsink,
    (hagain _ hreport []).1⟩

end Engine

end LogSpool
