import LogSpool.Proofs.Engine.Shutdown
import LogSpool.Proofs.Rest.Serving

/-!
# Requests that are refused, and requests that are not

This module says what the status of an answer tells about the engine.  A refusal, which is a status
from 400 to 499, has done nothing: the sink was not called, and no entry was accepted or moved.  The
one trace of it is the error that a full buffer counts.  An entry that is answered with success was
accepted, once, under the number in the answer; and a batch that is answered with success reports as
many entries as the sink took.

* `LeftAlone`, `AcceptedOnce` — what a refusal leaves, and what an accepted entry adds.
* `addLog_acceptedOnce` — an entry whose number is the answer was accepted once.
* `Served.leftAlone` — of all exits of a request, those with such a status leave everything alone.
* `processAlone_taken` — a batch that is answered reports what the sink took.
* `status_tells_effect` — what the status of an answer tells, for every request.
-/

namespace LogSpool

/-! ## Accepted entries -/

namespace Station

variable {σ : Type}

/-- An entry has been accepted once, under a number that no entry accepted since has.  What has happened
since are these acts of the spool itself, of which the first is to hand it in. -/
def AcceptedOnce (f : Fields) (id : Nat) (acts : List Act) (s s' : Station σ) : Prop :=
  id = s.buffer.nextId ∧ acts.head? = some (.enqueue f s.now) ∧
    (∀ a ∈ acts, a.isInternal = true) ∧
    ∃ (w : Custody) (later : List Entry), w.Describes (fun _ _ => True) s ∧ w.accepted = [] ∧
      (w.run acts).Describes (fun _ _ => True) s' ∧
      (w.run acts).accepted = Entry.ofFields id f s.now :: later ∧ ∀ e ∈ later, id < e.id

/-- Any station is described by a custody that has accepted nothing yet. -/
theorem exists_describes (s : Station σ) :
    ∃ w : Custody, w.Describes (fun _ _ => True) s ∧ w.accepted = [] := by
  -- of the entries that the journal reports as lost only the numbers are known
  let lost (id : Nat) : Attempt :=
    ⟨Entry.deliveryAt (Entry.ofFields id ⟨"", "", ""⟩ 0) 0, .stalled, false⟩
  refine ⟨{ Custody.around s.buffer s.storage with attempts := s.lostIds.map lost },
    ⟨rfl, rfl, rfl, ?_, trivial⟩, rfl⟩
  have hlost (ids : List Nat) :
      (((ids.map lost).filter Attempt.isLost).map Attempt.entry).map Entry.id = ids := by
    induction ids with
    | nil => rfl
    | cons id ids ih => exact congrArg (id :: ·) ih
  exact hlost s.lostIds

/-- What the spool does after an acceptance leaves the entry the only one under its number. -/
theorem acceptedOnce_of_followsBy {s s' : Station σ} {f : Fields} {id : Nat}
    (henqueue : (s.enqueue f).1 = .ok id) {acts : List Act}
    (h : FollowsBy (fun _ _ => True) (.enqueue f s.now :: acts) s s') :
    AcceptedOnce f id (.enqueue f s.now :: acts) s s' := by
  obtain ⟨w, hw, hnone⟩ := s.exists_describes
  obtain ⟨answer, t, ht, hb, -, -⟩ := s.enqueue_cases f
  rw [ht] at henqueue
  obtain rfl : answer = .ok id := henqueue
  obtain ⟨-, -, rfl, haccept⟩ := Buffer.enqueue_accepted hb
  have haccepted : (w.perform (.enqueue f s.now)).accepted =
      [Entry.ofFields s.buffer.nextId f s.now] := by
    rw [Custody.accepted_enqueue hw.buffer hw.storage f, hnone, acceptance, ht]
    rfl
  have hnext : (w.perform (.enqueue f s.now)).buffer.nextId = s.buffer.nextId + 1 := by
    rw [← hw.buffer, ← hw.storage] at hb
    simp [Custody.perform, hb, haccept]
  obtain ⟨later, hall, hlater⟩ := (w.perform (.enqueue f s.now)).run_accepted acts
  refine ⟨rfl, rfl, h.course.internal, w, later, hw, hnone, h.course.run w hw, ?_, ?_⟩
  · rw [Custody.run_cons, hall, haccepted]
    rfl
  · rw [hnext] at hlater
    exact hlater

/-- An event that reports no loss does not matter. -/
theorem AcceptedOnce.record {s s' : Station σ} {f : Fields} {id : Nat} {acts : List Act}
    (h : AcceptedOnce f id acts s s') {event : Event} (hevent : event.lostId? = none) :
    AcceptedOnce f id acts s (s'.record event) := by
  obtain ⟨hid, hfirst, hacts, w, later, hw, hnone, hdescribes, haccepted⟩ := h
  have hbeside : Beside s' (s'.record event) := (Beside.refl s').record hevent
  exact ⟨hid, hfirst, hacts, w, later, hw, hnone,
    hdescribes.of_beside hbeside hdescribes.buffer hdescribes.storage rfl rfl, haccepted⟩

end Station

namespace Engine

variable {σ : Type} [Sink σ] {e e' : Engine σ}

/-- An entry whose number is the answer was accepted once, by the first act of the call. -/
theorem addLog_acceptedOnce {f : Fields} {id : Nat} (h : e.addLog f = (.answered id, e')) :
    e.station.AcceptedOnce f.withDefaults id (e.performActs (.addLog f)) e'.station := by
  have hfollows : Station.FollowsBy (fun _ _ => True) (e.performActs (.addLog f)) e.station
      (e.addLog f).2.station :=
    e.perform_followsBy Sink.tracks_true (.addLog f) (by simp)
  have hcall : e.station.addLog e.config (intrude e.config) f = (.answered id, e'.station) := by
    rw [addLog, onStation] at h
    obtain ⟨hid, rfl⟩ := Prod.mk.inj h
    exact Prod.ext hid rfl
  -- only an entry that was accepted is answered with a number
  have henqueue : (e.station.enqueue f.withDefaults).1 = .ok id := by
    obtain ⟨-, ⟨why, -, -, hexit⟩ | ⟨hrefusal, hstorage, -, hexit⟩⟩ :=
      e.station.addLog_exits e.config (intrude e.config) f
    · cases hexit.symm.trans hcall
    · have hnumber : e.station.buffer.nextId = id := by
        rcases hexit with ⟨-, hexit⟩ | ⟨-, hexit⟩
        · exact Outcome.answered.inj (congrArg Prod.fst (hexit.symm.trans hcall))
        · obtain ⟨report, -, hnumber⟩ :=
            Outcome.answered_of_map (congrArg Prod.fst (hexit.symm.trans hcall))
          exact hnumber
      rw [(e.station.enqueue_buffer f.withDefaults).1, Buffer.enqueue, hstorage, hrefusal, hnumber]
  rw [h] at hfollows
  exact Station.acceptedOnce_of_followsBy henqueue hfollows

end Engine

/-! ## Batches -/

/-- A batch that is answered reports as many entries as the sink took. -/
theorem Station.processAlone_taken {σ : Type} [Sink σ] (config : EngineConfig) {maxItems : Nat}
    {s s' : Station (Traced σ)} {report : BatchReport} (htrace : s.sink.trace = [])
    (h : s.processAlone (Engine.intrude config) maxItems = (.answered report, s')) :
    report.processed = (takenIn s'.sink.trace).length := by
  rw [processAlone] at h
  split at h
  · cases h
  · -- the trace is looked at as a record of the deliveries
    let began : Station (Traced σ) := { s with busy := true }
    rcases hprocess : began.process (Engine.intrude config) maxItems with ⟨outcome, t⟩
    rw [hprocess] at h
    obtain ⟨rfl, rfl⟩ := Prod.mk.inj h
    have hsame := began.process_map Traced.recorded_morphism
      (sameIntrusions_intrudeThrough Traced.recorded_morphism config Engine.nesting) maxItems
    have haccounted := process_accounted maxItems (s := began.map Traced.recorded)
      (Engine.intrude_onlyProduces config)
    have hprocess' : (began.map Traced.recorded).process (Engine.intrude config) maxItems =
        (.answered report, t.map Traced.recorded) := by
      rw [Engine.intrude, hsame]
      exact congrArg (fun result => (result.1, result.2.map Traced.recorded)) hprocess
    rw [Accounted, hprocess'] at haccounted
    obtain ⟨hreports, hcut⟩ := haccounted
    have hmade : (t.map Traced.recorded).sink.since (began.map Traced.recorded).sink =
        deliveriesIn t.sink.trace := by
      change (deliveriesIn t.sink.trace).drop (deliveriesIn s.sink.trace).length = _
      rw [htrace]
      rfl
    -- a batch that was cut short is not answered
    have hreported := hreports.2 fun hshort => by
      cases (hcut hshort).2.1
    rw [takenIn_length, ← hmade]
    exact hreported report.processed rfl

namespace Rest

variable {σ : Type} [Sink σ] {c : ServerConfig} {r : Request} {e : Engine σ}

/-! ## Refusals -/

/-- The statuses of refusals. -/
def IsRefusal (status : Nat) : Prop :=
  400 ≤ status ∧ status < 500

omit [Sink σ] in
/-- Nothing has been done to an engine, but for some errors that were counted. -/
structure LeftAlone (errors : Nat) (e e' : Engine σ) : Prop where
  config : e'.config = e.config
  sink : e'.station.sink = e.station.sink
  queue : e'.station.buffer.queue = e.station.buffer.queue
  nextId : e'.station.buffer.nextId = e.station.buffer.nextId
  totalIngested : e'.station.buffer.metrics.totalIngested = e.station.buffer.metrics.totalIngested
  totalProcessed :
    e'.station.buffer.metrics.totalProcessed = e.station.buffer.metrics.totalProcessed
  totalErrors :
    e'.station.buffer.metrics.totalErrors = e.station.buffer.metrics.totalErrors + errors

/-- How many errors a refusal counts. -/
def errorsOf (status : Nat) : Nat :=
  if status = 429 then 1 else 0

omit [Sink σ] in
theorem LeftAlone.refl (e : Engine σ) : LeftAlone 0 e e :=
  ⟨rfl, rfl, rfl, rfl, rfl, rfl, rfl⟩

omit [Sink σ] in
/-- Failures of the server are recorded, and nothing else. -/
theorem refuse_of_lt {why : RequestError} (h : why.status.http < 500) (e : Engine σ) :
    refuse why e = (some why.response, e) := by
  unfold refuse
  rw [if_neg (Nat.not_le_of_lt h)]

/-- A refusal by the engine. -/
theorem leftAlone_of_addLog {f : Fields} {why : EngineError} {e' : Engine σ}
    (h : e.addLog f = (.failed why, e')) (hstatus : why.kind.status.http < 500) :
    LeftAlone (errorsOf why.kind.status.http) e e' := by
  rcases Engine.addLog_failed h with hserver | ⟨hrefusal, hconfig, hsink, hbuffer⟩
  · exact absurd hserver (Nat.not_le_of_lt hstatus)
  · rcases Buffer.refusal?_kind hrefusal with hkind | hkind | hkind | hkind <;>
      rw [hkind] at hstatus hbuffer ⊢
    · exact ⟨hconfig, hsink, by simp [hbuffer], by simp [hbuffer], by simp [hbuffer],
        by simp [hbuffer], by simp [hbuffer, errorsOf, ErrorKind.status, Status.http]⟩
    · -- a full buffer counts its refusal
      exact ⟨hconfig, hsink, by simp [hbuffer], by simp [hbuffer], by simp [hbuffer],
        by simp [hbuffer], by simp [hbuffer, Buffer.countError, errorsOf, ErrorKind.status, Status.http]⟩
    · exact absurd hstatus (by decide)
    · exact absurd hstatus (by decide)

/-- A request that is answered with a refusal has done nothing. -/
theorem Served.leftAlone {resource : Resource} {result : Option Response × Engine σ}
    (h : Served c r e resource result) {response : Response} (hresponse : result.1 = some response)
    (hrefusal : IsRefusal response.status) :
    LeftAlone (errorsOf response.status) e result.2 := by
  obtain ⟨hlow, hhigh⟩ := hrefusal
  have hsuccess : ¬ 400 ≤ 200 := by decide
  have hunavailable : ¬ 503 < 500 := by decide
  cases h with
  | @health report e' _ =>
      obtain rfl := Option.some.inj hresponse
      obtain ⟨healthy, depth⟩ := report
      cases healthy with
      | true => exact absurd hlow hsuccess
      | false => exact absurd hhigh hunavailable
  | tooLong _ =>
      obtain rfl := Option.some.inj hresponse
      exact .refl e
  | @failed _ why e' _ hfails =>
      obtain rfl : why.response = response := Option.some.inj hresponse
      rw [refuse_of_lt hhigh]
      cases hfails with
      | closed => exact absurd hhigh hunavailable
      | entryBody _ => exact .refl e
      | batchBody _ => exact .refl e
      | entry hcall => exact leftAlone_of_addLog hcall hhigh
      | batch hcall =>
          have hserver := Station.processAlone_serverError (congrArg Prod.fst hcall)
          exact absurd hserver (Nat.not_le_of_lt hhigh)
  | unanswered _ _ => cases hresponse
  | _ =>
      obtain rfl := Option.some.inj hresponse
      exact absurd hlow hsuccess

/-! ## Answers of the server -/

/-- A refusal by the server, also of what is about no resource, has done nothing. -/
theorem serve_leftAlone {response : Response} (hresponse : (serve c r e).1 = some response)
    (hrefusal : IsRefusal response.status) :
    LeftAlone (errorsOf response.status) e (serve c r e).2 := by
  rcases serve_exits c r e with ⟨-, hserve⟩ | hserve
  · rw [hserve] at hresponse
    obtain rfl := Option.some.inj hresponse
    exact absurd hrefusal.1 (by decide)
  · rw [hserve] at hresponse ⊢
    obtain ⟨plain, hplain, rfl⟩ := Option.map_eq_some_iff.1 hresponse
    rw [finished_status] at hrefusal ⊢
    rcases route_exits c r e with ⟨-, hroute⟩ | ⟨resource, -, ⟨-, hroute⟩ | ⟨-, hserved⟩⟩
    · rw [hroute] at hplain ⊢
      obtain rfl := Option.some.inj hplain
      exact .refl e
    · rw [hroute] at hplain ⊢
      obtain rfl := Option.some.inj hplain
      exact .refl e
    · exact hserved.leftAlone hplain hrefusal

/-- What is posted reaches the resource of its path. -/
theorem serve_post {resource : Resource} (hmethod : r.method = "POST")
    (hpath : Resource.ofPath? r.path = some resource) {response : Response}
    (hresponse : (serve c r e).1 = some response) (hok : response.status = 200) :
    ∃ plain e', Served c r e resource (some plain, e') ∧ plain.status = 200 ∧
      response.body = plain.body ∧ (serve c r e).2 = e' := by
  rcases serve_exits c r e with ⟨hoptions, -⟩ | hserve
  · exact absurd (hmethod.symm.trans hoptions) (by decide)
  · rw [hserve] at hresponse ⊢
    obtain ⟨plain, hplain, rfl⟩ := Option.map_eq_some_iff.1 hresponse
    rw [finished_status] at hok
    have hbody := finished_body c r plain (by rw [hmethod]; decide)
    rcases route_exits c r e with ⟨hnone, -⟩ | ⟨resource', hsome, ⟨-, hroute⟩ | ⟨-, hserved⟩⟩
    · rw [hpath] at hnone
      cases hnone
    · rw [hroute] at hplain
      obtain rfl := Option.some.inj hplain
      exact absurd hok (show ¬ 405 = 200 by decide)
    · obtain rfl := Option.some.inj (hpath.symm.trans hsome)
      refine ⟨plain, (route c r e).2, ?_, hok, hbody, rfl⟩
      rw [← hplain]
      exact hserved

omit [Sink σ] in
/-- An error is not answered with success. -/
theorem refuse_ne_ok {why : RequestError} {response : Response} {e e' : Engine σ}
    (h : refuse why e = (some response, e')) : response.status ≠ 200 := by
  obtain rfl : why.response = response := Option.some.inj (congrArg Prod.fst h)
  change why.status.http ≠ 200
  cases why.status <;> decide

/-- An entry that is answered with success was accepted once, under the number in the answer. -/
theorem serve_accepted (hmethod : r.method = "POST") (hpath : r.path = "/logs") {response : Response}
    (hresponse : (serve c r e).1 = some response) (hok : response.status = 200) :
    ∃ f id, entryOf c.maxBodySize r = .ok f ∧ response.body = (acceptedDocument id).write ∧
      e.station.AcceptedOnce f.withDefaults id (e.performActs (.addLog f))
        (serve c r e).2.station := by
  have hresource : Resource.ofPath? r.path = some .logs := by rw [hpath]; rfl
  obtain ⟨plain, e', hserved, hplain, hbody, hafter⟩ := serve_post hmethod hresource hresponse hok
  rw [hbody, hafter]
  generalize hresult : (some plain, e') = result at hserved
  cases hserved with
  | preview hget _ => exact absurd hmethod hget
  | @accepted f id e'' _ hentry hcall =>
      obtain ⟨hsome, rfl⟩ := Prod.mk.inj hresult
      obtain rfl := Option.some.inj hsome
      exact ⟨f, id, hentry, rfl, (Engine.addLog_acceptedOnce hcall).record rfl⟩
  | failed _ _ => exact absurd hplain (refuse_ne_ok hresult.symm)
  | unanswered _ _ => cases hresult

/-- A batch that is answered with success reports as many entries as the sink took. -/
theorem serve_processed {e : Engine (Traced σ)} (htrace : e.station.sink.trace = [])
    (hmethod : r.method = "POST") (hpath : r.path = "/process") {response : Response}
    (hresponse : (serve c r e).1 = some response) (hok : response.status = 200) :
    ∃ report, response.body = (processedDocument report).write ∧
      report.processed = (takenIn (serve c r e).2.station.sink.trace).length := by
  have hresource : Resource.ofPath? r.path = some .process := by rw [hpath]; rfl
  obtain ⟨plain, e', hserved, hplain, hbody, hafter⟩ := serve_post hmethod hresource hresponse hok
  rw [hbody, hafter]
  generalize hresult : (some plain, e') = result at hserved
  cases hserved with
  | @processed n report e'' _ _ hcall =>
      obtain ⟨hsome, rfl⟩ := Prod.mk.inj hresult
      obtain rfl := Option.some.inj hsome
      refine ⟨report, rfl, ?_⟩
      obtain ⟨houtcome, rfl⟩ := Prod.mk.inj hcall
      exact Station.processAlone_taken e.config htrace (Prod.ext houtcome rfl)
  | tooLong _ =>
      obtain rfl := Option.some.inj (congrArg Prod.fst hresult)
      exact absurd hplain (show ¬ 413 = 200 by decide)
  | failed _ _ => exact absurd hplain (refuse_ne_ok hresult.symm)
  | unanswered _ _ => cases hresult

/-- The use of the sink that is made in serving a request. -/
def requestTrace (c : ServerConfig) (r : Request) (e : Engine σ) : List Moment :=
  (serve c r e.withTrace).2.station.sink.trace

/-- What the status of an answer tells about the engine, for every state of the engine, every sink and
every request.

A refusal has done nothing: no call of the sink was started, the sink is as it was, and so are the
queue, the numbers and the counters, but for one error that is counted with the status 429.  An entry
that is posted and answered with 200 was accepted once, under the number in the answer, by the first of
the acts that its call has performed.  A batch that is posted and answered with 200 reports as many
entries as the sink took from it. -/
theorem status_tells_effect (c : ServerConfig) (r : Request) (e : Engine σ) {response : Response}
    (hresponse : (serve c r e).1 = some response) :
    (serve c r e.withTrace).2.map Traced.inner = (serve c r e).2 ∧
    (IsRefusal response.status → requestTrace c r e = [] ∧
      LeftAlone (if response.status = 429 then 1 else 0) e (serve c r e).2) ∧
    (r.method = "POST" → r.path = "/logs" → response.status = 200 →
      ∃ f id, entryOf c.maxBodySize r = .ok f ∧
        response.body = (Json.record [("status", .text "ok"), ("message", .text "log accepted"),
          ("id", .natural id)]).write ∧
        e.station.AcceptedOnce f.withDefaults id (e.performActs (.addLog f))
          (serve c r e).2.station) ∧
    (r.method = "POST" → r.path = "/process" → response.status = 200 →
      ∃ elapsed, response.body = (Json.record [("status", .text "ok"),
        ("processed", .natural (takenIn (requestTrace c r e)).length),
        ("elapsed_ms", .float elapsed)]).write) := by
  have hsame := serve_map c r e.withTrace Traced.inner_morphism
  have htraced : (serve c r e.withTrace).1 = some response :=
    (congrArg Prod.fst hsame).symm.trans hresponse
  refine ⟨(congrArg Prod.snd hsame).symm, ?_, ?_, ?_⟩
  · intro hrefusal
    exact ⟨congrArg Traced.trace (serve_leftAlone htraced hrefusal).sink,
      serve_leftAlone hresponse hrefusal⟩
  · intro hmethod hpath hok
    exact serve_accepted hmethod hpath hresponse hok
  · intro hmethod hpath hok
    obtain ⟨report, hbody, hcount⟩ := serve_processed rfl hmethod hpath htraced hok
    rw [processedDocument, hcount] at hbody
    exact ⟨report.elapsedMs, hbody⟩

/-- A full buffer refuses an entry; then a batch is asked for, which delivers what was queued; then
the same entry is accepted. -/
theorem status_tells_effect_of_full_buffer :
    let c : ServerConfig := ⟨"", 100, true⟩
    let entry : Request := ⟨"POST", "/logs", [("content-type", "application/json")],
      [123, 34, 109, 101, 115, 115, 97, 103, 101, 34, 58, 34, 97, 34, 125]⟩
    let batch : Request := ⟨"POST", "/process", [], []⟩
    let full : Engine MemorySink := ⟨⟨1, 2, 1, 1⟩,
      .around (Buffer.accept ⟨1, [], 1, .initial 1 0, true⟩ ⟨"INFO", "app", "a"⟩ 0)
        (.withRetention 1) ⟨0, 0⟩ 1⟩
    let delivered := (serve c batch full).2
    (requestTrace c entry full = [] ∧ LeftAlone 1 full (serve c entry full).2) ∧
      (∃ response elapsed, (serve c batch full).1 = some response ∧
        response.body = (Json.record [("status", .text "ok"), ("processed", .natural 1),
          ("elapsed_ms", .float elapsed)]).write) ∧
      delivered.station.AcceptedOnce ⟨"INFO", "api", "a"⟩ 2
        (delivered.performActs (.addLog ⟨"", "", "a"⟩)) (serve c entry delivered).2.station := by
  intro c entry batch full delivered
  have hrefused : (serve c entry full).1.map Response.status = some 429 := by
    decide +kernel +zetaReduce
  have hbatch : (serve c batch full).1.map Response.status = some 200 := by
    decide +kernel +zetaReduce
  have haccepted : (serve c entry delivered).1.map Response.status = some 200 := by
    decide +kernel +zetaReduce
  obtain ⟨refusal, hrefusal, hfull⟩ := Option.map_eq_some_iff.1 hrefused
  obtain ⟨report, hreport, hok⟩ := Option.map_eq_some_iff.1 hbatch
  obtain ⟨answer, hanswer, hok'⟩ := Option.map_eq_some_iff.1 haccepted
  have hpath : entry.path = "/logs" := by decide +zetaReduce
  have hpath' : batch.path = "/process" := by decide +zetaReduce
  refine ⟨?_, ?_, ?_⟩
  · obtain ⟨-, hnothing, -⟩ := status_tells_effect c entry full hrefusal
    rw [hfull] at hnothing
    exact hnothing ⟨by decide, by decide⟩
  · obtain ⟨-, -, -, hprocessed⟩ := status_tells_effect c batch full hreport
    obtain ⟨elapsed, hbody⟩ := hprocessed rfl hpath' hok
    have hone : (takenIn (requestTrace c batch full)).length = 1 := by
      decide +kernel +zetaReduce
    rw [hone] at hbody
    exact ⟨report, elapsed, hreport, hbody⟩
  · obtain ⟨-, -, hentry, -⟩ := status_tells_effect c entry delivered hanswer
    obtain ⟨f, id, hread, -, honce⟩ := hentry rfl hpath hok'
    have hfields : entryOf 100 entry = .ok ⟨"", "", "a"⟩ := by rfl
    obtain rfl := Except.ok.inj (hread.symm.trans hfields)
    have hnext : delivered.station.buffer.nextId = 2 := by decide +kernel +zetaReduce
    obtain rfl := honce.1.trans hnext
    exact honce

end Rest

end LogSpool
