import LogSpool.Proofs.Engine.Operations
import LogSpool.Proofs.Session.Image
import LogSpool.Proofs.Station.Kept
import LogSpool.Rest.Routes

/-!
# What serving a request comes to

This module says, once for all developments, how a request is answered and what the engine is then:
every exit of the routes is a constructor of one relation.  It also says with which errors a call of
an engine can fail, since the status of an answer is decided by the error alone.

* `Fails`, `Served` — the failures of a request, and all the ways in which it ends.
* `route_served` — there is no other way.
* `serve_exits` — what the server adds to the answer of a route.
* `processAlone_serverError`, `addLog_failed` — the errors of the two calls that change an engine.
* `serve_map` — an engine over the image of a sink serves in the same way.
-/

namespace LogSpool

/-! ## Errors of calls -/

/-- Another answer does not change an error. -/
theorem Outcome.failed_of_map {α β : Type} {g : α → β} {outcome : Outcome α} {why : EngineError}
    (h : outcome.map g = .failed why) : outcome = .failed why := by
  cases outcome with
  | answered a => cases h
  | failed why' => exact congrArg Outcome.failed (Outcome.failed.inj h)
  | abandoned => cases h

theorem Outcome.answered_of_map {α β : Type} {g : α → β} {outcome : Outcome α} {b : β}
    (h : outcome.map g = .answered b) : ∃ a, outcome = .answered a ∧ g a = b := by
  cases outcome with
  | answered a => exact ⟨a, rfl, Outcome.answered.inj h⟩
  | failed why => cases h
  | abandoned => cases h

/-- Whether an error is a failure of the server. -/
def EngineError.IsServerError (why : EngineError) : Prop :=
  500 ≤ why.kind.status.http

namespace Station

variable {σ : Type} [Sink σ] {intrude : Station σ → Intrusion → Station σ}

/-- The loop of deliveries fails at a closed buffer, or in a delivery. -/
theorem Delivers.serverError {started remaining processed : Nat} {s s' : Station σ}
    {outcome : Outcome Nat} {why : EngineError}
    (hloop : Delivers intrude started remaining processed s outcome s')
    (h : outcome = .failed why) : why.IsServerError := by
  induction hloop with
  | limit => cases h
  | closed _ =>
      obtain rfl := Outcome.failed.inj h
      show 500 ≤ 503
      omega
  | empty _ _ => cases h
  | accepted _ _ _ ih => exact ih h
  | @refused _ processed _ _ ended _ e refusal _ _ _ hrecover =>
      obtain ⟨_, _, hs', -, -, hentry⟩ :=
        (ended.markError.observeBatch started).recover_spec e processed refusal
      obtain ⟨rfl, rfl⟩ := Prod.mk.inj (hrecover.symm.trans hs')
      rw [← Outcome.failed.inj h]
      rcases hentry with ⟨-, rfl, -⟩ | ⟨_, -, rfl, -⟩
      · show 500 ≤ 502
        omega
      · show 500 ≤ 500
        omega
  | stalled _ _ => cases h

/-- A batch fails as a server does. -/
theorem processAlone_serverError {maxItems : Nat} {s : Station σ} {why : EngineError}
    (h : (s.processAlone intrude maxItems).1 = .failed why) : why.IsServerError := by
  rw [processAlone] at h
  split at h
  · cases h
  · rcases hprocess : ({ s with busy := true } : Station σ).process intrude maxItems with
      ⟨outcome, s'⟩
    rw [hprocess] at h
    obtain rfl : outcome = .failed why := h
    have hloop : Delivers intrude s.clock.elapsed (s.batchLimit maxItems) 0
      { s with busy := true } _ _ := deliver_delivers _ _ _ _
    exact hloop.serverError (congrArg Prod.fst (process_failed hprocess))

end Station

/-- A refusal leaves a buffer as it is, but for the error that a full buffer counts; or there was no
storage, and that is a failure of the server. -/
theorem Buffer.enqueue_refused_eq {b : Buffer} {f : Fields} {shortage : Option Shortage}
    {why : EngineError} (h : b.refusal? f shortage = some why) (now : Int) :
    why.IsServerError ∨
      (b.enqueue f now shortage).2 = if why.kind = .capacityExceeded then b.countError else b := by
  rw [enqueue, h]
  cases why with
  | allocationFailure short =>
      left
      show 500 ≤ 500
      omega
  | _ => exact Or.inr rfl

namespace Engine

variable {σ : Type} [Sink σ] {e : Engine σ}

/-- Handing in an entry fails as a server does, or because the entry was refused.  A refusal leaves
the sink as it is, and of the buffer it changes one counter at most. -/
theorem addLog_failed {f : Fields} {why : EngineError} {e' : Engine σ}
    (h : e.addLog f = (.failed why, e')) :
    why.IsServerError ∨
      e.station.buffer.refusal? f.withDefaults e.station.storage.shortage? = some why ∧
        e'.config = e.config ∧
        e'.station.sink = e.station.sink ∧
        e'.station.buffer =
          if why.kind = .capacityExceeded then e.station.buffer.countError else e.station.buffer := by
  rw [addLog, onStation] at h
  obtain ⟨hbeside, ⟨why', hrefusal, -, hexit⟩ | ⟨-, -, -, ⟨-, hexit⟩ | ⟨-, hexit⟩⟩⟩ :=
    e.station.addLog_exits e.config (intrude e.config) f
  · rw [hexit] at h
    obtain ⟨hwhy, rfl⟩ := Prod.mk.inj h
    obtain rfl := Outcome.failed.inj hwhy
    rcases Buffer.enqueue_refused_eq hrefusal e.station.now with hserver | hbuffer
    · exact Or.inl hserver
    · right
      refine ⟨hrefusal, rfl, hbeside.sink, ?_⟩
      rw [(e.station.enqueue_buffer f.withDefaults).2]
      exact hbuffer
  · rw [hexit] at h
    cases h
  · left
    rw [hexit] at h
    exact Station.processAlone_serverError (Outcome.failed_of_map (congrArg Prod.fst h))

end Engine

namespace Rest

/-! ## Routes -/

variable {σ : Type} [Sink σ]

/-- How a request fails: with which error, and what the engine is then. -/
inductive Fails (c : ServerConfig) (r : Request) (e : Engine σ) : RequestError → Engine σ → Prop
  | closed : Fails c r e (.engine .notInitialized) e
  | entryBody {reason : String} : entryOf c.maxBodySize r = .error reason →
    Fails c r e (.invalidBody reason) e
  | batchBody {reason : String} : batchOf r = .error reason → Fails c r e (.invalidBody reason) e
  | entry {f : Fields} {why : EngineError} {e' : Engine σ} : e.addLog f = (.failed why, e') →
    Fails c r e (.engine why) e'
  | batch {n : Nat} {why : EngineError} {e' : Engine σ} : e.process n = (.failed why, e') →
    Fails c r e (.engine why) e'

/-- How a request to a resource ends, by one of the methods of the resource. -/
inductive Served (c : ServerConfig) (r : Request) (e : Engine σ) :
    Resource → Option Response × Engine σ → Prop
  | health {report : HealthReport} {e' : Engine σ} : e.health = (.answered report, e') →
    Served c r e .health (some (healthResponse report), e')
  | preview {p : Preview} : r.method ≠ "POST" → e.pending = .ok p →
    Served c r e .logs (some (.ofDocument 200 p.document), e)
  | report {report : Report} : e.report = .ok report →
    Served c r e .metrics (some (.ofDocument 200 report.document), e)
  | exposition {text : String} :
    Served c r e .exposition
      (some ⟨200, [("content-type", "text/plain; version=0.0.4")], text⟩, e)
  | accepted {f : Fields} {id : Nat} {e' : Engine σ} : r.method = "POST" →
    entryOf c.maxBodySize r = .ok f → e.addLog f = (.answered id, e') →
    Served c r e .logs (some (.ofDocument 200 (acceptedDocument id)),
      { e' with station := e'.station.record (.logAccepted id) })
  | processed {n : Nat} {report : BatchReport} {e' : Engine σ} : r.body.length ≤ c.maxBodySize →
    batchOf r = .ok n → e.process n = (.answered report, e') →
    Served c r e .process (some (.ofDocument 200 (processedDocument report)), e')
  | tooLong : c.maxBodySize < r.body.length →
    Served c r e .process (some (.ofText 413 tooLongReason), e)
  | failed {resource : Resource} {why : RequestError} {e' : Engine σ} :
    (resource = .process → r.body.length ≤ c.maxBodySize) → Fails c r e why e' →
    Served c r e resource (refuse why e')
  | unanswered {resource : Resource} {e' : Engine σ} :
    (resource = .process → r.body.length ≤ c.maxBodySize) →
    (e.health = (.abandoned, e') ∨ (∃ f, e.addLog f = (.abandoned, e')) ∨
      ∃ n, e.process n = (.abandoned, e')) → Served c r e resource (none, e')

variable (c : ServerConfig) (r : Request) (e : Engine σ)

omit [Sink σ] in
/-- A reading fails only if the buffer is closed. -/
theorem read_notInitialized {α : Type} {b : Buffer} {view : Buffer → α} {why : EngineError}
    (h : b.read view = .error why) : why = .notInitialized := by
  rw [Buffer.read] at h
  split at h
  · cases h
  · exact (Except.error.inj h).symm

/-- A health check fails only if the buffer is closed, and then nothing was done. -/
theorem health_failed {why : EngineError} {e' : Engine σ} (h : e.health = (.failed why, e')) :
    why = .notInitialized ∧ e' = e := by
  rw [Engine.health, Engine.onStation] at h
  cases hdepth : e.station.buffer.depth with
  | error why' =>
      simp only [hdepth] at h
      obtain ⟨hwhy, rfl⟩ := Prod.mk.inj h
      obtain rfl := Outcome.failed.inj hwhy
      exact ⟨read_notInitialized hdepth, rfl⟩
  | ok depth =>
      simp only [hdepth] at h
      rcases hcall : e.station.callSink (Engine.intrude e.config) .ping with ⟨_ | why' | _, s⟩ <;>
        rw [hcall] at h <;> cases h

/-- Every answer to a request about a resource is one of these. -/
theorem answerResource_served (resource : Resource) :
    Served c r e resource (answerResource c resource r e) := by
  cases resource with
  | health =>
      change Served c r e .health (answerCall healthResponse e.health)
      rcases hcall : e.health with ⟨report | why | _, e'⟩
      · exact .health hcall
      · obtain ⟨rfl, rfl⟩ := health_failed e hcall
        exact .failed nofun .closed
      · exact .unanswered nofun (Or.inl hcall)
  | logs =>
      by_cases hpost : r.method = "POST"
      · have hanswer : answerResource c .logs r e = answerEntry c r e := if_pos hpost
        rw [hanswer, answerEntry]
        cases hentry : entryOf c.maxBodySize r with
        | error reason => exact .failed nofun (.entryBody hentry)
        | ok f =>
            dsimp only
            rcases hcall : e.addLog f with ⟨id | why | _, e'⟩
            · exact .accepted hpost hentry hcall
            · exact .failed nofun (.entry hcall)
            · exact .unanswered nofun (Or.inr (Or.inl ⟨f, hcall⟩))
      · have hanswer : answerResource c .logs r e =
            answerReading Preview.document e.pending e := if_neg hpost
        rw [hanswer]
        cases hpending : e.pending with
        | error why =>
            rw [Engine.pending, Buffer.preview] at hpending
            obtain rfl := read_notInitialized hpending
            exact .failed nofun .closed
        | ok p => exact .preview hpost hpending
  | process =>
      change Served c r e .process (answerBatch c r e)
      rw [answerBatch]
      by_cases hlong : c.maxBodySize < r.body.length
      · rw [if_pos hlong]
        exact .tooLong hlong
      · rw [if_neg hlong]
        have hshort : r.body.length ≤ c.maxBodySize := Nat.le_of_not_lt hlong
        cases hbatch : batchOf r with
        | error reason => exact .failed (fun _ => hshort) (.batchBody hbatch)
        | ok n =>
            dsimp only
            rcases hcall : e.process n with ⟨report | why | _, e'⟩
            · exact .processed hshort hbatch hcall
            · exact .failed (fun _ => hshort) (.batch hcall)
            · exact .unanswered (fun _ => hshort) (Or.inr (Or.inr ⟨n, hcall⟩))
  | metrics =>
      change Served c r e .metrics (answerReading Report.document e.report e)
      cases hreport : e.report with
      | error why =>
          rw [Engine.report] at hreport
          cases hsnapshot : e.station.buffer.snapshot with
          | error why' =>
              rw [hsnapshot] at hreport
              obtain rfl := Except.error.inj hreport
              obtain rfl := read_notInitialized hsnapshot
              exact .failed nofun .closed
          | ok metrics =>
              rw [hsnapshot] at hreport
              cases hreport
      | ok report => exact .report hreport
  | exposition => exact .exposition

/-- A request is answered without a look at the engine, or it is about a resource and made by one of
the resource's methods. -/
theorem route_exits :
    (Resource.ofPath? r.path = none ∧ route c r e = (some (.empty 404 []), e)) ∨
      ∃ resource, Resource.ofPath? r.path = some resource ∧
        ((r.method ∉ resource.methods ∧ route c r e =
            (some (.empty 405 [("allow", String.intercalate "," resource.methods)]), e)) ∨
          (r.method ∈ resource.methods ∧ Served c r e resource (route c r e))) := by
  rw [route]
  cases hpath : Resource.ofPath? r.path with
  | none => exact Or.inl ⟨rfl, rfl⟩
  | some resource =>
      right
      refine ⟨resource, rfl, ?_⟩
      dsimp only
      by_cases hmethod : r.method ∈ resource.methods
      · right
        rw [if_pos hmethod]
        exact ⟨hmethod, answerResource_served c r e resource⟩
      · left
        rw [if_neg hmethod]
        exact ⟨hmethod, rfl⟩

/-! ## The server -/

/-- A response as it leaves the server. -/
def finished (c : ServerConfig) (r : Request) (response : Response) : Response :=
  let response := response.measured
  let response :=
    if c.enableCors then { response with headers := response.headers ++ corsHeaders } else response
  if r.method = "HEAD" then { response with body := "" } else response

theorem finished_status (response : Response) :
    (finished c r response).status = response.status := by
  unfold finished
  dsimp only
  split <;> split <;> rfl

theorem finished_body (response : Response) (hmethod : r.method ≠ "HEAD") :
    (finished c r response).body = response.body := by
  unfold finished
  rw [if_neg hmethod]
  split <;> rfl

/-- The server adds headers, and none is taken away. -/
theorem finished_headers (response : Response) :
    response.headers <+: (finished c r response).headers := by
  unfold finished Response.measured
  dsimp only
  split <;> split <;> simp [List.append_assoc]

/-- A page that asks what it may do is told so; any other request is answered by its route. -/
theorem serve_exits :
    (r.method = "OPTIONS" ∧ serve c r e = (some preflight.measured, e)) ∨
      serve c r e = ((route c r e).1.map (finished c r), (route c r e).2) := by
  unfold serve
  by_cases hpreflight : c.enableCors = true ∧ r.method = "OPTIONS"
  · left
    exact ⟨hpreflight.2, if_pos hpreflight⟩
  · right
    exact if_neg hpreflight

/-! ## Over the image of a sink -/

section

variable {τ : Type} [Sink τ] {g : σ → τ}

omit [Sink σ] [Sink τ] in
theorem refuse_map (g : σ → τ) (why : RequestError) :
    refuse why (e.map g) = ((refuse why e).1, (refuse why e).2.map g) := by
  unfold refuse
  dsimp only
  split <;> rfl

theorem addLog_map (hg : Sink.Morphism g) (f : Fields) :
    (e.map g).addLog f = ((e.addLog f).1, (e.addLog f).2.map g) := by
  have hcall := e.station.addLog_map hg e.config
    (Station.sameIntrusions_intrudeThrough hg e.config Engine.nesting) f
  exact congrArg (fun result => (result.1, ({ e.map g with station := result.2 } : Engine τ))) hcall

theorem process_map (hg : Sink.Morphism g) (n : Nat) :
    (e.map g).process n = ((e.process n).1, (e.process n).2.map g) := by
  have hcall := e.station.processAlone_map hg
    (Station.sameIntrusions_intrudeThrough hg e.config Engine.nesting) n
  exact congrArg (fun result => (result.1, ({ e.map g with station := result.2 } : Engine τ))) hcall

omit [Sink σ] [Sink τ] in
theorem answerCall_map {α : Type} (g : σ → τ) (respond : α → Response)
    (result : Outcome α × Engine σ) : answerCall respond (result.1, result.2.map g) =
      ((answerCall respond result).1, (answerCall respond result).2.map g) := by
  obtain ⟨outcome, e⟩ := result
  cases outcome with
  | answered a => rfl
  | failed why => exact refuse_map e g _
  | abandoned => rfl

omit [Sink σ] [Sink τ] in
theorem answerReading_map {α : Type} (g : σ → τ) (document : α → Json)
    (reading : Except EngineError α) : answerReading document reading (e.map g) =
      ((answerReading document reading e).1, (answerReading document reading e).2.map g) := by
  cases reading with
  | error why => exact refuse_map e g _
  | ok a => rfl

theorem answerEntry_map (hg : Sink.Morphism g) :
    answerEntry c r (e.map g) = ((answerEntry c r e).1, (answerEntry c r e).2.map g) := by
  unfold answerEntry
  cases entryOf c.maxBodySize r with
  | error reason => exact refuse_map e g _
  | ok f =>
      dsimp only
      rw [addLog_map e hg f]
      rcases e.addLog f with ⟨id | why | _, e'⟩
      · rfl
      · exact refuse_map e' g _
      · rfl

theorem answerBatch_map (hg : Sink.Morphism g) :
    answerBatch c r (e.map g) = ((answerBatch c r e).1, (answerBatch c r e).2.map g) := by
  unfold answerBatch
  split
  · rfl
  · cases batchOf r with
    | error reason => exact refuse_map e g _
    | ok n =>
        dsimp only
        rw [process_map e hg n]
        exact answerCall_map g _ _

theorem answerResource_map (hg : Sink.Morphism g) (resource : Resource) :
    answerResource c resource r (e.map g) =
      ((answerResource c resource r e).1, (answerResource c resource r e).2.map g) := by
  cases resource with
  | health =>
      change answerCall healthResponse (e.map g).health = _
      rw [e.health_map hg]
      exact answerCall_map g _ _
  | logs =>
      unfold answerResource
      dsimp only
      split
      · exact answerEntry_map c r e hg
      · exact answerReading_map e g _ _
  | process => exact answerBatch_map c r e hg
  | metrics => exact answerReading_map e g _ _
  | exposition => rfl

theorem route_map (hg : Sink.Morphism g) :
    route c r (e.map g) = ((route c r e).1, (route c r e).2.map g) := by
  unfold route
  cases Resource.ofPath? r.path with
  | none => rfl
  | some resource =>
      dsimp only
      split
      · exact answerResource_map c r e hg resource
      · rfl

/-- A server over the image of a sink answers in the same way. -/
theorem serve_map (hg : Sink.Morphism g) :
    serve c r (e.map g) = ((serve c r e).1, (serve c r e).2.map g) := by
  have hroute := route_map c r e hg
  unfold serve
  split
  · rfl
  · rw [hroute]

end

end Rest

end LogSpool
