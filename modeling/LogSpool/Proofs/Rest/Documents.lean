import LogSpool.Proofs.Engine.Exclusion
import LogSpool.Proofs.Rest.Serving

/-!
# What the routes of documents answer

This module says what a client of the five routes that answer with documents can read.  A failure
comes as a document of its code and its message, with the status of the code, whatever the state of
the engine, the sink and the request.  One request is answered otherwise: a batch that is asked for
with a body beyond the limit, which is refused in plain text, although an entry with such a body is
refused by a document.

* `JsonRoute`, `Documented` — the routes, and the answers that are documents.
* `errorStatuses`, `IsErrorDocument` — the statuses of the codes, and the documents of failures.
* `Served.documented` — every exit of a route but one is a document.
* `json_route_documented_iff` — for every request, which answers are documents, and when there is no
  answer.
-/

namespace LogSpool.Rest

/-! ## Documents -/

/-- The routes that answer with documents. -/
inductive JsonRoute where
  | health
  | append
  | pending
  | batch
  | report
  deriving Repr, DecidableEq

namespace JsonRoute

/-- The method of a route. -/
def method : JsonRoute → String
  | .health | .pending | .report => "GET"
  | .append | .batch => "POST"

/-- The path of a route. -/
def path : JsonRoute → String
  | .health => "/health"
  | .append | .pending => "/logs"
  | .batch => "/process"
  | .report => "/metrics"

/-- The resource of a route. -/
def resource : JsonRoute → Resource
  | .health => .health
  | .append | .pending => .logs
  | .batch => .process
  | .report => .metrics

end JsonRoute

/-- A response carries a document. -/
structure Carries (response : Response) (document : Json) : Prop where
  contentType : ("content-type", "application/json") ∈ response.headers
  body : response.body = document.write

/-- The documents of success. -/
inductive Success : JsonRoute → Json → Prop
  | health (depth : Nat) : Success .health (HealthReport.document ⟨true, depth⟩)
  | append (id : Nat) : Success .append (acceptedDocument id)
  | pending (p : Preview) : Success .pending p.document
  | batch (report : BatchReport) : Success .batch (processedDocument report)
  | report (report : Report) : Success .report report.document

/-- The codes of failures with their statuses. -/
def errorStatuses : List (String × Nat) :=
  [("validation_error", 400), ("capacity_exceeded", 429), ("persistence_error", 502),
    ("requeue_loss", 500), ("allocation_failure", 500), ("not_initialized", 503)]

/-- A failure, as a document of its code and its message under the status of the code. -/
def IsErrorDocument (response : Response) : Prop :=
  ∃ code message, (code, response.status) ∈ errorStatuses ∧
    Carries response (.record [("code", .text code), ("message", .text message)])

/-- An answer with a document: of success, of a degraded sink, or of a failure. -/
def Documented (route : JsonRoute) (response : Response) : Prop :=
  (response.status = 200 ∧ ∃ document, Success route document ∧ Carries response document) ∨
    (route = .health ∧ response.status = 503 ∧
      ∃ depth, Carries response (HealthReport.document ⟨false, depth⟩)) ∨
    IsErrorDocument response

/-- A body beyond the limit, on the route that does not answer it with a document. -/
def Overlong (route : JsonRoute) (c : ServerConfig) (r : Request) : Prop :=
  route = .batch ∧ c.maxBodySize < r.body.length

/-! ## Exits of the routes -/

theorem carries_ofDocument (status : Nat) (document : Json) :
    Carries (.ofDocument status document) document :=
  ⟨List.mem_singleton_self _, rfl⟩

/-- The kinds of engine errors have the statuses of the table. -/
theorem kind_mem_errorStatuses (kind : ErrorKind) :
    (kind.name, kind.status.http) ∈ errorStatuses := by
  cases kind <;> decide

/-- Only the metrics of a ledger have other errors than those of the table. -/
theorem isErrorDocument_response {why : RequestError} (h : ∀ reason, why ≠ .encode reason) :
    IsErrorDocument why.response := by
  refine ⟨why.code, why.message, ?_, carries_ofDocument _ _⟩
  cases why with
  | engine why => exact kind_mem_errorStatuses why.kind
  | invalidBody reason => exact kind_mem_errorStatuses .validationError
  | encode reason => exact absurd rfl (h reason)

/-- A refusal in plain text is no document. -/
theorem not_documented_of_tooLong {route : JsonRoute} {response : Response}
    (hstatus : response.status = 413) : ¬ Documented route response := by
  rintro (⟨hsuccess, -⟩ | ⟨-, hdegraded, -⟩ | ⟨code, message, hmem, -⟩)
  · omega
  · omega
  · simp [errorStatuses, hstatus] at hmem

variable {σ : Type} [Sink σ] {c : ServerConfig} {r : Request} {e : Engine σ}

/-- A request does not fail in writing metrics. -/
theorem Fails.ne_encode {why : RequestError} {e' : Engine σ} (h : Fails c r e why e')
    (reason : String) : why ≠ .encode reason := by
  cases h <;> nofun

/-- The one answer that is no document. -/
theorem Served.overlong {result : Option Response × Engine σ} (h : Served c r e .process result)
    (hlong : c.maxBodySize < r.body.length) : result = (some (.ofText 413 tooLongReason), e) := by
  cases h with
  | processed hshort _ _ => exact absurd hshort (Nat.not_le_of_lt hlong)
  | tooLong _ => rfl
  | failed hshort _ => exact absurd (hshort rfl) (Nat.not_le_of_lt hlong)
  | unanswered hshort _ => exact absurd (hshort rfl) (Nat.not_le_of_lt hlong)

/-- Everything else that a route answers is a document. -/
theorem Served.documented {route : JsonRoute} {result : Option Response × Engine σ}
    (h : Served c r e route.resource result) (hmethod : r.method = route.method)
    (hshort : ¬ Overlong route c r) {response : Response} (hresponse : result.1 = some response) :
    Documented route response := by
  have hsuccess {document : Json} (hdocument : Success route document)
      (heq : some (Response.ofDocument 200 document) = some response) :
      Documented route response := by
    obtain rfl := Option.some.inj heq
    exact Or.inl ⟨rfl, document, hdocument, carries_ofDocument _ _⟩
  generalize hresource : route.resource = resource at h
  cases h with
  | @health report e' _ =>
      obtain rfl : route = .health := by
        cases route <;> cases hresource
        rfl
      obtain ⟨healthy, depth⟩ := report
      cases healthy with
      | true => exact hsuccess (.health depth) hresponse
      | false =>
          obtain rfl := Option.some.inj hresponse
          exact Or.inr (Or.inl ⟨rfl, rfl, depth, carries_ofDocument _ _⟩)
  | preview hget _ =>
      obtain rfl : route = .pending := by
        cases route with
        | append => exact absurd hmethod hget
        | pending => rfl
        | _ => cases hresource
      exact hsuccess (.pending _) hresponse
  | report _ =>
      obtain rfl : route = .report := by
        cases route <;> cases hresource
        rfl
      exact hsuccess (.report _) hresponse
  | exposition => cases route <;> cases hresource
  | accepted hpost _ _ =>
      obtain rfl : route = .append := by
        cases route with
        | append => rfl
        | pending => exact absurd (hmethod.symm.trans hpost) (by decide)
        | _ => cases hresource
      exact hsuccess (.append _) hresponse
  | processed _ _ _ =>
      obtain rfl : route = .batch := by
        cases route <;> cases hresource
        rfl
      exact hsuccess (.batch _) hresponse
  | tooLong hlong =>
      obtain rfl : route = .batch := by
        cases route <;> cases hresource
        rfl
      exact absurd ⟨rfl, hlong⟩ hshort
  | failed _ hfails =>
      obtain rfl := Option.some.inj hresponse
      exact Or.inr (Or.inr (isErrorDocument_response hfails.ne_encode))
  | unanswered _ _ => cases hresponse

/-! ## Answers of the server -/

theorem Carries.finished {response : Response} {document : Json} (h : Carries response document)
    (hmethod : r.method ≠ "HEAD") : Carries (finished c r response) document where
  contentType := (finished_headers c r response).mem h.contentType
  body := (finished_body c r response hmethod).trans h.body

theorem Documented.finished {route : JsonRoute} {response : Response} (h : Documented route response)
    (hmethod : r.method ≠ "HEAD") : Documented route (finished c r response) := by
  have hstatus := finished_status c r response
  rcases h with ⟨hok, document, hsuccess, hcarries⟩ | ⟨hhealth, hdown, depth, hcarries⟩ |
    ⟨code, message, hmem, hcarries⟩
  · exact Or.inl ⟨hstatus.trans hok, document, hsuccess, hcarries.finished hmethod⟩
  · exact Or.inr (Or.inl ⟨hhealth, hstatus.trans hdown, depth, hcarries.finished hmethod⟩)
  · exact Or.inr (Or.inr ⟨code, message, hstatus ▸ hmem, hcarries.finished hmethod⟩)

/-- A request to one of the routes reaches its resource, and the server adds headers only. -/
theorem serve_route {route : JsonRoute} (e : Engine σ) (hmethod : r.method = route.method)
    (hpath : r.path = route.path) : ∃ result, Served c r e route.resource result ∧
      serve c r e = (result.1.map (finished c r), result.2) := by
  have hresource : Resource.ofPath? r.path = some route.resource := by
    rw [hpath]
    cases route <;> rfl
  have hmethods : r.method ∈ route.resource.methods := by
    rw [hmethod]
    cases route <;> decide
  have hpreflight : r.method ≠ "OPTIONS" := by
    rw [hmethod]
    cases route <;> decide
  rcases serve_exits c r e with ⟨hoptions, -⟩ | hserve
  · exact absurd hoptions hpreflight
  · rcases route_exits c r e with ⟨hnone, -⟩ | ⟨resource, hsome, ⟨hforeign, -⟩ | ⟨-, hserved⟩⟩
    · rw [hresource] at hnone
      cases hnone
    · obtain rfl := Option.some.inj (hresource.symm.trans hsome)
      exact absurd hmethods hforeign
    · obtain rfl := Option.some.inj (hresource.symm.trans hsome)
      exact ⟨_, hserved, hserve⟩

/-- The last use of a sink is a call that it does not answer. -/
def Unanswered (trace : List Moment) : Prop :=
  ∃ call, trace.getLast? = some (.ended call .stalled)

/-- A request to an idle engine is left without an answer only where the sink does not answer. -/
theorem Served.unanswered_trace {e : Engine (Traced σ)} {resource : Resource}
    {result : Option Response × Engine (Traced σ)} (h : Served c r e resource result)
    (hnone : result.1 = none) (hidle : e.station.busy = false) :
    Unanswered result.2.station.sink.trace := by
  cases h with
  | @unanswered _ e' _ hcall =>
      rcases hcall with hcall | ⟨f, hcall⟩ | ⟨n, hcall⟩
      · have hlast := Engine.health_last (congrArg Prod.fst hcall)
        rw [hcall] at hlast
        exact ⟨_, hlast⟩
      · obtain ⟨call, -, hlast⟩ := Station.addLog_leftWaiting e.config hidle (congrArg Prod.fst hcall)
        exact ⟨call, (congrArg (fun result => result.2.station.sink.trace.getLast?) hcall) ▸ hlast⟩
      · obtain ⟨call, -, hlast⟩ := Station.processAlone_leftWaiting hidle (congrArg Prod.fst hcall)
        exact ⟨call, (congrArg (fun result => result.2.station.sink.trace.getLast?) hcall) ▸ hlast⟩
  | _ => cases hnone

/-- What the routes of documents answer, for every state of the engine, every sink, every limit and
every request.  Each answer is a document, of success, of a degraded sink or of a failure with the
status of its code, but for one request: a batch that is asked for with a body beyond the limit is
refused in plain text with the status 413, and nothing is done.

An engine that is not busy answers, unless the sink leaves a call of the request without an end. -/
theorem json_route_documented_iff (route : JsonRoute) (c : ServerConfig) {r : Request} (e : Engine σ)
    (hmethod : r.method = route.method) (hpath : r.path = route.path) :
    (∀ response, (serve c r e).1 = some response →
      (Documented route response ↔ ¬ Overlong route c r)) ∧
    (Overlong route c r → ∃ response, (serve c r e).1 = some response ∧ response.status = 413 ∧
      response.body = tooLongReason ∧
      ("content-type", "text/plain; charset=utf-8") ∈ response.headers ∧ (serve c r e).2 = e) ∧
    ((serve c r e).1 = none → e.station.busy = false →
      Unanswered (serve c r e.withTrace).2.station.sink.trace) := by
  have hhead : r.method ≠ "HEAD" := by
    rw [hmethod]
    cases route <;> decide
  obtain ⟨result, hserved, hserve⟩ := serve_route e hmethod hpath
  have hrefused (hlong : Overlong route c r) :
      serve c r e = (some (finished c r (.ofText 413 tooLongReason)), e) := by
    obtain ⟨rfl, hlong⟩ := hlong
    rw [hserve, hserved.overlong hlong]
    rfl
  have hstatus : (finished c r (.ofText 413 tooLongReason)).status = 413 :=
    finished_status c r (.ofText 413 tooLongReason)
  refine ⟨?_, ?_, ?_⟩
  · intro response hresponse
    constructor
    · intro hdocumented hlong
      rw [hrefused hlong] at hresponse
      obtain rfl := Option.some.inj hresponse
      exact not_documented_of_tooLong hstatus hdocumented
    · intro hshort
      rw [hserve] at hresponse
      obtain ⟨plain, hplain, rfl⟩ := Option.map_eq_some_iff.1 hresponse
      exact (hserved.documented hmethod hshort hplain).finished hhead
  · intro hlong
    refine ⟨_, congrArg Prod.fst (hrefused hlong), hstatus, finished_body c r _ hhead, ?_,
      congrArg Prod.snd (hrefused hlong)⟩
    exact (finished_headers c r (.ofText 413 tooLongReason)).mem (List.mem_singleton_self _)
  · intro hnone hidle
    -- the same request to an engine that keeps a trace of its sink
    obtain ⟨traced, htraced, hserve'⟩ := serve_route e.withTrace hmethod hpath
    have hsame := serve_map c r e.withTrace Traced.inner_morphism
    have hnone' : traced.1 = none := by
      have hanswer : (serve c r e).1 = (serve c r e.withTrace).1 := congrArg Prod.fst hsame
      rw [hnone, hserve'] at hanswer
      exact Option.map_eq_none_iff.1 hanswer.symm
    rw [hserve']
    exact htraced.unanswered_trace hnone' hidle

/-- A body beyond the limit, on both routes that read one: the entry is refused by a document. -/
theorem json_route_documented_iff_of_entry :
    let c : ServerConfig := ⟨"", 4, true⟩
    let r : Request := ⟨"POST", "/logs", [("content-type", "application/json")],
      List.replicate 5 0⟩
    let e : Engine MemorySink := ⟨⟨1, 1, 1, 1⟩, .around ⟨1, [], 1, .initial 1 0, true⟩
      (.withRetention 1) ⟨0, 0⟩ 1⟩
    ∃ response, (serve c r e).1 = some response ∧ response.status = 400 ∧
      Documented .append response := by
  intro c r e
  have hpath : r.path = JsonRoute.append.path := by decide
  have hdocuments := (json_route_documented_iff .append c e (show r.method = _ from rfl) hpath).1
  have hanswer : (serve c r e).1.map Response.status = some 400 := by decide +zetaReduce
  obtain ⟨response, hresponse, hstatus⟩ := Option.map_eq_some_iff.1 hanswer
  exact ⟨response, hresponse, hstatus, (hdocuments _ hresponse).2 fun hlong => nomatch hlong.1⟩

/-- Not every answer is a document: a batch is asked for with a body of five bytes where four are
allowed. -/
theorem json_route_not_documented :
    ¬ ∀ (route : JsonRoute) (c : ServerConfig) (r : Request) (e : Engine MemorySink)
      (response : Response), r.method = route.method → r.path = route.path →
        (serve c r e).1 = some response → Documented route response := by
  intro h
  let r : Request := ⟨"POST", "/process", [], List.replicate 5 0⟩
  let e : Engine MemorySink := ⟨⟨1, 1, 1, 1⟩, .around ⟨1, [], 1, .initial 1 0, true⟩
    (.withRetention 1) ⟨0, 0⟩ 1⟩
  have hpath : r.path = JsonRoute.batch.path := by decide
  have hanswer : (serve ⟨"", 4, false⟩ r e).1.map Response.status = some 413 := by decide +zetaReduce
  obtain ⟨response, hresponse, hstatus⟩ := Option.map_eq_some_iff.1 hanswer
  exact not_documented_of_tooLong hstatus (h .batch _ r e response rfl hpath hresponse)

end LogSpool.Rest
