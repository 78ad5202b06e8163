import LogSpool.Engine.Basic
import LogSpool.Rest.Body
import LogSpool.Rest.Config
import LogSpool.Rest.Error

/-!
# Routes

This module answers requests by calls to an engine.  The path of a request selects a resource and
its method what is done with it; a path that is not known and a method that a resource does not
have are answered without a call.

A request whose call was given up is not answered.
-/

namespace LogSpool.Rest

/-- What requests are about. -/
inductive Resource where
  | health
  | logs
  | process
  | metrics
  | exposition
  deriving Repr, DecidableEq

namespace Resource

/-- The resource of a path. -/
def ofPath? : String → Option Resource
  | "/health" => some .health
  | "/logs" => some .logs
  | "/process" => some .process
  | "/metrics" => some .metrics
  | "/metrics/prometheus" => some .exposition
  | _ => none

/-- The methods of a resource. -/
def methods : Resource → List String
  | .logs => ["GET", "HEAD", "POST"]
  | .process => ["POST"]
  | .health | .metrics | .exposition => ["GET", "HEAD"]

end Resource

/-- The response to a request that failed. -/
def RequestError.response (e : RequestError) : Response :=
  .ofDocument e.status.http e.document

/-- The document of an accepted entry. -/
def acceptedDocument (id : Nat) : Json :=
  .record [("status", .text "ok"), ("message", .text "log accepted"), ("id", .natural id)]

/-- The document of a batch. -/
def processedDocument (r : BatchReport) : Json :=
  .record [
    ("status", .text "ok"),
    ("processed", .natural r.processed),
    ("elapsed_ms", .float r.elapsedMs)]

/-- The response to a health check: degraded service is unavailable. -/
def healthResponse (r : HealthReport) : Response :=
  .ofDocument (if r.healthy then 200 else 503) r.document

section

variable {σ : Type}

/-- The answer to a request that failed; failures of the server are recorded. -/
def refuse (why : RequestError) (e : Engine σ) : Option Response × Engine σ :=
  let station :=
    if 500 ≤ why.status.http then e.station.record (.requestFailed why.code why.text)
    else e.station
  (some why.response, { e with station })

/-- The answer to a reading of the engine. -/
def answerReading {α : Type} (document : α → Json) (reading : Except EngineError α) (e : Engine σ) :
    Option Response × Engine σ :=
  match reading with
  | .ok a => (some (.ofDocument 200 (document a)), e)
  | .error why => refuse (.engine why) e

/-- The answer to a call of the engine. -/
def answerCall {α : Type} (respond : α → Response) :
    Outcome α × Engine σ → Option Response × Engine σ
  | (.answered a, e) => (some (respond a), e)
  | (.failed why, e) => refuse (.engine why) e
  | (.abandoned, e) => (none, e)

variable [Sink σ]

/-- Hands in the entry of a request. -/
def answerEntry (c : ServerConfig) (r : Request) (e : Engine σ) : Option Response × Engine σ :=
  match entryOf c.maxBodySize r with
  | .error reason => refuse (.invalidBody reason) e
  | .ok fields =>
    match e.addLog fields with
    | (.answered id, e) =>
      (some (.ofDocument 200 (acceptedDocument id)),
        { e with station := e.station.record (.logAccepted id) })
    | (.failed why, e) => refuse (.engine why) e
    | (.abandoned, e) => (none, e)

/-- Runs the batch of a request.  A body that is too long is refused in plain text. -/
def answerBatch (c : ServerConfig) (r : Request) (e : Engine σ) : Option Response × Engine σ :=
  if c.maxBodySize < r.body.length then (some (.ofText 413 tooLongReason), e)
  else
    match batchOf r with
    | .error reason => refuse (.invalidBody reason) e
    | .ok maxItems => answerCall (.ofDocument 200 ∘ processedDocument) (e.process maxItems)

/-- Answers a request to a resource by one of its methods. -/
def answerResource (c : ServerConfig) (resource : Resource) (r : Request) (e : Engine σ) :
    Option Response × Engine σ :=
  match resource with
  | .health => answerCall healthResponse e.health
  | .logs =>
    if r.method = "POST" then answerEntry c r e
    else answerReading Preview.document e.pending e
  | .process => answerBatch c r e
  | .metrics => answerReading Report.document e.report e
  | .exposition =>
    (some ⟨200, [("content-type", "text/plain; version=0.0.4")],
      String.join (e.station.ledger.exposition.map (· ++ "\n"))⟩, e)

/-- Answers a request. -/
def route (c : ServerConfig) (r : Request) (e : Engine σ) : Option Response × Engine σ :=
  match Resource.ofPath? r.path with
  | none => (some (.empty 404 []), e)
  | some resource =>
    if r.method ∈ resource.methods then answerResource c resource r e
    else (some (.empty 405 [("allow", String.intercalate "," resource.methods)]), e)

end

/-- The headers that let pages of any origin use a response. -/
def corsHeaders : List (String × String) :=
  [("access-control-allow-origin", "*"),
    ("vary", "origin, access-control-request-method, access-control-request-headers")]

/-- The answer to a page that asks what it may do. -/
def preflight : Response :=
  .empty 200 (corsHeaders ++
    [("access-control-allow-methods", "*"), ("access-control-allow-headers", "*")])

/-- Answers a request as the server does: with the headers for pages of any origin if they are
enabled, with the length of the body, and without the body itself if only the head was asked
for. -/
def serve {σ : Type} [Sink σ] (c : ServerConfig) (r : Request) (e : Engine σ) :
    Option Response × Engine σ :=
  if c.enableCors ∧ r.method = "OPTIONS" then (some preflight.measured, e)
  else
    let (response, e) := route c r e
    let finish (response : Response) : Response :=
      let response := response.measured
      let response :=
        if c.enableCors then { response with headers := response.headers ++ corsHeaders }
        else response
      if r.method = "HEAD" then { response with body := "" } else response
    (response.map finish, e)

end LogSpool.Rest
