import LogSpool.Network
import LogSpool.Rest.Routes

/-!
# Clients

This module sends requests to the server of an engine.  A request reaches the server over the
network; where there is none, the client fails and the engine is not called.
-/

namespace LogSpool.Rest

/-- How a request ends for its client. -/
inductive Exchange where
  | answered (response : Response)
  /-- The server did not answer. -/
  | unanswered
  /-- The server could not be reached. -/
  | failed (reason : String)
  deriving Repr, DecidableEq

/-- Sends a request. -/
def send {σ : Type} [Sink σ] (network : Network) (c : ServerConfig) (r : Request) (e : Engine σ) :
    Exchange × Engine σ :=
  match network.fault? with
  | some reason => (.failed reason, e)
  | none =>
    match serve c r e with
    | (some response, e) => (.answered response, e)
    | (none, e) => (.unanswered, e)

end LogSpool.Rest
