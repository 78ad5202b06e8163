import LogSpool.Rest.Error

/-!
# What a client is told about a failure

This module says which texts of a failure reach a client: the text of the innermost layer and the text of
the last cause below it, however many layers there are above and however many causes in between.  The
message and the cause that is reported apart name the same text, or there is none in both.

* `Trouble.layers`, `Layer.causes` — the layers and the causes as lists, from the outside to the inside.
* `Trouble.Tells`, `tells` — what is told of the innermost layer, with causes below it and without.
* `EngineError.Blames` — the errors about a delivery; `message_of_blames` is what a client reads then.
-/

namespace LogSpool

/-! ## Chains -/

theorem deepest_eq_getLast (text : String) (below : List String) :
    deepest text below = (text :: below).getLast (List.cons_ne_nil _ _) := by
  induction below generalizing text with
  | nil => rfl
  | cons next below ih => rw [deepest, ih, List.getLast_cons_cons]

/-- The root is the end of the chain. -/
theorem Cause.root_of_chain {c : Cause} {between : List String} {root : String}
    (h : c.chain = between ++ [root]) : c.root = root := by
  have hlast : c.chain.getLast? = some c.root := by
    rw [Cause.root, deepest_eq_getLast]
    exact List.getLast?_eq_some_getLast _
  rw [h, List.getLast?_concat] at hlast
  exact (Option.some.inj hlast).symm

/-- The causes below a layer, the nearest first. -/
def Layer.causes (layer : Layer) : List String :=
  layer.cause.elim [] Cause.chain

namespace Trouble

/-- The layers of a failure, the outermost first. -/
def layers (t : Trouble) : List Layer :=
  t.outer :: t.inner

theorem lastLayer_eq_getLast (layer : Layer) (more : List Layer) :
    lastLayer layer more = (layer :: more).getLast (List.cons_ne_nil _ _) := by
  induction more generalizing layer with
  | nil => rfl
  | cons next more ih => rw [lastLayer, ih, List.getLast_cons_cons]

theorem last_of_layers {t : Trouble} {above : List Layer} {layer : Layer}
    (h : t.layers = above ++ [layer]) : t.last = layer := by
  have hlast : t.layers.getLast? = some t.last := by
    rw [last, lastLayer_eq_getLast]
    exact List.getLast?_eq_some_getLast _
  rw [h, List.getLast?_concat] at hlast
  exact (Option.some.inj hlast).symm

/-! ## Messages -/

/-- What a client is told of a failure whose innermost layer is `layer`.  A failure of unknown class has
a message of its own. -/
structure Tells (t : Trouble) (layer : Layer) : Prop where
  rooted : ∀ between root, layer.causes = between ++ [root] → t.rootCause = some root ∧
    (t.status ≠ .unknown →
      t.outputMessage = if layer.transparent then root else layer.text ++ ": " ++ root)
  alone : layer.causes = [] →
    t.rootCause = none ∧ (t.status ≠ .unknown → t.outputMessage = layer.text)

/-- Of every failure this is told, and nothing of the layers above or of the causes in between. -/
theorem tells {t : Trouble} {above : List Layer} {layer : Layer}
    (h : t.layers = above ++ [layer]) : t.Tells layer := by
  have hlast : t.last = layer := last_of_layers h
  cases hcause : layer.cause with
  | none =>
      refine ⟨fun between root hchain => ?_, fun _ => ⟨?_, fun hknown => ?_⟩⟩
      · simp [Layer.causes, hcause] at hchain
      · rw [rootCause, hlast, hcause]
        rfl
      · rw [outputMessage, if_neg hknown, hlast, hcause]
  | some cause =>
      refine ⟨fun between root hchain => ?_, fun hchain => ?_⟩
      · rw [Layer.causes, hcause] at hchain
        have hroot : cause.root = root := Cause.root_of_chain hchain
        refine ⟨?_, fun hknown => ?_⟩
        · rw [rootCause, hlast, hcause]
          exact congrArg some hroot
        · rw [outputMessage, if_neg hknown, hlast, hcause]
          simp only [hroot]
      · rw [Layer.causes, hcause] at hchain
        exact absurd hchain (List.cons_ne_nil _ _)

end Trouble

/-! ## Errors about a delivery -/

/-- What became of an entry whose delivery failed. -/
inductive EngineError.Fate where
  | requeued
  | dropped (reason : String)

/-- What a message says about it. -/
def EngineError.Fate.words : Fate → String
  | .requeued => " in this batch; log requeued"
  | .dropped reason => " in this batch; requeue rejected (" ++ reason ++ "), log dropped"

/-- The error says that a delivery failed: of the entry with this number, after so many deliveries of the
batch, and for this reason. -/
def EngineError.Blames (error : EngineError) (id delivered : Nat) (why : SinkError) : Prop :=
  error = .persistence id delivered why ∨ ∃ reason, error = .requeueLoss id delivered reason why

/-- The text of such an error names the entry and the number of deliveries. -/
theorem EngineError.text_of_blames {error : EngineError} {id delivered : Nat} {why : SinkError}
    (h : error.Blames id delivered why) : ∃ fate : Fate,
      error.message =
        "Failed to persist log " ++ toString id ++ " after " ++ toString delivered ++ fate.words := by
  rcases h with rfl | ⟨reason, rfl⟩
  · exact ⟨.requeued, rfl⟩
  · refine ⟨.dropped reason, ?_⟩
    unfold message Fate.words
    simp only [String.append_assoc]

/-- Its message for a client names the deepest cause as well. -/
theorem EngineError.message_of_blames {error : EngineError} {id delivered : Nat} {why : SinkError}
    (h : error.Blames id delivered why) {between : List String} {root : String}
    (hchain : why.asCause.chain = between ++ [root]) :
    error.outputMessage = error.message ++ ": " ++ root := by
  have hlayers : error.trouble.layers = [] ++ [⟨error.message, error.cause, false⟩] := rfl
  have htold : error.trouble.Tells ⟨error.message, error.cause, false⟩ := Trouble.tells hlayers
  have hcause : error.cause = some why.asCause := by
    rcases h with rfl | ⟨reason, rfl⟩ <;> rfl
  have hknown : error.kind.status ≠ .unknown := by
    rcases h with rfl | ⟨reason, rfl⟩ <;> exact nofun
  obtain ⟨-, hmessage⟩ := htold.rooted between root (by rw [Layer.causes, hcause]; exact hchain)
  exact hmessage hknown

end LogSpool
