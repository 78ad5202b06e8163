import LogSpool.Proofs.Fault.Causes
import LogSpool.Proofs.Rest.Refusals

/-!
# Deliveries that fail while a request is served

This module follows a refusal by the sink to the client.  A batch ends at the first delivery that is
refused, with an error that blames it; the call that ran the batch fails with this error, and so does the
request.

* `Blamed` — an outcome that blames the delivery which was refused.
* `Delivers.blamed`, `process_blamed`, `addLog_blamed` — loops of deliveries, batches and calls of an
  engine end so.
* `serve_blamed` — so do requests.
* `client_sees_deepest_cause` — what a client is told of any failure, and of a delivery in particular.
-/

namespace LogSpool

/-! ## Batches -/

/-- If one of the deliveries was refused, it is the one that the outcome blames: by its number, the count
of the deliveries that were accepted, and the reason of the sink. -/
def Blamed {α : Type} (processed : Nat) (made : List (Delivery × Answer)) (outcome : Outcome α) :
    Prop :=
  ∀ d why, (d, Answer.refused why) ∈ made → ∃ error, outcome = .failed error ∧
    error.Blames d.entry.id (processed + acceptedIn made) why

theorem Blamed.map {α β : Type} {processed : Nat} {made : List (Delivery × Answer)}
    {outcome : Outcome α} (h : Blamed processed made outcome) (g : α → β) :
    Blamed processed made (outcome.map g) := by
  intro d why hrefused
  obtain ⟨error, rfl, hblames⟩ := h d why hrefused
  exact ⟨error, rfl, hblames⟩

theorem blamed_nil {α : Type} (processed : Nat) (outcome : Outcome α) : Blamed processed [] outcome :=
  nofun

namespace Station

variable {σ : Type} [Sink σ] {intrude : Station (Recorded σ) → Intrusion → Station (Recorded σ)}

/-- A loop of deliveries ends where one is refused. -/
theorem Delivers.blamed {started limit processed : Nat} {s s' : Station (Recorded σ)}
    {outcome : Outcome Nat} (hloop : Delivers intrude started limit processed s outcome s')
    (h : OnlyProduces intrude s.busy) :
    ∃ made, s'.sink.record = s.sink.record ++ made ∧ Blamed processed made outcome := by
  induction hloop with
  | limit => exact ⟨[], by simp, blamed_nil _ _⟩
  | closed _ => exact ⟨[], by simp, blamed_nil _ _⟩
  | empty _ _ => exact ⟨[], by simp, blamed_nil _ _⟩
  | @accepted _ processed _ s₁ s₂ _ e _ htaken hcall _ ih =>
      obtain ⟨hbusy, hrecord⟩ := callSink_log_record h htaken hcall
      have hdelivered := s₂.delivered_beside (s₁.deliveryOf e)
      obtain ⟨made, hmade, hblamed⟩ := ih (h.of_eq (hdelivered.busy.trans hbusy))
      refine ⟨(s₁.deliveryOf e, .accepted) :: made, ?_, ?_⟩
      · rw [hmade, hdelivered.sink, hrecord, List.append_assoc, List.singleton_append]
      · intro d why hrefused
        have hlater : (d, Answer.refused why) ∈ made := by simpa using hrefused
        obtain ⟨error, hfailed, hblames⟩ := hblamed d why hlater
        have hcount : processed + acceptedIn ((s₁.deliveryOf e, .accepted) :: made) =
            processed + 1 + acceptedIn made := by
          simp [acceptedIn]
          omega
        exact ⟨error, hfailed, hcount ▸ hblames⟩
  | @refused _ processed _ s₁ s₂ _ e refusal _ htaken hcall hrecover =>
      obtain ⟨-, hrecord⟩ := callSink_log_record h htaken hcall
      obtain ⟨error, s', hs, hsink, -, hentry⟩ :=
        (s₂.markError.observeBatch started).recover_spec e processed refusal
      obtain ⟨rfl, rfl⟩ := Prod.mk.inj (hrecover.symm.trans hs)
      refine ⟨[(s₁.deliveryOf e, .refused refusal)],
        (congrArg Recorded.record hsink).trans hrecord, fun d why hrefused => ?_⟩
      obtain ⟨rfl, rfl⟩ : d = s₁.deliveryOf e ∧ why = refusal := by simpa using hrefused
      rcases hentry with ⟨-, rfl, -⟩ | ⟨back, -, rfl, -⟩
      · exact ⟨_, rfl, Or.inl rfl⟩
      · exact ⟨_, rfl, Or.inr ⟨_, rfl⟩⟩
  | @stalled _ _ _ s₁ s₂ e htaken hcall =>
      obtain ⟨-, hrecord⟩ := callSink_log_record h htaken hcall
      refine ⟨[(s₁.deliveryOf e, .stalled)],
        (congrArg Recorded.record (s₂.abandon_spec e).1).trans hrecord, fun d why hrefused => ?_⟩
      simp at hrefused

/-- A batch in which a delivery was refused fails. -/
theorem process_blamed (maxItems : Nat) {s : Station (Recorded σ)} (h : OnlyProduces intrude s.busy) :
    ∃ made, (s.process intrude maxItems).2.sink.record = s.sink.record ++ made ∧
      Blamed 0 made (s.process intrude maxItems).1 := by
  obtain ⟨made, hmade, hblamed⟩ :=
    (deliver_delivers s.clock.elapsed (s.batchLimit maxItems) 0 s).blamed h
  refine ⟨made, (process_record maxItems h).trans hmade, fun d why hrefused => ?_⟩
  obtain ⟨error, hfailed, hblames⟩ := hblamed d why hrefused
  rcases hend : s.deliver intrude s.clock.elapsed (s.batchLimit maxItems) 0 with ⟨outcome, s₁⟩
  rw [hend] at hfailed
  obtain rfl : outcome = .failed error := hfailed
  exact ⟨error, by rw [process_of_failed hend], hblames⟩

theorem processAlone_blamed (maxItems : Nat) (s : Station (Recorded σ))
    (h : OnlyProduces intrude true) :
    ∃ made, (s.processAlone intrude maxItems).2.sink.record = s.sink.record ++ made ∧
      Blamed 0 made (s.processAlone intrude maxItems).1 := by
  rw [processAlone]
  split
  · exact ⟨[], by simp, blamed_nil _ _⟩
  · exact process_blamed maxItems (s := { s with busy := true }) h

/-- To hand in an entry calls the sink in the batch that is due, if at all. -/
theorem addLog_blamed (config : EngineConfig) (f : Fields) (s : Station (Recorded σ))
    (h : OnlyProduces intrude true) :
    ∃ made, (s.addLog config intrude f).2.sink.record = s.sink.record ++ made ∧
      Blamed 0 made (s.addLog config intrude f).1 := by
  obtain ⟨hbeside, ⟨why, -, -, hexit⟩ | ⟨-, -, -, ⟨-, hexit⟩ | ⟨-, hexit⟩⟩⟩ :=
    s.addLog_exits config intrude f
  · exact ⟨[], by rw [hexit, hbeside.sink, List.append_nil], blamed_nil _ _⟩
  · exact ⟨[], by rw [hexit, hbeside.sink, List.append_nil], blamed_nil _ _⟩
  · rw [hexit, ← hbeside.sink]
    obtain ⟨made, hmade, hblamed⟩ := processAlone_blamed config.processBatchSize
      ((s.enqueue f.withDefaults).2.record (.thresholdReached _)) h
    exact ⟨made, hmade, hblamed.map _⟩

end Station

namespace Rest

variable {σ : Type} [Sink σ] (c : ServerConfig) (r : Request)

/-! ## Requests -/

/-- A request in which a delivery is refused is answered with the error that blames it. -/
def Refuted (e : Engine (Recorded σ)) (result : Option Response × Engine (Recorded σ)) : Prop :=
  ∃ made, result.2.station.sink.record = e.station.sink.record ++ made ∧
    ∀ d why, (d, Answer.refused why) ∈ made → ∃ error : EngineError,
      result.1 = some (RequestError.engine error).response ∧
        error.Blames d.entry.id (acceptedIn made) why

omit [Sink σ] in
/-- Nothing was delivered. -/
theorem refuted_of_same {e : Engine (Recorded σ)} {result : Option Response × Engine (Recorded σ)}
    (h : result.2.station.sink = e.station.sink) : Refuted e result :=
  ⟨[], by rw [h, List.append_nil], nofun⟩

omit [Sink σ] in
theorem refuse_sink (why : RequestError) (e : Engine σ) :
    (refuse why e).2.station.sink = e.station.sink := by
  unfold refuse
  dsimp only
  split <;> rfl

omit [Sink σ] in
/-- What a call of the engine comes to, is told to the client. -/
theorem refuted_of_blamed {α : Type} {e e' : Engine (Recorded σ)} {outcome : Outcome α}
    {result : Option Response × Engine (Recorded σ)}
    (hblamed : ∃ made, e'.station.sink.record = e.station.sink.record ++ made ∧
      Blamed 0 made outcome)
    (hsink : result.2.station.sink = e'.station.sink)
    (hfailed : ∀ error, outcome = .failed error →
      result.1 = some (RequestError.engine error).response) : Refuted e result := by
  obtain ⟨made, hmade, hblamed⟩ := hblamed
  refine ⟨made, (congrArg Recorded.record hsink).trans hmade, fun d why hrefused => ?_⟩
  obtain ⟨error, houtcome, hblames⟩ := hblamed d why hrefused
  rw [Nat.zero_add] at hblames
  exact ⟨error, hfailed error houtcome, hblames⟩

theorem answerEntry_refuted (e : Engine (Recorded σ)) : Refuted e (answerEntry c r e) := by
  unfold answerEntry
  cases entryOf c.maxBodySize r with
  | error reason => exact refuted_of_same (refuse_sink _ e)
  | ok f =>
      have hblamed := Station.addLog_blamed e.config f e.station (Engine.intrude_onlyProduces e.config)
      change ∃ made, (e.addLog f).2.station.sink.record = _ ∧ Blamed 0 made (e.addLog f).1 at hblamed
      dsimp only
      rcases hcall : e.addLog f with ⟨id | error | _, e'⟩ <;> rw [hcall] at hblamed
      · exact refuted_of_blamed hblamed rfl nofun
      · refine refuted_of_blamed hblamed (refuse_sink _ e') fun error' hsame => ?_
        rw [Outcome.failed.inj hsame]
        rfl
      · exact refuted_of_blamed hblamed rfl nofun

theorem answerBatch_refuted (e : Engine (Recorded σ)) : Refuted e (answerBatch c r e) := by
  unfold answerBatch
  split
  · exact refuted_of_same rfl
  · cases batchOf r with
    | error reason => exact refuted_of_same (refuse_sink _ e)
    | ok n =>
        have hblamed := Station.processAlone_blamed n e.station (Engine.intrude_onlyProduces e.config)
        change ∃ made, (e.process n).2.station.sink.record = _ ∧ Blamed 0 made (e.process n).1
          at hblamed
        dsimp only
        rcases hcall : e.process n with ⟨report | error | _, e'⟩ <;> rw [hcall] at hblamed
        · exact refuted_of_blamed hblamed rfl nofun
        · refine refuted_of_blamed hblamed (refuse_sink _ e') fun error' hsame => ?_
          rw [Outcome.failed.inj hsame]
          rfl
        · exact refuted_of_blamed hblamed rfl nofun

/-- What is posted runs a batch, hands in an entry, or calls nobody. -/
theorem route_refuted (hmethod : r.method = "POST") (e : Engine (Recorded σ)) :
    Refuted e (route c r e) := by
  unfold route
  cases Resource.ofPath? r.path with
  | none => exact refuted_of_same rfl
  | some resource =>
      dsimp only
      split
      · rename_i hknown
        rw [hmethod] at hknown
        cases resource with
        | logs =>
            have hanswer : answerResource c .logs r e = answerEntry c r e := if_pos hmethod
            rw [hanswer]
            exact answerEntry_refuted c r e
        | process => exact answerBatch_refuted c r e
        | _ => exact absurd hknown (by decide)
      · exact refuted_of_same rfl

/-- The client of a request in which a delivery was refused gets the document of the error that blames
it. -/
theorem serve_blamed (hmethod : r.method = "POST") (e : Engine σ) {d : Delivery} {why : SinkError}
    (hrefused : (d, .refused why) ∈ deliveriesIn (requestTrace c r e)) :
    ∃ (error : EngineError) (response : Response), (serve c r e).1 = some response ∧
      response.status = error.kind.status.http ∧
      response.body = (RequestError.engine error).document.write ∧
      error.Blames d.entry.id (takenIn (requestTrace c r e)).length why := by
  -- the trace is looked at as a record of the deliveries
  have hinner := serve_map c r e.withTrace Traced.inner_morphism
  have hrecorded := serve_map c r e.withTrace Traced.recorded_morphism
  rcases serve_exits c r (e.withTrace.map Traced.recorded) with ⟨hoptions, -⟩ | hserve
  · rw [hmethod] at hoptions
    exact absurd hoptions (by decide)
  · obtain ⟨made, hmade, hanswer⟩ := route_refuted c r hmethod (e.withTrace.map Traced.recorded)
    have hafter := congrArg (fun result => result.2.station.sink.record) (hrecorded.symm.trans hserve)
    have hmade : deliveriesIn (requestTrace c r e) = made := hafter.trans hmade
    obtain ⟨error, hresponse, hblames⟩ := hanswer d why (hmade ▸ hrefused)
    refine ⟨error, finished c r (RequestError.engine error).response, ?_, finished_status c r _,
      finished_body c r _ (by rw [hmethod]; decide), ?_⟩
    · have hanswers := congrArg Prod.fst (hrecorded.symm.trans hserve)
      have hsame : (serve c r e).1 = (serve c r e.withTrace).1 := congrArg Prod.fst hinner
      rw [hsame, hanswers, hresponse]
      rfl
    · rwa [takenIn_length, hmade]

/-- A client sees the deepest cause of a failure, and nothing in between.

The innermost layer of a failure has causes below it or not.  If it has, the last of them is the root
cause that is reported, and the message is the text of the layer with the text of that cause, or the text
of that cause alone where the layer is transparent; if it has none, none is reported, and the message is
the text of the layer alone.  The layers above and the causes in between do not come into it.  (A failure
of unknown class has a message of its own.)

So it is with every delivery that is refused while something posted is served, whatever the error of the
sink: the answer has two members, the code of the error and its message, and the message names the entry,
the number of entries that the sink took in the batch, and the last of the causes.  (A request that reads
has no deliveries of its own; those that the sink starts by handing in an entry while it is pinged are not
answered to the client.) -/
theorem client_sees_deepest_cause :
    (∀ t : Trouble, ∃ above layer, t.layers = above ++ [layer] ∧
      (∀ between root, layer.causes = between ++ [root] → t.rootCause = some root ∧
        (t.status ≠ .unknown →
          t.outputMessage = if layer.transparent then root else layer.text ++ ": " ++ root)) ∧
      (layer.causes = [] →
        t.rootCause = none ∧ (t.status ≠ .unknown → t.outputMessage = layer.text))) ∧
    ∀ {σ : Type} [Sink σ] (c : ServerConfig) (r : Request) (e : Engine σ), r.method = "POST" →
      ∀ d why, (d, .refused why) ∈ deliveriesIn (requestTrace c r e) →
      ∀ between root, why.message :: why.causes = between ++ [root] →
      ∃ (error : EngineError) (fate : EngineError.Fate) (response : Response),
        let message := "Failed to persist log " ++ toString d.entry.id ++ " after " ++
          toString (takenIn (requestTrace c r e)).length ++ fate.words ++ ": " ++ root
        (serve c r e).1 = some response ∧ response.status = error.kind.status.http ∧
        response.body =
          (Json.record [("code", .text error.kind.name), ("message", .text message)]).write ∧
        error.Blames d.entry.id (takenIn (requestTrace c r e)).length why ∧
        (RequestError.engine error).message = message := by
  refine ⟨fun t => ?_, ?_⟩
  · have hlayers : t.layers = t.layers.dropLast ++ [t.layers.getLast (List.cons_ne_nil _ _)] :=
      (List.dropLast_append_getLast (List.cons_ne_nil _ _)).symm
    obtain ⟨hrooted, halone⟩ := Trouble.tells hlayers
    exact ⟨_, _, hlayers, hrooted, halone⟩
  · intro σ _ c r e hmethod d why hrefused between root hchain
    obtain ⟨error, response, hresponse, hstatus, hbody, hblames⟩ := serve_blamed c r hmethod e hrefused
    obtain ⟨fate, htext⟩ := error.text_of_blames hblames
    have hmessage : (RequestError.engine error).message = error.message ++ ": " ++ root :=
      error.message_of_blames hblames hchain
    rw [htext] at hmessage
    rw [RequestError.document, hmessage] at hbody
    exact ⟨error, fate, response, hresponse, hstatus, hbody, hblames, hmessage⟩

/-- Of two entries the second one is refused, by a sink whose error has three causes below it. -/
theorem client_sees_deepest_cause_of_second_refusal :
    let c : ServerConfig := ⟨"", 100, true⟩
    let batch : Request := ⟨"POST", "/process", [], []⟩
    let why : SinkError := .backend "insert_log" ⟨"pool", ["connection", "network down"]⟩
    let sink : Scripted MemorySink :=
      ⟨[⟨.none, .passOn⟩, ⟨.none, .refuse why⟩], [], [], [], .withRetention 1⟩
    let queue : List Entry := [⟨1, "INFO", "app", "a", 0⟩, ⟨2, "INFO", "app", "b", 0⟩]
    let e : Engine (Scripted MemorySink) :=
      ⟨⟨4, 4, 4, 4⟩, .around ⟨4, queue, 3, .initial 4 0, true⟩ sink ⟨0, 0⟩ 4⟩
    ∃ (error : EngineError) (fate : EngineError.Fate) (response : Response),
      (serve c batch e).1 = some response ∧
      response.body = (Json.record [("code", .text error.kind.name),
        ("message", .text ("Failed to persist log " ++ toString 2 ++ " after " ++ toString 1 ++
          fate.words ++ ": " ++ "network down"))]).write := by
  intro c batch why sink queue e
  have hdeliveries : (deliveriesIn (requestTrace c batch e)).map (fun made => (made.1.entry.id, made.2)) =
      [(1, .accepted), (2, .refused why)] := by
    decide +kernel +zetaReduce
  have hcount : (takenIn (requestTrace c batch e)).length = 1 := by
    decide +kernel +zetaReduce
  have hlast : (2, Answer.refused why) ∈ (deliveriesIn (requestTrace c batch e)).map
      (fun made => (made.1.entry.id, made.2)) := by
    rw [hdeliveries]
    exact List.mem_cons_of_mem _ (List.mem_singleton_self _)
  obtain ⟨⟨d, answer⟩, hmem, hsame⟩ := List.mem_map.1 hlast
  obtain ⟨hid, rfl⟩ := Prod.mk.inj hsame
  obtain ⟨error, fate, response, hresponse, -, hbody, -, -⟩ :=
    client_sees_deepest_cause.2 c batch e rfl d why hmem
      ["Sink backend failed during insert_log", "pool", "connection"] "network down" rfl
  rw [hcount, show d.entry.id = 2 from hid] at hbody
  exact ⟨error, fate, response, hresponse, hbody⟩

end Rest

end LogSpool
