import LogSpool.Proofs.Sink.Recorded

/-!
# Sinks that oblige

This module is about sinks for which snapshots are no matter: each is accepted at once, and nothing
comes of it.  Over such a sink a batch is told apart from its loop of deliveries by nothing but the
books of the process.

* `Sink.Obliges` — what it means that a sink obliges; a record of it does so too.
* `Obliging` — a front that takes the snapshots, with any sink behind it for the other calls.
* `Obliging.preserves_log` — behind the front a delivery is what it is without it.
-/

namespace LogSpool

/-- Every snapshot is accepted at once and leaves the sink as it is. -/
structure Sink.Obliges (σ : Type) [Sink σ] : Prop where
  receive : ∀ (m : Metrics) (x : σ), Sink.receive (.snapshot m) x = (.none, x)
  settle : ∀ (m : Metrics) (x : σ), Sink.settle (.snapshot m) x = (.accepted, x)

variable {σ : Type} [Sink σ]

/-- A record has only deliveries in it. -/
theorem Sink.Obliges.recorded (h : Sink.Obliges σ) : Sink.Obliges (Recorded σ) where
  receive m x :=
    congrArg (fun result => (result.1, (⟨result.2, x.record⟩ : Recorded σ))) (h.receive m x.inner)
  settle m x := by
    have hended := congrArg (fun result => (result.1, (⟨result.2, x.record ++ []⟩ : Recorded σ)))
      (h.settle m x.inner)
    exact hended.trans (by rw [List.append_nil])

/-- A sink behind a front that takes the snapshots. -/
structure Obliging (σ : Type) where
  inner : σ

instance : Sink (Obliging σ) where
  receive
    | .snapshot _, x => (.none, x)
    | call, x =>
      let (disturbance, inner) := Sink.receive call x.inner
      (disturbance, ⟨inner⟩)
  settle
    | .snapshot _, x => (.accepted, x)
    | call, x =>
      let (answer, inner) := Sink.settle call x.inner
      (answer, ⟨inner⟩)
  close x := ⟨Sink.close x.inner⟩

theorem Obliging.obliges : Sink.Obliges (Obliging σ) where
  receive _ _ := rfl
  settle _ _ := rfl

/-- Deliveries go to the sink behind the front. -/
theorem Obliging.preserves_log (d : Delivery) :
    Sink.Preserves (Obliging.mk : σ → Obliging σ) (.log d) where
  receive _ := rfl
  settle _ := rfl

end LogSpool
