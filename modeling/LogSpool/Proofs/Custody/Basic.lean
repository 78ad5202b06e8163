import LogSpool.Hands
import LogSpool.Proofs.Buffer.Operations

/-!
# Custody of entries

This module follows the entries of one buffer through everything that can happen to them.  An act
is one critical section of the buffer, together with who then holds the entry concerned: a producer
hands an entry in, a caller takes one out or gives it back, the processor takes the oldest entry
and calls the sink with it, or the pending call is settled.  A course of a spool is a list of acts
in any order whatever; in particular anybody may act while a call to the sink is pending.

`Custody` is the buffer together with the whereabouts of every entry that has left it and the
history of the attempts to deliver.  Nothing here decides how many entries a batch takes: that any
batch is such a course is shown where batches are treated.
-/

namespace LogSpool

/-- The delivery of an entry at an instant. -/
def Entry.deliveryAt (e : Entry) (now : Int) : Delivery :=
  ⟨e, now, Float.ofInt (millisBetween e.ingestedAt now)⟩

@[simp] theorem Entry.deliveryAt_entry (e : Entry) (now : Int) : (e.deliveryAt now).entry = e := rfl

/-- A finished attempt to deliver an entry: how the call ended, and whether the entry went back to
the queue. -/
structure Attempt where
  delivery : Delivery
  answer : Answer
  returned : Bool

namespace Attempt

/-- The entry that was tried. -/
def entry (a : Attempt) : Entry :=
  a.delivery.entry

/-- Whether the sink took the entry. -/
def isDelivered (a : Attempt) : Bool :=
  a.answer = .accepted

/-- Whether the entry was refused or cancelled, and is back in the queue. -/
def isReturned (a : Attempt) : Bool :=
  !a.isDelivered && a.returned

/-- Whether the entry was refused or cancelled, and is gone. -/
def isLost (a : Attempt) : Bool :=
  !a.isDelivered && !a.returned

/-- What the sink saw of the attempt. -/
def call (a : Attempt) : Delivery × Answer :=
  (a.delivery, a.answer)

end Attempt

/-- One critical section of a buffer, with what becomes of the entry that it moves. -/
inductive Act where
  /-- A producer hands in an entry. -/
  | enqueue (fields : Fields) (now : Int)
  /-- A caller takes the oldest entry into a hand. -/
  | take (hand : String)
  /-- A caller puts the entry in a hand back at the head. -/
  | giveBack (hand : String)
  /-- A caller throws away what is in a hand. -/
  | discard (hand : String)
  /-- The processor takes the oldest entry and calls the sink with it. -/
  | offer (now : Int)
  /-- The pending call ends; a call that never answers is dropped. -/
  | settle (answer : Answer) (now : Int)
  /-- A failure is counted. -/
  | countError
  | close
  deriving Repr, DecidableEq

namespace Act

/-- Whether only the spool itself is concerned, and no caller that takes entries out. -/
def isInternal : Act → Bool
  | .take _ | .giveBack _ | .discard _ => false
  | _ => true

/-- Whether the act can be one of somebody who is called by the spool: an entry is handed in, or
the buffer is closed. -/
def isIntrusion : Act → Bool
  | .enqueue _ _ | .close => true
  | _ => false

theorem isInternal_of_isIntrusion {a : Act} (h : a.isIntrusion = true) : a.isInternal = true := by
  cases a <;> simp_all [isIntrusion, isInternal]

end Act

namespace Hands

/-- All entries in hands. -/
def entries (h : Hands) : List Entry :=
  h.held.map Prod.snd

/-- The entries under the name of one hand. -/
def inHand (h : Hands) (hand : String) : List Entry :=
  (h.held.filter fun held => held.1 == hand).map Prod.snd

/-- No two entries are in one hand. -/
def Distinct (h : Hands) : Prop :=
  (h.held.map Prod.fst).Nodup

end Hands

/-- A buffer and the whereabouts of the entries that have left it. -/
structure Custody where
  buffer : Buffer
  storage : Storage
  hands : Hands
  /-- The delivery whose call to the sink is pending. -/
  inFlight : Option Delivery
  /-- Every entry that was accepted, the earliest first. -/
  accepted : List Entry
  /-- Every attempt that has ended, the earliest first. -/
  attempts : List Attempt
  /-- What callers took out and threw away. -/
  thrown : List Entry
  /-- What was still queued when the buffer was closed. -/
  discarded : List Entry

namespace Custody

/-- A buffer of which nothing has left yet.  Where nothing is said of storage, there is enough. -/
def around (b : Buffer) (storage : Storage := .ample) : Custody :=
  ⟨b, storage, .empty, none, [], [], [], []⟩

/-- Records the end of the attempt in flight. -/
def conclude (w : Custody) (buffer : Buffer) (storage : Storage) (attempt : Attempt) : Custody :=
  { w with buffer, storage, inFlight := none, attempts := w.attempts ++ [attempt] }

/-- What an act does. -/
def perform (w : Custody) : Act → Custody
  | .enqueue f now =>
    let (answer, buffer) := w.buffer.enqueue f now w.storage.shortage?
    let w := { w with buffer, storage := w.storage.after answer }
    match answer with
    | .ok id => { w with accepted := w.accepted ++ [Entry.ofFields id f now] }
    | .error _ => w
  | .take hand =>
    match w.buffer.dequeue with
    | (.ok (some entry), buffer) =>
      { w with buffer, hands := w.hands.put hand entry, thrown := w.thrown ++ w.hands.inHand hand }
    | (_, buffer) => { w with buffer }
  | .giveBack hand =>
    match w.hands.get? hand with
    | none => w
    | some entry =>
      let (answer, buffer) := w.buffer.requeueFront entry w.storage.shortage?
      let w := { w with buffer, storage := w.storage.after answer }
      match answer with
      | .ok () => { w with hands := w.hands.release hand }
      | .error _ => w
  | .discard hand =>
    { w with hands := w.hands.release hand, thrown := w.thrown ++ w.hands.inHand hand }
  | .offer now =>
    match w.inFlight with
    | some _ => w
    | none =>
      match w.buffer.dequeue with
      | (.ok (some entry), buffer) => { w with buffer, inFlight := some (entry.deliveryAt now) }
      | (_, buffer) => { w with buffer }
  | .settle answer now =>
    match w.inFlight with
    | none => w
    | some d =>
      if answer = .accepted then
        w.conclude (w.buffer.markProcessed d.latency now) w.storage ⟨d, answer, false⟩
      else
        let (back, buffer) := w.buffer.requeueFront d.entry w.storage.shortage?
        w.conclude buffer (w.storage.after back) ⟨d, answer, back.isOk⟩
  | .countError => { w with buffer := w.buffer.markError }
  | .close =>
    { w with
      buffer := w.buffer.close.2
      discarded := w.discarded ++ if w.buffer.isOpen then w.buffer.queue else [] }

/-- What a course of acts does. -/
def run (w : Custody) (acts : List Act) : Custody :=
  acts.foldl perform w

@[simp] theorem run_nil (w : Custody) : w.run [] = w := rfl

@[simp] theorem run_cons (w : Custody) (a : Act) (acts : List Act) :
    w.run (a :: acts) = (w.perform a).run acts := rfl

theorem run_append (w : Custody) (acts acts' : List Act) :
    w.run (acts ++ acts') = (w.run acts).run acts' :=
  List.foldl_append

/-- What every act of a kind preserves, every course of such acts preserves. -/
theorem run_induction (P : Custody → Prop) (kind : Act → Bool)
    (step : ∀ w a, kind a = true → P w → P (w.perform a)) {w : Custody} {acts : List Act}
    (hkind : ∀ a ∈ acts, kind a = true) (hw : P w) : P (w.run acts) := by
  induction acts generalizing w with
  | nil => exact hw
  | cons a acts ih =>
      rw [run_cons]
      apply ih (fun a' ha' => hkind a' (List.mem_cons_of_mem a ha'))
      exact step w a (hkind a List.mem_cons_self) hw

/-! ## What each act can be -/

theorem perform_enqueue (w : Custody) (f : Fields) (now : Int) :
    (w.buffer.refusal? f = none ∧
        w.perform (.enqueue f now) =
          { w with
            buffer := w.buffer.accept f now
            storage := w.storage.rest
            accepted := w.accepted ++ [Entry.ofFields w.buffer.nextId f now] }) ∨
      ∃ b storage, (b = w.buffer ∨ b = w.buffer.countError) ∧
        w.perform (.enqueue f now) = { w with buffer := b, storage } := by
  rcases h : w.buffer.enqueue f now w.storage.shortage? with ⟨why | id, b⟩
  · right
    exact ⟨b, w.storage.after (.error why : Except EngineError Nat), (Buffer.enqueue_refused h).2,
      by simp [perform, h]⟩
  · left
    obtain ⟨hnone, -, rfl, rfl⟩ := Buffer.enqueue_accepted h
    exact ⟨hnone, by simp [perform, h, Storage.after]⟩

theorem perform_take (w : Custody) (hand : String) :
    (∃ e rest, w.buffer.isOpen = true ∧ w.buffer.queue = e :: rest ∧
        w.perform (.take hand) =
          { w with
            buffer := w.buffer.withQueue rest
            hands := w.hands.put hand e
            thrown := w.thrown ++ w.hands.inHand hand }) ∨
      w.perform (.take hand) = w := by
  rcases h : w.buffer.dequeue with ⟨why | _ | e, b⟩
  · right
    obtain ⟨-, -, rfl⟩ := Buffer.dequeue_refused h
    simp [perform, h]
  · right
    obtain ⟨-, -, rfl⟩ := Buffer.dequeue_nothing h
    simp [perform, h]
  · left
    obtain ⟨hopen, rest, hqueue, rfl⟩ := Buffer.dequeue_taken h
    exact ⟨e, rest, hopen, hqueue, by simp [perform, h]⟩

theorem perform_giveBack (w : Custody) (hand : String) :
    (∃ e, w.hands.get? hand = some e ∧ w.buffer.isOpen = true ∧ w.buffer.size < w.buffer.capacity ∧
        w.perform (.giveBack hand) =
          { w with
            buffer := w.buffer.withQueue (e :: w.buffer.queue)
            storage := w.storage.rest
            hands := w.hands.release hand }) ∨
      ∃ storage, w.perform (.giveBack hand) = { w with storage } := by
  cases hget : w.hands.get? hand with
  | none =>
      right
      exact ⟨w.storage, by simp [perform, hget]⟩
  | some e =>
      rcases h : w.buffer.requeueFront e w.storage.shortage? with ⟨why | u, b⟩
      · right
        obtain ⟨-, rfl⟩ := Buffer.requeueFront_refused h
        exact ⟨w.storage.after (.error why : Except EngineError Unit), by simp [perform, hget, h]⟩
      · left
        obtain ⟨hopen, hroom, -, rfl⟩ := Buffer.requeueFront_accepted h
        exact ⟨e, rfl, hopen, hroom, by simp [perform, hget, h, Storage.after]⟩

theorem perform_offer (w : Custody) (now : Int) :
    (∃ e rest, w.inFlight = none ∧ w.buffer.isOpen = true ∧ w.buffer.queue = e :: rest ∧
        w.perform (.offer now) =
          { w with buffer := w.buffer.withQueue rest, inFlight := some (e.deliveryAt now) }) ∨
      w.perform (.offer now) = w := by
  cases hflight : w.inFlight with
  | some d =>
      right
      simp [perform, hflight]
  | none =>
      rcases h : w.buffer.dequeue with ⟨why | _ | e, b⟩
      · right
        obtain ⟨-, -, rfl⟩ := Buffer.dequeue_refused h
        simp only [perform, hflight, h]
        rw [← hflight]
      · right
        obtain ⟨-, -, rfl⟩ := Buffer.dequeue_nothing h
        simp only [perform, hflight, h]
        rw [← hflight]
      · left
        obtain ⟨hopen, rest, hqueue, rfl⟩ := Buffer.dequeue_taken h
        exact ⟨e, rest, rfl, hopen, hqueue, by simp [perform, h, hflight]⟩

/-- The pending delivery has three exits: the sink took the entry, or the entry went back, or it
could not go back, to a buffer that is closed or full, or for want of storage. -/
theorem perform_settle (w : Custody) (answer : Answer) (now : Int) :
    (∃ d, w.inFlight = some d ∧
        ((answer = .accepted ∧
            w.perform (.settle answer now) =
              w.conclude (w.buffer.markProcessed d.latency now) w.storage ⟨d, .accepted, false⟩) ∨
          (answer ≠ .accepted ∧ w.buffer.isOpen = true ∧ w.buffer.size < w.buffer.capacity ∧
            w.perform (.settle answer now) =
              w.conclude (w.buffer.withQueue (d.entry :: w.buffer.queue)) w.storage.rest
                ⟨d, answer, true⟩) ∨
          (answer ≠ .accepted ∧ (w.buffer.isOpen = false ∨ w.buffer.capacity ≤ w.buffer.size ∨
              w.storage.shortage? ≠ none) ∧
            ∃ storage, w.perform (.settle answer now) =
              w.conclude w.buffer storage ⟨d, answer, false⟩))) ∨
      w.perform (.settle answer now) = w := by
  cases hflight : w.inFlight with
  | none =>
      right
      simp [perform, hflight]
  | some d =>
      left
      refine ⟨d, rfl, ?_⟩
      by_cases haccepted : answer = .accepted
      · left
        exact ⟨haccepted, by simp [perform, hflight, haccepted]⟩
      · right
        rcases h : w.buffer.requeueFront d.entry w.storage.shortage? with ⟨why | u, b⟩
        · right
          obtain ⟨hwhy, rfl⟩ := Buffer.requeueFront_refused h
          exact ⟨haccepted, hwhy, w.storage.after (.error why : Except EngineError Unit),
            by simp [perform, hflight, haccepted, h, Except.isOk, Except.toBool]⟩
        · left
          obtain ⟨hopen, hroom, -, rfl⟩ := Buffer.requeueFront_accepted h
          exact ⟨haccepted, hopen, hroom, by
            simp [perform, hflight, haccepted, h, Storage.after, Except.isOk, Except.toBool]⟩

theorem perform_countError (w : Custody) :
    ∃ b, (b = w.buffer ∨ b = w.buffer.countError) ∧
      w.perform .countError = { w with buffer := b } :=
  ⟨w.buffer.markError, Buffer.markError_eq w.buffer, rfl⟩

theorem perform_close (w : Custody) :
    (w.buffer.isOpen = true ∧
        w.perform .close =
          { w with
            buffer := { w.buffer.withQueue [] with isOpen := false }
            discarded := w.discarded ++ w.buffer.queue }) ∨
      (w.buffer.isOpen = false ∧ w.perform .close = w) := by
  cases hopen : w.buffer.isOpen with
  | true =>
      left
      exact ⟨rfl, by simp [perform, Buffer.close_snd, hopen]⟩
  | false =>
      right
      exact ⟨rfl, by simp [perform, Buffer.close_snd, hopen]⟩

/-! ## Courses that lead from one condition to another -/

/-- A course of acts of the spool itself that takes every custody that fulfils `P` to one that
fulfils `Q`. -/
structure LeadsBy (acts : List Act) (P Q : Custody → Prop) : Prop where
  internal : ∀ a ∈ acts, a.isInternal = true
  run : ∀ w, P w → Q (w.run acts)

namespace LeadsBy

variable {P Q R : Custody → Prop} {acts acts' : List Act}

theorem of_imp (h : ∀ w, P w → Q w) : LeadsBy [] P Q :=
  ⟨by simp, h⟩

theorem of_act {a : Act} (ha : a.isInternal = true) (h : ∀ w, P w → Q (w.perform a)) :
    LeadsBy [a] P Q :=
  ⟨by simpa using ha, h⟩

theorem trans (h : LeadsBy acts P Q) (h' : LeadsBy acts' Q R) : LeadsBy (acts ++ acts') P R where
  internal a ha := by
    rcases List.mem_append.1 ha with ha | ha
    · exact h.internal a ha
    · exact h'.internal a ha
  run w hw := by
    rw [run_append]
    exact h'.run _ (h.run w hw)

end LeadsBy

/-- Some course of acts of the spool itself takes every custody that fulfils `P` to one that fulfils
`Q`. -/
def Leads (P Q : Custody → Prop) : Prop :=
  ∃ acts : List Act, LeadsBy acts P Q

theorem Leads.trans {P Q R : Custody → Prop} : Leads P Q → Leads Q R → Leads P R
  | ⟨_, h⟩, ⟨_, h'⟩ => ⟨_, h.trans h'⟩

/-! ## What acts leave alone -/

/-- What an act leaves alone: the capacity, and what was accepted under a number.  The hands belong
to callers that take entries out, and whoever is called by the spool reaches neither the entry in
flight nor the history of the attempts. -/
structure Untouched (a : Act) (w w' : Custody) : Prop where
  capacity : w'.buffer.capacity = w.buffer.capacity
  accepted : w.accepted <+: w'.accepted
  hands : a.isInternal = true → w'.hands = w.hands
  pending : a.isIntrusion = true → w'.inFlight = w.inFlight ∧ w'.attempts = w.attempts

/-- An act that only changes the counts of the buffer, and the storage. -/
theorem Untouched.of_buffer (a : Act) (w : Custody) {b : Buffer} (storage : Storage)
    (hb : b = w.buffer ∨ b = w.buffer.countError) :
    Untouched a w { w with buffer := b, storage } where
  capacity := by
    rcases hb with rfl | rfl
    · rfl
    · rfl
  accepted := List.prefix_refl _
  hands _ := rfl
  pending _ := ⟨rfl, rfl⟩

theorem perform_untouched (w : Custody) (a : Act) : Untouched a w (w.perform a) := by
  have hsame : Untouched a w w := .of_buffer a w w.storage (Or.inl rfl)
  cases a with
  | enqueue f now =>
      rcases w.perform_enqueue f now with ⟨-, h⟩ | ⟨b, storage, hb, h⟩
      · rw [h]
        exact ⟨rfl, List.prefix_append _ _, fun _ => rfl, fun _ => ⟨rfl, rfl⟩⟩
      · rw [h]
        exact .of_buffer _ w storage hb
  | take hand =>
      rcases w.perform_take hand with ⟨e, rest, -, -, h⟩ | h
      · rw [h]
        exact ⟨rfl, List.prefix_refl _, nofun, nofun⟩
      · rw [h]
        exact hsame
  | giveBack hand =>
      rcases w.perform_giveBack hand with ⟨e, -, -, -, h⟩ | ⟨storage, h⟩
      · rw [h]
        exact ⟨rfl, List.prefix_refl _, nofun, nofun⟩
      · rw [h]
        exact .of_buffer _ w storage (Or.inl rfl)
  | discard hand => exact ⟨rfl, List.prefix_refl _, nofun, nofun⟩
  | offer now =>
      rcases w.perform_offer now with ⟨e, rest, -, -, -, h⟩ | h
      · rw [h]
        exact ⟨rfl, List.prefix_refl _, fun _ => rfl, nofun⟩
      · rw [h]
        exact hsame
  | settle answer now =>
      rcases w.perform_settle answer now with ⟨d, -, ⟨-, h⟩ | ⟨-, -, -, h⟩ | ⟨-, -, storage, h⟩⟩ | h
      · rw [h]
        exact ⟨Buffer.markProcessed_capacity _ _ _, List.prefix_refl _, fun _ => rfl, nofun⟩
      · rw [h]
        exact ⟨rfl, List.prefix_refl _, fun _ => rfl, nofun⟩
      · rw [h]
        exact ⟨rfl, List.prefix_refl _, fun _ => rfl, nofun⟩
      · rw [h]
        exact hsame
  | countError =>
      obtain ⟨b, hb, h⟩ := w.perform_countError
      rw [h]
      exact .of_buffer _ w w.storage hb
  | close =>
      rcases w.perform_close with ⟨-, h⟩ | ⟨-, h⟩
      · rw [h]
        exact ⟨rfl, List.prefix_refl _, fun _ => rfl, fun _ => ⟨rfl, rfl⟩⟩
      · rw [h]
        exact hsame

theorem run_of_isIntrusion {acts : List Act} (hacts : ∀ a ∈ acts, a.isIntrusion = true)
    (w : Custody) : (w.run acts).inFlight = w.inFlight ∧ (w.run acts).attempts = w.attempts := by
  refine run_induction (fun w' => w'.inFlight = w.inFlight ∧ w'.attempts = w.attempts)
    Act.isIntrusion ?_ hacts ⟨rfl, rfl⟩
  intro w' a ha hw'
  obtain ⟨hflight, hattempts⟩ := (w'.perform_untouched a).pending ha
  exact ⟨hflight.trans hw'.1, hattempts.trans hw'.2⟩

theorem run_hands {acts : List Act} (hacts : ∀ a ∈ acts, a.isInternal = true) (w : Custody) :
    (w.run acts).hands = w.hands := by
  refine run_induction (fun w' => w'.hands = w.hands) Act.isInternal ?_ hacts rfl
  intro w' a ha hw'
  exact ((w'.perform_untouched a).hands ha).trans hw'

/-- What was accepted under a number stays what it is. -/
theorem accepted_prefix_run (w : Custody) (acts : List Act) :
    w.accepted <+: (w.run acts).accepted := by
  refine run_induction (fun w' => w.accepted <+: w'.accepted) (fun _ => true) ?_ (fun _ _ => rfl)
    (List.prefix_refl _)
  intro w' a _ hw'
  exact hw'.trans (w'.perform_untouched a).accepted

theorem run_capacity (w : Custody) (acts : List Act) :
    (w.run acts).buffer.capacity = w.buffer.capacity := by
  refine run_induction (fun w' => w'.buffer.capacity = w.buffer.capacity) (fun _ => true) ?_
    (fun _ _ => rfl) rfl
  intro w' a _ hw'
  exact (w'.perform_untouched a).capacity.trans hw'

/-- Ample storage is not used up. -/
theorem perform_ample {w : Custody} (hw : w.storage = .ample) (a : Act) :
    (w.perform a).storage = .ample := by
  cases a with
  | enqueue f now =>
      rcases h : w.buffer.enqueue f now w.storage.shortage? with ⟨why | id, b⟩
      · simpa [perform, h] using Storage.after_ample (.error why) hw
      · simpa [perform, h] using Storage.after_ample (.ok id) hw
  | take hand => rcases w.perform_take hand with ⟨e, rest, -, -, h⟩ | h <;> rw [h] <;> exact hw
  | giveBack hand =>
      cases hget : w.hands.get? hand with
      | none => simpa [perform, hget] using hw
      | some e =>
          rcases h : w.buffer.requeueFront e w.storage.shortage? with ⟨why | u, b⟩
          · simpa [perform, hget, h] using Storage.after_ample (.error why) hw
          · simpa [perform, hget, h] using Storage.after_ample (.ok u) hw
  | discard hand => exact hw
  | offer now => rcases w.perform_offer now with ⟨e, rest, -, -, -, h⟩ | h <;> rw [h] <;> exact hw
  | settle answer now =>
      cases hflight : w.inFlight with
      | none => simpa [perform, hflight] using hw
      | some d =>
          by_cases haccepted : answer = .accepted
          · simpa [perform, hflight, haccepted, conclude] using hw
          · simpa [perform, hflight, haccepted, conclude] using Storage.after_ample _ hw
  | countError => exact hw
  | close => rcases w.perform_close with ⟨-, h⟩ | ⟨-, h⟩ <;> rw [h] <;> exact hw

theorem run_ample {w : Custody} (hw : w.storage = .ample) (acts : List Act) :
    (w.run acts).storage = .ample :=
  run_induction (fun w => w.storage = .ample) (fun _ => true)
    (fun _ a _ h => perform_ample h a) (fun _ _ => rfl) hw

/-! ## Where entries are -/

/-- The entries that the sink took. -/
def delivered (w : Custody) : List Entry :=
  (w.attempts.filter Attempt.isDelivered).map Attempt.entry

/-- The entries that could go neither to the sink nor back. -/
def lost (w : Custody) : List Entry :=
  (w.attempts.filter Attempt.isLost).map Attempt.entry

/-- Every delivery the sink was called with, the earliest first; a pending one is the last. -/
def calls (w : Custody) : List Delivery :=
  w.attempts.map Attempt.delivery ++ w.inFlight.toList

/-- The places an accepted entry can be in. -/
inductive Place where
  | queue
  /-- Taken out by a caller, who holds it or has thrown it away. -/
  | hand
  | flight
  | delivered
  | lost
  | discarded
  deriving Repr, DecidableEq

/-- Every place. -/
def Place.all : List Place :=
  [.queue, .hand, .flight, .delivered, .lost, .discarded]

theorem Place.mem_all (p : Place) : p ∈ Place.all := by
  cases p <;> simp [Place.all]

/-- The entries in a place. -/
def entriesAt (w : Custody) : Place → List Entry
  | .queue => w.buffer.queue
  | .hand => w.hands.entries ++ w.thrown
  | .flight => (w.inFlight.map Delivery.entry).toList
  | .delivered => w.delivered
  | .lost => w.lost
  | .discarded => w.discarded

/-- The entries in all places together. -/
def entries (w : Custody) : List Entry :=
  Place.all.flatMap w.entriesAt

theorem delivered_conclude (w : Custody) (b : Buffer) (storage : Storage) (a : Attempt) :
    (w.conclude b storage a).delivered = w.delivered ++ if a.isDelivered then [a.entry] else [] := by
  cases h : a.isDelivered <;> simp [conclude, delivered, h]

theorem lost_conclude (w : Custody) (b : Buffer) (storage : Storage) (a : Attempt) :
    (w.conclude b storage a).lost = w.lost ++ if a.isLost then [a.entry] else [] := by
  cases h : a.isLost <;> simp [conclude, lost, h]

end Custody

end LogSpool
