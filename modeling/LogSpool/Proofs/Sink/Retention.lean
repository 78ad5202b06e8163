import LogSpool.Proofs.Station.Round
import LogSpool.Sink.Memory
import Mathlib.Data.List.DropRight

/-!
# What a memory sink keeps

This module says what a memory sink is after any sequence of calls, of turns of its switches and of
closings: the end of an exact history.  What was done to the sink before, with the answers, tells how the
switches stand and how many more deliveries will be refused; so it tells which calls are accepted, and of
the accepted ones the last are kept.

* `MemorySink.Operation`, `Turn` — what can be done to a memory sink, and what has been done.
* `switchedDown`, `refusingMetrics`, `budget` — what the past tells about the answers to come.
* `Reflects` — the sink is what its past tells; `perform_reflects` and `serve_reflects` keep it so.
* `memory_keeps_last_accepted` — the sink after every sequence of operations.
-/

namespace LogSpool

namespace MemorySink

/-! ## Histories -/

/-- What can be done to a memory sink. -/
inductive Operation where
  | call (call : Call)
  | refuseLogs (count : Nat)
  | refuseMetrics (refuse : Bool)
  | setDown (down : Bool)
  | close

/-- Whether the sink is closed. -/
def Operation.isClosing : Operation → Bool
  | .close => true
  | _ => false

/-- Performs an operation.  Only calls are answered. -/
def perform (s : MemorySink) : Operation → Option Answer × MemorySink
  | .call call => (some (Sink.ask call s).1, (Sink.ask call s).2)
  | .refuseLogs count => (none, s.refuseLogs count)
  | .refuseMetrics refuse => (none, s.refuseMetrics refuse)
  | .setDown down => (none, s.setDown down)
  | .close => (none, Sink.close s)

/-- An operation that was performed, with its answer. -/
structure Turn where
  operation : Operation
  answer : Option Answer

/-- Performs operations one after the other; what was done is told in their order. -/
def serve (s : MemorySink) : List Operation → List Turn × MemorySink
  | [] => ([], s)
  | op :: ops =>
    let (answer, s) := s.perform op
    let (turns, s) := s.serve ops
    (⟨op, answer⟩ :: turns, s)

namespace Turn

/-- The delivery that the sink took in this turn. -/
def takenLog? : Turn → Option Delivery
  | ⟨.call (.log d), some .accepted⟩ => some d
  | _ => none

/-- The snapshot that the sink took in this turn. -/
def takenSnapshot? : Turn → Option Metrics
  | ⟨.call (.snapshot m), some .accepted⟩ => some m
  | _ => none

/-- Whether a delivery was refused in this turn. -/
def isRefusedLog : Turn → Bool
  | ⟨.call (.log _), some (.refused _)⟩ => true
  | _ => false

/-- Whether this turn takes the sink down, or up. -/
def down? : Turn → Option Bool
  | ⟨.setDown down, _⟩ => some down
  | _ => none

/-- Whether this turn has snapshots refused, or not. -/
def metrics? : Turn → Option Bool
  | ⟨.refuseMetrics refuse, _⟩ => some refuse
  | _ => none

/-- How many deliveries this turn sets to be refused. -/
def count? : Turn → Option Nat
  | ⟨.refuseLogs count, _⟩ => some count
  | _ => none

end Turn

/-- What was set last in a past, or what it was at first. -/
def lastSet {α : Type} (setting : Turn → Option α) (first : α) (past : List Turn) : α :=
  (past.filterMap setting).getLast?.getD first

/-- Whether the sink is down after a past. -/
def switchedDown (past : List Turn) : Bool :=
  lastSet Turn.down? false past

/-- Whether the sink refuses snapshots after a past. -/
def refusingMetrics (past : List Turn) : Bool :=
  lastSet Turn.metrics? false past

/-- How many deliveries were refused in some turns while the sink was not down; `down` says whether it
was down before them. -/
def refusedWhileUp (down : Bool) : List Turn → Nat
  | [] => 0
  | t :: turns =>
    (if t.isRefusedLog ∧ down = false then 1 else 0) + refusedWhileUp (t.down?.getD down) turns

/-- The turns up to the one that set the budget last. -/
def untilSet (past : List Turn) : List Turn :=
  past.rdropWhile fun t => t.count?.isNone

/-- The turns after the one that set the budget last. -/
def sinceSet (past : List Turn) : List Turn :=
  past.rtakeWhile fun t => t.count?.isNone

/-- How many more deliveries are to be refused: the number that was set last, less the deliveries that
were refused since while the sink was not down. -/
def budget (past : List Turn) : Nat :=
  lastSet Turn.count? 0 past - refusedWhileUp (switchedDown (untilSet past)) (sinceSet past)

/-- The sink is what its past tells, and keeps `limit` records of a kind. -/
structure Reflects (limit : Nat) (past : List Turn) (s : MemorySink) : Prop where
  retention : s.retention = limit
  isDown : s.isDown = switchedDown past
  failMetrics : s.failMetrics = refusingMetrics past
  failNextLogs : s.failNextLogs = budget past
  logs : s.logs.toList = (past.filterMap Turn.takenLog?).rtake limit
  snapshots : s.snapshots.toList = (past.filterMap Turn.takenSnapshot?).rtake limit

/-! ## One more turn -/

section

variable {α : Type} (setting : Turn → Option α) (first : α) (past : List Turn) (t : Turn)

theorem lastSet_concat :
    lastSet setting first (past ++ [t]) = (setting t).getD (lastSet setting first past) := by
  unfold lastSet
  rw [List.filterMap_append]
  cases h : setting t with
  | none => simp [h]
  | some a => simp [h]

theorem switchedDown_concat :
    switchedDown (past ++ [t]) = t.down?.getD (switchedDown past) :=
  lastSet_concat _ _ _ _

theorem refusingMetrics_concat :
    refusingMetrics (past ++ [t]) = t.metrics?.getD (refusingMetrics past) :=
  lastSet_concat _ _ _ _

end

/-- The switch after some turns, from what it was before them. -/
theorem switchedDown_append (past turns : List Turn) :
    switchedDown (past ++ turns) = lastSet Turn.down? (switchedDown past) turns := by
  induction turns using List.reverseRecOn with
  | nil => rw [List.append_nil]; rfl
  | append_singleton turns t ih =>
      rw [← List.append_assoc, switchedDown_concat, ih, lastSet_concat]

theorem refusedWhileUp_concat (down : Bool) (turns : List Turn) (t : Turn) :
    refusedWhileUp down (turns ++ [t]) = refusedWhileUp down turns +
      if t.isRefusedLog ∧ lastSet Turn.down? down turns = false then 1 else 0 := by
  induction turns generalizing down with
  | nil =>
      simp only [List.nil_append, refusedWhileUp, Nat.zero_add, Nat.add_zero]
      rfl
  | cons t' turns ih =>
      have hswitch : lastSet Turn.down? down (t' :: turns) =
          lastSet Turn.down? (t'.down?.getD down) turns := by
        unfold lastSet
        cases h : t'.down? with
        | none => simp [h]
        | some b => simp [h, List.getLast?_cons]
      simp only [List.cons_append, refusedWhileUp, ih, hswitch]
      omega

theorem until_append_since (past : List Turn) : untilSet past ++ sinceSet past = past :=
  List.rdropWhile_append_rtakeWhile

/-- A turn that sets the budget starts it anew. -/
theorem budget_of_count {t : Turn} {count : Nat} (h : t.count? = some count) (past : List Turn) :
    budget (past ++ [t]) = count := by
  have hsince : sinceSet (past ++ [t]) = [] := List.rtakeWhile_concat_neg _ _ _ (by simp [h])
  rw [budget, hsince, lastSet_concat, h]
  rfl

/-- Any other turn leaves the budget, but for a delivery that was refused while the sink was up. -/
theorem budget_of_none {t : Turn} (h : t.count? = none) (past : List Turn) :
    budget (past ++ [t]) =
      budget past - if t.isRefusedLog ∧ switchedDown past = false then 1 else 0 := by
  have hsince : sinceSet (past ++ [t]) = sinceSet past ++ [t] :=
    List.rtakeWhile_concat_pos _ _ _ (by simp [h])
  have huntil : untilSet (past ++ [t]) = untilSet past :=
    List.rdropWhile_concat_pos _ _ _ (by simp [h])
  have hdown : lastSet Turn.down? (switchedDown (untilSet past)) (sinceSet past) =
      switchedDown past := by
    rw [← switchedDown_append, until_append_since]
  rw [budget, hsince, huntil, lastSet_concat, h, refusedWhileUp_concat, hdown, budget]
  simp only [Option.getD_none]
  omega

/-! ## Records -/

/-- A history that is kept up to a number of records keeps the last ones. -/
theorem retain_toList {α : Type} {history : Array α} {taken : List α} {limit : Nat}
    (h : history.toList = taken.rtake limit) (item : α) :
    (retain history limit item).toList = (taken ++ [item]).rtake limit := by
  have hlonger : (history.push item).toList = (taken ++ [item]).drop (taken.length - limit) := by
    rw [Array.toList_push, h, List.rtake, List.drop_append_of_le_length (Nat.sub_le _ _)]
  have hsize : (history.push item).size = taken.length + 1 - (taken.length - limit) := by
    rw [← Array.length_toList, hlonger, List.length_drop, List.length_append, List.length_singleton]
  unfold retain List.rtake
  dsimp only
  rw [List.length_append, List.length_singleton]
  split
  · rw [Array.toList_extract, List.extract_eq_take_drop, hlonger, List.drop_drop, List.take_of_length_le]
    · congr 1
      omega
    · rw [List.length_drop, List.length_append, List.length_singleton]
      omega
  · rw [hlonger]
    congr 1
    omega

/-- A history after a turn in which something was taken, or nothing. -/
def keep {α : Type} (history : Array α) (limit : Nat) : Option α → Array α
  | none => history
  | some item => retain history limit item

theorem keep_toList {α : Type} {history : Array α} {taken? : Turn → Option α} {past : List Turn}
    {limit : Nat} (h : history.toList = (past.filterMap taken?).rtake limit) (t : Turn) :
    (keep history limit (taken? t)).toList = ((past ++ [t]).filterMap taken?).rtake limit := by
  rw [List.filterMap_append]
  cases htaken : taken? t with
  | none => simpa [keep, htaken] using h
  | some item => simpa [keep, htaken] using retain_toList h item

/-! ## Steps -/

section

variable {limit : Nat} {past : List Turn} {s s' : MemorySink}

/-- How a turn may change the sink. -/
theorem Reflects.next (h : Reflects limit past s) (t : Turn) (hretention : s'.retention = s.retention)
    (hdown : s'.isDown = t.down?.getD s.isDown)
    (hmetrics : s'.failMetrics = t.metrics?.getD s.failMetrics)
    (hbudget : s'.failNextLogs = t.count?.getD
      (s.failNextLogs - if t.isRefusedLog ∧ s.isDown = false then 1 else 0))
    (hlogs : s'.logs = keep s.logs s.retention t.takenLog?)
    (hsnapshots : s'.snapshots = keep s.snapshots s.retention t.takenSnapshot?) :
    Reflects limit (past ++ [t]) s' where
  retention := hretention.trans h.retention
  isDown := by rw [hdown, h.isDown, switchedDown_concat]
  failMetrics := by rw [hmetrics, h.failMetrics, refusingMetrics_concat]
  failNextLogs := by
    rw [hbudget, h.failNextLogs, h.isDown]
    cases hcount : t.count? with
    | none => exact (budget_of_none hcount past).symm
    | some count => exact (budget_of_count hcount past).symm
  logs := by
    rw [hlogs, h.retention]
    exact keep_toList h.logs t
  snapshots := by
    rw [hsnapshots, h.retention]
    exact keep_toList h.snapshots t

/-- Every call keeps the sink what its past tells. -/
theorem Reflects.ask (h : Reflects limit past s) (call : Call) :
    Reflects limit (past ++ [⟨.call call, some (Sink.ask call s).1⟩]) (Sink.ask call s).2 := by
  cases call with
  | log d =>
      change Reflects limit (past ++ [⟨.call (.log d), some (s.insertLog d).1⟩]) (s.insertLog d).2
      unfold insertLog
      split
      · -- while the sink is down the budget is left alone
        exact h.next _ rfl rfl rfl (by simp [Turn.count?, *]) rfl rfl
      · split
        · exact h.next _ rfl rfl rfl (by simp [Turn.count?, Turn.isRefusedLog, *]) rfl rfl
        · exact h.next _ rfl rfl rfl (by simp [Turn.count?, Turn.isRefusedLog]) rfl rfl
  | snapshot m =>
      change Reflects limit (past ++ [⟨.call (.snapshot m), some (s.insertMetrics m).1⟩])
        (s.insertMetrics m).2
      unfold insertMetrics
      split
      · exact h.next _ rfl rfl rfl rfl rfl rfl
      · split
        · exact h.next _ rfl rfl rfl rfl rfl rfl
        · exact h.next _ rfl rfl rfl rfl rfl rfl
  | ping => exact h.next _ rfl rfl rfl rfl rfl rfl

/-- So does every operation. -/
theorem perform_reflects (h : Reflects limit past s) (op : Operation) :
    Reflects limit (past ++ [⟨op, (s.perform op).1⟩]) (s.perform op).2 := by
  cases op with
  | call call => exact h.ask call
  | refuseLogs count => exact h.next _ rfl rfl rfl rfl rfl rfl
  | refuseMetrics refuse => exact h.next _ rfl rfl rfl rfl rfl rfl
  | setDown down => exact h.next _ rfl rfl rfl rfl rfl rfl
  | close => exact h.next _ rfl rfl rfl rfl rfl rfl

theorem serve_reflects (h : Reflects limit past s) (ops : List Operation) :
    Reflects limit (past ++ (s.serve ops).1) (s.serve ops).2 := by
  induction ops generalizing past s with
  | nil => simpa [serve] using h
  | cons op ops ih =>
      have hrest := ih (perform_reflects h op)
      rwa [List.append_assoc] at hrest

/-- A sink that was just made has no past. -/
theorem withRetention_reflects (retention : Nat) :
    Reflects (max retention 1) [] (withRetention retention) :=
  ⟨rfl, rfl, rfl, rfl, (List.rtake_nil _).symm, (List.rtake_nil _).symm⟩

/-! ## Answers -/

theorem Reflects.log_accepted_iff (h : Reflects limit past s) (d : Delivery) :
    (Sink.ask (.log d) s).1 = .accepted ↔ switchedDown past = false ∧ budget past = 0 := by
  rw [← h.isDown, ← h.failNextLogs]
  change (s.insertLog d).1 = .accepted ↔ _
  unfold insertLog
  split
  · simp [*]
  · split
    · simp only [reduceCtorEq, false_iff, not_and]
      omega
    · simp only [true_iff]
      exact ⟨Bool.eq_false_iff.2 ‹_›, by omega⟩

theorem Reflects.snapshot_accepted_iff (h : Reflects limit past s) (m : Metrics) :
    (Sink.ask (.snapshot m) s).1 = .accepted ↔
      switchedDown past = false ∧ refusingMetrics past = false := by
  rw [← h.isDown, ← h.failMetrics]
  change (s.insertMetrics m).1 = .accepted ↔ _
  unfold insertMetrics
  split
  · simp [*]
  · split <;> simp [*]

theorem Reflects.ping_accepted_iff (h : Reflects limit past s) :
    (Sink.ask .ping s).1 = .accepted ↔ switchedDown past = false := by
  rw [← h.isDown]
  change s.ping = .accepted ↔ _
  unfold ping
  split <;> simp [*]

/-- An operation that is not accepted leaves both histories as they are. -/
theorem perform_not_accepted {op : Operation} (h : (s.perform op).1 ≠ some .accepted) :
    (s.perform op).2.logs = s.logs ∧ (s.perform op).2.snapshots = s.snapshots := by
  cases op with
  | call call =>
      cases call with
      | log d =>
          change (some (s.insertLog d).1) ≠ some .accepted at h
          change (s.insertLog d).2.logs = s.logs ∧ (s.insertLog d).2.snapshots = s.snapshots
          unfold insertLog at h ⊢
          split
          · exact ⟨rfl, rfl⟩
          · split
            · exact ⟨rfl, rfl⟩
            · simp [*] at h
      | snapshot m =>
          change (some (s.insertMetrics m).1) ≠ some .accepted at h
          change (s.insertMetrics m).2.logs = s.logs ∧ (s.insertMetrics m).2.snapshots = s.snapshots
          unfold insertMetrics at h ⊢
          split
          · exact ⟨rfl, rfl⟩
          · split
            · exact ⟨rfl, rfl⟩
            · simp [*] at h
      | ping => exact ⟨rfl, rfl⟩
  | _ => exact ⟨rfl, rfl⟩

end

/-! ## Closing -/

/-- The sink as if it had been closed, or had not been. -/
def marked (s : MemorySink) (closed : Bool) : MemorySink :=
  { s with isClosed := closed }

theorem ask_marked (s : MemorySink) (closed : Bool) (call : Call) :
    Sink.ask call (s.marked closed) = ((Sink.ask call s).1, (Sink.ask call s).2.marked closed) := by
  cases call with
  | log d =>
      change (s.marked closed).insertLog d = ((s.insertLog d).1, (s.insertLog d).2.marked closed)
      unfold insertLog marked
      dsimp only
      split
      · rfl
      · split <;> rfl
  | snapshot m =>
      change (s.marked closed).insertMetrics m =
        ((s.insertMetrics m).1, (s.insertMetrics m).2.marked closed)
      unfold insertMetrics marked
      dsimp only
      split
      · rfl
      · split <;> rfl
  | ping => rfl

theorem perform_marked (s : MemorySink) (closed : Bool) (op : Operation) :
    (s.marked closed).perform op =
      ((s.perform op).1, (s.perform op).2.marked (op.isClosing || closed)) := by
  cases op with
  | call call => simp only [perform, ask_marked, Operation.isClosing, Bool.false_or]
  | _ => rfl

/-- No answer depends on whether the sink has been closed. -/
theorem serve_marked (s : MemorySink) (closed : Bool) (ops : List Operation) :
    ((s.marked closed).serve ops).1 = (s.serve ops).1 := by
  induction ops generalizing s closed with
  | nil => rfl
  | cons op ops ih => simp only [serve, perform_marked, ih]

/-- To leave the closings out changes no answer. -/
theorem serve_without_closings (s : MemorySink) (ops : List Operation) :
    (s.serve (ops.filter fun op => !op.isClosing)).1 =
      (s.serve ops).1.filter fun t => !t.operation.isClosing := by
  induction ops generalizing s with
  | nil => rfl
  | cons op ops ih =>
      cases op with
      | close => exact (serve_marked s true _).symm.trans (ih (s.marked true))
      | _ => exact congrArg (_ :: ·) (ih _)

/-- A memory sink is the end of an exact history, whatever has been done to it, and in whatever order.

A delivery is accepted exactly if the sink is not down and no more deliveries are to be refused; a
snapshot exactly if the sink is neither down nor refusing snapshots.  To leave out the closings of the
sink changes no answer.  Of the deliveries that were accepted, and of the snapshots, the sink holds the
last ones, in the order of the calls and as they were handed over: as many as it was made for, but one at
least.  An operation that is not accepted changes neither history. -/
theorem memory_keeps_last_accepted (retention : Nat) (ops : List Operation) :
    let past := ((withRetention retention).serve ops).1
    let s := ((withRetention retention).serve ops).2
    (∀ d, (Sink.ask (.log d) s).1 = .accepted ↔ switchedDown past = false ∧ budget past = 0) ∧
    (∀ m, (Sink.ask (.snapshot m) s).1 = .accepted ↔
      switchedDown past = false ∧ refusingMetrics past = false) ∧
    ((Sink.ask .ping s).1 = .accepted ↔ switchedDown past = false) ∧
    ((withRetention retention).serve (ops.filter fun op => !op.isClosing)).1 =
      past.filter (fun t => !t.operation.isClosing) ∧
    s.logs.toList = (past.filterMap Turn.takenLog?).rtake (max retention 1) ∧
    s.snapshots.toList = (past.filterMap Turn.takenSnapshot?).rtake (max retention 1) ∧
    s.logs.size ≤ max retention 1 ∧ s.snapshots.size ≤ max retention 1 ∧
    ∀ op, (s.perform op).1 ≠ some .accepted →
      (s.perform op).2.logs = s.logs ∧ (s.perform op).2.snapshots = s.snapshots := by
  intro past s
  have h : Reflects (max retention 1) past s := serve_reflects (withRetention_reflects retention) ops
  have hbound {α : Type} {history : Array α} {taken : List α}
      (hkept : history.toList = taken.rtake (max retention 1)) : history.size ≤ max retention 1 := by
    rw [← Array.length_toList, hkept, List.rtake, List.length_drop]
    omega
  exact ⟨h.log_accepted_iff, h.snapshot_accepted_iff, h.ping_accepted_iff,
    serve_without_closings _ ops, h.logs, h.snapshots, hbound h.logs, hbound h.snapshots,
    fun _ => perform_not_accepted⟩

/-- Two deliveries are to be refused.  The first attempt is one of them, the second one is not, for the
sink is down, and the third is the other.  Then three deliveries are taken, though the sink has been
closed, and the last two are kept. -/
theorem memory_keeps_last_accepted_of_outage :
    let d (id : Nat) : Delivery := ⟨⟨id, "INFO", "app", "a", 0⟩, 0, 0⟩
    let log (id : Nat) : Operation := .call (.log (d id))
    let ops : List Operation := [.refuseLogs 2, log 1, .setDown true, log 1, .setDown false, .close,
      log 1, log 1, log 2, log 3]
    let past := ((withRetention 2).serve ops).1
    let s := ((withRetention 2).serve ops).2
    budget (past.take 4) = 1 ∧ (Sink.ask (.log (d 4)) s).1 = .accepted ∧ s.logs.toList = [d 2, d 3] ∧
      (∀ op, (s.perform op).1 ≠ some .accepted → (s.perform op).2.logs.toList = [d 2, d 3]) := by
  intro d log ops past s
  obtain ⟨hlog, -, -, -, hlogs, -, -, -, hrefused⟩ := memory_keeps_last_accepted 2 ops
  have hbudget : budget (past.take 4) = 1 := by decide +zetaReduce
  have hkept : s.logs.toList = [d 2, d 3] := hlogs
  have hup : switchedDown past = false ∧ budget past = 0 := by decide +zetaReduce
  refine ⟨hbudget, (hlog (d 4)).2 hup, hkept, fun op hop => ?_⟩
  rw [(hrefused op hop).1]
  exact hkept

end MemorySink

end LogSpool
