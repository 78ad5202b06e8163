import LogSpool.Json.Reader.Value

/-!
# What readers take

This module says what a reader takes off the front of a text.  A reading relates a reader and a text to
the value that is taken and to what is left of the text, wherever the cursor stands in its line.  The
readings of the parts of a reader make up the reading of the whole, so that a reader of a document is
followed from one token to the next.

* `Cursor.Before` — the text that a cursor stands before.
* `Reads` — a reading; `Reads.bind` puts two of them together.
* `reads_peek` to `reads_word` — the readings of the basic readers.
* `run_of_reads` — a whole text, of which nothing is left.
-/

namespace LogSpool.Json

/-- The cursor stands before a text, and knows how long it is. -/
structure Cursor.Before (c : Cursor) (s : List Char) : Prop where
  rest : c.rest = s
  left : c.left = s.length

/-- No gap stands before a text. -/
def Token (s : List Char) : Prop :=
  ∀ x ∈ s.head?, Cursor.isGap x = false

theorem token_nil : Token [] := by
  simp [Token]

theorem token_cons {x : Char} {s : List Char} (hx : Cursor.isGap x = false) : Token (x :: s) := by
  simpa [Token] using hx

namespace Cursor

variable {c : Cursor} {x : Char} {s : List Char}

theorem start_before (s : List Char) : (start s).Before s :=
  ⟨rfl, rfl⟩

theorem Before.advance (h : c.Before (x :: s)) : c.advance.Before s := by
  obtain ⟨rest, left, line, column⟩ := c
  obtain ⟨rfl, rfl⟩ := h
  by_cases hx : x = '\n'
  · subst hx
    exact ⟨rfl, rfl⟩
  · simp only [Cursor.advance]
    exact ⟨rfl, rfl⟩

theorem Before.skipGap (h : c.Before s) (hs : Token s) : c.skipGap = c := by
  rw [Cursor.skipGap, h.rest]
  cases s with
  | nil => rfl
  | cons x s =>
      have hx : isGap x = false := hs x rfl
      simp [skipGap.go, hx]

end Cursor

namespace Reader

variable {α β : Type} {s t u : List Char} {x : Char}

/-- A reader takes a value off the front of a text and leaves the rest of it. -/
def Reads (r : Reader α) (s : List Char) (a : α) (t : List Char) : Prop :=
  ∀ c : Cursor, c.Before s → ∃ c', r c = .ok (a, c') ∧ c'.Before t

theorem reads_pure (a : α) (s : List Char) : Reads (pure a) s a s :=
  fun c hc => ⟨c, rfl, hc⟩

/-- What is left by one reader is read by the next. -/
theorem Reads.bind {r : Reader α} {k : α → Reader β} {a : α} {b : β} (h : Reads r s a t)
    (hk : Reads (k a) t b u) : Reads (r >>= k) s b u := by
  intro c hc
  obtain ⟨c', hr, hc'⟩ := h c hc
  obtain ⟨c'', hkr, hc''⟩ := hk c' hc'
  refine ⟨c'', ?_, hc''⟩
  change Except.bind (r c) (fun p => k p.1 p.2) = _
  rw [hr]
  exact hkr

/-! ## The basic readers -/

theorem reads_peek (s : List Char) : Reads peek s s.head? s :=
  fun c hc => ⟨c, by rw [peek, hc.rest], hc⟩

theorem reads_peekToken (hs : Token s) : Reads peekToken s s.head? s :=
  fun c hc => ⟨c, by rw [peekToken, hc.skipGap hs, hc.rest], hc⟩

theorem reads_next (x : Char) (s : List Char) : Reads next (x :: s) (some x) s :=
  fun c hc => ⟨c.advance, by rw [next, hc.rest]; rfl, hc.advance⟩

theorem reads_drop (x : Char) (s : List Char) : Reads drop (x :: s) () s :=
  fun c hc => ⟨c.advance, rfl, hc.advance⟩

theorem reads_remaining (s : List Char) : Reads remaining s s.length s :=
  fun c hc => ⟨c, by rw [remaining, hc.left], hc⟩

theorem reads_taken {accept : Char → Option α} {atEnd refused : Complaint} {a : α}
    (hx : accept x = some a) (s : List Char) : Reads (taken accept atEnd refused) (x :: s) a s := by
  refine (reads_peek _).bind ?_
  simp only [List.head?_cons, hx]
  exact (reads_drop x s).bind (reads_pure a s)

theorem reads_mark (x : Char) (atEnd refused : Complaint) (s : List Char) :
    Reads (mark x atEnd refused) (x :: s) () s :=
  reads_taken (if_pos rfl) s

theorem reads_word (w s : List Char) : Reads (word w) (w ++ s) () s := by
  induction w with
  | nil => exact reads_pure () s
  | cons x w ih => exact (reads_mark x _ _ _).bind ih

theorem reads_valueStart (hx : Cursor.isGap x = false) (s : List Char) :
    Reads valueStart (x :: s) x (x :: s) :=
  (reads_peekToken (token_cons hx)).bind (reads_pure x _)

theorem reads_colon (s : List Char) : Reads colon (':' :: s) () s :=
  (reads_peekToken (token_cons rfl)).bind (reads_drop ':' s)

/-- A whole text is read to its end. -/
theorem run_of_reads {r : Reader α} {a : α} {s : String} (h : Reads r s.toList a []) :
    run r s = .ok a := by
  obtain ⟨c, hr, hc⟩ := h _ (Cursor.start_before s.toList)
  -- only a gap could stand behind the value
  have hend : peekToken c = .ok (none, c) := by
    rw [peekToken, hc.skipGap token_nil, hc.rest]
    rfl
  simp only [run, bind, StateT.bind, Except.bind, hr, hend]
  rfl

end Reader

end LogSpool.Json
