import LogSpool.Proofs.Json.Number
import LogSpool.Proofs.Json.Quoted

/-!
# Documents are read back

This module shows that a document is read back from its text: the reader of values of any kind, which
skips gaps, knows every escape and takes members in any order, finds in the text what was written and
nothing else.  Doubles are left out, since the reader rounds in its own way, and so are whole numbers
beyond 64 bits, which it takes for doubles.

* `Exact` — the documents that are read back.
* `Recovered` — a document is read back inside any other one; `recovered_list` and `recovered_record`
  put documents together.
* `read_write` — a whole document: reading undoes writing.
-/

namespace LogSpool.Json

open Reader

/-- A document without doubles, in which every whole number has 64 bits. -/
inductive Exact : Json → Prop where
  | null : Exact .null
  | bool (b : Bool) : Exact (.bool b)
  | integer {n : Int} (hlow : -2 ^ 63 ≤ n) (hhigh : n < 2 ^ 64) : Exact (.integer n)
  | text (s : String) : Exact (.text s)
  | list {items : List Json} (h : ∀ item ∈ items, Exact item) : Exact (.list items)
  | record {members : List (String × Json)} (h : ∀ member ∈ members, Exact member.2) :
    Exact (.record members)

theorem exact_natural {n : Nat} (hn : n < 2 ^ 64) : Exact (.natural n) :=
  .integer (by omega) (by omega)

/-- A text starts with a character of a token that does not close a list. -/
def Opens (s : List Char) : Prop :=
  ∃ x rest, s = x :: rest ∧ Cursor.isGap x = false ∧ x ≠ ']'

theorem Opens.append {s : List Char} (h : Opens s) (t : List Char) : Opens (s ++ t) := by
  obtain ⟨x, rest, rfl, hgap, hclose⟩ := h
  exact ⟨x, rest ++ t, rfl, hgap, hclose⟩

theorem Opens.length_pos {s : List Char} (h : Opens s) : 0 < s.length := by
  obtain ⟨x, rest, rfl, -⟩ := h
  exact Nat.succ_pos _

/-- A document is read back from its text, whatever follows it inside another one. -/
structure Recovered (j : Json) : Prop where
  opens : Opens (chars j)
  reads : ∀ {fuel : Nat} {s : List Char}, (chars j).length ≤ fuel → Ends s →
    Reads (value (fuel + 1)) (chars j ++ s) j s

/-! ## Scalars -/

theorem recovered_null : Recovered .null where
  opens := ⟨'n', _, rfl, rfl, by decide⟩
  reads _ _ := (reads_valueStart (x := 'n') rfl _).bind
    ((reads_drop 'n' _).bind ((reads_word ['u', 'l', 'l'] _).bind (reads_pure _ _)))

theorem recovered_bool (b : Bool) : Recovered (.bool b) := by
  cases b with
  | true =>
      refine ⟨⟨'t', _, rfl, rfl, by decide⟩, fun _ _ => ?_⟩
      refine (reads_valueStart (x := 't') rfl _).bind ((reads_drop 't' _).bind ?_)
      exact (reads_word ['r', 'u', 'e'] _).bind (reads_pure _ _)
  | false =>
      refine ⟨⟨'f', _, rfl, rfl, by decide⟩, fun _ _ => ?_⟩
      refine (reads_valueStart (x := 'f') rfl _).bind ((reads_drop 'f' _).bind ?_)
      exact (reads_word ['a', 'l', 's', 'e'] _).bind (reads_pure _ _)

theorem recovered_text (text : String) : Recovered (.text text) := by
  refine ⟨⟨'"', _, rfl, rfl, by decide⟩, fun {_ s} _ _ => ?_⟩
  rw [chars, quoted_append]
  refine (reads_valueStart rfl _).bind ((reads_drop '"' _).bind ?_)
  exact (reads_textBody text s).bind (reads_pure _ s)

theorem isGap_of_isDigit {x : Char} (hx : x.isDigit = true) : Cursor.isGap x = false := by
  refine Bool.eq_false_iff.2 fun hgap => ?_
  simp only [Cursor.isGap, Bool.or_eq_true, decide_eq_true_eq] at hgap
  rcases hgap with ((rfl | rfl) | rfl) | rfl <;> cases hx

theorem exists_toDigits (n : Nat) :
    ∃ x digits, Nat.toDigits 10 n = x :: digits ∧ x.isDigit = true := by
  rcases Decimal.toDigits_cases n with ⟨hdigits, -⟩ | ⟨x, d, digits, hdigits, hdigit, -⟩
  · exact ⟨'0', [], hdigits, rfl⟩
  · exact ⟨x, digits, hdigits, Decimal.isDigit_of_digit? hdigit⟩

theorem recovered_natural {n : Nat} (hn : n < 2 ^ 64) : Recovered (.natural n) := by
  obtain ⟨x, digits, hdigits, hx⟩ := exists_toDigits n
  have hgap := isGap_of_isDigit hx
  have hclose : x ≠ ']' := by
    rintro rfl
    cases hx
  refine ⟨⟨x, digits, hdigits, hgap, hclose⟩, fun {fuel s} _ hs => ?_⟩
  have hnumber := reads_natural hn hs
  change Reads (value (fuel + 1)) (Nat.toDigits 10 n ++ s) _ s
  rw [hdigits] at hnumber ⊢
  refine (reads_valueStart hgap _).bind ?_
  split
  -- no other value starts with a digit
  iterate 7
    · cases hx
  · rw [if_pos hx]
    exact hnumber.bind (reads_pure _ s)

theorem recovered_negative {n : Nat} (hn : n < 2 ^ 63) : Recovered (.integer (.negSucc n)) := by
  refine ⟨⟨'-', _, rfl, rfl, by decide⟩, fun {_ s} _ hs => ?_⟩
  refine (reads_valueStart (x := '-') rfl _).bind ((reads_drop '-' _).bind ?_)
  exact (reads_negative (Nat.succ_pos n) hn hs).bind (reads_pure _ s)

/-! ## Lists -/

variable {s : List Char}

theorem reads_hasItem_end (first : Bool) (s : List Char) :
    Reads (hasItem first) (']' :: s) false (']' :: s) :=
  (reads_peekToken (token_cons rfl)).bind (reads_pure false _)

theorem reads_hasItem_first (h : Opens s) : Reads (hasItem true) s true s := by
  obtain ⟨x, rest, rfl, hgap, hclose⟩ := h
  refine (reads_peekToken (token_cons hgap)).bind ?_
  split
  · next hx => exact absurd (Option.some.inj hx) hclose
  · exact reads_pure true _
  · exact reads_pure true _
  · next hx => cases hx

theorem reads_hasItem_next (h : Opens s) : Reads (hasItem false) (',' :: s) true s := by
  obtain ⟨x, rest, rfl, hgap, hclose⟩ := h
  refine (reads_peekToken (token_cons rfl)).bind ((reads_drop ',' _).bind ?_)
  refine (reads_peekToken (token_cons hgap)).bind ?_
  split
  · next hx => exact absurd (Option.some.inj hx) hclose
  · exact reads_pure true _
  · next hx => cases hx

theorem itemChars_length_pos (items : List Json) : 0 < (itemChars items).length := by
  cases items <;> exact Nat.succ_pos _

/-- No numeral goes on into what follows an item. -/
theorem ends_itemChars (items : List Json) (s : List Char) : Ends (itemChars items ++ s) := by
  cases items <;> exact ends_cons rfl

theorem reads_items_nil (fuel : Nat) (first : Bool) (s : List Char) :
    Reads (value.items (fuel + 1) first) (']' :: s) [] s :=
  (reads_hasItem_end first s).bind ((reads_drop ']' s).bind (reads_pure [] s))

/-- An item is read, once the reader knows that it is there, and then those behind it. -/
theorem reads_items_cons {first : Bool} {t : List Char} {item : Json} {items : List Json} {fuel : Nat}
    (hfirst : Reads (hasItem first) t true (chars item ++ (itemChars items ++ s)))
    (hitem : Recovered item) (hfuel : (chars item).length ≤ fuel)
    (hmore : Reads (value.items (fuel + 1) false) (itemChars items ++ s) items s) :
    Reads (value.items (fuel + 2) first) t (item :: items) s := by
  refine hfirst.bind ((hitem.reads hfuel (ends_itemChars items s)).bind ?_)
  exact hmore.bind (reads_pure _ s)

/-- The items after the first one are read up to the end of the list. -/
theorem reads_items {items : List Json} (h : ∀ item ∈ items, Recovered item) {fuel : Nat}
    (hfuel : (itemChars items).length ≤ fuel) (s : List Char) :
    Reads (value.items fuel false) (itemChars items ++ s) items s := by
  induction items generalizing fuel with
  | nil =>
      obtain ⟨fuel, rfl⟩ := Nat.exists_eq_add_of_le' hfuel
      exact reads_items_nil fuel false s
  | cons item items ih =>
      obtain ⟨hitem, hitems⟩ := List.forall_mem_cons.1 h
      have hpos := hitem.opens.length_pos
      have hrest := itemChars_length_pos items
      simp only [itemChars, List.length_cons, List.length_append] at hfuel
      obtain ⟨fuel, rfl⟩ : ∃ n, fuel = n + 2 := ⟨fuel - 2, by omega⟩
      rw [itemChars, List.cons_append, List.append_assoc]
      exact reads_items_cons (reads_hasItem_next (hitem.opens.append _)) hitem (by omega)
        (ih hitems (by omega))

/-- A list is read after its bracket. -/
theorem reads_list {t : List Char} {items : List Json} {fuel : Nat}
    (h : Reads (value.items fuel true) s items t) :
    Reads (value (fuel + 1)) ('[' :: s) (.list items) t :=
  (reads_valueStart rfl s).bind ((reads_drop '[' s).bind (h.bind (reads_pure _ t)))

theorem recovered_list {items : List Json} (h : ∀ item ∈ items, Recovered item) :
    Recovered (.list items) := by
  cases items with
  | nil =>
      refine ⟨⟨'[', _, rfl, rfl, by decide⟩, fun {fuel s} hfuel _ => ?_⟩
      obtain ⟨fuel, rfl⟩ := Nat.exists_eq_add_of_le' hfuel
      exact reads_list (reads_items_nil (fuel + 1) true s)
  | cons item items =>
      obtain ⟨hitem, hitems⟩ := List.forall_mem_cons.1 h
      refine ⟨⟨'[', _, rfl, rfl, by decide⟩, fun {fuel s} hfuel _ => ?_⟩
      have hpos := hitem.opens.length_pos
      have hrest := itemChars_length_pos items
      simp only [chars, List.length_cons, List.length_append] at hfuel
      obtain ⟨fuel, rfl⟩ : ∃ n, fuel = n + 2 := ⟨fuel - 2, by omega⟩
      rw [chars, List.cons_append, List.append_assoc]
      exact reads_list (reads_items_cons (reads_hasItem_first (hitem.opens.append _)) hitem
        (by omega) (reads_items hitems (by omega) s))

/-! ## Records -/

theorem reads_hasMember_end (first : Bool) (s : List Char) :
    Reads (hasMember first) ('\x7d' :: s) false ('\x7d' :: s) :=
  (reads_peekToken (token_cons rfl)).bind (reads_pure false _)

theorem reads_hasMember_first (name : String) (s : List Char) :
    Reads (hasMember true) (quoted name ++ s) true (quoted name ++ s) :=
  (reads_peekToken (token_cons rfl)).bind (reads_pure true _)

theorem reads_hasMember_next (name : String) (s : List Char) :
    Reads (hasMember false) (',' :: (quoted name ++ s)) true (quoted name ++ s) := by
  refine (reads_peekToken (token_cons rfl)).bind ((reads_drop ',' _).bind ?_)
  exact (reads_peekToken (token_cons rfl)).bind (reads_pure true _)

theorem memberChars_length_pos (members : List (String × Json)) :
    0 < (memberChars members).length := by
  cases members <;> exact Nat.succ_pos _

/-- No numeral goes on into what follows a member. -/
theorem ends_memberChars (members : List (String × Json)) (s : List Char) :
    Ends (memberChars members ++ s) := by
  cases members <;> exact ends_cons rfl

theorem reads_members_nil (fuel : Nat) (first : Bool) (s : List Char) :
    Reads (value.members (fuel + 1) first) ('\x7d' :: s) [] s :=
  (reads_hasMember_end first s).bind ((reads_drop '\x7d' s).bind (reads_pure [] s))

/-- A member is read, once the reader knows that it is there, and then those behind it. -/
theorem reads_members_cons {first : Bool} {t : List Char} {name : String} {item : Json}
    {members : List (String × Json)} {fuel : Nat}
    (hfirst : Reads (hasMember first) t true
      (quoted name ++ ':' :: (chars item ++ (memberChars members ++ s))))
    (hitem : Recovered item) (hfuel : (chars item).length ≤ fuel)
    (hmore : Reads (value.members (fuel + 1) false) (memberChars members ++ s) members s) :
    Reads (value.members (fuel + 2) first) t ((name, item) :: members) s := by
  rw [quoted_append] at hfirst
  refine hfirst.bind ((reads_drop '"' _).bind ((reads_textBody name _).bind ?_))
  refine (reads_colon _).bind ((hitem.reads hfuel (ends_memberChars members s)).bind ?_)
  exact hmore.bind (reads_pure _ s)

/-- The members after the first one are read up to the end of the record. -/
theorem reads_members {members : List (String × Json)} (h : ∀ member ∈ members, Recovered member.2)
    {fuel : Nat} (hfuel : (memberChars members).length ≤ fuel) (s : List Char) :
    Reads (value.members fuel false) (memberChars members ++ s) members s := by
  induction members generalizing fuel with
  | nil =>
      obtain ⟨fuel, rfl⟩ := Nat.exists_eq_add_of_le' hfuel
      exact reads_members_nil fuel false s
  | cons member members ih =>
      obtain ⟨name, item⟩ := member
      obtain ⟨hitem, hmembers⟩ := List.forall_mem_cons.1 h
      have hrest := memberChars_length_pos members
      simp only [memberChars, List.length_cons, List.length_append] at hfuel
      obtain ⟨fuel, rfl⟩ : ∃ n, fuel = n + 2 := ⟨fuel - 2, by omega⟩
      rw [memberChars, List.cons_append, List.append_assoc, List.cons_append, List.append_assoc]
      exact reads_members_cons (reads_hasMember_next name _) hitem (by omega)
        (ih hmembers (by omega))

/-- A record is read after its bracket. -/
theorem reads_record {t : List Char} {members : List (String × Json)} {fuel : Nat}
    (h : Reads (value.members fuel true) s members t) :
    Reads (value (fuel + 1)) ('\x7b' :: s) (.record members) t :=
  (reads_valueStart rfl s).bind ((reads_drop '\x7b' s).bind (h.bind (reads_pure _ t)))

theorem recovered_record {members : List (String × Json)}
    (h : ∀ member ∈ members, Recovered member.2) : Recovered (.record members) := by
  cases members with
  | nil =>
      refine ⟨⟨'\x7b', _, rfl, rfl, by decide⟩, fun {fuel s} hfuel _ => ?_⟩
      obtain ⟨fuel, rfl⟩ := Nat.exists_eq_add_of_le' hfuel
      exact reads_record (reads_members_nil (fuel + 1) true s)
  | cons member members =>
      obtain ⟨name, item⟩ := member
      obtain ⟨hitem, hmembers⟩ := List.forall_mem_cons.1 h
      refine ⟨⟨'\x7b', _, rfl, rfl, by decide⟩, fun {fuel s} hfuel _ => ?_⟩
      have hrest := memberChars_length_pos members
      simp only [chars, List.length_cons, List.length_append] at hfuel
      obtain ⟨fuel, rfl⟩ : ∃ n, fuel = n + 2 := ⟨fuel - 2, by omega⟩
      rw [chars, List.cons_append, List.append_assoc, List.cons_append, List.append_assoc]
      exact reads_record (reads_members_cons (reads_hasMember_first name _) hitem (by omega)
        (reads_members hmembers (by omega) s))

/-! ## Whole documents -/

theorem Exact.recovered {j : Json} (h : Exact j) : Recovered j := by
  induction h with
  | null => exact recovered_null
  | bool b => exact recovered_bool b
  | @integer n hlow hhigh =>
      cases n with
      | ofNat n =>
          have hn : (n : Int) < 2 ^ 64 := hhigh
          exact recovered_natural (by omega)
      | negSucc n => exact recovered_negative (by omega)
  | text s => exact recovered_text s
  | list _ ih => exact recovered_list ih
  | record _ ih => exact recovered_record ih

/-- Reading undoes writing. -/
theorem read_write {j : Json} (h : Exact j) : read j.write = .ok j := by
  refine run_of_reads ?_
  have hreads := h.recovered.reads (Nat.le_refl _) ends_nil
  rw [List.append_nil] at hreads
  rw [write, String.toList_ofList, String.length_ofList]
  exact hreads

end LogSpool.Json
