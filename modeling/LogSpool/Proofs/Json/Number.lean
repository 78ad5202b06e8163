import Mathlib.Algebra.Group.Nat.Defs
import LogSpool.Json.Document
import LogSpool.Proofs.Decimal.Numeral
import LogSpool.Proofs.Json.Reading

/-!
# Whole numbers are read back

This module shows that the digits of a whole number of 64 bits are read as this number, if no character
that could belong to a numeral follows.  Beyond 64 bits a number becomes a double and is not read back.

* `Ends` — a text that ends a numeral.
* `reads_digitsLoop` — the loop takes all digits of a number that fits into a word.
* `reads_number` — a numeral is taken up to its end.
* `reads_natural`, `reads_negative` — whole numbers, the sign of which has been taken.
-/

namespace LogSpool.Json

open Decimal

/-- A text that no numeral before it goes on into. -/
def Ends (s : List Char) : Prop :=
  ∀ x ∈ s.head?, isNumeralChar x = false

theorem ends_nil : Ends [] := by
  simp [Ends]

theorem ends_cons {x : Char} {s : List Char} (hx : isNumeralChar x = false) : Ends (x :: s) := by
  simpa [Ends] using hx

theorem Ends.not_isDigit {s : List Char} (hs : Ends s) : ∀ x ∈ s.head?, x.isDigit = false := by
  intro x hx
  refine Bool.eq_false_iff.2 fun hdigit => ?_
  exact absurd ((isNumeralChar_of_isDigit hdigit).symm.trans (hs x hx)) (by decide)

namespace Reader

variable {s : List Char} {a : Numeral}

/-- The loop takes all digits of a number that fits into a word. -/
theorem reads_digitsLoop {digits : List Char} {n m : Nat} (h : foldDigits n digits = some m)
    (hm : m ≤ maxWord) (hs : Ends s) {fuel : Nat} (hfuel : digits.length ≤ fuel) (count : Nat) :
    Reads (digitsLoop fuel n count) (digits ++ s) (m, count + digits.length, false) s := by
  induction digits generalizing n fuel count with
  | nil =>
      obtain rfl := Option.some.inj h
      cases fuel with
      | zero => exact reads_pure _ s
      | succ fuel =>
          refine (reads_peek s).bind ?_
          cases s with
          | nil => exact reads_pure _ _
          | cons x s =>
              have hx : digit? x = none := by
                rw [digit?, hs.not_isDigit x rfl]
                rfl
              simp only [List.head?_cons, hx]
              exact reads_pure _ _
  | cons c digits ih =>
      obtain ⟨fuel, rfl⟩ := Nat.exists_eq_succ_of_ne_zero (Nat.ne_of_gt (Nat.zero_lt_of_lt hfuel))
      rw [foldDigits] at h
      cases hdigit : digit? c with
      | none => simp [hdigit] at h
      | some d =>
          rw [hdigit, Nat.mul_comm] at h
          have hfits : ¬ maxWord < n * 10 + d := Nat.not_lt.2 (Nat.le_trans (le_of_foldDigits h) hm)
          refine (reads_peek _).bind ?_
          simp only [List.cons_append, List.head?_cons, hdigit, if_neg hfits]
          refine (reads_drop c _).bind ?_
          rw [List.length_cons, Nat.add_comm digits.length 1, ← Nat.add_assoc]
          exact ih h (Nat.le_of_succ_le_succ hfuel) (count + 1)

/-- A numeral of a number that fits into a word is taken up to its end. -/
theorem reads_number {negative : Bool} {n : Nat} (hn : n ≤ maxWord) (hs : Ends s)
    (hend : Reads (wholeEnd negative n) s a s) :
    Reads (number negative) (Nat.toDigits 10 n ++ s) a s := by
  rcases toDigits_cases n with ⟨hdigits, rfl⟩ | ⟨c, d, digits, hdigits, hdigit, hd, hmore⟩
  · rw [hdigits]
    have hzero : digit? '0' = some 0 := rfl
    refine (reads_taken hzero s).bind ?_
    rw [if_pos rfl]
    refine (reads_peek s).bind ?_
    cases s with
    | nil => exact hend
    | cons x s =>
        simp only [List.head?_cons, hs.not_isDigit x rfl]
        exact hend
  · rw [hdigits]
    refine (reads_taken hdigit _).bind ?_
    rw [if_neg hd]
    refine (reads_remaining _).bind ?_
    have hfuel : digits.length ≤ (digits ++ s).length := by simp
    exact (reads_digitsLoop hmore hn hs hfuel 1).bind hend

/-! ## Whole numbers -/

/-- At its end a whole number is not taken for a fraction or an exponent. -/
theorem reads_wholeEnd {negative : Bool} {n : Nat} (hs : Ends s)
    (hwhole : Reads (if negative = false then pure (.whole n)
      else if 0 < n ∧ n ≤ pow2 63 then pure (.whole (-(n : Int)))
      else pure (.float (-Float.ofNat n))) s a s) :
    Reads (wholeEnd negative n) s a s := by
  refine (reads_peek s).bind ?_
  split
  · next hpoint => exact absurd (hs _ hpoint) (by decide)
  · next hletter => exact absurd (hs _ hletter) (by decide)
  · next hletter => exact absurd (hs _ hletter) (by decide)
  · exact hwhole

theorem reads_natural {n : Nat} (hn : n < 2 ^ 64) (hs : Ends s) :
    Reads (number false) (Nat.toDigits 10 n ++ s) (.whole n) s :=
  reads_number (Nat.le_sub_one_of_lt hn) hs (reads_wholeEnd hs (reads_pure _ s))

theorem reads_negative {n : Nat} (hpos : 0 < n) (hn : n ≤ 2 ^ 63) (hs : Ends s) :
    Reads (number true) (Nat.toDigits 10 n ++ s) (.whole (-(n : Int))) s := by
  have hword : n ≤ maxWord := by
    have hmax : (2 : Nat) ^ 63 ≤ maxWord := by decide
    exact Nat.le_trans hn hmax
  refine reads_number hword hs (reads_wholeEnd hs ?_)
  rw [if_neg (by decide), if_pos ⟨hpos, hn⟩]
  exact reads_pure _ s

end Reader

end LogSpool.Json
