import Mathlib.Tactic.IntervalCases
import Mathlib.Tactic.SplitIfs
import LogSpool.Json.Document
import LogSpool.Proofs.Json.Reading

/-!
# Quoted texts are read back

This module shows that no character of a text gets out of its quotes.  A character is written in one of
three ways, and each of them is read as this character, whatever follows; so the first quote that is
read as one is the closing quote, and the text between the quotes is the one that was written.

* `Spelling` — the ways to write a character; `escape_spelling` says that there are no others.
* `Spelling.reads` — one step of the loop that reads a text takes one spelling.
* `reads_textBody` — a quoted text.
-/

namespace LogSpool.Json

open Reader

/-- The ways to write a character between quotes: with a letter that stands for it, with its number, or
as it is. -/
inductive Spelling (x : Char) : List Char → Prop where
  | letter {y : Char} (hy : escape? y = some x) : Spelling x ['\\', y]
  | number (hx : x.toNat < 0x20) : Spelling x ('\\' :: 'u' :: hex4 x.toNat)
  | plain (hquote : x ≠ '"') (hbackslash : x ≠ '\\') (hx : 0x20 ≤ x.toNat) : Spelling x [x]

theorem escape_spelling (x : Char) : Spelling x (escape x) := by
  unfold escape
  split_ifs with hquote hbackslash _ _ _ _ _ hcontrol
  -- seven characters have letters of their own
  iterate 7
    · subst x
      exact .letter rfl
  · exact .number hcontrol
  · exact .plain hquote hbackslash (Nat.le_of_not_lt hcontrol)

/-- No letter that stands for a character is below U+0020. -/
theorem printable_of_escape? {x y : Char} (hy : escape? y = some x) : 0x20 ≤ y.toNat := by
  unfold escape? at hy
  split at hy
  iterate 8
    · decide
  · cases hy

/-! ## Numbers of characters -/

theorem hexDigit?_digitChar {n : Nat} (hn : n < 16) : hexDigit? (Nat.digitChar n) = some n := by
  interval_cases n <;> rfl

/-- Four hexadecimal digits stand for the number that they were written for. -/
theorem hexValue?_digitChar {n : Nat} (hn : n < 0x10000) :
    hexValue? (Nat.digitChar (n / 4096 % 16)) (Nat.digitChar (n / 256 % 16))
      (Nat.digitChar (n / 16 % 16)) (Nat.digitChar (n % 16)) = some n := by
  have hdigit (m : Nat) : hexDigit? (Nat.digitChar (m % 16)) = some (m % 16) :=
    hexDigit?_digitChar (Nat.mod_lt m (by decide))
  have hvalue : ((n / 4096 % 16 * 16 + n / 256 % 16) * 16 + n / 16 % 16) * 16 + n % 16 = n := by
    omega
  simp only [hexValue?, hdigit, Option.bind_eq_bind, Option.bind_some, Option.pure_def, hvalue]

theorem reads_hexEscape {n : Nat} (hn : n < 0x10000) (s : List Char) :
    Reads hexEscape (hex4 n ++ s) n s := by
  intro c hc
  refine ⟨_, ?_, hc.advance.advance.advance.advance⟩
  have hrest : c.rest = Nat.digitChar (n / 4096 % 16) :: Nat.digitChar (n / 256 % 16) ::
      Nat.digitChar (n / 16 % 16) :: Nat.digitChar (n % 16) :: s := hc.rest
  -- every digit has at least one byte
  have hbytes : ¬ (c.rest.take 4).foldl (fun n x => n + x.utf8Size) 0 < 4 := by
    have hsize := Char.utf8Size_pos
    have h₁ := hsize (Nat.digitChar (n / 4096 % 16))
    have h₂ := hsize (Nat.digitChar (n / 256 % 16))
    have h₃ := hsize (Nat.digitChar (n / 16 % 16))
    have h₄ := hsize (Nat.digitChar (n % 16))
    simp only [hrest, List.take_succ_cons, List.take_zero, List.foldl_cons, List.foldl_nil]
    omega
  simp only [hexEscape, if_neg hbytes]
  simp only [hrest, hexValue?_digitChar hn]

/-- A number below the surrogates is the number of a character. -/
theorem reads_unicodeEscape {x : Char} (hx : x.toNat < 0x20) (s : List Char) :
    Reads unicodeEscape (hex4 x.toNat ++ s) x s := by
  refine (reads_hexEscape (by omega) s).bind ?_
  rw [if_neg (by omega), if_pos (by omega), Char.ofNat_toNat]
  exact reads_pure x s

/-! ## Characters and texts -/

variable {x : Char} {spelling : List Char}

theorem Spelling.length_pos (h : Spelling x spelling) : 0 < spelling.length := by
  cases h <;> exact Nat.succ_pos _

/-- No spelling has a character below U+0020. -/
theorem Spelling.printable (h : Spelling x spelling) : ∀ y ∈ spelling, 0x20 ≤ y.toNat := by
  cases h with
  | letter hy =>
      simpa using printable_of_escape? hy
  | number hx =>
      have hdigit (n : Nat) : 0x20 ≤ (Nat.digitChar (n % 16)).toNat := by
        have hn : n % 16 < 16 := Nat.mod_lt n (by decide)
        interval_cases n % 16 <;> decide
      simpa [hex4] using ⟨hdigit _, hdigit _, hdigit _, hdigit _⟩
  | plain _ _ hx => simpa using hx

/-- A spelling is taken by one step of the loop that reads a text. -/
theorem Spelling.reads (h : Spelling x spelling) {fuel : Nat} {read text s t : List Char}
    (hmore : Reads (textLoop fuel (x :: read)) s text t) :
    Reads (textLoop (fuel + 1) read) (spelling ++ s) text t := by
  cases h with
  | @letter y hy =>
      refine (reads_next '\\' _).bind (Reads.bind ?_ hmore)
      refine (reads_peek (y :: s)).bind ?_
      split
      · next hu =>
          obtain rfl := Option.some.inj hu
          cases hy
      · exact reads_taken hy s
  | number hx =>
      refine (reads_next '\\' _).bind (Reads.bind ?_ hmore)
      exact (reads_peek _).bind ((reads_drop 'u' _).bind (reads_unicodeEscape hx s))
  | plain hquote hbackslash hx =>
      refine (reads_next x s).bind ?_
      split
      · next hnone => cases hnone
      · next hsome => exact absurd (Option.some.inj hsome) hquote
      · next hsome => exact absurd (Option.some.inj hsome) hbackslash
      · next hsome =>
          obtain rfl := Option.some.inj hsome
          rw [if_neg (Nat.not_lt.2 hx)]
          exact hmore

/-- The characters of a text are read up to the quote that closes it. -/
theorem reads_textLoop (text read s : List Char) {fuel : Nat} (hfuel : text.length < fuel) :
    Reads (textLoop fuel read) (text.flatMap escape ++ '"' :: s) (read.reverse ++ text) s := by
  induction text generalizing read fuel with
  | nil =>
      obtain ⟨fuel, rfl⟩ := Nat.exists_eq_succ_of_ne_zero (Nat.ne_of_gt hfuel)
      rw [List.append_nil]
      exact (reads_next '"' s).bind (reads_pure read.reverse s)
  | cons x text ih =>
      obtain ⟨fuel, rfl⟩ := Nat.exists_eq_succ_of_ne_zero (Nat.ne_of_gt (Nat.zero_lt_of_lt hfuel))
      have hmore := ih (x :: read) (Nat.lt_of_succ_lt_succ hfuel)
      rw [List.reverse_cons, List.append_assoc] at hmore
      rw [List.flatMap_cons, List.append_assoc]
      exact (escape_spelling x).reads hmore

/-- Every character takes a place between the quotes. -/
theorem length_le_flatMap_escape (text : List Char) : text.length ≤ (text.flatMap escape).length := by
  induction text with
  | nil => exact Nat.le_refl 0
  | cons x text ih =>
      have hx := (escape_spelling x).length_pos
      simp only [List.flatMap_cons, List.length_append, List.length_cons]
      omega

theorem quoted_append (text : String) (s : List Char) :
    quoted text ++ s = '"' :: (text.toList.flatMap escape ++ '"' :: s) := by
  rw [quoted, List.cons_append, List.append_assoc, List.singleton_append]

/-- A quoted text whose opening quote has been taken is read to its closing quote. -/
theorem reads_textBody (text : String) (s : List Char) :
    Reads textBody (text.toList.flatMap escape ++ '"' :: s) text s := by
  have hlength := length_le_flatMap_escape text.toList
  refine (reads_remaining _).bind ?_
  refine (reads_textLoop text.toList [] s ?_).bind ?_
  · simp only [List.length_append]
    omega
  · rw [List.reverse_nil, List.nil_append, String.ofList_toList]
    exact reads_pure text s

end LogSpool.Json
