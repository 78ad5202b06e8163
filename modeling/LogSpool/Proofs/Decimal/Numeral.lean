import LogSpool.Decimal.Nearest

/-!
# Numerals and their characters

This module relates a numeral to the value that it is read as: which numerals of integers are
printed as they were read, and which characters stand in a numeral at all.

* `toDigits_natural?_iff`, `toList_signed64?_iff` — the numerals of naturals and of integers that
  are printed as they were read.
* `natural?_toDigits`, `toDigits_cases` — a number that is printed is read back, and starts with no zero
  unless it is zero.
* `numeral_of_signed64?`, `numeral_of_scaled?` — the characters of a numeral.
* `float?_eq_none` — a text that is neither a numeral nor one of three names is no double.
-/

namespace LogSpool

namespace Decimal

/-! ## Integers -/

/-- A digit is the one that is printed for its value. -/
theorem digitChar_digit? {c : Char} {d : Nat} (h : digit? c = some d) :
    d < 10 ∧ Nat.digitChar d = c := by
  unfold digit? at h
  split at h
  · next hdigit =>
      obtain rfl := Option.some.inj h
      simp only [Char.isDigit, Bool.and_eq_true, decide_eq_true_eq, UInt32.le_iff_toNat_le] at hdigit
      have hlow : 48 ≤ c.toNat := hdigit.1
      have hhigh : c.toNat ≤ 57 := hdigit.2
      have hzero : '0'.toNat = 48 := rfl
      refine ⟨by omega, Char.toNat_inj.1 ?_⟩
      rw [Nat.toNat_digitChar_of_lt_ten (by omega)]
      omega
  · cases h

/-- Digits after a positive number are printed as they are. -/
theorem toDigits_foldDigits {acc n : Nat} {s : List Char} (hacc : 0 < acc)
    (h : foldDigits acc s = some n) : Nat.toDigits 10 n = Nat.toDigits 10 acc ++ s := by
  induction s generalizing acc with
  | nil =>
      obtain rfl := Option.some.inj h
      exact (List.append_nil _).symm
  | cons c s ih =>
      rw [foldDigits] at h
      cases hdigit : digit? c with
      | none => simp [hdigit] at h
      | some d =>
          obtain ⟨hlt, hchar⟩ := digitChar_digit? hdigit
          rw [hdigit] at h
          have happend := Nat.toDigits_append_toDigits (b := 10) (by decide) hacc hlt
          rw [Nat.toDigits_of_lt_base hlt, hchar] at happend
          rw [ih (by omega) h, ← happend, List.append_assoc]
          rfl

/-- Digits that do not start with a zero are printed as they are. -/
theorem toDigits_natural? {c : Char} {s : List Char} {n : Nat} (hc : c ≠ '0')
    (h : natural? (c :: s) = some n) : Nat.toDigits 10 n = c :: s := by
  change foldDigits 0 (c :: s) = some n at h
  rw [foldDigits] at h
  cases hdigit : digit? c with
  | none => simp [hdigit] at h
  | some d =>
      obtain ⟨hlt, hchar⟩ := digitChar_digit? hdigit
      have hpos : 0 < d := by
        refine Nat.pos_of_ne_zero fun hzero => hc ?_
        rw [← hchar, hzero]
        rfl
      simp only [hdigit, Nat.mul_zero, Nat.zero_add] at h
      rw [toDigits_foldDigits hpos h, Nat.toDigits_of_lt_base hlt, hchar]
      rfl

/-- A number is printed with no more digits than it was read from. -/
theorem length_toDigits_natural? {s : List Char} {n : Nat} (h : natural? s = some n) :
    (Nat.toDigits 10 n).length ≤ s.length := by
  induction s with
  | nil => cases h
  | cons c s ih =>
      by_cases hc : c = '0'
      · subst hc
        cases s with
        | nil =>
            obtain rfl := Option.some.inj h
            exact Nat.le_refl 1
        | cons c' s => exact Nat.le_succ_of_le (ih h)
      · exact Nat.le_of_eq (congrArg List.length (toDigits_natural? hc h))

/-- Digits are printed as they are exactly if they do not start with a zero, but for the zero on its
own. -/
theorem toDigits_natural?_iff {s : List Char} {n : Nat} (h : natural? s = some n) :
    Nat.toDigits 10 n = s ↔ s = ['0'] ∨ s.head? ≠ some '0' := by
  cases s with
  | nil => cases h
  | cons c s =>
      by_cases hc : c = '0'
      · subst hc
        cases s with
        | nil =>
            obtain rfl := Option.some.inj h
            exact iff_of_true rfl (Or.inl rfl)
        | cons c' s =>
            -- the same number is read without the first zero, so it has fewer digits
            have hfewer := length_toDigits_natural? (s := c' :: s) h
            refine iff_of_false (fun hprinted => ?_) (by simp)
            have hlength := congrArg List.length hprinted
            simp only [List.length_cons] at hfewer hlength
            omega
      · exact iff_of_true (toDigits_natural? hc h) (Or.inr (by simpa using hc))

/-- Digits append the number that they are printed for. -/
theorem foldDigits_of_isDigit {s : List Char} (hs : ∀ c ∈ s, c.isDigit = true) (acc : Nat) :
    foldDigits acc s = some (Nat.ofDigitChars 10 s acc) := by
  induction s generalizing acc with
  | nil => rfl
  | cons c s ih =>
      obtain ⟨hc, hs⟩ := List.forall_mem_cons.1 hs
      rw [foldDigits, digit?, if_pos hc, Nat.ofDigitChars_cons]
      exact ih hs _

/-- A printed number is read back. -/
theorem natural?_toDigits (n : Nat) : natural? (Nat.toDigits 10 n) = some n := by
  have hdigits : ∀ c ∈ Nat.toDigits 10 n, c.isDigit = true :=
    fun c hc => Nat.isDigit_of_mem_toDigits (by decide) (by decide) hc
  have hfold := foldDigits_of_isDigit hdigits 0
  rw [Nat.ofDigitChars_ten_toDigits] at hfold
  rw [natural?.eq_2 _ Nat.toDigits_ne_nil, hfold]

/-- Appending digits makes no number smaller. -/
theorem le_of_foldDigits {digits : List Char} {n m : Nat} (h : foldDigits n digits = some m) :
    n ≤ m := by
  induction digits generalizing n with
  | nil => exact Nat.le_of_eq (Option.some.inj h)
  | cons c digits ih =>
      rw [foldDigits] at h
      cases hdigit : digit? c with
      | none => simp [hdigit] at h
      | some d =>
          rw [hdigit] at h
          have hmore := ih h
          omega

/-- The digits of a number that is printed: a zero on its own, or a first digit that is not zero. -/
theorem toDigits_cases (n : Nat) :
    (Nat.toDigits 10 n = ['0'] ∧ n = 0) ∨ ∃ c d digits, Nat.toDigits 10 n = c :: digits ∧
      digit? c = some d ∧ d ≠ 0 ∧ foldDigits d digits = some n := by
  have hnatural := natural?_toDigits n
  rcases (toDigits_natural?_iff hnatural).1 rfl with hzero | hhead
  · rw [hzero] at hnatural
    exact Or.inl ⟨hzero, (Option.some.inj hnatural).symm⟩
  · right
    cases hdigits : Nat.toDigits 10 n with
    | nil => exact absurd hdigits Nat.toDigits_ne_nil
    | cons c digits =>
        rw [hdigits] at hnatural hhead
        change foldDigits 0 (c :: digits) = some n at hnatural
        rw [foldDigits] at hnatural
        cases hdigit : digit? c with
        | none => simp [hdigit] at hnatural
        | some d =>
            simp only [hdigit, Nat.mul_zero, Nat.zero_add] at hnatural
            refine ⟨c, d, digits, rfl, hdigit, ?_, hnatural⟩
            rintro rfl
            obtain ⟨-, rfl⟩ := digitChar_digit? hdigit
            exact hhead rfl

/-- A numeral of an integer as it is printed: zero on its own, or neither a plus sign, nor a zero in
front, nor a zero after the minus sign. -/
def Canonical (s : List Char) : Prop :=
  s = ['0'] ∨ s.head? ≠ some '+' ∧ s.head? ≠ some '0' ∧ s.take 2 ≠ ['-', '0']

theorem toList_toString_neg {n : Nat} (h : 0 < n) :
    (toString (-(n : Int))).toList = '-' :: Nat.toDigits 10 n := by
  cases n with
  | zero => cases h
  | succ n =>
      change ("-" ++ Nat.repr (n + 1)).toList = _
      rw [String.toList_append, Nat.toList_repr]
      rfl

/-- The three ways to write an integer. -/
theorem signed64?_eq_some {s : List Char} {n : Int} (h : signed64? s = some n) :
    ∃ m, (∃ rest, s = '-' :: rest ∧ natural? rest = some m ∧ n = -(m : Int)) ∨
      (∃ rest, s = '+' :: rest ∧ natural? rest = some m ∧ n = m) ∨
      (s.head? ≠ some '-' ∧ s.head? ≠ some '+' ∧ natural? s = some m ∧ n = m) := by
  unfold signed64? at h
  split at h <;>
    simp only [Option.bind_eq_bind, Option.pure_def, Option.map_eq_some_iff, Option.bind_eq_some_iff,
      Option.filter_eq_some_iff, Option.some.injEq] at h
  · obtain ⟨_, ⟨m, ⟨hm, -⟩, rfl⟩, rfl⟩ := h
    exact ⟨m, Or.inl ⟨_, rfl, hm, rfl⟩⟩
  · obtain ⟨m, ⟨hm, -⟩, rfl⟩ := h
    exact ⟨m, Or.inr (Or.inl ⟨_, rfl, hm, rfl⟩)⟩
  · next hminus hplus =>
      obtain ⟨m, ⟨hm, -⟩, rfl⟩ := h
      refine ⟨m, Or.inr (Or.inr ⟨?_, ?_, hm, rfl⟩)⟩ <;> cases s <;> simp_all

/-- An integer is printed as it was read exactly if its numeral is canonical. -/
theorem toList_signed64?_iff {s : List Char} {n : Int} (h : signed64? s = some n) :
    (toString n).toList = s ↔ Canonical s := by
  have hprinted (m : Nat) : (toString (m : Int)).toList = Nat.toDigits 10 m := Nat.toList_repr
  obtain ⟨m, ⟨rest, rfl, hm, rfl⟩ | ⟨rest, rfl, hm, rfl⟩ | ⟨hminus, hplus, hm, rfl⟩⟩ :=
    signed64?_eq_some h
  · have hcanonical : Canonical ('-' :: rest) ↔ rest.head? ≠ some '0' := by
      cases rest <;> simp [Canonical]
    rw [hcanonical]
    rcases Nat.eq_zero_or_pos m with rfl | hpos
    · -- a zero loses its sign
      refine iff_of_false (fun hsame => ?_) fun hhead => ?_
      · cases hsame
      · obtain rfl := (toDigits_natural?_iff hm).2 (Or.inr hhead)
        exact hhead rfl
    · rw [toList_toString_neg hpos, List.cons_inj_right, toDigits_natural?_iff hm]
      refine or_iff_right ?_
      rintro rfl
      obtain rfl := Option.some.inj hm
      exact Nat.lt_irrefl 0 hpos
  · -- the plus sign is lost
    have hfewer := length_toDigits_natural? hm
    rw [hprinted]
    refine iff_of_false (fun hsame => ?_) (by simp [Canonical])
    rw [hsame, List.length_cons] at hfewer
    omega
  · rw [hprinted, toDigits_natural?_iff hm]
    cases s with
    | nil => cases hm
    | cons c s => simp_all [Canonical]

/-! ## Characters of numerals -/

/-- Whether a character can stand in a numeral. -/
def isNumeralChar (c : Char) : Bool :=
  c.isDigit || c ∈ ['+', '-', '.', 'e', 'E']

theorem isNumeralChar_of_isDigit {c : Char} (h : c.isDigit = true) : isNumeralChar c = true := by
  simp [isNumeralChar, h]

theorem isDigit_of_digit? {c : Char} {d : Nat} (h : digit? c = some d) : c.isDigit = true := by
  unfold digit? at h
  split at h
  · assumption
  · cases h

theorem isDigit_of_foldDigits {acc n : Nat} {s : List Char} (h : foldDigits acc s = some n) :
    ∀ c ∈ s, c.isDigit = true := by
  induction s generalizing acc with
  | nil => simp
  | cons c s ih =>
      rw [foldDigits] at h
      cases hdigit : digit? c with
      | none => simp [hdigit] at h
      | some d =>
          rw [hdigit] at h
          exact List.forall_mem_cons.2 ⟨isDigit_of_digit? hdigit, ih h⟩

theorem numeral_of_natural? {s : List Char} {n : Nat} (h : natural? s = some n) :
    ∀ c ∈ s, isNumeralChar c = true := by
  cases s with
  | nil => cases h
  | cons c s => exact fun c hc => isNumeralChar_of_isDigit (isDigit_of_foldDigits h c hc)

theorem numeral_of_signed64? {s : List Char} {n : Int} (h : signed64? s = some n) :
    ∀ c ∈ s, isNumeralChar c = true := by
  obtain ⟨m, ⟨rest, rfl, hm, -⟩ | ⟨rest, rfl, hm, -⟩ | ⟨-, -, hm, -⟩⟩ := signed64?_eq_some h
  · exact List.forall_mem_cons.2 ⟨rfl, numeral_of_natural? hm⟩
  · exact List.forall_mem_cons.2 ⟨rfl, numeral_of_natural? hm⟩
  · exact numeral_of_natural? hm

theorem numeral_of_exponentPart? {s : List Char} {e : Int} (h : exponentPart? s = some e) :
    ∀ c ∈ s, isNumeralChar c = true := by
  unfold exponentPart? at h
  split at h
  · simp
  · next letter rest =>
      split at h
      · next hletter =>
          have hc : isNumeralChar letter = true := by
            rcases hletter with rfl | rfl <;> rfl
          refine List.forall_mem_cons.2 ⟨hc, ?_⟩
          split at h <;>
            simp only [Option.bind_eq_bind, Option.pure_def, Option.map_eq_some_iff,
              Option.bind_eq_some_iff, Option.some.injEq] at h
          · obtain ⟨_, ⟨m, hm, -⟩, -⟩ := h
            exact List.forall_mem_cons.2 ⟨rfl, numeral_of_natural? hm⟩
          · obtain ⟨m, hm, -⟩ := h
            exact List.forall_mem_cons.2 ⟨rfl, numeral_of_natural? hm⟩
          · obtain ⟨m, hm, -⟩ := h
            exact numeral_of_natural? hm
      · cases h

theorem numeral_of_spanDigits {s : List Char} (h : ∀ c ∈ (spanDigits s).2, isNumeralChar c = true) :
    ∀ c ∈ s, isNumeralChar c = true := by
  intro c hc
  rw [← List.takeWhile_append_dropWhile (p := Char.isDigit) (l := s), List.mem_append] at hc
  rcases hc with hc | hc
  · exact isNumeralChar_of_isDigit (List.all_eq_true.1 List.all_takeWhile c hc)
  · exact h c hc

theorem numeral_of_magnitude? {s : List Char} {v : Nat × Int} (h : magnitude? s = some v) :
    ∀ c ∈ s, isNumeralChar c = true := by
  unfold magnitude? at h
  refine numeral_of_spanDigits ?_
  generalize spanDigits s = parts at h ⊢
  obtain ⟨whole, rest⟩ := parts
  simp only [Option.bind_eq_bind, Option.bind_eq_some_iff] at h ⊢
  obtain ⟨-, -, e, he, -⟩ := h
  split at he
  · exact List.forall_mem_cons.2 ⟨rfl, numeral_of_spanDigits (numeral_of_exponentPart? he)⟩
  · exact numeral_of_exponentPart? he

theorem numeral_of_scaled? {s : List Char} {v : Scaled} (h : scaled? s = some v) :
    ∀ c ∈ s, isNumeralChar c = true := by
  unfold scaled? at h
  split at h <;> obtain ⟨m, hm, -⟩ := Option.map_eq_some_iff.1 h
  · exact List.forall_mem_cons.2 ⟨rfl, numeral_of_magnitude? hm⟩
  · exact List.forall_mem_cons.2 ⟨rfl, numeral_of_magnitude? hm⟩
  · exact numeral_of_magnitude? hm

/-! ## Names of doubles -/

/-- A text without its sign. -/
def withoutSign : List Char → List Char
  | '-' :: rest | '+' :: rest => rest
  | s => s

/-- Whether a text, in any case and with or without a sign, is a name of infinity or of the undefined
value. -/
def IsName (s : List Char) : Prop :=
  String.ofList (lowerAscii (withoutSign s)) ∈ ["inf", "infinity", "nan"]

/-- A text that is neither a numeral nor a name is no double. -/
theorem float?_eq_none {s : List Char} (hscaled : scaled? s = none) (hname : ¬ IsName s) :
    float? s = none := by
  unfold IsName withoutSign at hname
  unfold float?
  split at hname <;>
    simp only [List.mem_cons, List.not_mem_nil, or_false, not_or] at hname <;>
    simp [hscaled, hname]

end Decimal

end LogSpool
