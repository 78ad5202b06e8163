import LogSpool.Proofs.Json.Quoted

/-!
# Documents are single lines

This module shows that no document has a raw character below U+0020, whatever its texts hold; in
particular no text of a document ends its line.

* `SingleLine` — the texts without such a character.
* `singleLine_write` — the text of a document is one of them.
-/

namespace LogSpool

/-- A text without a character below U+0020. -/
def SingleLine (s : List Char) : Prop :=
  ∀ x ∈ s, 0x20 ≤ x.toNat

instance (s : List Char) : Decidable (SingleLine s) :=
  List.decidableBAll (fun x : Char => 0x20 ≤ x.toNat) s

namespace SingleLine

variable {s t : List Char} {x : Char}

theorem cons (hx : 0x20 ≤ x.toNat) (hs : SingleLine s) : SingleLine (x :: s) :=
  List.forall_mem_cons.2 ⟨hx, hs⟩

theorem append (hs : SingleLine s) (ht : SingleLine t) : SingleLine (s ++ t) :=
  List.forall_mem_append.2 ⟨hs, ht⟩

theorem of_subset (ht : SingleLine t) (h : s ⊆ t) : SingleLine s :=
  fun x hx => ht x (h hx)

end SingleLine

/-! ## Numbers -/

namespace Decimal

theorem singleLine_digitsOf (n : Nat) : SingleLine (digitsOf n) := by
  intro x hx
  have hdigit := Nat.isDigit_of_mem_toDigits (by decide) (by decide) hx
  simp only [Char.isDigit, Bool.and_eq_true, decide_eq_true_eq, UInt32.le_iff_toNat_le] at hdigit
  have hzero : 48 ≤ x.toNat := hdigit.1
  omega

variable {digits : List Char}

theorem singleLine_positional (hdigits : SingleLine digits) (exponent : Int) (keepsFraction : Bool) :
    SingleLine (positional digits exponent keepsFraction) := by
  have hzeros (n : Nat) : SingleLine (List.replicate n '0') := by
    intro x hx
    rw [List.eq_of_mem_replicate hx]
    decide
  unfold positional
  dsimp only
  split_ifs with _ hfraction
  · exact (hdigits.append (hzeros _)).append (by decide)
  · exact (hdigits.append (hzeros _)).append (by decide)
  · exact (hdigits.of_subset (List.take_subset _ _)).append
      (.cons (by decide) (hdigits.of_subset (List.drop_subset _ _)))
  · exact .cons (by decide) (.cons (by decide) ((hzeros _).append hdigits))

theorem singleLine_scientific (hdigits : SingleLine digits) (leading : Int) (signsExponent : Bool) :
    SingleLine (scientific digits leading signsExponent) := by
  unfold scientific
  dsimp only
  refine .append ?_ (.cons (by decide) (.append ?_ (singleLine_digitsOf _)))
  · split
    · next first second rest =>
        obtain ⟨hfirst, hrest⟩ := List.forall_mem_cons.1 hdigits
        exact .cons hfirst (.cons (by decide) hrest)
    · exact hdigits
  · split_ifs
    · decide
    · decide
    · decide

theorem Layout.singleLine_magnitude (l : Layout) (bits : Nat) : SingleLine (l.magnitude bits) := by
  unfold magnitude
  split_ifs
  · decide
  · decide
  · dsimp only
    split_ifs
    · exact singleLine_positional (singleLine_digitsOf _) _ _
    · exact singleLine_scientific (singleLine_digitsOf _) _ _

/-- A layout writes single lines if its words for what is no number are such. -/
theorem Layout.singleLine_write {l : Layout} (hnan : SingleLine l.notANumber.toList)
    (hinfinity : SingleLine l.infinity.toList) (x : Float) : SingleLine (l.write x) := by
  have hsign (bits : Nat) : SingleLine (if pow2 63 ≤ bits then ['-'] else []) := by
    split_ifs
    · decide
    · decide
  unfold write
  dsimp only
  split
  · exact hnan
  · split
    · exact (hsign _).append hinfinity
    · exact (hsign _).append (l.singleLine_magnitude _)

end Decimal

/-! ## Values -/

namespace Json

theorem singleLine_quoted (s : String) : SingleLine (quoted s) := by
  refine .cons (by decide) (.append ?_ (by decide))
  intro y hy
  obtain ⟨x, -, hx⟩ := List.mem_flatMap.1 hy
  exact (escape_spelling x).printable y hx

theorem singleLine_integerChars (n : Int) : SingleLine (integerChars n) := by
  cases n with
  | ofNat n => exact Decimal.singleLine_digitsOf n
  | negSucc n => exact .cons (by decide) (Decimal.singleLine_digitsOf _)

theorem singleLine_document (x : Float) : SingleLine (Decimal.Layout.document.write x) := by
  exact Decimal.Layout.singleLine_write (by decide) (by decide) x

mutual

theorem singleLine_chars : ∀ j : Json, SingleLine (chars j)
  | .null => by rw [chars]; decide
  | .bool true => by rw [chars]; decide
  | .bool false => by rw [chars]; decide
  | .integer n => by rw [chars]; exact singleLine_integerChars n
  | .float x => by rw [chars]; exact singleLine_document x
  | .text s => by rw [chars]; exact singleLine_quoted s
  | .list [] => by rw [chars]; decide
  | .list (item :: items) => by
      rw [chars]
      exact .cons (by decide) ((singleLine_chars item).append (singleLine_itemChars items))
  | .record [] => by rw [chars]; decide
  | .record ((name, item) :: members) => by
      rw [chars]
      exact .cons (by decide) ((singleLine_quoted name).append (.cons (by decide)
        ((singleLine_chars item).append (singleLine_memberChars members))))

theorem singleLine_itemChars : ∀ items : List Json, SingleLine (itemChars items)
  | [] => by rw [itemChars]; decide
  | item :: items => by
      rw [itemChars]
      exact .cons (by decide) ((singleLine_chars item).append (singleLine_itemChars items))

theorem singleLine_memberChars : ∀ members : List (String × Json), SingleLine (memberChars members)
  | [] => by rw [memberChars]; decide
  | (name, item) :: members => by
      rw [memberChars]
      exact .cons (by decide) ((singleLine_quoted name).append (.cons (by decide)
        ((singleLine_chars item).append (singleLine_memberChars members))))

end

/-- Every document is a single line. -/
theorem singleLine_write (j : Json) : SingleLine j.write.toList := by
  rw [write, String.toList_ofList]
  exact singleLine_chars j

end Json

end LogSpool
