import LogSpool.Text.Utf8
import Mathlib.Data.List.Basic

/-!
# Decoding undoes encoding

This module shows that the bytes which can be decoded are the encodings of texts, and that they are
decoded to the text that they encode.  So a text has one encoding, and no other bytes are a text.

* `Sequence` — the sequences of bytes that decoding lets pass for a character; by `Sequence.encode` and
  `sequence_encode` they are the encodings of the characters.
* `Sequence.decodeFrom` — such a sequence is decoded first, whatever follows.
* `decode_eq_ok_iff`, `exists_decode_iff` — what can be decoded, and to what.
-/

namespace LogSpool.Text.Utf8

/-! ## Bytes of a text -/

theorem toList_loop (bytes : ByteArray) (i : Nat) (front : List UInt8) :
    ByteArray.toList.loop bytes i front = front.reverse ++ bytes.data.toList.drop i := by
  fun_induction ByteArray.toList.loop bytes i front with
  | case1 i front h ih =>
      have hi : i < bytes.data.toList.length := by simpa using h
      rw [ih, List.drop_eq_getElem_cons hi, List.reverse_cons, List.append_assoc]
      have hget : bytes.get! i = bytes.data.toList[i] := by
        have hi' : i < bytes.data.size := hi
        rw [ByteArray.get!, getElem!_pos bytes.data i hi', Array.getElem_toList]
      rw [hget]
      rfl
  | case2 i front h =>
      have hi : bytes.data.toList.length ≤ i := by simpa using h
      rw [List.drop_eq_nil_of_le hi, List.append_nil]

/-- The bytes of a text are those of its characters, one after the other. -/
theorem encode_eq (s : String) : encode s = s.toList.flatMap String.utf8EncodeChar := by
  rw [encode, ByteArray.toList, toList_loop, List.drop_zero]
  conv_lhs => rw [← String.ofList_toList (s := s)]
  rw [String.toUTF8, String.toByteArray_ofList, List.utf8Encode]
  exact List.toList_data_toByteArray

/-! ## Sequences of bytes -/

/-- A byte is the one of its number. -/
theorem ofNat_eq {a : UInt8} {n : Nat} (h : n = a.toNat) : UInt8.ofNat n = a := by
  rw [h, UInt8.ofNat_toNat]

theorem val_ofNat {n : Nat} (h : n.isValidChar) : (Char.ofNat n).val.toNat = n := by
  unfold Char.ofNat
  rw [dif_pos h]
  rfl

/-- A continuation byte, by its number. -/
def Continues (b : UInt8) : Prop :=
  0x80 ≤ b.toNat ∧ b.toNat ≤ 0xBF

/-- The sequences of bytes that stand for a character.  The second byte of three leaves out the overlong
sequences and the surrogates; the second byte of four, the overlong sequences and the numbers past the last
character. -/
inductive Sequence : List UInt8 → Char → Prop
  | one {a : UInt8} : a.toNat < 0x80 → Sequence [a] (Char.ofNat a.toNat)
  | two {a b : UInt8} : 0xC2 ≤ a.toNat ∧ a.toNat < 0xE0 → Continues b → Sequence [a, b] (char2 a b)
  | three {a b c : UInt8} : 0xE0 ≤ a.toNat ∧ a.toNat < 0xF0 → Continues b →
    (a.toNat = 0xE0 → 0xA0 ≤ b.toNat) → (a.toNat = 0xED → b.toNat ≤ 0x9F) → Continues c →
    Sequence [a, b, c] (char3 a b c)
  | four {a b c d : UInt8} : 0xF0 ≤ a.toNat ∧ a.toNat < 0xF5 → Continues b →
    (a.toNat = 0xF0 → 0x90 ≤ b.toNat) → (a.toNat = 0xF4 → b.toNat ≤ 0x8F) → Continues c →
    Continues d → Sequence [a, b, c, d] (char4 a b c d)

/-- Such a sequence is the encoding of its character. -/
theorem Sequence.encode {bytes : List UInt8} {char : Char} (h : Sequence bytes char) :
    String.utf8EncodeChar char = bytes := by
  unfold String.utf8EncodeChar
  cases h with
  | @one a ha =>
      have hval : (Char.ofNat a.toNat).val.toNat = a.toNat := val_ofNat (Or.inl (by omega))
      simp only [hval]
      rw [if_pos (by omega), ofNat_eq (a := a) rfl]
  | @two a b ha hb =>
      unfold Continues at hb
      have hvalid : (a.toNat % 32 * 64 + b.toNat % 64).isValidChar := Or.inl (by omega)
      have hval := val_ofNat hvalid
      change (char2 a b).val.toNat = _ at hval
      simp only [hval]
      rw [if_neg (by omega), if_pos (by omega), ofNat_eq (a := a) (by omega),
        ofNat_eq (a := b) (by omega)]
  | @three a b c ha hb hlow hhigh hc =>
      unfold Continues at hb hc
      have hvalid : ((a.toNat % 16 * 64 + b.toNat % 64) * 64 + c.toNat % 64).isValidChar := by
        unfold Nat.isValidChar
        omega
      have hval := val_ofNat hvalid
      change (char3 a b c).val.toNat = _ at hval
      simp only [hval]
      rw [if_neg (by omega), if_neg (by omega), if_pos (by omega), ofNat_eq (a := a) (by omega),
        ofNat_eq (a := b) (by omega), ofNat_eq (a := c) (by omega)]
  | @four a b c d ha hb hlow hhigh hc hd =>
      unfold Continues at hb hc hd
      have hvalid : (((a.toNat % 8 * 64 + b.toNat % 64) * 64 + c.toNat % 64) * 64 +
          d.toNat % 64).isValidChar := by
        unfold Nat.isValidChar
        omega
      have hval := val_ofNat hvalid
      change (char4 a b c d).val.toNat = _ at hval
      simp only [hval]
      rw [if_neg (by omega), if_neg (by omega), if_neg (by omega), ofNat_eq (a := a) (by omega),
        ofNat_eq (a := b) (by omega), ofNat_eq (a := c) (by omega), ofNat_eq (a := d) (by omega)]

/-- Every character has such a sequence, which is its encoding. -/
theorem sequence_encode (char : Char) : Sequence (String.utf8EncodeChar char) char := by
  have hvalid : char.toNat < 0xD800 ∨ 0xDFFF < char.toNat ∧ char.toNat < 0x110000 := char.valid
  have hbyte {n : Nat} (h : n < 256) : (UInt8.ofNat n).toNat = n := by
    rw [UInt8.toNat_ofNat']
    omega
  suffices hsome : ∃ bytes, Sequence bytes char by
    obtain ⟨bytes, h⟩ := hsome
    rwa [h.encode]
  -- of the number of the character every byte holds six bits, and the first one the rest
  have hlast : (UInt8.ofNat (128 + char.toNat % 64)).toNat = 128 + char.toNat % 64 := hbyte (by omega)
  have hthird : (UInt8.ofNat (128 + char.toNat / 64 % 64)).toNat = 128 + char.toNat / 64 % 64 :=
    hbyte (by omega)
  have hsecond : (UInt8.ofNat (128 + char.toNat / 4096 % 64)).toNat = 128 + char.toNat / 4096 % 64 :=
    hbyte (by omega)
  rcases Nat.lt_or_ge char.toNat 0x80 with hone | hmore
  · have hfirst : (UInt8.ofNat char.toNat).toNat = char.toNat := hbyte (by omega)
    refine ⟨[UInt8.ofNat char.toNat], ?_⟩
    have hseq := Sequence.one (a := UInt8.ofNat char.toNat) (by omega)
    rwa [hfirst, Char.ofNat_toNat] at hseq
  rcases Nat.lt_or_ge char.toNat 0x800 with htwo | hmore
  · have hfirst : (UInt8.ofNat (192 + char.toNat / 64)).toNat = 192 + char.toNat / 64 := hbyte (by omega)
    have hchar : char2 (UInt8.ofNat (192 + char.toNat / 64)) (UInt8.ofNat (128 + char.toNat % 64)) =
        char := by
      have hnumber : (192 + char.toNat / 64) % 32 * 64 + (128 + char.toNat % 64) % 64 = char.toNat := by
        omega
      rw [char2, payload, hfirst, hlast, hnumber, Char.ofNat_toNat]
    have hseq := Sequence.two (a := UInt8.ofNat (192 + char.toNat / 64))
      (b := UInt8.ofNat (128 + char.toNat % 64)) (by omega) ⟨by omega, by omega⟩
    exact ⟨_, hchar ▸ hseq⟩
  rcases Nat.lt_or_ge char.toNat 0x10000 with hthree | hmore
  · have hfirst : (UInt8.ofNat (224 + char.toNat / 4096)).toNat = 224 + char.toNat / 4096 :=
      hbyte (by omega)
    have hchar : char3 (UInt8.ofNat (224 + char.toNat / 4096))
        (UInt8.ofNat (128 + char.toNat / 64 % 64)) (UInt8.ofNat (128 + char.toNat % 64)) = char := by
      have hnumber : ((224 + char.toNat / 4096) % 16 * 64 + (128 + char.toNat / 64 % 64) % 64) * 64 +
          (128 + char.toNat % 64) % 64 = char.toNat := by
        omega
      rw [char3, payload, payload, hfirst, hthird, hlast, hnumber, Char.ofNat_toNat]
    have hseq := Sequence.three (a := UInt8.ofNat (224 + char.toNat / 4096))
      (b := UInt8.ofNat (128 + char.toNat / 64 % 64)) (c := UInt8.ofNat (128 + char.toNat % 64))
      (by omega) ⟨by omega, by omega⟩ (by omega) (by omega) ⟨by omega, by omega⟩
    exact ⟨_, hchar ▸ hseq⟩
  · have hfirst : (UInt8.ofNat (240 + char.toNat / 262144)).toNat = 240 + char.toNat / 262144 :=
      hbyte (by omega)
    have hchar : char4 (UInt8.ofNat (240 + char.toNat / 262144))
        (UInt8.ofNat (128 + char.toNat / 4096 % 64)) (UInt8.ofNat (128 + char.toNat / 64 % 64))
        (UInt8.ofNat (128 + char.toNat % 64)) = char := by
      have hnumber : (((240 + char.toNat / 262144) % 8 * 64 + (128 + char.toNat / 4096 % 64) % 64) * 64 +
          (128 + char.toNat / 64 % 64) % 64) * 64 + (128 + char.toNat % 64) % 64 = char.toNat := by
        omega
      rw [char4, payload, payload, payload, hfirst, hsecond, hthird, hlast, hnumber, Char.ofNat_toNat]
    have hseq := Sequence.four (a := UInt8.ofNat (240 + char.toNat / 262144))
      (b := UInt8.ofNat (128 + char.toNat / 4096 % 64)) (c := UInt8.ofNat (128 + char.toNat / 64 % 64))
      (d := UInt8.ofNat (128 + char.toNat % 64)) (by omega) ⟨by omega, by omega⟩ (by omega) (by omega)
      ⟨by omega, by omega⟩ ⟨by omega, by omega⟩
    exact ⟨_, hchar ▸ hseq⟩

theorem isContinuation_iff {b : UInt8} : isContinuation b = true ↔ Continues b := by
  simp [isContinuation, UInt8.le_iff_toNat_le, Continues]

theorem secondOfThree_iff {a b : UInt8} : secondOfThree a b = true ↔ Continues b ∧
    (a.toNat = 0xE0 → 0xA0 ≤ b.toNat) ∧ (a.toNat = 0xED → b.toNat ≤ 0x9F) := by
  unfold secondOfThree
  split
  · simp_all [UInt8.le_iff_toNat_le, Continues]
    omega
  · split
    · simp_all [UInt8.le_iff_toNat_le, Continues]
      omega
    · rw [isContinuation_iff]
      simp_all [← UInt8.toNat_inj]

theorem secondOfFour_iff {a b : UInt8} : secondOfFour a b = true ↔ Continues b ∧
    (a.toNat = 0xF0 → 0x90 ≤ b.toNat) ∧ (a.toNat = 0xF4 → b.toNat ≤ 0x8F) := by
  unfold secondOfFour
  split
  · simp_all [UInt8.le_iff_toNat_le, Continues]
    omega
  · split
    · simp_all [UInt8.le_iff_toNat_le, Continues]
      omega
    · rw [isContinuation_iff]
      simp_all [← UInt8.toNat_inj]

/-! ## Decoding -/

theorem not_lt_of_le {a b : UInt8} {n : Nat} (ha : n ≤ a.toNat) (hb : b.toNat ≤ n) : ¬ a < b := by
  rw [UInt8.lt_iff_toNat_lt]
  omega

/-- A sequence is decoded to its character. -/
theorem Sequence.decodeFrom {bytes : List UInt8} {char : Char} (h : Sequence bytes char) (i : Nat)
    (rest : List UInt8) : decodeFrom i (bytes ++ rest) =
      (decodeFrom (i + bytes.length) rest).map (char :: ·) := by
  cases h with
  | @one a ha =>
      have hfirst : a < 0x80 := UInt8.lt_iff_toNat_lt.mpr ha
      rw [List.singleton_append, Utf8.decodeFrom.eq_def]
      simp only [if_pos hfirst]
      rfl
  | @two a b ha hb =>
      have hone : ¬ a < 0x80 := not_lt_of_le ha.1 (by decide)
      have hstray : ¬ a < 0xC2 := not_lt_of_le ha.1 (by decide)
      have htwo : a < 0xE0 := UInt8.lt_iff_toNat_lt.mpr ha.2
      rw [List.cons_append, List.singleton_append, Utf8.decodeFrom.eq_def]
      simp only [if_neg hone, if_neg hstray, if_pos htwo, if_pos (isContinuation_iff.mpr hb)]
      rfl
  | @three a b c ha hb hlow hhigh hc =>
      have hone : ¬ a < 0x80 := not_lt_of_le ha.1 (by decide)
      have hstray : ¬ a < 0xC2 := not_lt_of_le ha.1 (by decide)
      have htwo : ¬ a < 0xE0 := not_lt_of_le ha.1 (by decide)
      have hthree : a < 0xF0 := UInt8.lt_iff_toNat_lt.mpr ha.2
      rw [List.cons_append, List.cons_append, List.singleton_append, Utf8.decodeFrom.eq_def]
      simp [hone, hstray, htwo, hthree, secondOfThree_iff.mpr ⟨hb, hlow, hhigh⟩,
        isContinuation_iff.mpr hc]
  | @four a b c d ha hb hlow hhigh hc hd =>
      have hone : ¬ a < 0x80 := not_lt_of_le ha.1 (by decide)
      have hstray : ¬ a < 0xC2 := not_lt_of_le ha.1 (by decide)
      have htwo : ¬ a < 0xE0 := not_lt_of_le ha.1 (by decide)
      have hthree : ¬ a < 0xF0 := not_lt_of_le ha.1 (by decide)
      have hfour : a < 0xF5 := UInt8.lt_iff_toNat_lt.mpr ha.2
      rw [List.cons_append, List.cons_append, List.cons_append, List.singleton_append,
        Utf8.decodeFrom.eq_def]
      simp [hone, hstray, htwo, hthree, hfour, secondOfFour_iff.mpr ⟨hb, hlow, hhigh⟩,
        isContinuation_iff.mpr hc, isContinuation_iff.mpr hd]

/-- The sequence of a character and the encodings of others are the encodings of all. -/
theorem Sequence.append_flatMap {bytes rest : List UInt8} {char : Char} {f : Except Flaw (List Char)}
    {text : List Char} (hseq : Sequence bytes char) (h : f.map (char :: ·) = .ok text)
    (hrest : ∀ {text}, f = .ok text → rest = text.flatMap String.utf8EncodeChar) :
    bytes ++ rest = text.flatMap String.utf8EncodeChar := by
  cases f with
  | error flaw => cases h
  | ok tail =>
      obtain rfl := Except.ok.inj h
      rw [List.flatMap_cons, hseq.encode, ← hrest rfl]

/-- What is decoded are the encodings of the characters. -/
theorem eq_of_decodeFrom {i : Nat} {bytes : List UInt8} {text : List Char}
    (h : decodeFrom i bytes = .ok text) : bytes = text.flatMap String.utf8EncodeChar := by
  fun_induction Utf8.decodeFrom i bytes generalizing text with
  | case1 =>
      obtain rfl := Except.ok.inj h
      rfl
  | case2 i a rest hone ih =>
      exact (Sequence.one (UInt8.lt_iff_toNat_lt.mp hone)).append_flatMap h ih
  | case5 i a hone hstray htwo b rest hb ih =>
      rw [UInt8.lt_iff_toNat_lt] at hone hstray htwo
      exact (Sequence.two ⟨Nat.le_of_not_lt hstray, htwo⟩ (isContinuation_iff.mp hb)).append_flatMap h ih
  | case11 i a hone hstray htwo hthree b c rest hb hc ih =>
      rw [UInt8.lt_iff_toNat_lt] at htwo hthree
      obtain ⟨hb, hlow, hhigh⟩ := secondOfThree_iff.mp (by simpa using hb)
      have hc := isContinuation_iff.mp (by simpa using hc)
      exact (Sequence.three ⟨Nat.le_of_not_lt htwo, hthree⟩ hb hlow hhigh hc).append_flatMap h ih
  | case18 i a hone hstray htwo hthree hfour b c d rest hb hc hd ih =>
      rw [UInt8.lt_iff_toNat_lt] at hthree hfour
      obtain ⟨hb, hlow, hhigh⟩ := secondOfFour_iff.mp (by simpa using hb)
      have hc := isContinuation_iff.mp (by simpa using hc)
      have hd := isContinuation_iff.mp (by simpa using hd)
      exact (Sequence.four ⟨Nat.le_of_not_lt hthree, hfour⟩ hb hlow hhigh hc hd).append_flatMap h ih
  | _ => cases h

/-- The encodings of characters are decoded to them. -/
theorem decodeFrom_flatMap (i : Nat) (text : List Char) :
    decodeFrom i (text.flatMap String.utf8EncodeChar) = .ok text := by
  induction text generalizing i with
  | nil => rfl
  | cons char text ih =>
      rw [List.flatMap_cons, (sequence_encode char).decodeFrom, ih]
      rfl

/-- Bytes are decoded to a text exactly if they are the encodings of its characters. -/
theorem decode_eq_ok_iff {bytes : List UInt8} {text : List Char} :
    decode bytes = .ok text ↔ bytes = text.flatMap String.utf8EncodeChar :=
  ⟨eq_of_decodeFrom, fun h => h ▸ decodeFrom_flatMap 0 text⟩

/-- A text is decoded from its encoding. -/
theorem decode_encode (s : String) : decode (encode s) = .ok s.toList := by
  rw [decode_eq_ok_iff, encode_eq]

/-- Different texts have different encodings. -/
theorem encode_inj {s t : String} : encode s = encode t ↔ s = t := by
  refine ⟨fun h => ?_, congrArg encode⟩
  have hs := decode_encode s
  rw [h, decode_encode] at hs
  exact String.toList_inj.mp (Except.ok.inj hs).symm

/-- Only encodings of texts are decoded. -/
theorem exists_decode_iff {bytes : List UInt8} :
    (∃ text, decode bytes = .ok text) ↔ ∃ s, bytes = encode s := by
  constructor
  · rintro ⟨text, h⟩
    refine ⟨String.ofList text, ?_⟩
    rw [encode_eq, String.toList_ofList, ← decode_eq_ok_iff, h]
  · rintro ⟨s, rfl⟩
    exact ⟨_, decode_encode s⟩

end LogSpool.Text.Utf8
