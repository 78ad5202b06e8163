import LogSpool.Proofs.Text.Utf8
import LogSpool.Text.Lines

/-!
# Dividing bytes into lines

This module shows how the bytes of an input are divided into lines, and that the lines of a text are
texts.  A byte of a character that takes several is neither a line feed nor a carriage return, so a line
never begins or ends inside of one.

* `linesFrom_append`, `linesFrom_feed` — bytes that do not end a line, and the one that does.
* `lines_append` — after a line feed another input begins.
* `lines_encode` — the lines of a text are texts.
-/

namespace LogSpool.Text

/-! ## Lines of bytes -/

/-- Bytes without a line feed belong to the current line. -/
theorem linesFrom_append {bytes : List UInt8} (h : 0x0A ∉ bytes) (line rest : List UInt8) :
    linesFrom line (bytes ++ rest) = linesFrom (bytes.reverse ++ line) rest := by
  induction bytes generalizing line with
  | nil => rfl
  | cons b bytes ih =>
      have hb : b ≠ 0x0A := (List.ne_of_not_mem_cons h).symm
      rw [List.cons_append, linesFrom, if_neg hb, ih (List.not_mem_of_not_mem_cons h),
        List.reverse_cons, List.append_assoc, List.singleton_append]

/-- A line feed ends the current line. -/
theorem linesFrom_feed (line rest : List UInt8) :
    linesFrom line (0x0A :: rest) = dropReturn line.reverse :: lines rest :=
  if_pos rfl

/-- After a line feed another input begins. -/
theorem lines_append {front : List UInt8} (h : front.getLast? = some 0x0A) (back : List UInt8) :
    lines (front ++ back) = lines front ++ lines back := by
  obtain ⟨bytes, rfl⟩ := List.getLast?_eq_some_iff.mp h
  suffices hfrom : ∀ line, linesFrom line (bytes ++ 0x0A :: back) =
      linesFrom line (bytes ++ [0x0A]) ++ lines back by
    rw [List.append_assoc]
    exact hfrom []
  induction bytes with
  | nil => exact fun line => rfl
  | cons b bytes ih =>
      intro line
      rw [List.cons_append, List.cons_append, linesFrom, linesFrom]
      split
      · rw [ih (by simp) [], List.cons_append]
      · exact ih (by simp) (b :: line)

/-! ## Lines of texts -/

/-- Bytes that are the encodings of characters. -/
def IsText (bytes : List UInt8) : Prop :=
  ∃ text : List Char, bytes = text.flatMap String.utf8EncodeChar

theorem isText_iff {bytes : List UInt8} : IsText bytes ↔ ∃ s, bytes = Utf8.encode s := by
  rw [← Utf8.exists_decode_iff]
  exact exists_congr fun text => Utf8.decode_eq_ok_iff.symm

/-- A byte below 0x80 is all of a character. -/
theorem encode_of_mem {b : UInt8} {char : Char} (h : b ∈ String.utf8EncodeChar char)
    (hb : b.toNat < 0x80) : String.utf8EncodeChar char = [b] := by
  have hseq := Utf8.sequence_encode char
  generalize String.utf8EncodeChar char = bytes at h hseq ⊢
  cases hseq with
  | one _ => rw [List.mem_singleton.mp h]
  | two ha hc =>
      unfold Utf8.Continues at hc
      grind
  | three ha hc _ _ hd =>
      unfold Utf8.Continues at hc hd
      grind
  | four ha hc _ _ hd he =>
      unfold Utf8.Continues at hc hd he
      grind

/-- A text without a carriage return at its end is one. -/
theorem IsText.dropReturn {line : List UInt8} (h : IsText line) : IsText (dropReturn line) := by
  unfold Text.dropReturn
  split
  · rename_i hreturn
    obtain ⟨text, rfl⟩ := h
    rcases List.eq_nil_or_concat text with rfl | ⟨front, last, rfl⟩
    · cases hreturn
    · rw [List.concat_eq_append, List.flatMap_append, List.flatMap_singleton] at hreturn ⊢
      rw [List.getLast?_append_of_ne_nil _ String.utf8EncodeChar_ne_nil] at hreturn
      rw [encode_of_mem (List.mem_of_getLast? hreturn) (by decide), List.dropLast_concat]
      exact ⟨front, rfl⟩
  · exact h

/-- If the current line is a text so far, and a text follows, all lines are texts. -/
theorem linesFrom_isText {line : List UInt8} (hline : IsText line.reverse) (text : List Char) :
    ∀ found ∈ linesFrom line (text.flatMap String.utf8EncodeChar), IsText found := by
  induction text generalizing line with
  | nil =>
      intro found hfound
      rw [List.flatMap_nil, linesFrom] at hfound
      split at hfound
      · cases hfound
      · rwa [List.mem_singleton.mp hfound]
  | cons char text ih =>
      rw [List.flatMap_cons]
      by_cases hfeed : (0x0A : UInt8) ∈ String.utf8EncodeChar char
      · rw [encode_of_mem hfeed (by decide), List.singleton_append, linesFrom_feed, List.forall_mem_cons]
        exact ⟨hline.dropReturn, ih ⟨[], rfl⟩⟩
      · -- the current line goes on with all bytes of the character
        rw [linesFrom_append hfeed]
        refine ih ?_
        obtain ⟨front, hfront⟩ := hline
        refine ⟨front ++ [char], ?_⟩
        rw [List.reverse_append, List.reverse_reverse, hfront, List.flatMap_append, List.flatMap_singleton]

/-- The lines of a text are texts. -/
theorem lines_encode {s : String} {line : List UInt8} (h : line ∈ lines (Utf8.encode s)) :
    ∃ text, line = Utf8.encode text := by
  rw [Utf8.encode_eq] at h
  exact isText_iff.mp (linesFrom_isText ⟨[], rfl⟩ s.toList line h)

end LogSpool.Text
