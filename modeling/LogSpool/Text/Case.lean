import LogSpool.Text.Cased

/-!
# Letter case

This module holds the lower case of a text.  A capital letter becomes its small letter, wherever it
stands, but for two: the capital I with a dot keeps its dot as a mark of its own, and the capital
sigma becomes the final sigma at the end of a word.
-/

namespace LogSpool.Text

/-- The lower case of a character that has one small letter. -/
def lowerChar (c : Char) : Char :=
  if c.toNat < 0x80 then c.toLower
  else
    match capitals.find? (·.holds c.toNat) with
    | some run => Char.ofNat (c.toNat + run.shift).toNat
    | none => c

/-- Whether a letter with a case is next, when what a word goes on over is left out. -/
def letterFollows (s : List Char) : Bool :=
  match s.dropWhile (isIn ignorableRanges) with
  | [] => false
  | c :: _ => isIn casedRanges c

/-- The lower case of a text, after the characters of `before`, the last one first. -/
def lowerFrom (before : List Char) : List Char → List Char
  | [] => []
  | c :: rest =>
    let here :=
      if c = 'Σ' then if letterFollows before && !letterFollows rest then ['ς'] else ['σ']
      else if c = 'İ' then ['i', '\u0307']
      else [lowerChar c]
    here ++ lowerFrom (c :: before) rest

/-- The lower case of a text. -/
def lower (s : String) : String :=
  String.ofList (lowerFrom [] s.toList)

end LogSpool.Text
