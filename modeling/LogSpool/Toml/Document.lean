import LogSpool.Toml.Scalar
import LogSpool.Toml.Table

/-!
# TOML documents

This module reads TOML documents as collections of settings.  A reader takes a piece of the text
and leaves the rest, or refuses; why a document is refused is not kept.

The values of a document keep no order, and nothing is kept of what is in a list.
-/

namespace LogSpool.Toml

open LogSpool.Settings (Value Tree)

/-- Takes a value off the front of a text. -/
abbrev Reader := StateT (List Char) Option

namespace Reader

/-- The next character, not taken. -/
def peek : Reader (Option Char) := fun s =>
  some (s.head?, s)

/-- Takes the next character. -/
def next : Reader Char
  | [] => none
  | c :: rest => some (c, rest)

/-- The number of characters left, which bounds every loop of a reader. -/
def remaining : Reader Nat := fun s =>
  some (s.length, s)

/-- Takes an expected character. -/
def expect (c : Char) : Reader Unit := do
  if (← next) = c then pure () else failure

/-- Takes an expected text if it comes next; answers whether it did. -/
def accept (expected : List Char) : Reader Bool := fun s =>
  if expected.isPrefixOf s then some (true, s.drop expected.length) else some (false, s)

/-- Takes characters as long as they satisfy `p`. -/
def takeWhile (p : Char → Bool) : Reader (List Char) := fun s =>
  some (s.takeWhile p, s.dropWhile p)

/-! ### Gaps -/

/-- Whether a character is a blank within a line. -/
def isBlank (c : Char) : Bool :=
  c = ' ' || c = '\t'

/-- Skips the blanks within a line. -/
def blanks : Reader Unit := do
  let _ ← takeWhile isBlank
  pure ()

/-- Takes the end of a line if it comes next; answers whether it did. -/
def newline : Reader Bool := do
  if ← accept ['\n'] then pure true else accept ['\r', '\n']

/-- Whether a character may stand in a comment. -/
def isCommentChar (c : Char) : Bool :=
  c = '\t' || (0x20 ≤ c.toNat && c.toNat ≤ 0x7E) || 0x80 ≤ c.toNat

/-- Skips a comment if there is one. -/
def comment : Reader Unit := do
  if ← accept ['#'] then
    let _ ← takeWhile isCommentChar

/-- Takes the rest of a line, in which only a comment may stand. -/
def lineEnd : Reader Unit := do
  blanks
  comment
  if ← newline then pure ()
  else if (← peek).isSome then failure

/-- Skips blanks, comments and ends of lines. -/
def gapLoop : Nat → Reader Unit
  | 0 => pure ()
  | fuel + 1 => do
    blanks
    comment
    if ← newline then gapLoop fuel

/-- Skips a gap over any number of lines. -/
def gap : Reader Unit := do
  gapLoop ((← remaining) + 1)

/-! ### Quoted texts -/

/-- Whether a character stands for itself in a quoted text. -/
def isPlain (c : Char) : Bool :=
  c = '\t' || (0x20 ≤ c.toNat && c.toNat ≠ 0x7F)

/-- A character by its number in hexadecimal digits. -/
def charOfDigits (count : Nat) : Reader Char := fun s => do
  let digits := s.take count
  if digits.length = count ∧ digits.all (isDigitOf 16) then
    let n := digits.foldl (fun n c => n * 16 + digitValue c) 0
    if n.isValidChar then some (Char.ofNat n, s.drop count) else none
  else none

/-- The character of an escape whose backslash has been taken. -/
def escaped : Reader Char := do
  match ← next with
  | 'b' => pure '\x08'
  | 't' => pure '\t'
  | 'n' => pure '\n'
  | 'f' => pure '\x0c'
  | 'r' => pure '\r'
  | '"' => pure '"'
  | '\\' => pure '\\'
  | 'u' => charOfDigits 4
  | 'U' => charOfDigits 8
  | _ => failure

/-- The characters of a text between double quotes on one line. -/
def basicLoop : Nat → List Char → Reader (List Char)
  | 0, _ => failure
  | fuel + 1, read => do
    match ← next with
    | '"' => pure read.reverse
    | '\\' => do
      let c ← escaped
      basicLoop fuel (c :: read)
    | c => if isPlain c then basicLoop fuel (c :: read) else failure

/-- A text between single quotes on one line. -/
def literal : Reader (List Char) := do
  let s ← takeWhile fun c => isPlain c && c != '\''
  expect '\''
  pure s

/-- A text without the blanks and the ends of lines at its head. -/
def afterLineEnds : List Char → List Char
  | ' ' :: rest | '\t' :: rest | '\n' :: rest | '\r' :: '\n' :: rest => afterLineEnds rest
  | s => s

/-- What a backslash stands for in a text over several lines: at the end of a line, for nothing,
and the blanks and ends of lines after it are skipped. -/
def continuation : Reader Bool := fun s =>
  match newline (s.dropWhile isBlank) with
  | some (true, rest) => some (true, afterLineEnds rest)
  | _ => some (false, s)

/-- How many quotes come next, up to five. -/
def quotesAhead (quote : Char) (s : List Char) : Nat :=
  ((s.take 5).takeWhile (· = quote)).length

/-- The characters of a text between three quotes.  Up to two quotes may stand before the closing
ones. -/
def multilineLoop (quote : Char) (escapes : Bool) : Nat → List Char → Reader (List Char)
  | 0, _ => failure
  | fuel + 1, read => fun s =>
    let quotes := quotesAhead quote s
    if 3 ≤ quotes then
      some ((List.replicate (quotes - 3) quote ++ read).reverse, s.drop quotes)
    else
      match s with
      | [] => none
      | '\n' :: rest => multilineLoop quote escapes fuel ('\n' :: read) rest
      | '\r' :: '\n' :: rest => multilineLoop quote escapes fuel ('\n' :: read) rest
      | '\\' :: rest =>
        if escapes then
          match continuation rest with
          | some (true, rest) => multilineLoop quote escapes fuel read rest
          | _ =>
            match escaped rest with
            | some (c, rest) => multilineLoop quote escapes fuel (c :: read) rest
            | none => none
        else multilineLoop quote escapes fuel ('\\' :: read) rest
      | c :: rest =>
        if isPlain c then multilineLoop quote escapes fuel (c :: read) rest else none

/-- A text between three quotes, which have been taken. -/
def multiline (quote : Char) (escapes : Bool) : Reader (List Char) := do
  let _ ← newline
  multilineLoop quote escapes ((← remaining) + 1) []

/-- A quoted text of any kind. -/
def quoted : Reader (List Char) := do
  if ← accept ['"', '"', '"'] then multiline '"' true
  else if ← accept ['\'', '\'', '\''] then multiline '\'' false
  else if ← accept ['"'] then basicLoop ((← remaining) + 1) []
  else do
    expect '\''
    literal

/-! ### Names -/

/-- Whether a character may stand in a name without quotes. -/
def isBareChar (c : Char) : Bool :=
  c.isAlphanum || c = '_' || c = '-'

/-- A single name. -/
def name : Reader String := do
  match ← peek with
  | some '"' => do
    let _ ← next
    return String.ofList (← basicLoop ((← remaining) + 1) [])
  | some '\'' => do
    let _ ← next
    return String.ofList (← literal)
  | _ => do
    let s ← takeWhile isBareChar
    if s.isEmpty then failure else pure (String.ofList s)

/-- The names after the first one of a dotted name. -/
def namesLoop : Nat → Reader (List String)
  | 0 => failure
  | fuel + 1 => do
    blanks
    if ← accept ['.'] then do
      blanks
      let n ← name
      return n :: (← namesLoop fuel)
    else pure []

/-- The bound on depth: dotted names have fewer parts, and lists and tables on one line nest less
deep. -/
def depthBound : Nat := 80

/-- A dotted name: the names in front, and the last one. -/
def dottedName : Reader (List String × String) := do
  blanks
  let first ← name
  let more ← namesLoop ((← remaining) + 1)
  let names := first :: more
  if names.length < depthBound then pure (names.dropLast, names.getLast?.getD first) else failure

/-! ### Values -/

/-- Whether a character may stand in a value without quotes or brackets. -/
def isScalarChar (c : Char) : Bool :=
  c.isAlphanum || c = '_' || c = '-' || c = '+' || c = '.' || c = ':'

/-- A value without quotes or brackets.  One blank may stand between a date and a time. -/
def bare : Reader Bare := fun s => do
  let word := s.takeWhile isScalarChar
  let rest := s.dropWhile isScalarChar
  match rest with
  | ' ' :: more =>
    let both := word ++ ' ' :: more.takeWhile isScalarChar
    match date? word, moment? .strict both with
    | some (_, []), some text =>
      pure (.moment (String.ofList text), more.dropWhile isScalarChar)
    | _, _ => return (← bare? word, rest)
  | _ => return (← bare? word, rest)

/-- The items of a list after its opening bracket.  Each must have a value. -/
def listLoop (item : Reader Node) : Nat → Reader Unit
  | 0 => failure
  | fuel + 1 => do
    gap
    if ← accept [']'] then pure ()
    else do
      if (← item).toValue?.isNone then failure
      gap
      if ← accept [','] then listLoop item fuel else expect ']'

/-- A name and its value. -/
def definition (item : Reader Node) : Reader (List String × String × Node) := do
  let (names, last) ← dottedName
  expect '='
  blanks
  let node ← item
  pure (names, last, node)

/-- The members of a table on one line, after the first one. -/
def tableLoop (item : Reader Node) : Nat → Members → Reader Members
  | 0, _ => failure
  | fuel + 1, members => do
    let (names, last, node) ← definition item
    match defineAt names last node .headed members with
    | none => failure
    | some members => do
      blanks
      if ← accept [','] then tableLoop item fuel members
      else do
        expect '\x7d'
        pure members

/-- A table on one line, after its opening bracket. -/
def inlineTable (item : Reader Node) : Reader Node := do
  blanks
  if ← accept ['\x7d'] then pure (.table .closed [])
  else do
    let members ← tableLoop item ((← remaining) + 1) []
    pure (.table .closed members)

/-- A value, with readers for what stands in brackets. -/
def valueWith (list table : Reader Node) : Reader Node := do
  match ← peek with
  | some '"' | some '\'' => return .value (.scalar (.text (String.ofList (← quoted))) .document)
  | some '[' => do
    let _ ← next
    list
  | some '\x7b' => do
    let _ ← next
    table
  | _ => do
    match ← bare with
    | .moment text => pure (.moment text)
    | .plain s => pure (.value (.scalar s .document))

/-- A list after its opening bracket. -/
def list (item : Reader Node) : Reader Node := do
  listLoop item ((← remaining) + 1)
  pure (.value .list)

/-- A value; lists and tables nest at most `depth` deep. -/
def value : Nat → Reader Node
  | 0 => valueWith failure failure
  | depth + 1 => valueWith (list (value depth)) (inlineTable (value depth))

end Reader

/-! ### Documents -/

/-- The state of reading a document: the header of the current table, and all tables. -/
structure Draft where
  header : List String
  root : Members

/-- Applies a change to a document. -/
def Draft.apply (d : Draft) (header : List String) (change : Change) : Reader Draft :=
  match change .headed d.root with
  | some root => pure ⟨header, root⟩
  | none => failure

/-- Reads one line of a document that is neither blank nor only a comment. -/
def Draft.line (d : Draft) : Reader Draft := do
  if ← Reader.accept ['[', '['] then do
    let (names, last) ← Reader.dottedName
    Reader.expect ']'
    Reader.expect ']'
    Reader.lineEnd
    d.apply (names ++ [last]) (alongHeader names (openNext last))
  else if ← Reader.accept ['['] then do
    let (names, last) ← Reader.dottedName
    Reader.expect ']'
    Reader.lineEnd
    d.apply (names ++ [last]) (alongHeader names (openTable last))
  else do
    let (names, last, node) ← Reader.definition (Reader.value (Reader.depthBound - 1))
    Reader.lineEnd
    d.apply d.header (alongHeader d.header (defineAt names last node))

/-- Reads the lines of a document. -/
def Draft.lines : Nat → Draft → Reader Draft
  | 0, _ => failure
  | fuel + 1, d => do
    Reader.gap
    match ← Reader.peek with
    | none => pure d
    | some _ => do
      let d ← d.line
      Draft.lines fuel d

/-- The settings of a document, if it is one.  A byte order mark in front does not count. -/
def read? (s : String) : Option (List (String × Value)) :=
  let cs := match s.toList with
    | '\ufeff' :: rest => rest
    | cs => cs
  match Draft.lines (cs.length + 1) ⟨[], []⟩ cs with
  | some (d, _) => do
    match ← (Node.table .headed d.root).toValue? with
    | .table tree => pure tree
    | _ => none
  | none => none

end LogSpool.Toml
