import LogSpool.Decimal.Layout

/-!
# JSON documents

This module holds the values of JSON and their text.  The members of a record keep their order,
since readers of this library's documents rely on it.  The text has no spaces and no raw character
below U+0020, so a document is always a single line.
-/

namespace LogSpool

/-- A JSON value.  Whole numbers are kept apart from doubles. -/
inductive Json where
  | null
  | bool (b : Bool)
  | integer (n : Int)
  | float (x : Float)
  | text (s : String)
  | list (items : List Json)
  | record (members : List (String × Json))
  deriving Inhabited

namespace Json

/-- A natural number as a value. -/
def natural (n : Nat) : Json :=
  .integer n

/-- A list of texts as a value. -/
def texts (items : List String) : Json :=
  .list (items.map .text)

/-- The four hexadecimal digits of a number below 2^16, in lower case. -/
def hex4 (n : Nat) : List Char :=
  [n / 4096 % 16, n / 256 % 16, n / 16 % 16, n % 16].map Nat.digitChar

/-- A character inside a quoted text. -/
def escape (c : Char) : List Char :=
  if c = '"' then ['\\', '"']
  else if c = '\\' then ['\\', '\\']
  else if c = '\x08' then ['\\', 'b']
  else if c = '\x0c' then ['\\', 'f']
  else if c = '\n' then ['\\', 'n']
  else if c = '\r' then ['\\', 'r']
  else if c = '\t' then ['\\', 't']
  else if c.toNat < 0x20 then '\\' :: 'u' :: hex4 c.toNat
  else [c]

/-- A quoted text. -/
def quoted (s : String) : List Char :=
  '"' :: (s.toList.flatMap escape ++ ['"'])

/-- The digits of an integer, with its sign. -/
def integerChars : Int → List Char
  | .ofNat n => Decimal.digitsOf n
  | .negSucc n => '-' :: Decimal.digitsOf (n + 1)

mutual

/-- The text of a value. -/
def chars : Json → List Char
  | .null => ['n', 'u', 'l', 'l']
  | .bool true => ['t', 'r', 'u', 'e']
  | .bool false => ['f', 'a', 'l', 's', 'e']
  | .integer n => integerChars n
  | .float x => Decimal.Layout.document.write x
  | .text s => quoted s
  | .list [] => ['[', ']']
  | .list (item :: items) => '[' :: (chars item ++ itemChars items)
  | .record [] => ['\x7b', '\x7d']
  | .record ((name, value) :: members) =>
    '\x7b' :: (quoted name ++ ':' :: (chars value ++ memberChars members))

/-- The items after the first one, and the end of the list. -/
def itemChars : List Json → List Char
  | [] => [']']
  | item :: items => ',' :: (chars item ++ itemChars items)

/-- The members after the first one, and the end of the record. -/
def memberChars : List (String × Json) → List Char
  | [] => ['\x7d']
  | (name, value) :: members =>
    ',' :: (quoted name ++ ':' :: (chars value ++ memberChars members))

end

/-- The text of a value. -/
def write (j : Json) : String :=
  String.ofList (chars j)

end Json

end LogSpool
