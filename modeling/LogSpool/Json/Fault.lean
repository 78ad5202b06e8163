import LogSpool.Json.Document
import LogSpool.Text.Quoted

/-!
# Faults of JSON texts

This module holds what can be wrong with a JSON text: faults of grammar and faults of meaning (a
value of the wrong kind, a missing or repeated member).  Each has one wording, and every fault is
reported with the line and the column where reading stopped.
-/

namespace LogSpool.Json

/-- What was found where something else was expected. -/
inductive Found where
  | null
  | boolean (b : Bool)
  | integer (n : Int)
  | float (x : Float)
  | text (s : String)
  | list
  | record

/-- The name of a finding in a message. -/
def Found.message : Found → String
  | .null => "null"
  | .boolean b => "boolean `" ++ toString b ++ "`"
  | .integer n => "integer `" ++ toString n ++ "`"
  | .float x => "floating point `" ++ String.ofList (Decimal.Layout.document.write x) ++ "`"
  | .text s => "string " ++ Text.quote s
  | .list => "sequence"
  | .record => "map"

/-- The reasons for refusing a text. -/
inductive Complaint where
  | endInList
  | endInRecord
  | endInText
  | endInValue
  | colonExpected
  /-- The bytes are no text. -/
  | invalidCharacter
  | listCommaOrEnd
  | recordCommaOrEnd
  | wordExpected
  | valueExpected
  | badEscape
  | badNumber
  | numberOutOfRange
  | controlCharacter
  | nameExpected
  | loneSurrogate
  | trailingComma
  | trailingCharacters
  | surrogateCutShort
  | invalidType (found : Found) (expected : String)
  | invalidValue (found : Found) (expected : String)
  | invalidLength (length : Nat) (expected : String)
  | unknownVariant (name : String) (variants : List String)
  | missingField (name : String)
  | duplicateField (name : String)
  | other (message : String)

/-- Alternatives as a phrase: one alone, two with "or", more as a list. -/
def alternatives (names : List String) : String :=
  let quotedNames := names.map fun name => "`" ++ name ++ "`"
  match quotedNames with
  | [] => ""
  | [a] => a
  | [a, b] => a ++ " or " ++ b
  | many => "one of " ++ String.intercalate ", " many

/-- The wording of a complaint, without its position. -/
def Complaint.message : Complaint → String
  | .endInList => "EOF while parsing a list"
  | .endInRecord => "EOF while parsing an object"
  | .endInText => "EOF while parsing a string"
  | .endInValue => "EOF while parsing a value"
  | .colonExpected => "expected `:`"
  | .invalidCharacter => "invalid unicode code point"
  | .listCommaOrEnd => "expected `,` or `]`"
  | .recordCommaOrEnd => "expected `,` or `\x7d`"
  | .wordExpected => "expected ident"
  | .valueExpected => "expected value"
  | .badEscape => "invalid escape"
  | .badNumber => "invalid number"
  | .numberOutOfRange => "number out of range"
  | .controlCharacter => "control character (\\u0000-\\u001F) found while parsing a string"
  | .nameExpected => "key must be a string"
  | .loneSurrogate => "lone leading surrogate in hex escape"
  | .trailingComma => "trailing comma"
  | .trailingCharacters => "trailing characters"
  | .surrogateCutShort => "unexpected end of hex escape"
  | .invalidType found expected => "invalid type: " ++ found.message ++ ", expected " ++ expected
  | .invalidValue found expected => "invalid value: " ++ found.message ++ ", expected " ++ expected
  | .invalidLength n expected => "invalid length " ++ toString n ++ ", expected " ++ expected
  | .unknownVariant name variants =>
    "unknown variant `" ++ name ++ "`, expected " ++ alternatives variants
  | .missingField name => "missing field `" ++ name ++ "`"
  | .duplicateField name => "duplicate field `" ++ name ++ "`"
  | .other message => message

/-- Whether a complaint is about what the text means rather than about its grammar. -/
def Complaint.isAboutMeaning : Complaint → Bool
  | .invalidType _ _ | .invalidValue _ _ | .invalidLength _ _ | .unknownVariant _ _
  | .missingField _ | .duplicateField _ | .other _ => true
  | _ => false

/-- A place in a text: the line from one, and the number of bytes read on that line. -/
structure Position where
  line : Nat
  column : Nat
  deriving Repr, DecidableEq

/-- A complaint and the place it was made at, and the members it was made inside of, the outermost
first. -/
structure Fault where
  complaint : Complaint
  position : Position
  path : List String

/-- The text of a fault. -/
def Fault.message (f : Fault) : String :=
  f.complaint.message ++ " at line " ++ toString f.position.line ++ " column " ++
    toString f.position.column

end LogSpool.Json
