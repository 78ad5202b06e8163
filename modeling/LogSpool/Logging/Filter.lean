import LogSpool.Decimal.Nearest
import LogSpool.Decimal.Numeral
import LogSpool.Power

/-!
# Log filters

This module reads the filters that say which events are logged.  A filter is a list of directives
separated by commas.  A directive is a level, a target, or a target with a level after an equals
sign; a target may name fields in brackets.  Any text without an equals sign is a directive: what
is no level is a target.

Which events a filter lets through is not described here.
-/

namespace LogSpool.Logging

/-- Verbosity, from nothing to everything. -/
inductive Verbosity where
  | off
  | error
  | warn
  | info
  | debug
  | trace
  deriving Repr, DecidableEq

/-- Verbosity by number. -/
def Verbosity.ofNat? : Nat → Option Verbosity
  | 0 => some .off
  | 1 => some .error
  | 2 => some .warn
  | 3 => some .info
  | 4 => some .debug
  | 5 => some .trace
  | _ => none

/-- Verbosity by name, in any case.  An empty name stands for errors alone. -/
def Verbosity.ofName? (s : List Char) : Option Verbosity :=
  match String.ofList (Decimal.lowerAscii s) with
  | "" | "error" => some .error
  | "warn" => some .warn
  | "info" => some .info
  | "debug" => some .debug
  | "trace" => some .trace
  | "off" => some .off
  | _ => none

/-- Verbosity by number or by name. -/
def Verbosity.ofText? (s : List Char) : Option Verbosity :=
  match (Decimal.unsigned? (pow2 64) s).bind Verbosity.ofNat? with
  | some v => some v
  | none => Verbosity.ofName? s

/-- What a part of a filter says. -/
structure Directive where
  target : Option String
  fields : List String
  verbosity : Verbosity
  deriving Repr, DecidableEq

/-- A text in the parts between the occurrences of a separator. -/
def splitOn (separator : Char) : List Char → List (List Char)
  | [] => [[]]
  | c :: rest =>
    if c = separator then [] :: splitOn separator rest
    else
      match splitOn separator rest with
      | [] => [[c]]
      | part :: parts => (c :: part) :: parts

/-- The text before the first opening of a field list, and the text after it if there is one. -/
def cutAtFields : List Char → List Char × Option (List Char)
  | [] => ([], none)
  | '[' :: '\x7b' :: rest => ([], some rest)
  | c :: rest =>
    let (before, after) := cutAtFields rest
    (c :: before, after)

/-- The text without the ends of field lists that close it. -/
def dropFieldEnds (s : List Char) : List Char :=
  (go s.reverse).reverse
where
  go : List Char → List Char
    | ']' :: '\x7d' :: rest => go rest
    | s => s

/-- A target and the fields named after it. -/
def targetOf? (s : List Char) : Option (String × List String) :=
  match cutAtFields s with
  | (target, none) => some (String.ofList target, [])
  | (target, some fields) =>
    if (cutAtFields fields).2.isSome then none
    else if ['\x7d', ']'].isSuffixOf fields then
      some (String.ofList target,
        ((splitOn ',' (dropFieldEnds fields)).filter (!·.isEmpty)).map String.ofList)
    else none

/-- Reads a directive. -/
def Directive.ofText? (s : List Char) : Option Directive :=
  match splitOn '=' s with
  | [bare] =>
    match Verbosity.ofText? bare with
    | some v => some ⟨none, [], v⟩
    | none => some ⟨some (String.ofList bare), [], .trace⟩
  | [target, verbosity] => do
    let (target, fields) ← targetOf? target
    let v ← Verbosity.ofText? verbosity
    pure ⟨some target, fields, v⟩
  | _ => none

/-- Reads a filter. -/
def filterOf? (s : String) : Option (List Directive) :=
  (splitOn ',' s.toList).mapM Directive.ofText?

end LogSpool.Logging
