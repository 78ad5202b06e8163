import LogSpool.Toml.Scalar

/-!
# Tables of TOML

This module builds the tables of a TOML document.  A table is defined in one place: by its header,
or by dotted names, or as the parent of another table until its own header comes.  A name that is
given twice, and a table that is defined twice, are refused.

Tables in a list are reached through the last one.  A list is kept only to see that its tables have
values, since settings have no lists.

A date or a time may also be written as a table with a mark as its first name.
-/

namespace LogSpool.Toml

open LogSpool.Settings (Value)

/-- How a table came about. -/
inductive Making where
  /-- It is the parent of a table that has a header. -/
  | implied
  /-- It was made by a dotted name. -/
  | dotted
  /-- It has a header of its own. -/
  | headed
  /-- It stands on one line, and nothing can be added to it. -/
  | closed
  deriving Repr, DecidableEq

/-- What stands under a name. -/
inductive Node where
  | value (v : Value)
  /-- A date or a time, by its text. -/
  | moment (text : String)
  | table (making : Making) (members : List (String × Node))
  /-- A list of tables: the earlier ones, the latest first, and the last one. -/
  | tables (earlier : List (List (String × Node))) (last : List (String × Node))

/-- The members of a table, in the order of their definition. -/
abbrev Members := List (String × Node)

/-- Puts a node into the place of a name. -/
def Members.put (name : String) (node : Node) : Members → Members
  | [] => [(name, node)]
  | (other, old) :: rest =>
    if other = name then (name, node) :: rest else (other, old) :: Members.put name node rest

/-- A change inside a table, which is refused or leaves new members. -/
abbrev Change := Making → Members → Option Members

/-- Applies a change to the table under a name.  A missing table is made; one that exists has to
satisfy `allowed`. -/
def within (making : Making) (allowed : Making → Bool) (name : String) (change : Change) :
    Change := fun _ members =>
  match members.lookup name with
  | none => (change making []).map fun inside => members.put name (.table making inside)
  | some (.table old inside) =>
    if allowed old then (change old inside).map fun inside => members.put name (.table old inside)
    else none
  | some (.tables earlier last) =>
    (change .headed last).map fun inside => members.put name (.tables earlier inside)
  | some (.value _) | some (.moment _) => none

/-- Applies a change to the table at the end of some names. -/
def along (making : Making) (allowed : Making → Bool) : List String → Change → Change
  | [], change => change
  | name :: names, change => within making allowed name (along making allowed names change)

/-- Follows the names of a header. -/
def alongHeader : List String → Change → Change :=
  along .implied fun making => making ≠ .closed

/-- Follows the names in front of the last one of a dotted name.  A table with a header of its own
cannot be extended in this way. -/
def alongDotted : List String → Change → Change :=
  along .dotted fun making => making = .implied || making = .dotted

/-- Opens a table by its header.  A table that was implied before takes its place among the members
now. -/
def openTable (name : String) : Change := fun _ members =>
  match members.lookup name with
  | none => some (members.put name (.table .headed []))
  | some (.table .implied inside) =>
    some (members.filter (fun (other, _) => other ≠ name) ++ [(name, .table .headed inside)])
  | _ => none

/-- Opens the next table of a list by its header. -/
def openNext (name : String) : Change := fun _ members =>
  match members.lookup name with
  | none => some (members.put name (.tables [] []))
  | some (.tables earlier last) => some (members.put name (.tables (last :: earlier) []))
  | _ => none

/-- Defines a name.  `direct` tells whether the name stood without dots: a table is extended by
dotted names if and only if it was made by them. -/
def define (direct : Bool) (name : String) (node : Node) : Change := fun making members =>
  if (making = .dotted) = direct then none
  else
    match members.lookup name with
    | none => some (members.put name node)
    | some _ => none

/-- Defines a name that may be dotted. -/
def defineAt (names : List String) (name : String) (node : Node) : Change :=
  alongDotted names (define names.isEmpty name node)

/-! ### Values of tables -/

/-- The first name of a table that stands for a date or a time. -/
def momentMark : String := "$__toml_private_datetime"

/-- The date or the time that a text under the mark says. -/
def Node.marked? : Node → Option String
  | .value (.scalar (.text s) _) => (moment? .lenient s.toList).map String.ofList
  | _ => none

/-- The value of a table with given members, where `rest` holds the values of all of them.  Of a
table with the mark only the first member counts. -/
def tableValue? (members : Members) (rest : Option Settings.Tree) : Option Value :=
  match members with
  | [] => some (.table [])
  | (name, node) :: _ =>
    if name = momentMark then node.marked?.map fun text => .scalar (.text text) .document
    else rest.map .table

mutual

/-- The value of a node, if it has one. -/
def Node.toValue? : Node → Option Value
  | .value v => some v
  | .moment text => some (.scalar (.text text) .document)
  | .table _ members => tableValue? members (toTree? members)
  | .tables earlier last => do
    let _ ← tableValue? last (toTree? last)
    if haveValues earlier then pure .list else none

/-- The values of the members of a table, if all have one. -/
def toTree? : List (String × Node) → Option (List (String × Value))
  | [] => some []
  | (name, node) :: rest => do
    let v ← node.toValue?
    let more ← toTree? rest
    pure ((name, v) :: more)

/-- Whether all tables of a list have a value. -/
def haveValues : List (List (String × Node)) → Bool
  | [] => true
  | members :: rest => (tableValue? members (toTree? members)).isSome && haveValues rest

end

end LogSpool.Toml
