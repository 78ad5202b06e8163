import LogSpool.Text.Case

/-!
# Values of settings

This module holds the values that settings can be given, and the tree they are collected in.  A
tree maps names in lower case to values; a table is a tree of its own.  A table that is stored over
another one is merged into it, and anything else replaces what was there.

No setting is a list, so what is in a list is not kept.
-/

namespace LogSpool.Settings

/-- Where a value was given. -/
inductive Origin where
  | document
  | environment
  deriving Repr, DecidableEq

/-- A value without parts. -/
inductive Scalar where
  | bool (b : Bool)
  | integer (n : Int)
  | float (x : Float)
  | text (s : String)

/-- A value of a setting. -/
inductive Value where
  | scalar (s : Scalar) (origin : Origin)
  | list
  | table (members : List (String × Value))

/-- A collection of settings by name. -/
abbrev Tree := List (String × Value)

namespace Value

/-- The tree of a table; any other value has none. -/
def members : Value → Tree
  | .table members => members
  | _ => []

end Value

namespace Tree

/-- Puts a value into the place of a name. -/
def replace (name : String) (value : Value) : Tree → Tree
  | [] => [(name, value)]
  | (other, old) :: rest =>
    if other = name then (name, value) :: rest else (other, old) :: replace name value rest

/-- What is stored under a name. -/
def find? (tree : Tree) (name : String) : Option Value :=
  tree.lookup name

/-- The tree below a name. -/
def below (tree : Tree) (name : String) : Tree :=
  ((tree.find? name).map Value.members).getD []

mutual

/-- Stores a value under a name; a table is merged into the table that is there. -/
def store (tree : Tree) (name : String) : Value → Tree
  | .table members =>
    tree.replace (Text.lower name) (.table (storeAll (tree.below (Text.lower name)) members))
  | value => tree.replace (Text.lower name) value

/-- Stores every member of a table. -/
def storeAll (tree : Tree) : List (String × Value) → Tree
  | [] => tree
  | (name, value) :: rest => storeAll (store tree name value) rest

end

end Tree

end LogSpool.Settings
