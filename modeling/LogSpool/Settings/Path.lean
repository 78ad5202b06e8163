import LogSpool.Decimal.Numeral
import LogSpool.Power
import LogSpool.Settings.Value

/-!
# Paths of settings

This module reads the names under which settings are given.  A name may be a path: a first name,
then any number of names after a point and of indices in brackets.  The names of a path consist of
letters, digits, blanks, hyphens and underscores.  A name that is no path is taken as it is.

A path with an index leads into a list, and what is in a list is not kept.
-/

namespace LogSpool.Settings

/-- A step of a path after its first name. -/
inductive Step where
  | child (name : String)
  | index
  deriving Repr, DecidableEq

/-- A path: the first name and the steps after it. -/
structure Path where
  root : String
  steps : List Step
  deriving Repr, DecidableEq

namespace Path

/-- Whether a character may stand in a name of a path. -/
def isNameChar (c : Char) : Bool :=
  c.isAlphanum || c = ' ' || c = '_' || c = '-'

/-- Whether a character may stand around an index. -/
def isIndexGap (c : Char) : Bool :=
  c = ' ' || c = '\t'

/-- Whether the text between two brackets is an index. -/
def isIndex (s : List Char) : Bool :=
  let s := s.dropWhile isIndexGap
  let s := (s.reverse.dropWhile isIndexGap).reverse
  match s with
  | '-' :: digits => ((Decimal.natural? digits).filter (· ≤ pow2 63)).isSome
  | digits => ((Decimal.natural? digits).filter (· < pow2 63)).isSome

/-- The steps of a text, at most as many as `fuel`; every step takes at least one character. -/
def stepsOf? : Nat → List Char → Option (List Step)
  | _, [] => some []
  | 0, _ => none
  | fuel + 1, '.' :: s => do
    let name := s.takeWhile isNameChar
    if name.isEmpty then none
    let steps ← stepsOf? fuel (s.dropWhile isNameChar)
    pure (.child (String.ofList name) :: steps)
  | fuel + 1, '[' :: s =>
    match s.dropWhile (· ≠ ']') with
    | ']' :: rest => do
      if !isIndex (s.takeWhile (· ≠ ']')) then none
      let steps ← stepsOf? fuel rest
      pure (.index :: steps)
    | _ => none
  | _, _ => none

/-- Reads a path. -/
def ofText? (s : String) : Option Path := do
  let cs := s.toList
  let name := cs.takeWhile isNameChar
  if name.isEmpty then none
  let steps ← stepsOf? cs.length (cs.dropWhile isNameChar)
  pure ⟨String.ofList name, steps⟩

/-- The path of a name: a name that is no path stands for itself. -/
def ofName (s : String) : Path :=
  (ofText? s).getD ⟨s, []⟩

end Path

/-- Puts a value at the end of some steps.  What is in the way is replaced. -/
def Value.place (value : Value) : List Step → Value → Value
  | [], _ => value
  | [.child name], old => .table (old.members.store name value)
  | .child name :: more, old =>
    let name := Text.lower name
    .table (old.members.replace name
      (value.place more ((old.members.find? name).getD (.table []))))
  | .index :: _, _ => .list

/-- Puts a value at the end of a path. -/
def Tree.place (tree : Tree) (path : Path) (value : Value) : Tree :=
  match path.steps with
  | [] => tree.store path.root value
  | steps =>
    let name := Text.lower path.root
    tree.replace name (value.place steps ((tree.find? name).getD (.table [])))

/-- Puts a whole layer of settings over a tree. -/
def Tree.layer (tree : Tree) (settings : List (String × Value)) : Tree :=
  settings.foldl (fun tree (name, value) => tree.place (Path.ofName name) value) tree

/-- The tree of several layers, the lowest one first.  The names are read a second time when all
layers are in place: a name that is a path only in lower case is a path too. -/
def Tree.ofLayers (layers : List (List (String × Value))) : Tree :=
  Tree.layer [] (layers.foldl Tree.layer [])

end LogSpool.Settings
