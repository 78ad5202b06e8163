import LogSpool.Fault.Status

/-!
# Layers and causes

This module holds the general shape of a failure: a stack of layers, the outermost first, and
below the innermost layer the chain of causes that led to it.  It says what a client is shown: the
text of the innermost layer and the text of its deepest cause, and nothing in between.

Which layers and causes a particular error has is decided where the error is defined.
-/

namespace LogSpool

/-- The causes below an error, the nearest first: one text, and the texts of the causes below. -/
structure Cause where
  text : String
  below : List String
  deriving Repr, DecidableEq

/-- The text of the deepest of a chain of causes. -/
def deepest : String → List String → String
  | text, [] => text
  | _, next :: below => deepest next below

/-- The deepest cause. -/
def Cause.root (c : Cause) : String :=
  deepest c.text c.below

/-- The causes as one list, the nearest first. -/
def Cause.chain (c : Cause) : List String :=
  c.text :: c.below

/-- A chain of causes from its texts; no text stands for a single cause without a text. -/
def Cause.ofTexts : List String → Cause
  | [] => ⟨"", []⟩
  | text :: below => ⟨text, below⟩

/-- One layer of a failure.  A transparent layer adds no text of its own. -/
structure Layer where
  text : String
  cause : Option Cause
  transparent : Bool
  deriving Repr, DecidableEq

/-- A failure: its class, its outermost layer, and the layers below. -/
structure Trouble where
  status : Status
  outer : Layer
  inner : List Layer
  deriving Repr, DecidableEq

namespace Trouble

/-- A failure of a single layer. -/
def single (status : Status) (text : String) (cause : Option Cause) : Trouble :=
  ⟨status, ⟨text, cause, false⟩, []⟩

/-- The innermost layer: below `layer`, the last of `more`. -/
def lastLayer (layer : Layer) : List Layer → Layer
  | [] => layer
  | next :: more => lastLayer next more

/-- The innermost layer of a failure. -/
def last (t : Trouble) : Layer :=
  lastLayer t.outer t.inner

/-- The message for a client.  A failure of unknown class is masked. -/
def outputMessage (t : Trouble) : String :=
  if t.status = .unknown then "Internal error"
  else
    match t.last.cause with
    | none => t.last.text
    | some cause =>
      if t.last.transparent then cause.root else t.last.text ++ ": " ++ cause.root

/-- The text of the deepest cause of the innermost layer. -/
def rootCause (t : Trouble) : Option String :=
  t.last.cause.map Cause.root

/-- The layer as a line of a diagnostic listing. -/
def line (t : Trouble) (number : Nat) : String :=
  toString number ++ ": " ++ t.outer.text

end Trouble

end LogSpool
