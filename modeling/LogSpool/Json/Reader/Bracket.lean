import LogSpool.Json.Reader.Basic

/-!
# Inside brackets

This module reads what stands between the items of a list and between the members of a record.
-/

namespace LogSpool.Json.Reader

/-- Whether another item of a list follows.  The closing bracket is not taken. -/
def hasItem (first : Bool) : Reader Bool := do
  match ← peekToken with
  | some ']' => pure false
  | some ',' =>
    if first then pure true
    else do
      drop
      match ← peekToken with
      | some ']' => failAhead .trailingComma
      | some _ => pure true
      | none => failAhead .endInValue
  | some _ => if first then pure true else failAhead .listCommaOrEnd
  | none => failAhead .endInList

/-- Whether another member of a record follows.  The closing bracket is not taken. -/
def hasMember (first : Bool) : Reader Bool := do
  match ← peekToken with
  | some '\x7d' => pure false
  | some c =>
    if first then if c = '"' then pure true else failAhead .nameExpected
    else if c = ',' then do
      drop
      match ← peekToken with
      | some '"' => pure true
      | some '\x7d' => failAhead .trailingComma
      | some _ => failAhead .nameExpected
      | none => failAhead .endInValue
    else failAhead .recordCommaOrEnd
  | none => failAhead .endInRecord

end LogSpool.Json.Reader
