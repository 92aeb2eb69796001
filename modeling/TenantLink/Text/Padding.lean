/-!
# Text in a field

`Field.fit` cuts a text to the field's limit and fills it up to the field's width, as a column of
a report needs it.
-/

namespace TenantLink.Text

inductive Alignment
  | left
  | right
  | center
  deriving DecidableEq, Repr

/-- The room a text is given: at least `width` characters, and at most `limit` of its own. -/
structure Field where
  width : Nat := 0
  limit : Option Nat := none
  alignment : Alignment := .left

/-- `text` cut and filled with spaces; of an odd filling around a centered text the larger half
comes after it. -/
def Field.fit (field : Field) (text : String) : String :=
  let chars := match field.limit with
    | none => text.toList
    | some n => text.toList.take n
  let missing := field.width - chars.length
  let before := match field.alignment with
    | .left => 0
    | .right => missing
    | .center => missing / 2
  String.ofList
    (List.replicate before ' ' ++ chars ++ List.replicate (missing - before) ' ')

end TenantLink.Text
