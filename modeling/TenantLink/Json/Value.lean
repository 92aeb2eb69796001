import TenantLink.Json.Document
import TenantLink.Json.Number

/-!
# JSON values

`Json.read?` reads a text as a value. It accepts the texts of the grammar that are nested at most
127 deep, whose numbers are within the range of floating-point numbers and whose strings are
Unicode text; of two members with one key the later counts, and members are kept in the order of
their keys.
-/

namespace TenantLink

inductive Json
  | null
  | bool (b : Bool)
  | number (n : Json.Number)
  | string (s : String)
  | array (items : List Json)
  | object (members : List (String × Json))
  deriving Repr

namespace Json

/-- The text of escaped code units: a high surrogate needs a low one right behind it, and neither
stands alone. The pieces `seen` come first, last of them first. -/
def joinUnits (seen : List Piece) : List Piece → Option (List Piece)
  | [] => some seen.reverse
  | .unit u :: .unit v :: rest =>
    if 0xD800 ≤ u ∧ u < 0xDC00 then
      if 0xDC00 ≤ v ∧ v < 0xE000 then
        joinUnits
          (.char (Char.ofNat (0x10000 + (u - 0xD800) * 0x400 + (v - 0xDC00))) :: seen) rest
      else none
    else if 0xDC00 ≤ u ∧ u < 0xE000 then none
    else joinUnits (.char (Char.ofNat u) :: seen) (.unit v :: rest)
  | .unit u :: rest =>
    if 0xD800 ≤ u ∧ u < 0xE000 then none else joinUnits (.char (Char.ofNat u) :: seen) rest
  | p :: rest => joinUnits (p :: seen) rest

def Piece.bytes : Piece → Bytes
  | .byte b => [b]
  | .char c => String.utf8EncodeChar c
  | .unit u => String.utf8EncodeChar (Char.ofNat u)

/-- The text that the pieces of a string spell; `none` when it is not Unicode text. -/
def text? (pieces : List Piece) : Option String :=
  (joinUnits [] pieces).bind fun ps => Utf8.decode? (ps.flatMap Piece.bytes)

/-- `members`, which are in the order of their keys, with one more: a later value for a key takes
the place of an earlier one. -/
def insertMember (key : String) (value : Json) : List (String × Json) → List (String × Json)
  | [] => [(key, value)]
  | (k, v) :: rest =>
    if key < k then (key, value) :: (k, v) :: rest
    else if key = k then (key, value) :: rest
    else (k, v) :: insertMember key value rest

/-- The object with the given members, of which later ones count. -/
def ofMembers (members : List (String × Json)) : Json :=
  .object (members.foldl (fun sorted m => insertMember m.1 m.2 sorted) [])

mutual

/-- The value of a document, if its numbers are in range and its strings are text. -/
def Document.value? : Document → Option Json
  | .null => some .null
  | .bool b => some (.bool b)
  | .number n => n.number?.map .number
  | .string s => (text? s).map .string
  | .array items => (itemValues [] items).map .array
  | .object members => (memberValues [] members).map ofMembers

/-- The values of `items` behind the values `done`, last first. -/
def itemValues (done : List Json) : List Document → Option (List Json)
  | [] => some done.reverse
  | d :: rest =>
    match d.value? with
    | some v => itemValues (v :: done) rest
    | none => none

/-- The values of `members` behind the members `done`, last first. -/
def memberValues (done : List (String × Json)) :
    List (List Piece × Document) → Option (List (String × Json))
  | [] => some done.reverse
  | m :: rest =>
    match memberValue m with
    | some v => memberValues (v :: done) rest
    | none => none

def memberValue : List Piece × Document → Option (String × Json)
  | (k, d) =>
    match text? k, d.value? with
    | some key, some value => some (key, value)
    | _, _ => none

end

/-- The nesting of a list of tokens inside `depth` open arrays and objects, at its deepest. -/
def nesting (depth deepest : Nat) : List Token → Nat
  | [] => deepest
  | .openArray :: rest | .openObject :: rest => nesting (depth + 1) (max deepest (depth + 1)) rest
  | .closeArray :: rest | .closeObject :: rest => nesting (depth - 1) deepest rest
  | _ :: rest => nesting depth deepest rest

def maxNesting : Nat := 127

/-- The value that a text spells, within the limits of the reader. -/
def read? (bytes : Bytes) : Option Json :=
  match tokens? bytes with
  | none => none
  | some tokens =>
    if nesting 0 0 tokens ≤ maxNesting then
      (Document.ofTokens? tokens).bind Document.value?
    else none

def member? (key : String) : Json → Option Json
  | .object members => members.lookup key
  | _ => none

def asString? : Json → Option String
  | .string s => some s
  | _ => none

end Json

end TenantLink
