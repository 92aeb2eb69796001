import TenantLink.Json.Token

/-!
# JSON documents

A document is the tree of a JSON text as it is written: numbers and strings keep their spelling,
members keep their order, and a key may occur twice. `Document.ofTokens?` reads one with a stack
of open arrays and objects, so the nesting of a text is not limited here.
-/

namespace TenantLink.Json

inductive Document
  | null
  | bool (b : Bool)
  | number (n : NumberText)
  | string (pieces : List Piece)
  | array (items : List Document)
  | object (members : List (List Piece × Document))
  deriving Repr

/-- An array or object that is still open: what it holds so far, last first, and for an object the
key whose value is being read. -/
inductive Frame
  | array (items : List Document)
  | object (members : List (List Piece × Document)) (key : List Piece)

/-- What may come next, inside the open frames. -/
inductive Reader
  /-- A value must come. -/
  | value (frames : List Frame)
  /-- An array was opened: a value or its end. -/
  | firstItem (frames : List Frame)
  /-- An object was opened: a key or its end. -/
  | firstKey (frames : List Frame)
  /-- A key must come, behind the members of the object so far. -/
  | key (members : List (List Piece × Document)) (frames : List Frame)
  /-- The colon behind a key must come. -/
  | colon (members : List (List Piece × Document)) (key : List Piece) (frames : List Frame)
  /-- A value has ended. -/
  | after (value : Document) (frames : List Frame)

namespace Reader

def openValue (frames : List Frame) : Token → Option Reader
  | .null => some (.after .null frames)
  | .bool b => some (.after (.bool b) frames)
  | .number n => some (.after (.number n) frames)
  | .string s => some (.after (.string s) frames)
  | .openArray => some (.firstItem frames)
  | .openObject => some (.firstKey frames)
  | _ => none

/-- Reads one token; `none` when it cannot come here. -/
def step : Reader → Token → Option Reader
  | .value frames, t => openValue frames t
  | .firstItem frames, .closeArray => some (.after (.array []) frames)
  | .firstItem frames, t => openValue (.array [] :: frames) t
  | .firstKey frames, .closeObject => some (.after (.object []) frames)
  | .firstKey frames, .string k => some (.colon [] k frames)
  | .key members frames, .string k => some (.colon members k frames)
  | .colon members k frames, .colon => some (.value (.object members k :: frames))
  | .after d (.array items :: frames), .comma => some (.value (.array (d :: items) :: frames))
  | .after d (.array items :: frames), .closeArray =>
    some (.after (.array (d :: items).reverse) frames)
  | .after d (.object members k :: frames), .comma => some (.key ((k, d) :: members) frames)
  | .after d (.object members k :: frames), .closeObject =>
    some (.after (.object ((k, d) :: members).reverse) frames)
  | _, _ => none

def run (reader : Reader) : List Token → Option Reader
  | [] => some reader
  | t :: rest =>
    match reader.step t with
    | some reader' => reader'.run rest
    | none => none

def result? : Reader → Option Document
  | .after d [] => some d
  | _ => none

end Reader

def Document.ofTokens? (tokens : List Token) : Option Document :=
  ((Reader.value []).run tokens).bind Reader.result?

def Document.read? (bytes : Bytes) : Option Document :=
  (tokens? bytes).bind Document.ofTokens?

end TenantLink.Json
