import TenantLink.Text.Utf8

/-!
# Tokens of the HTTP grammar

Methods and header names are tokens: letters, digits and fifteen marks.
-/

namespace TenantLink.Http

def tokenMarks : List Char :=
  ['!', '#', '$', '%', '&', '\x27', '*', '+', '-', '.', '^', '_', '\x60', '|', '~']

def isTokenChar (c : Char) : Bool := c.isAlphanum || tokenMarks.contains c

/-- The text of a non-empty token. -/
def token? (bytes : Bytes) : Option String :=
  let chars := bytes.map fun b => Char.ofNat b.toNat
  if chars ≠ [] ∧ chars.all isTokenChar then some (String.ofList chars) else none

end TenantLink.Http
