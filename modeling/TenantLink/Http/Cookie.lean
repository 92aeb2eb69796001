import TenantLink.Text.Blank
import TenantLink.Text.Split

/-!
# Cookie headers

A `Cookie` header lists pairs `name=value` between semicolons.
-/

namespace TenantLink.Cookie

/-- The name and the value of a pair. What is no pair has none. -/
def pair? (piece : List Char) : Option (List Char × List Char) := Text.cutAt? '=' (Text.trim piece)

/-- A value without white space and quotes around it. -/
def plain (value : List Char) : List Char := Text.dropAround (· = '"') (Text.trim value)

/-- The value of the first pair with the given name, unless it is empty. -/
def value? (header name : String) : Option String :=
  let pairs := (Text.splitAt ';' header.toList).filterMap pair?
  match pairs.find? (·.1 = name.toList) with
  | none => none
  | some (_, value) => if plain value = [] then none else some (String.ofList (plain value))

end TenantLink.Cookie
