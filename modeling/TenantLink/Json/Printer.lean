import TenantLink.Json.Value

/-!
# Printing JSON

`Json.text` writes a value without white space. In a string only quotes, backslashes and control
characters are escaped.
-/

namespace TenantLink.Json

def hexChar (n : Nat) : Char := Nat.digitChar n

def escaped (c : Char) : List Char :=
  if c = '"' then ['\\', '"']
  else if c = '\\' then ['\\', '\\']
  else if c = '\x08' then ['\\', 'b']
  else if c = '\x0c' then ['\\', 'f']
  else if c = '\n' then ['\\', 'n']
  else if c = '\r' then ['\\', 'r']
  else if c = '\t' then ['\\', 't']
  else if c.toNat < 0x20 then
    ['\\', 'u', '0', '0', hexChar (c.toNat / 16), hexChar (c.toNat % 16)]
  else [c]

def stringChars (s : String) : List Char := '"' :: s.toList.flatMap escaped ++ ['"']

mutual

def chars : Json → List Char
  | .null => ['n', 'u', 'l', 'l']
  | .bool true => ['t', 'r', 'u', 'e']
  | .bool false => ['f', 'a', 'l', 's', 'e']
  | .number n => n.text
  | .string s => stringChars s
  | .array [] => ['[', ']']
  | .array (v :: rest) => '[' :: v.chars ++ restItems rest
  | .object [] => ['{', '}']
  | .object (m :: rest) => '{' :: memberChars m ++ restMembers rest

/-- The items behind the first one, and the end of the array. -/
def restItems : List Json → List Char
  | [] => [']']
  | v :: rest => ',' :: v.chars ++ restItems rest

/-- The members behind the first one, and the end of the object. -/
def restMembers : List (String × Json) → List Char
  | [] => ['}']
  | m :: rest => ',' :: memberChars m ++ restMembers rest

def memberChars : String × Json → List Char
  | (k, v) => stringChars k ++ ':' :: v.chars

end

def text (value : Json) : String := String.ofList value.chars

def bytes (value : Json) : Bytes := Utf8.encodeChars value.chars

end TenantLink.Json
