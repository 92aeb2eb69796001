import TenantLink.Text.Utf8

/-!
# Percent-encoding

Each part of a URL has its own set of ASCII characters that are written as `%XX`; control
characters and everything beyond ASCII always are.
-/

namespace TenantLink.Url

def hexUpper (n : Nat) : Char := (Nat.digitChar n).toUpper

def percentByte (b : UInt8) : List Char := ['%', hexUpper (b.toNat / 16), hexUpper (b.toNat % 16)]

/-- The ASCII characters, besides controls, that a part of a URL cannot hold as they are. -/
abbrev EncodeSet := List Char

namespace EncodeSet

def fragment : EncodeSet := [' ', '"', '<', '>', '\x60']
def path : EncodeSet := fragment ++ ['#', '?', '\x7b', '\x7d']
def userinfo : EncodeSet := path ++ ['/', ':', ';', '=', '@', '[', '\\', ']', '^', '|']
def query : EncodeSet := [' ', '"', '#', '<', '>']
def specialQuery : EncodeSet := query ++ ['\x27']
def controls : EncodeSet := []

end EncodeSet

def isPlain (set : EncodeSet) (c : Char) : Bool :=
  0x20 ≤ c.toNat && c.toNat < 0x7F && !set.contains c

/-- `chars` with the characters that the part cannot hold percent-encoded. -/
def percentEncode (set : EncodeSet) (chars : List Char) : List Char :=
  chars.flatMap fun c =>
    if isPlain set c then [c] else (String.utf8EncodeChar c).flatMap percentByte

def hexValue? (c : Char) : Option Nat :=
  if '0' ≤ c ∧ c ≤ '9' then some (c.toNat - 0x30)
  else if 'a' ≤ c ∧ c ≤ 'f' then some (c.toNat - 0x57)
  else if 'A' ≤ c ∧ c ≤ 'F' then some (c.toNat - 0x37)
  else none

/-- The bytes of `chars`, with `%XX` read as one byte. -/
def percentDecode : List Char → Bytes
  | '%' :: a :: b :: rest =>
    match hexValue? a, hexValue? b with
    | some h, some l => (16 * h + l).toUInt8 :: percentDecode rest
    | _, _ => 0x25 :: percentDecode (a :: b :: rest)
  | c :: rest => String.utf8EncodeChar c ++ percentDecode rest
  | [] => []

end TenantLink.Url
