import Std.Data.HashMap
import TenantLink.Text.Split

/-!
# Tables of texts

A table gives some code points a text. It is written in rows such as `C0:41 300,41 301`: a code
point, and behind the colon the texts of that one and of those that follow it, each as its code
points. All numbers are hexadecimal.
-/

namespace TenantLink.Text

abbrev Table := Std.HashMap Nat (List Char)

namespace Table

def number (digits : List Char) : Nat :=
  digits.foldl (fun n c => 16 * n + (if c.isDigit then c.toNat - 0x30 else c.toNat - 0x37)) 0

/-- The text that code points with spaces between them spell. -/
def text (points : List Char) : List Char :=
  (splitAt ' ' points).map fun digits => Char.ofNat (number digits)

/-- The code points of one row with their texts. -/
def row (chars : List Char) : List (Nat × List Char) :=
  match splitAt ':' chars with
  | [first, texts] =>
    ((splitAt ',' texts).zipIdx (number first)).map fun (points, n) => (n, text points)
  | _ => []

/-- The table that lines of rows, with semicolons between them, spell. -/
def ofRows (lines : List String) : Table :=
  Std.HashMap.ofList (lines.flatMap fun line => (splitAt ';' line.toList).flatMap row)

end Table

end TenantLink.Text
