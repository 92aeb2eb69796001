import TenantLink.Text.Ranges

/-!
# White space

The characters with the Unicode property White_Space, and trimming by them.
-/

namespace TenantLink.Text

/-- The code points with the property White_Space. -/
def blankRanges : Ranges :=
  [(0x09, 0x0D), (0x20, 0x20), (0x85, 0x85), (0xA0, 0xA0), (0x1680, 0x1680), (0x2000, 0x200A),
    (0x2028, 0x2029), (0x202F, 0x202F), (0x205F, 0x205F), (0x3000, 0x3000)]

def isBlank (c : Char) : Bool := inRanges blankRanges c

def trimStart (chars : List Char) : List Char := chars.dropWhile isBlank

/-- `chars` without the characters in `p` at its end. -/
def dropEndWhile (p : Char → Bool) (chars : List Char) : List Char :=
  (chars.reverse.dropWhile p).reverse

/-- `chars` without the characters in `p` at either end. -/
def dropAround (p : Char → Bool) (chars : List Char) : List Char :=
  dropEndWhile p (chars.dropWhile p)

def trim (chars : List Char) : List Char := dropAround isBlank chars

def trimmed (text : String) : String := String.ofList (trim text.toList)

end TenantLink.Text
