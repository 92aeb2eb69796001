import TenantLink.Text.Composed
import TenantLink.Text.Direction
import TenantLink.Text.Joining
import TenantLink.Url.Mapping
import TenantLink.Url.Punycode

/-!
# Labels of a host name

`Label.ofChars?` reads one label of a host name. A label beyond ASCII is sent in Punycode behind a
marker; a label that bears the marker is read back. `Label.directionsFit` is the rule for names in
which some letters are written to the left.
-/

namespace TenantLink.Url

/-! ### The form in which names are compared -/

namespace Domain

/-- The text that `c` stands for; `none` when no host name may hold `c`. -/
def standsFor? (c : Char) : Option (List Char) :=
  if c.toNat < 0x80 then some [c.toLower]
  else
    match mapping[c.toNat]? with
    | some cs => some cs
    | none =>
      if Text.inRanges ignored c then some []
      else if Text.inRanges refused c then none
      else some [c]

/-- The form in which a text is compared: what its characters stand for, composed. -/
def normalized? (chars : List Char) : Option (List Char) :=
  (chars.mapM standsFor?).map fun texts => Text.composed texts.flatten

/-- The ASCII characters that no host name may hold, besides controls and spaces. -/
def forbiddenMarks : List Char := ['%', '#', '/', ':', '<', '>', '?', '@', '[', '\\', ']', '^', '|']

def isAllowed (c : Char) : Bool :=
  0x80 ≤ c.toNat || (0x20 < c.toNat && c.toNat < 0x7F && !forbiddenMarks.contains c)

end Domain

/-- A label as it is read and as it is sent. -/
structure Label where
  text : List Char
  sent : List Char

namespace Label

def isAscii (chars : List Char) : Bool := chars.all (·.toNat < 0x80)

/-- What stands in front of Punycode. -/
def marker : List Char := ['x', 'n', '-', '-']

/-- The most characters of a label beyond ASCII. -/
def maxLength : Nat := 1000

/-- The most characters of a label in Punycode behind its marker. -/
def maxEncodedLength : Nat := 2000

/-! ### Joiners -/

/-- Whether the nearest letter of `chars`, across marks, joins. -/
def reaches (joins : Char → Bool) : List Char → Bool
  | [] => false
  | c :: rest => joins c || (Text.isTransparent c && reaches joins rest)

/-- Whether the joiners of a label stand where they change its look: behind the sign that silences
a vowel, or, when they keep letters apart, between letters that would join. `before` is what has
been passed, last first. -/
def joinersFit (before : List Char) : List Char → Bool
  | [] => true
  | c :: rest =>
    let afterVirama := before.head?.any (Text.combiningClass · = Text.viramaClass)
    let fits :=
      if c.toNat = 0x200C then
        afterVirama || (reaches Text.joinsOn before && reaches Text.joinsBack rest)
      else if c.toNat = 0x200D then afterVirama
      else true
    if fits then joinersFit (c :: before) rest else false

/-- Whether a text is a label: it is not too long, starts with no mark, and its joiners fit. -/
def isLabel (chars : List Char) : Bool :=
  isAscii chars ||
    (chars.length ≤ maxLength && !chars.head?.any Text.isMark && joinersFit [] chars)

/-- Reads a label of a normalized name. A label in Punycode must stand for a label that normalizing
does not change. -/
def ofChars? (chars : List Char) : Option Label :=
  if marker.isPrefixOf chars then
    let encoded := chars.drop marker.length
    if isAscii chars ∧ chars.getLast? ≠ some '-' ∧ encoded.length ≤ maxEncodedLength then
      match Punycode.decode? encoded with
      | some text =>
        if Domain.normalized? text = some text ∧ text.all Domain.isAllowed ∧ isLabel text then
          some ⟨text, chars⟩
        else none
      | none => none
    else none
  else if isLabel chars then
    some ⟨chars, if isAscii chars then chars else marker ++ Punycode.encode chars⟩
  else none

/-! ### Directions -/

/-- Whether a label makes its name one of two directions. -/
def runsLeft (l : Label) : Bool :=
  l.text.any fun c =>
    let d := Text.Direction.of c
    d = .leftward || d = .arabicNumber

/-- Whether directions may follow the first letter of a label. Signs and marks may stand anywhere
but at the end, where marks do not count; a label to the left holds one kind of numbers only. -/
def directionsFollow (first : Text.Direction) (rest : List Text.Direction) : Bool :=
  let rest := (rest.reverse.dropWhile (· = .mark)).reverse
  let inside (letters : List Text.Direction) :=
    rest.all fun d => letters.contains d || d = .neutral || d = .mark
  let ends (letters : List Text.Direction) := rest.getLast?.all letters.contains
  match first with
  | .rightward =>
    let letters := [.rightward, .europeanNumber]
    inside letters && ends letters
  | .leftward =>
    let letters := [.leftward, .europeanNumber, .arabicNumber]
    inside letters && ends letters &&
      !(rest.contains .europeanNumber && rest.contains .arabicNumber)
  | _ => false

/-- Whether a label may stand in a name of two directions. -/
def directionsFit (l : Label) : Bool :=
  match l.text.map Text.Direction.of with
  | [] => true
  | first :: rest => directionsFollow first rest

end Label

end TenantLink.Url
