import TenantLink.Text.Word
import TenantLink.Text.Blank

/-!
# Patterns of text

A pattern is a regular expression over classes of characters that may also ask for the edge of a
word. `Pattern.Matches` says which texts belong to a pattern between two neighbours, and
`Pattern.occursIn` finds out whether some part of a text does: it goes through the text once and
keeps what is left to match of every part that has been begun.
-/

namespace TenantLink

inductive CharClass
  /-- A character in every case form. -/
  | letter (c : Char)
  | space
  | digit
  | wordOr (marks : List Char)
  | allBut (c : Char)
  deriving DecidableEq, Repr

namespace CharClass

/-- The characters that fold to the same character as the ASCII character `c`. Two letters have a
form outside ASCII: the long s and the Kelvin sign. -/
def caseForms (c : Char) : List Char :=
  match c.toLower with
  | 's' => ['s', 'S', Char.ofNat 0x17F]
  | 'k' => ['k', 'K', Char.ofNat 0x212A]
  | l => [l, l.toUpper]

def holds (k : CharClass) (c : Char) : Bool :=
  match k with
  | letter l => (caseForms l).contains c
  | space => Text.isBlank c
  | digit => Text.isDigit c
  | wordOr marks => Text.isWord c || marks.contains c
  | allBut d => c != d

end CharClass

inductive Pattern
  | empty
  | one (k : CharClass)
  | seq (p q : Pattern)
  | alt (p q : Pattern)
  | many (p : Pattern)
  /-- The empty text where a word begins or ends. -/
  | edge
  deriving DecidableEq, Repr

/-- Whether there is a word character at a place of a text; beyond its ends there is none. -/
def Text.wordAt (place : Option Char) : Bool := place.any Text.isWord

namespace Pattern

/-- Whether a word begins or ends between two neighbours. -/
def isEdge (before after : Option Char) : Bool := Text.wordAt before != Text.wordAt after

/-- The first character of `chars`, or `after` when there is none. -/
def nextOf (chars : List Char) (after : Option Char) : Option Char :=
  match chars with
  | [] => after
  | c :: _ => some c

/-- The last character of `chars`, or `before` when there is none. -/
def lastOf (before : Option Char) (chars : List Char) : Option Char :=
  match chars.getLast? with
  | none => before
  | some c => some c

/-- The texts of a pattern that may stand between the characters `before` and `after`. -/
inductive Matches : Pattern → Option Char → List Char → Option Char → Prop
  | empty {before after} : Matches empty before [] after
  | one {k c before after} : k.holds c = true → Matches (one k) before [c] after
  | seq {p q before after} {s t : List Char} :
    Matches p before s (nextOf t after) → Matches q (lastOf before s) t after →
    Matches (seq p q) before (s ++ t) after
  | left {p q before after s} : Matches p before s after → Matches (alt p q) before s after
  | right {p q before after s} : Matches q before s after → Matches (alt p q) before s after
  | done {p before after} : Matches (many p) before [] after
  | more {p before after} {s t : List Char} :
    Matches p before s (nextOf t after) → Matches (many p) (lastOf before s) t after →
    Matches (many p) before (s ++ t) after
  | edge {before after} : isEdge before after = true → Matches edge before [] after

/-- A part of `text` belongs to `p` at the place where it stands. -/
def OccursIn (p : Pattern) (text : List Char) : Prop :=
  ∃ s part t, text = s ++ part ++ t ∧ Matches p (lastOf none s) part (nextOf t none)

/-- Whether `p` has the empty text, at the edge of a word or elsewhere. -/
def nullable (atEdge : Bool) : Pattern → Bool
  | empty => true
  | one _ => false
  | seq p q => p.nullable atEdge && q.nullable atEdge
  | alt p q => p.nullable atEdge || q.nullable atEdge
  | many _ => true
  | edge => atEdge

def followedBy (p q : Pattern) : Pattern := if p = empty then q else seq p q

/-- What may be left to match of a pattern once the character `c` has been read. -/
def rests (atEdge : Bool) (c : Char) : Pattern → List Pattern
  | empty => []
  | one k => if k.holds c then [empty] else []
  | seq p q =>
    (p.rests atEdge c).map (·.followedBy q) ++ if p.nullable atEdge then q.rests atEdge c else []
  | alt p q => p.rests atEdge c ++ q.rests atEdge c
  | many p => (p.rests atEdge c).map (·.followedBy (many p))
  | edge => []

/-- Whether `p` begins here or later, or one of the patterns `begun` is completed. -/
def search (p : Pattern) (begun : List Pattern) (before : Option Char) : List Char → Bool
  | [] => (p :: begun).any (·.nullable (isEdge before none))
  | c :: rest =>
    let atEdge := isEdge before (some c)
    (p :: begun).any (·.nullable atEdge) ||
      search p ((p :: begun).flatMap (·.rests atEdge c)).eraseDups (some c) rest

/-- Whether a part of `text` belongs to `p`. -/
def occursIn (p : Pattern) (text : List Char) : Bool := search p [] none text

def word (chars : List Char) : Pattern :=
  match chars with
  | [] => empty
  | [c] => one (.letter c)
  | c :: rest => seq (one (.letter c)) (word rest)

/-- At least one text of `p`. -/
def repeated (p : Pattern) : Pattern := seq p (many p)

def inOrder : List Pattern → Pattern
  | [] => empty
  | [p] => p
  | p :: rest => seq p (inOrder rest)

def oneOf (p : Pattern) : List Pattern → Pattern
  | [] => p
  | q :: rest => alt p (oneOf q rest)

end Pattern

end TenantLink
