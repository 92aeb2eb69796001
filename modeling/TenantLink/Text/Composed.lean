import TenantLink.Text.Composites
import TenantLink.Text.Mark

/-!
# Composed text

A letter with its marks can be written as one character or as several. `composed` brings a text
into one form: the marks of each letter are sorted by their classes, and a mark becomes one
character with its letter where there is such a character. The text must not hold characters that
never come out of composition.
-/

namespace TenantLink.Text

/-! ### Syllables of Hangul -/

namespace Hangul

/-- The consonant, the vowel and the final consonant, if any, of a syllable. -/
def parts? (c : Char) : Option (List Char) :=
  let n := c.toNat - 0xAC00
  if 0xAC00 ≤ c.toNat ∧ n < 11172 then
    let front := [Char.ofNat (0x1100 + n / 588), Char.ofNat (0x1161 + n % 588 / 28)]
    some (if n % 28 = 0 then front else front ++ [Char.ofNat (0x11A7 + n % 28)])
  else none

/-- The syllable of a consonant and a vowel, or of a syllable without a final consonant and one. -/
def compose? (a b : Char) : Option Char :=
  let n := a.toNat - 0xAC00
  if 0x1100 ≤ a.toNat ∧ a.toNat < 0x1113 ∧ 0x1161 ≤ b.toNat ∧ b.toNat < 0x1176 then
    some (Char.ofNat (0xAC00 + ((a.toNat - 0x1100) * 21 + (b.toNat - 0x1161)) * 28))
  else if 0xAC00 ≤ a.toNat ∧ n < 11172 ∧ n % 28 = 0 ∧ 0x11A8 ≤ b.toNat ∧ b.toNat < 0x11C3 then
    some (Char.ofNat (a.toNat + (b.toNat - 0x11A7)))
  else none

end Hangul

/-! ### Parts -/

/-- The letter and the marks that `c` is composed of, or `c` alone. -/
def parts (c : Char) : List Char :=
  match Hangul.parts? c with
  | some cs => cs
  | none => composites.getD c.toNat [c]

/-- The composed characters by the code points of their parts. -/
def byParts : Std.HashMap (List Nat) Char :=
  Std.HashMap.ofList (composites.toList.map fun (n, cs) => (cs.map Char.toNat, Char.ofNat n))

/-- The character that `a` with `b` behind it becomes. -/
def compose? (a b : Char) : Option Char :=
  match Hangul.compose? a b with
  | some c => some c
  | none => byParts[(parts a ++ [b]).map Char.toNat]?

/-! ### The order of marks -/

/-- A character with its combining class. -/
abbrev Classed := Nat × Char

/-- Puts marks behind what is done, sorted by class. Both lists are last first; marks of equal
classes keep their order. -/
def place (marks done : List Classed) : List Classed :=
  match marks with
  | [] => done
  | _ => (marks.reverse.mergeSort fun a b => a.1 ≤ b.1).reverse ++ done

def sortMarks (marks done : List Classed) : List Char → List Classed
  | [] => (place marks done).reverse
  | c :: rest =>
    let k := combiningClass c
    if k = 0 then sortMarks [] ((0, c) :: place marks done) rest
    else sortMarks ((k, c) :: marks) done rest

/-! ### Composition -/

/-- What has been composed: the finished text, the letter that marks may still join, and the marks
behind it that did not. The lists are last first. -/
structure Composer where
  done : List Char := []
  letter : Option Char := none
  marks : List Classed := []

namespace Composer

/-- Takes one more character. A mark that stayed keeps those of its class and of lower ones from
joining the letter. -/
def step (s : Composer) (p : Classed) : Composer :=
  match s.letter with
  | none => if p.1 = 0 then { s with letter := some p.2 } else { s with done := p.2 :: s.done }
  | some a =>
    let joined := if s.marks.head?.any (p.1 ≤ ·.1) then none else compose? a p.2
    match joined with
    | some c => { s with letter := some c }
    | none =>
      if p.1 = 0 then { done := s.marks.map (·.2) ++ a :: s.done, letter := some p.2 }
      else { s with marks := p :: s.marks }

def text (s : Composer) : List Char :=
  (s.marks.map (·.2) ++ s.letter.toList ++ s.done).reverse

end Composer

/-- The composed form of a text. Before U+0300 every character is composed already. -/
def composed (chars : List Char) : List Char :=
  if chars.all (·.toNat < 0x300) then chars
  else ((sortMarks [] [] (chars.flatMap parts)).foldl Composer.step {}).text

end TenantLink.Text
