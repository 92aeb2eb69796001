import TenantLink.Json.Token
import TenantLink.Number.Shortest

/-!
# JSON numbers

Integers from -2^63 up to 2^64 - 1 are exact. Every other number is read as a floating-point
number in two roundings: the leading digits that fit 64 bits are rounded to a magnitude, which is
then multiplied or divided by a power of ten. A number beyond the largest magnitude is refused.
-/

namespace TenantLink.Json

inductive Number
  | natural (n : Nat)
  | negative (n : Nat)
  | float (b : Binary64)
  deriving DecidableEq, Repr

/-- The greatest significand, `2 ^ 64 - 1`. -/
def maxSignificand : Nat := 0xFFFFFFFFFFFFFFFF

/-- Appends digits to a significand as long as it fits, and gives back those left over. -/
def significand (start : Nat) : List Nat → Nat × List Nat
  | [] => (start, [])
  | d :: rest =>
    if start * 10 + d ≤ maxSignificand then significand (start * 10 + d) rest
    else (start, d :: rest)

/-- The magnitude nearest to `10 ^ n`. -/
def tenTo (n : Nat) : Magnitude := (Magnitude.ofRatio (Nat.pow 10 n) 1).getD Magnitude.zero

def maxTenTo : Nat := 308

/-- `m * 10 ^ -n`, dividing by at most `10 ^ 308` at a time. -/
def scaleDown (m : Magnitude) (n : Nat) : Option Magnitude :=
  if n ≤ maxTenTo then m.div (tenTo n)
  else if m.mantissa = 0 then some m
  else
    match m.div (tenTo maxTenTo) with
    | some m' => scaleDown m' (n - maxTenTo)
    | none => none
termination_by n
decreasing_by
  simp only [maxTenTo] at *
  omega

/-- `m * 10 ^ e`, rounded. -/
def scale (m : Magnitude) (e : Int) : Option Magnitude :=
  if e < 0 then scaleDown m e.natAbs
  else if e.natAbs ≤ maxTenTo then m.mul (tenTo e.natAbs)
  else if m.mantissa = 0 then some m
  else none

/-- The greatest exponent that is looked at; a greater one is as good as infinite. -/
def maxExponent : Nat := 0x7FFFFFFF

/-- The magnitude of `digits * 10 ^ (e + written)` for a written exponent. -/
def magnitude? (digits : Nat) (e : Int) : Option (Bool × List Nat) → Option Magnitude
  | none => (Magnitude.ofRatio digits 1).bind (scale · e)
  | some (down, ds) =>
    let written := ds.foldl (fun n d => n * 10 + d) 0
    if maxExponent < written then
      if digits = 0 ∨ down then some Magnitude.zero else none
    else
      (Magnitude.ofRatio digits 1).bind (scale · (if down then e - written else e + written))

namespace NumberText

def float? (text : NumberText) : Option Binary64 :=
  let (whole, dropped) := significand 0 text.whole
  let fraction := text.fraction.getD []
  let (digits, left) := significand whole fraction
  let used := fraction.length - left.length
  (magnitude? digits ((dropped.length : Int) - used) text.exponent).map (⟨text.negative, ·⟩)

/-- The number that a spelling stands for; `none` when it is too large. -/
def number? (text : NumberText) : Option Number :=
  match text.fraction, text.exponent, significand 0 text.whole with
  | none, none, (n, []) =>
    if text.negative then
      if n = 0 ∨ 0x8000000000000000 < n then text.float?.map .float else some (.negative n)
    else some (.natural n)
  | _, _, _ => text.float?.map .float

end NumberText

def Number.text : Number → List Char
  | .natural n => Nat.toDigits 10 n
  | .negative n => '-' :: Nat.toDigits 10 n
  | .float b => b.text

end TenantLink.Json
