/-!
# Binary floating point of 64 bits, exactly

A magnitude is `mantissa * 2 ^ exponent` with at most 53 bits of mantissa and an exponent from
-1074 to 971. `Magnitude.ofRatio` rounds a quotient of natural numbers to the nearest magnitude,
ties to the even mantissa; sums, products and quotients of magnitudes are such quotients, so all
arithmetic here is arithmetic of natural numbers.
-/

namespace TenantLink

/-- `mantissa * 2 ^ exponent`. -/
structure Magnitude where
  mantissa : Nat
  exponent : Int
  deriving DecidableEq, Repr

namespace Magnitude

/-- The exponent of the finest magnitudes. -/
def minExponent : Int := -1074

/-- The exponent of the coarsest magnitudes. -/
def maxExponent : Int := 971

/-- The least mantissa of a magnitude that is not close to zero, `2 ^ 52`. -/
def leastMantissa : Nat := 0x10000000000000

def zero : Magnitude := ⟨0, minExponent⟩

/-- `num / den` to the nearest natural number, ties to the even one. -/
def roundHalfEven (num den : Nat) : Nat :=
  let quotient := num / den
  let twice := 2 * (num % den)
  if twice < den then quotient
  else if den < twice then quotient + 1
  else if quotient % 2 = 0 then quotient else quotient + 1

/-- The ratio `num / den * 2 ^ e` as a pair of natural numbers. -/
def scaleRatio (num den : Nat) (e : Int) : Nat × Nat :=
  match e with
  | .ofNat n => (num * Nat.pow 2 n, den)
  | .negSucc n => (num, den * Nat.pow 2 (n + 1))

/-- The largest `e` with `2 ^ e ≤ num / den`, for positive `num` and `den`. -/
def floorLog (num den : Nat) : Int :=
  let guess : Int := (num.log2 : Int) - (den.log2 : Int)
  let (n, d) := scaleRatio num den (-guess)
  if n < d then guess - 1 else guess

/-- The magnitude nearest to `num / den`; `none` when that is beyond the largest one. -/
def ofRatio (num den : Nat) : Option Magnitude :=
  if num = 0 then some zero
  else
    let exponent := max (floorLog num den - 52) minExponent
    let (n, d) := scaleRatio num den (-exponent)
    let mantissa := roundHalfEven n d
    let result : Magnitude :=
      if mantissa = 2 * leastMantissa then ⟨leastMantissa, exponent + 1⟩ else ⟨mantissa, exponent⟩
    if maxExponent < result.exponent then none else some result

def mul (a b : Magnitude) : Option Magnitude :=
  let (n, d) := scaleRatio (a.mantissa * b.mantissa) 1 (a.exponent + b.exponent)
  ofRatio n d

/-- The rounded quotient by a magnitude other than zero. -/
def div (a b : Magnitude) : Option Magnitude :=
  let (n, d) := scaleRatio a.mantissa b.mantissa (a.exponent - b.exponent)
  ofRatio n d

end Magnitude

/-- A finite binary floating-point number. -/
structure Binary64 where
  negative : Bool
  magnitude : Magnitude
  deriving DecidableEq, Repr

end TenantLink
