import TenantLink.Number.Binary64

/-!
# Shortest decimal text of a floating-point number

`Magnitude.shortest` finds the fewest decimal digits that read back as the same magnitude, and of
those the nearest to it. `Binary64.text` lays them out: positional between 10^-5 and 10^16, with
an exponent otherwise.
-/

namespace TenantLink

/-- The number `0.d₁d₂… * 10 ^ point`, for the digits `d₁d₂…` of `digits`. -/
structure Decimal where
  digits : Nat
  point : Int
  deriving DecidableEq, Repr

namespace Magnitude

/-- The open or closed interval of reals that round to a magnitude, as fractions over one
denominator. -/
structure Interval where
  low : Nat
  value : Nat
  high : Nat
  den : Nat
  closed : Bool

/-- The reals that round to `m`: half a step to either side, a quarter below a power of two. -/
def interval (m : Magnitude) : Interval :=
  let boundary := m.mantissa = leastMantissa ∧ minExponent < m.exponent
  let below := if boundary then 4 * m.mantissa - 1 else 4 * m.mantissa - 2
  let (unit, den) := scaleRatio 1 4 m.exponent
  ⟨below * unit, 4 * m.mantissa * unit, (4 * m.mantissa + 2) * unit, den, m.mantissa % 2 = 0⟩

def Interval.has (i : Interval) (num den : Nat) : Bool :=
  if i.closed then i.low * den ≤ num * i.den && num * i.den ≤ i.high * den
  else i.low * den < num * i.den && num * i.den < i.high * den

def powerOfTen (e : Int) : Nat × Nat :=
  match e with
  | .ofNat n => (Nat.pow 10 n, 1)
  | .negSucc n => (1, Nat.pow 10 (n + 1))

/-- The point on the grid `k * 10 ^ e` that lies in the interval, if one of the two next to its
value does: the nearer one, of equally near ones the even one. -/
def Interval.onGrid? (i : Interval) (e : Int) : Option Nat :=
  let (pn, pd) := powerOfTen e
  let below := (i.value * pd) / (i.den * pn)
  let rest := (i.value * pd) % (i.den * pn)
  let lowFits := i.has (below * pn) pd
  let highFits := i.has ((below + 1) * pn) pd
  if lowFits && highFits then
    if 2 * rest < i.den * pn then some below
    else if i.den * pn < 2 * rest then some (below + 1)
    else some (if below % 2 = 0 then below else below + 1)
  else if lowFits then some below
  else if highFits then some (below + 1)
  else none

/-- The coarsest grid with a hit, from `10 ^ e` down for at most `fuel` steps. -/
def Interval.search (i : Interval) (e : Int) : Nat → Nat × Int
  | 0 => (0, e)
  | fuel + 1 =>
    match i.onGrid? e with
    | some 0 => i.search (e - 1) fuel
    | some k => (k, e)
    | none => i.search (e - 1) fuel

def digitCount (n : Nat) : Nat := (Nat.toDigits 10 n).length

/-- `n` without the zeros at the end of its decimal digits, and how many there were. -/
def dropZeros (n : Nat) : Nat → Nat × Nat
  | 0 => (n, 0)
  | fuel + 1 =>
    if n % 10 = 0 ∧ n ≠ 0 then
      let (m, z) := dropZeros (n / 10) fuel
      (m, z + 1)
    else (n, 0)

/-- An upper bound of the decimal logarithm of a positive magnitude. -/
def logBound (m : Magnitude) : Int :=
  ((m.mantissa.log2 : Int) + 1 + m.exponent) * 30103 / 100000 + 1

/-- The fewest digits that read back as `m`, for `m` other than zero. -/
def shortest (m : Magnitude) : Decimal :=
  let (k, e) := m.interval.search m.logBound 400
  let (digits, zeros) := dropZeros k 20
  ⟨digits, e + zeros + digitCount digits⟩

end Magnitude

/-- How a decimal is laid out: the positions of the point that are written positionally. -/
structure DecimalLayout where
  leastPoint : Int
  greatestPoint : Int

/-- Positional from `0.00001` to sixteen digits before the point. -/
def DecimalLayout.json : DecimalLayout := ⟨-4, 16⟩

/-- The text of a positive decimal. An integer keeps `.0`, a positive exponent its sign. -/
def DecimalLayout.text (layout : DecimalLayout) (d : Decimal) : List Char :=
  let digits := Nat.toDigits 10 d.digits
  let count : Int := digits.length
  if d.point < layout.leastPoint ∨ layout.greatestPoint < d.point then
    let exponent := d.point - 1
    let fraction := match digits with
      | c :: c' :: rest => c :: '.' :: c' :: rest
      | short => short
    let sign := if exponent < 0 then '-' else '+'
    fraction ++ 'e' :: sign :: Nat.toDigits 10 exponent.natAbs
  else if d.point ≤ 0 then
    '0' :: '.' :: List.replicate (-d.point).toNat '0' ++ digits
  else if count ≤ d.point then
    digits ++ List.replicate (d.point - count).toNat '0' ++ ['.', '0']
  else
    digits.take d.point.toNat ++ '.' :: digits.drop d.point.toNat

def Binary64.text (b : Binary64) : List Char :=
  let sign := if b.negative then ['-'] else []
  if b.magnitude.mantissa = 0 then sign ++ ['0', '.', '0']
  else sign ++ DecimalLayout.json.text b.magnitude.shortest

end TenantLink
