/-!
# Spans of time

A span is a number of nanoseconds. `Span.text` writes it in the greatest unit that keeps its
integer part above zero, with as many decimals as it needs.
-/

namespace TenantLink

structure Span where
  nanos : Nat
  deriving DecidableEq, Repr

namespace Span

def ofMillis (n : Nat) : Span := ⟨n * 1000000⟩

def ofSeconds (seconds : Nat) (nanos : Nat := 0) : Span := ⟨seconds * 1000000000 + nanos⟩

def millis (s : Span) : Nat := s.nanos / 1000000

/-- The milliseconds of a span, of which the last one may be cut short. -/
def ceilMillis (s : Span) : Nat := if s.nanos % 1000000 = 0 then s.millis else s.millis + 1

theorem ceilMillis_ofMillis (n : Nat) : (ofMillis n).ceilMillis = n := by
  unfold ceilMillis millis ofMillis
  rw [if_pos (Nat.mul_mod_left n 1000000)]
  exact Nat.mul_div_cancel n (by decide)

/-- The decimals of `part / 10 ^ places`, without zeros at their end. -/
def decimals (part places : Nat) : List Char :=
  let digits := Nat.toDigits 10 part
  let all := List.replicate (places - digits.length) '0' ++ digits
  (all.reverse.dropWhile (· = '0')).reverse

/-- `nanos` in units of `10 ^ places` nanoseconds. -/
def inUnit (nanos places : Nat) : String :=
  let whole := toString (nanos / Nat.pow 10 places)
  match decimals (nanos % Nat.pow 10 places) places with
  | [] => whole
  | ds => whole ++ "." ++ String.ofList ds

/-- The text of a span: `30s`, `1.5ms`, `1µs`, `0ns`. -/
def text (s : Span) : String :=
  if 1000000000 ≤ s.nanos then inUnit s.nanos 9 ++ "s"
  else if 1000000 ≤ s.nanos then inUnit s.nanos 6 ++ "ms"
  else if 1000 ≤ s.nanos then inUnit s.nanos 3 ++ "µs"
  else inUnit s.nanos 0 ++ "ns"

end Span

end TenantLink
