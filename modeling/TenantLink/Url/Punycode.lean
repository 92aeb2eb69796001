/-!
# Punycode

Labels of a host name beyond ASCII are written as their ASCII characters, a dash, and the
differences of the other code points in ascending order, in digits of base 36 with an adapting
bias. Every loop has a measure: no fuel is needed.
-/

namespace TenantLink.Url.Punycode

/-- `a` to `z` are the digits 0 to 25, `0` to `9` the digits 26 to 35. -/
def digitChar (d : Nat) : Char :=
  if d < 26 then Char.ofNat (0x61 + d) else Char.ofNat (0x30 + (d - 26))

def digitValue? (c : Char) : Option Nat :=
  if 'a' ≤ c ∧ c ≤ 'z' then some (c.toNat - 0x61)
  else if 'A' ≤ c ∧ c ≤ 'Z' then some (c.toNat - 0x41)
  else if '0' ≤ c ∧ c ≤ '9' then some (c.toNat - 0x30 + 26)
  else none

/-- The least digit of the next position that is the last one. -/
def threshold (k bias : Nat) : Nat :=
  if k ≤ bias then 1 else if bias + 26 ≤ k then 26 else k - bias

theorem one_le_threshold (k bias : Nat) : 1 ≤ threshold k bias := by
  unfold threshold
  split
  · exact Nat.le_refl 1
  · split <;> omega

/-- Divides by 35 until the difference is small, counting positions. -/
def shrink (delta k : Nat) : Nat × Nat :=
  if 455 < delta then shrink (delta / 35) (k + 36) else (delta, k)
termination_by delta
decreasing_by exact Nat.div_lt_self (by omega) (by decide)

/-- The bias after a difference was written or read. -/
def adapt (delta points : Nat) (first : Bool) : Nat :=
  let scaled := if first then delta / 700 else delta / 2
  let (rest, k) := shrink (scaled + scaled / points) 0
  k + 36 * rest / (rest + 38)

def digits (bias k q : Nat) : List Char :=
  let t := threshold k bias
  if q < t then [digitChar q]
  else digitChar (t + (q - t) % (36 - t)) :: digits bias (k + 36) ((q - t) / (36 - t))
termination_by q
decreasing_by
  have h₁ := one_le_threshold k bias
  calc (q - threshold k bias) / (36 - threshold k bias)
      ≤ q - threshold k bias := Nat.div_le_self _ _
    _ < q := by omega

structure Writer where
  out : List Char
  delta : Nat
  bias : Nat
  handled : Nat

/-- Passes one character while the code point `m` is being written. -/
def Writer.pass (w : Writer) (basic m : Nat) (c : Char) : Writer :=
  if c.toNat < m then { w with delta := w.delta + 1 }
  else if c.toNat = m then
    { out := w.out ++ digits w.bias 36 w.delta, delta := 0,
      bias := adapt w.delta (w.handled + 1) (w.handled = basic), handled := w.handled + 1 }
  else w

/-- Writes the code points in ascending order; `n` is the least not yet written. -/
def Writer.points (w : Writer) (input : List Char) (basic : Nat) : List Nat → Nat → Writer
  | [], _ => w
  | m :: rest, n =>
    let start := { w with delta := w.delta + (m - n) * (w.handled + 1) }
    let done := input.foldl (fun w c => w.pass basic m c) start
    { done with delta := done.delta + 1 }.points input basic rest (m + 1)

/-- Inserts into an ascending list without repetition. -/
def insertPoint (n : Nat) : List Nat → List Nat
  | [] => [n]
  | m :: rest =>
    if n < m then n :: m :: rest else if n = m then m :: rest else m :: insertPoint n rest

/-- The ASCII form of a label, without its marker. -/
def encode (label : List Char) : List Char :=
  let basic := label.filter (·.toNat < 0x80)
  let others := (label.filter (0x80 ≤ ·.toNat)).foldl (fun ps c => insertPoint c.toNat ps) []
  let writer : Writer := ⟨[], 0, 72, basic.length⟩
  basic ++ (if basic = [] then [] else ['-']) ++
    (writer.points label basic.length others 0x80).out

/-- Values and weights of digits stay below this bound. -/
def bound : Nat := 0x100000000

/-- Adds the next difference to `value`: the sum and what follows it. -/
def difference? (bias : Nat) (value weight k : Nat) : List Char → Option (Nat × List Char)
  | [] => none
  | c :: rest =>
    match digitValue? c with
    | none => none
    | some d =>
      let t := threshold k bias
      if bound ≤ value + d * weight then none
      else if d < t then some (value + d * weight, rest)
      else if bound ≤ weight * (36 - t) then none
      else difference? bias (value + d * weight) (weight * (36 - t)) (k + 36) rest

theorem length_difference_lt {bias value weight k n : Nat} {chars rest : List Char}
    (h : difference? bias value weight k chars = some (n, rest)) :
    rest.length < chars.length := by
  induction chars generalizing value weight k with
  | nil => simp [difference?] at h
  | cons c cs ih =>
    rw [difference?] at h
    split at h
    · simp at h
    · dsimp only at h
      split at h
      · simp at h
      · split at h
        · simp only [Option.some.injEq, Prod.mk.injEq] at h
          simp [← h.2]
        · split at h
          · simp at h
          · exact Nat.lt_succ_of_lt (ih h)

/-- Reads differences and inserts the code points they give, from the place `i` and the code point
`n` on. -/
def insertPoints? (first : Bool) (out : List Char) (i n bias : Nat) (chars : List Char) :
    Option (List Char) :=
  if chars = [] then some out
  else
    match _ : difference? bias i 1 36 chars with
    | none => none
    | some (position, rest) =>
      let length := out.length + 1
      let n' := n + position / length
      let place := position % length
      if n'.isValidChar then
        insertPoints? false (out.take place ++ Char.ofNat n' :: out.drop place) (place + 1) n'
          (adapt (position - i) length first) rest
      else none
termination_by chars.length
decreasing_by exact length_difference_lt ‹_›

/-- The label that an ASCII form, without its marker, stands for. Something must stand in front of
the last dash. -/
def decode? (chars : List Char) : Option (List Char) :=
  let extended := (chars.reverse.takeWhile (· ≠ '-')).reverse
  let front := chars.take (chars.length - extended.length)
  if front = ['-'] then none else insertPoints? true front.dropLast 0 0x80 72 extended

end TenantLink.Url.Punycode
