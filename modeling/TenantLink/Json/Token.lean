import TenantLink.Text.Utf8

/-!
# JSON tokens

`tokens?` cuts a JSON text into punctuation, literals, numbers and strings, dropping the white
space between them. Numbers and strings keep their spelling: no number is too large here, and a
string may hold bytes that are no UTF-8 and escapes of lone surrogates. What those mean is
decided when a value is read.
-/

namespace TenantLink.Json

/-- The spelling of a number. Digits are values from 0 to 9; a fraction or an exponent that is
there has at least one digit. -/
structure NumberText where
  negative : Bool
  whole : List Nat
  fraction : Option (List Nat) := none
  /-- Whether the exponent is negative, and its digits. -/
  exponent : Option (Bool × List Nat) := none
  deriving DecidableEq, Repr

/-- One piece of a string: a byte as it stands, an escaped character, or an escaped code unit. -/
inductive Piece
  | byte (b : UInt8)
  | char (c : Char)
  | unit (u : Nat)
  deriving DecidableEq, Repr

inductive Token
  | openObject
  | closeObject
  | openArray
  | closeArray
  | colon
  | comma
  | null
  | bool (b : Bool)
  | number (n : NumberText)
  | string (pieces : List Piece)
  deriving DecidableEq, Repr

def isSpace (b : UInt8) : Bool := b = 0x20 || b = 0x0A || b = 0x0D || b = 0x09

def digit? (b : UInt8) : Option Nat :=
  if 0x30 ≤ b && b ≤ 0x39 then some (b.toNat - 0x30) else none

def hexDigit? (b : UInt8) : Option Nat :=
  if 0x30 ≤ b && b ≤ 0x39 then some (b.toNat - 0x30)
  else if 0x41 ≤ b && b ≤ 0x46 then some (b.toNat - 0x37)
  else if 0x61 ≤ b && b ≤ 0x66 then some (b.toNat - 0x57)
  else none

/-- The digits at the start of `bytes`, behind `seen` (last first), and what follows them. -/
def digits (seen : List Nat) : Bytes → List Nat × Bytes
  | [] => (seen.reverse, [])
  | b :: rest =>
    match digit? b with
    | some d => digits (d :: seen) rest
    | none => (seen.reverse, b :: rest)

theorem length_digits_le (seen : List Nat) (bytes : Bytes) :
    (digits seen bytes).2.length ≤ bytes.length := by
  induction bytes generalizing seen with
  | nil => simp [digits]
  | cons b rest ih =>
    rw [digits]
    split
    · exact Nat.le_succ_of_le (ih _)
    · simp

/-- A fraction at the start of `bytes`, if a point stands there; fails when no digit follows. -/
def fraction? : Bytes → Option (Option (List Nat) × Bytes)
  | 0x2E :: rest =>
    match digits [] rest with
    | ([], _) => none
    | (ds, rest') => some (some ds, rest')
  | bytes => some (none, bytes)

theorem length_fraction_le {bytes rest : Bytes} {f : Option (List Nat)}
    (h : fraction? bytes = some (f, rest)) : rest.length ≤ bytes.length := by
  unfold fraction? at h
  split at h
  · rename_i r
    have := length_digits_le [] r
    split at h
    · simp at h
    · rename_i heq
      simp only [Option.some.injEq, Prod.mk.injEq] at h
      rw [heq] at this
      dsimp only at this
      obtain ⟨_, rfl⟩ := h
      simp only [List.length_cons]
      omega
  · simp only [Option.some.injEq, Prod.mk.injEq] at h
    exact Nat.le_of_eq (by rw [h.2])

/-- The sign of an exponent, which may be left out, and what follows it. -/
def exponentSign : Bytes → Bool × Bytes
  | 0x2B :: rest => (false, rest)
  | 0x2D :: rest => (true, rest)
  | bytes => (false, bytes)

theorem length_exponentSign_le (bytes : Bytes) :
    (exponentSign bytes).2.length ≤ bytes.length := by
  unfold exponentSign
  split <;> simp

/-- An exponent at the start of `bytes`, if an `e` stands there; fails when no digit follows. -/
def exponent? : Bytes → Option (Option (Bool × List Nat) × Bytes)
  | b :: rest =>
    if b = 0x65 ∨ b = 0x45 then
      match digits [] (exponentSign rest).2 with
      | ([], _) => none
      | (ds, rest') => some (some ((exponentSign rest).1, ds), rest')
    else some (none, b :: rest)
  | [] => some (none, [])

theorem length_exponent_le {bytes rest : Bytes} {e : Option (Bool × List Nat)}
    (h : exponent? bytes = some (e, rest)) : rest.length ≤ bytes.length := by
  unfold exponent? at h
  split at h
  · rename_i b r
    have h₁ := length_exponentSign_le r
    have h₂ := length_digits_le [] (exponentSign r).2
    split at h
    · split at h
      · simp at h
      · rename_i heq
        simp only [Option.some.injEq, Prod.mk.injEq] at h
        rw [heq] at h₂
        dsimp only at h₂
        obtain ⟨_, rfl⟩ := h
        simp only [List.length_cons]
        omega
    · simp only [Option.some.injEq, Prod.mk.injEq] at h
      exact Nat.le_of_eq (by rw [h.2])
  · simp only [Option.some.injEq, Prod.mk.injEq] at h
    exact Nat.le_of_eq (by rw [h.2])

/-- The integer part of a number: a zero alone, or digits that do not start with one. -/
def whole? : Bytes → Option (List Nat × Bytes)
  | b :: rest =>
    match digit? b with
    | some 0 => some ([0], rest)
    | some d => some (digits [d] rest)
    | none => none
  | [] => none

theorem length_whole_lt {bytes rest : Bytes} {ds : List Nat}
    (h : whole? bytes = some (ds, rest)) : rest.length < bytes.length := by
  unfold whole? at h
  split at h
  · split at h
    · simp only [Option.some.injEq, Prod.mk.injEq] at h
      simp [← h.2]
    · rename_i r _ d _ _
      have := length_digits_le [d] r
      simp only [Option.some.injEq] at h
      rw [h] at this
      dsimp only at this
      simp only [List.length_cons]
      omega
    · simp at h
  · simp at h

/-- The number at the start of `bytes`, whose sign has been read, and what follows it. -/
def number? (negative : Bool) (bytes : Bytes) : Option (NumberText × Bytes) :=
  match whole? bytes with
  | none => none
  | some (whole, rest) =>
    match fraction? rest with
    | none => none
    | some (fraction, rest') =>
      match exponent? rest' with
      | none => none
      | some (exponent, rest'') => some (⟨negative, whole, fraction, exponent⟩, rest'')

theorem length_number_lt {negative : Bool} {bytes rest : Bytes} {n : NumberText}
    (h : number? negative bytes = some (n, rest)) : rest.length < bytes.length := by
  unfold number? at h
  split at h
  · simp at h
  · rename_i hw
    split at h
    · simp at h
    · rename_i hf
      split at h
      · simp at h
      · rename_i he
        simp only [Option.some.injEq, Prod.mk.injEq] at h
        have h₁ := length_whole_lt hw
        have h₂ := length_fraction_le hf
        have h₃ := length_exponent_le he
        rw [← h.2]
        omega

/-- The character that stands for an escape of one letter. -/
def shortEscape? (b : UInt8) : Option Char :=
  if b = 0x22 then some '"'
  else if b = 0x5C then some '\\'
  else if b = 0x2F then some '/'
  else if b = 0x62 then some '\x08'
  else if b = 0x66 then some '\x0c'
  else if b = 0x6E then some '\n'
  else if b = 0x72 then some '\r'
  else if b = 0x74 then some '\t'
  else none

def unit? (a b c d : UInt8) : Option Nat := do
  let a ← hexDigit? a
  let b ← hexDigit? b
  let c ← hexDigit? c
  let d ← hexDigit? d
  pure (((a * 16 + b) * 16 + c) * 16 + d)

/-- The rest of a string up to its closing quote, behind the pieces `seen` (last first), and what
follows the quote. Control characters must be escaped. -/
def string? (seen : List Piece) : Bytes → Option (List Piece × Bytes)
  | 0x22 :: rest => some (seen.reverse, rest)
  | 0x5C :: 0x75 :: a :: b :: c :: d :: rest =>
    match unit? a b c d with
    | some u => string? (.unit u :: seen) rest
    | none => none
  | 0x5C :: b :: rest =>
    match shortEscape? b with
    | some c => string? (.char c :: seen) rest
    | none => none
  | b :: rest => if b < 0x20 then none else string? (.byte b :: seen) rest
  | [] => none

theorem length_string_lt {seen pieces : List Piece} {bytes rest : Bytes}
    (h : string? seen bytes = some (pieces, rest)) : rest.length < bytes.length := by
  fun_induction string? seen bytes with
  | case1 => simp_all
  | case2 _ _ _ _ _ _ _ _ ih =>
    have := ih h
    simp only [List.length_cons]
    omega
  | case3 => simp at h
  | case4 _ _ _ _ _ _ ih =>
    have := ih h
    simp only [List.length_cons]
    omega
  | case5 => simp at h
  | case6 => simp at h
  | case7 _ _ _ _ _ _ _ ih =>
    have := ih h
    simp only [List.length_cons]
    omega
  | case8 => simp at h

def punctuation? (b : UInt8) : Option Token :=
  if b = 0x7B then some .openObject
  else if b = 0x7D then some .closeObject
  else if b = 0x5B then some .openArray
  else if b = 0x5D then some .closeArray
  else if b = 0x3A then some .colon
  else if b = 0x2C then some .comma
  else none

/-- The token at the start of `b :: rest`, which is no white space, and what follows it. -/
def token? (b : UInt8) (rest : Bytes) : Option (Token × Bytes) :=
  match punctuation? b with
  | some t => some (t, rest)
  | none =>
    if b = 0x22 then
      match string? [] rest with
      | some (pieces, rest') => some (.string pieces, rest')
      | none => none
    else if b = 0x2D then
      match number? true rest with
      | some (n, rest') => some (.number n, rest')
      | none => none
    else
      match b, rest with
      | 0x6E, 0x75 :: 0x6C :: 0x6C :: rest' => some (.null, rest')
      | 0x74, 0x72 :: 0x75 :: 0x65 :: rest' => some (.bool true, rest')
      | 0x66, 0x61 :: 0x6C :: 0x73 :: 0x65 :: rest' => some (.bool false, rest')
      | _, _ =>
        match number? false (b :: rest) with
        | some (n, rest') => some (.number n, rest')
        | none => none

theorem length_token_lt {b : UInt8} {rest rest' : Bytes} {t : Token}
    (h : token? b rest = some (t, rest')) : rest'.length < (b :: rest).length := by
  unfold token? at h
  split at h
  · simp only [Option.some.injEq, Prod.mk.injEq] at h
    simp [← h.2]
  · split at h
    · split at h
      · rename_i hs
        simp only [Option.some.injEq, Prod.mk.injEq] at h
        have := length_string_lt hs
        simp only [List.length_cons, ← h.2]
        omega
      · simp at h
    · split at h
      · split at h
        · rename_i hn
          simp only [Option.some.injEq, Prod.mk.injEq] at h
          have := length_number_lt hn
          simp only [List.length_cons, ← h.2]
          omega
        · simp at h
      · split at h
        · simp only [Option.some.injEq, Prod.mk.injEq] at h
          simp only [List.length_cons, ← h.2]
          omega
        · simp only [Option.some.injEq, Prod.mk.injEq] at h
          simp only [List.length_cons, ← h.2]
          omega
        · simp only [Option.some.injEq, Prod.mk.injEq] at h
          simp only [List.length_cons, ← h.2]
          omega
        · split at h
          · rename_i hn
            simp only [Option.some.injEq, Prod.mk.injEq] at h
            have := length_number_lt hn
            rw [← h.2]
            exact this
          · simp at h

/-- `tokens?` behind the tokens `seen`, last first. -/
def tokensLoop (seen : List Token) : Bytes → Option (List Token)
  | [] => some seen.reverse
  | b :: rest =>
    if isSpace b then tokensLoop seen rest
    else
      match _ : token? b rest with
      | some (t, rest') => tokensLoop (t :: seen) rest'
      | none => none
termination_by bytes => bytes.length
decreasing_by
  · simp
  · exact length_token_lt ‹_›

/-- The tokens of a text; `none` when some part of it is no token. -/
def tokens? (bytes : Bytes) : Option (List Token) := tokensLoop [] bytes

end TenantLink.Json
