import TenantLink.Text.Blank
import TenantLink.Time.Calendar

/-!
# Points in time

`Timestamp.parse?` reads a date, a time and an offset, more freely than RFC 3339: fields may be
short, white space may stand between them, and a space may take the place of the `T`.
`Timestamp.text` writes UTC with as many groups of three decimals as are needed.
-/

namespace TenantLink

/-- A point in time, in seconds from the epoch. From `10 ^ 9` nanoseconds on it lies in a leap
second, which belongs to the second before it. -/
structure Timestamp where
  seconds : Int
  nanos : Nat
  deriving DecidableEq, Repr

namespace Timestamp

def before (a b : Timestamp) : Bool :=
  a.seconds < b.seconds || (a.seconds = b.seconds && a.nanos < b.nanos)

def leapNanos : Nat := 1000000000

/-- From one digit to `most` digits at the start of `chars`: their value and what follows. -/
def digits? (most : Nat) (chars : List Char) : Option (Nat × List Char) :=
  let ds := (chars.take most).takeWhile Char.isDigit
  if ds = [] then none
  else some (ds.foldl (fun n c => n * 10 + (c.toNat - 0x30)) 0, chars.drop ds.length)

/-- A number of at most `most` digits behind white space. -/
def field? (most : Nat) (chars : List Char) : Option (Nat × List Char) :=
  digits? most (Text.trimStart chars)

/-- A year behind white space: four digits at most, any number of them behind a sign. -/
def year? (chars : List Char) : Option (Int × List Char) :=
  match Text.trimStart chars with
  | '-' :: rest => (digits? rest.length rest).map fun (n, r) => (-(n : Int), r)
  | '+' :: rest => (digits? rest.length rest).map fun (n, r) => ((n : Int), r)
  | cs => (digits? 4 cs).map fun (n, r) => ((n : Int), r)

/-- What follows the mark `c`, which white space may precede. -/
def mark? (c : Char) (chars : List Char) : Option (List Char) :=
  match Text.trimStart chars with
  | d :: rest => if d = c then some rest else none
  | [] => none

/-- The nanoseconds behind a point, if there is one. Digits after the ninth do not count. -/
def fraction? : List Char → Option (Nat × List Char)
  | '.' :: rest =>
    match digits? 9 rest with
    | none => none
    | some (n, after) =>
      some (n * Nat.pow 10 (9 - (rest.length - after.length)), after.dropWhile Char.isDigit)
  | cs => some (0, cs)

def pair? : List Char → Option (Nat × List Char)
  | a :: b :: rest =>
    if a.isDigit ∧ b.isDigit then
      some ((a.toNat - 0x30) * 10 + (b.toNat - 0x30), rest)
    else none
  | _ => none

/-- The offset from UTC in seconds: `Z`, or a sign, hours and minutes. The minus sign may be the
typographic one. -/
def signedOffset? (chars : List Char) : Option (Int × List Char) :=
  let signed (sign : Int) (rest : List Char) : Option (Int × List Char) :=
    match pair? rest with
    | none => none
    | some (hours, after) =>
      match pair? (after.dropWhile fun c => c = ':' || Text.isBlank c) with
      | none => none
      | some (minutes, after') =>
        if minutes < 60 then some (sign * (hours * 3600 + minutes * 60), after') else none
  match chars with
  | '+' :: rest => signed 1 rest
  | '-' :: rest => signed (-1) rest
  | c :: rest =>
    if c = 'Z' ∨ c = 'z' then some (0, rest)
    else if c.toNat = 0x2212 then signed (-1) rest
    else none
  | [] => none

/-- The offset at the start of `chars`, which may also be spelled `UTC`. -/
def offset? (chars : List Char) : Option (Int × List Char) :=
  if (chars.take 3).map Char.toUpper = ['U', 'T', 'C'] then some (0, chars.drop 3)
  else signedOffset? chars

def date? (chars : List Char) : Option (Date × List Char) := do
  let (year, cs) ← year? chars
  let cs ← mark? '-' cs
  let (month, cs) ← field? 2 cs
  let cs ← mark? '-' cs
  let (day, cs) ← field? 2 cs
  if (⟨year, month, day⟩ : Date).isValid then some (⟨year, month, day⟩, cs) else none

def timeMark? : List Char → Option (List Char)
  | c :: rest => if c = 'T' ∨ c = 't' ∨ c = ' ' then some rest else none
  | [] => none

/-- The second of a day and the nanoseconds, at the start of `chars`. -/
def time? (chars : List Char) : Option (Nat × Nat × List Char) := do
  let (hour, cs) ← field? 2 chars
  let cs ← mark? ':' cs
  let (minute, cs) ← field? 2 cs
  let cs ← mark? ':' cs
  let (second, cs) ← field? 2 cs
  let (nanos, cs) ← fraction? cs
  if hour < 24 ∧ minute < 60 ∧ second ≤ 60 then
    if second = 60 then some (hour * 3600 + minute * 60 + 59, leapNanos + nanos, cs)
    else some (hour * 3600 + minute * 60 + second, nanos, cs)
  else none

def dateOf (seconds : Int) : Date := Date.ofDays (seconds.fdiv 86400)

def parse? (text : String) : Option Timestamp := do
  let (date, cs) ← date? text.toList
  let cs ← timeMark? cs
  let (second, nanos, cs) ← time? cs
  let (offset, cs) ← offset? (Text.trimStart cs)
  if Text.trimStart cs ≠ [] ∨ 86400 ≤ offset.natAbs then none
  else
    let seconds := date.days * 86400 + second - offset
    if (dateOf seconds).isValid then some ⟨seconds, nanos⟩ else none

/-- `n` with zeros in front, up to `width` digits. -/
def padded (width n : Nat) : List Char :=
  let ds := Nat.toDigits 10 n
  List.replicate (width - ds.length) '0' ++ ds

/-- A year: four digits, and a sign outside of 0 to 9999. -/
def yearText (year : Int) : List Char :=
  if 0 ≤ year ∧ year ≤ 9999 then padded 4 year.natAbs
  else (if year < 0 then '-' else '+') :: padded 4 year.natAbs

/-- The decimals of a second: none, or three, six or nine digits. -/
def fractionText (nanos : Nat) : List Char :=
  if nanos = 0 then []
  else if nanos % 1000000 = 0 then '.' :: padded 3 (nanos / 1000000)
  else if nanos % 1000 = 0 then '.' :: padded 6 (nanos / 1000)
  else '.' :: padded 9 nanos

/-- The text of a point in time, in UTC. -/
def chars (t : Timestamp) : List Char :=
  let date := dateOf t.seconds
  let second := (t.seconds - t.seconds.fdiv 86400 * 86400).toNat
  let leap := if leapNanos ≤ t.nanos then 1 else 0
  yearText date.year ++ '-' :: padded 2 date.month ++ '-' :: padded 2 date.day ++
    'T' :: padded 2 (second / 3600) ++ ':' :: padded 2 (second / 60 % 60) ++
    ':' :: padded 2 (second % 60 + leap) ++ fractionText (t.nanos % leapNanos) ++ ['Z']

def text (t : Timestamp) : String := String.ofList t.chars

end Timestamp

end TenantLink
