import TenantLink.Url.Domain

/-!
# Hosts

A host is a name, an IPv4 or an IPv6 address, or empty. Addresses are printed in one form: four
decimal numbers, and eight hexadecimal pieces of which the longest run of zeros is left out.
-/

namespace TenantLink

inductive UrlError
  | emptyHost
  | internationalName
  | port
  | ipv4
  | ipv6
  | domainCharacter
  | noBase
  | opaqueBase
  deriving DecidableEq, Repr

def UrlError.message : UrlError → String
  | .emptyHost => "empty host"
  | .internationalName => "invalid international domain name"
  | .port => "invalid port number"
  | .ipv4 => "invalid IPv4 address"
  | .ipv6 => "invalid IPv6 address"
  | .domainCharacter => "invalid domain character"
  | .noBase => "relative URL without a base"
  | .opaqueBase => "relative URL with a cannot-be-a-base base"

inductive Host
  /-- Only in URLs of schemes that are not special: two slashes with nothing behind them. -/
  | empty
  | domain (name : String)
  | ipv4 (address : Nat)
  | ipv6 (pieces : List Nat)
  deriving DecidableEq, Repr

namespace Host

/-- The digits of a number in the given base; `none` when some character is no such digit. -/
def number? (base : Nat) (chars : List Char) : Option Nat :=
  chars.foldlM (fun n c => do
    let d ← Url.hexValue? c
    if d < base then some (n * base + d) else none) 0

/-- One number of an IPv4 address, which may be hexadecimal or octal. -/
def part? : List Char → Option Nat
  | [] => none
  | '0' :: x :: rest =>
    if x = 'x' ∨ x = 'X' then number? 16 rest else number? 8 (x :: rest)
  | chars => number? 10 chars

/-- The numbers of an IPv4 address: a dot at the end is dropped. -/
def addressParts (chars : List Char) : List (List Char) :=
  let parts := Text.splitAt '.' chars
  if parts.getLast? = some [] then parts.dropLast else parts

/-- Whether a name must be read as an IPv4 address: its last label is a number. -/
def endsInNumber (chars : List Char) : Bool :=
  match (addressParts chars).getLast? with
  | none | some [] => false
  | some last => last.all (fun c => '0' ≤ c && c ≤ '9') || (part? last).isSome

/-- The IPv4 address that a name spells. Every number but the last one is a byte; the last one
fills the bytes that are left. -/
def ipv4? (chars : List Char) : Option Nat :=
  let parts := addressParts chars
  if 4 < parts.length then none
  else
    match parts.mapM part? with
    | none => none
    | some numbers =>
      match numbers.getLast?, numbers.dropLast with
      | none, _ => none
      | some last, front =>
        if front.all (· < 256) ∧ last < Nat.pow 256 (4 - front.length) then
          some ((front.foldl (fun n b => n * 256 + b) 0) * Nat.pow 256 (4 - front.length) + last)
        else none

/-- The hexadecimal digits at the start, up to four of them. -/
def pieceDigits (chars : List Char) : List Char :=
  (chars.take 4).takeWhile fun c => (Url.hexValue? c).isSome

/-- Up to four hexadecimal digits, at least one of them, and what follows. -/
def piece? (chars : List Char) : Option (Nat × List Char) :=
  if pieceDigits chars = [] then none
  else (number? 16 (pieceDigits chars)).map fun n => (n, chars.drop (pieceDigits chars).length)

theorem length_piece_lt {chars rest : List Char} {n : Nat} (h : piece? chars = some (n, rest)) :
    rest.length < chars.length := by
  unfold piece? at h
  split at h
  · simp at h
  · rename_i hne
    obtain ⟨m, _, hm⟩ := Option.map_eq_some_iff.1 h
    simp only [Prod.mk.injEq] at hm
    have hd : 0 < (pieceDigits chars).length := List.length_pos_iff.2 hne
    have hl : (pieceDigits chars).length ≤ (chars.take 4).length :=
      (List.takeWhile_sublist _).length_le
    rw [← hm.2, List.length_drop]
    simp only [List.length_take] at hl
    omega

/-- A decimal byte without a zero in front. -/
def byte? (chars : List Char) : Option Nat :=
  if chars = [] ∨ (1 < chars.length ∧ chars.head? = some '0') then none
  else (number? 10 chars).bind fun n => if n < 256 then some n else none

/-- The two pieces that an IPv4 address at the end of an IPv6 address fills. -/
def embedded? (chars : List Char) : Option (List Nat) :=
  match (Text.splitAt '.' chars).mapM byte? with
  | some [a, b, c, d] => some [a * 256 + b, c * 256 + d]
  | _ => none

/-- The pieces of an address from `chars` on, behind `seen` (last first); `gap` is where a double
colon stood. -/
def pieces? (seen : List Nat) (gap : Option Nat) (chars : List Char) :
    Option (List Nat × Option Nat) :=
  if chars = [] then some (seen.reverse, gap)
  else if 8 ≤ seen.length then none
  else if chars.head? = some ':' then
    if gap.isSome then none else pieces? seen (some seen.length) chars.tail
  else
    match _ : piece? chars with
    | none => none
    | some (n, []) => some ((n :: seen).reverse, gap)
    | some (n, ':' :: rest) => if rest = [] then none else pieces? (n :: seen) gap rest
    | some (_, '.' :: _) =>
      if seen.length ≤ 6 then (embedded? chars).map fun ps => (seen.reverse ++ ps, gap)
      else none
    | some _ => none
termination_by chars.length
decreasing_by
  · rename_i hne _ _ _
    have := List.length_pos_iff.2 hne
    rw [List.length_tail]
    omega
  · have := length_piece_lt ‹_›
    simp only [List.length_cons] at this
    omega

/-- The IPv6 address that the text between brackets spells. -/
def ipv6? (chars : List Char) : Option (List Nat) :=
  let start := match chars with
    | ':' :: ':' :: rest => pieces? [] (some 0) rest
    | ':' :: _ => none
    | _ => pieces? [] none chars
  match start with
  | none => none
  | some (ps, none) => if ps.length = 8 then some ps else none
  | some (ps, some gap) =>
    if ps.length < 8 then
      some (ps.take gap ++ List.replicate (8 - ps.length) 0 ++ ps.drop gap)
    else none

/-- The length of the run of zeros at the start. -/
def zeros (pieces : List Nat) : Nat := (pieces.takeWhile (· = 0)).length

/-- Where the first of the longest runs of at least two zeros starts, and its length, among the
pieces from the place `i` on. -/
def longestRun (i : Nat) : List Nat → Option (Nat × Nat)
  | [] => none
  | p :: rest =>
    let here := zeros (p :: rest)
    match longestRun (i + 1) rest with
    | some (j, n) => if n ≤ here then some (i, here) else some (j, n)
    | none => if 2 ≤ here then some (i, here) else none

def piecesText (pieces : List Nat) : List Char :=
  [':'].intercalate (pieces.map (Nat.toDigits 16))

def text : Host → String
  | .empty => ""
  | .domain name => name
  | .ipv4 a =>
    ".".intercalate
      [toString (a / 0x1000000), toString (a / 0x10000 % 256), toString (a / 0x100 % 256),
        toString (a % 256)]
  | .ipv6 ps =>
    let shown := match longestRun 0 ps with
      | some (i, n) => piecesText (ps.take i) ++ ':' :: ':' :: piecesText (ps.drop (i + n))
      | none => piecesText ps
    "[" ++ String.ofList shown ++ "]"

/-- Whether the host is the machine itself. -/
def isLoopback : Host → Bool
  | .empty => false
  | .domain name => name = "localhost"
  | .ipv4 a => a / 0x1000000 = 127
  | .ipv6 ps => ps = [0, 0, 0, 0, 0, 0, 0, 1]

/-- The address between brackets, when a host starts with one. -/
def bracketed? : List Char → Option (Except UrlError Host)
  | '[' :: rest =>
    if rest.getLast? = some ']' then
      match ipv6? rest.dropLast with
      | some ps => some (.ok (.ipv6 ps))
      | none => some (.error .ipv6)
    else some (.error .ipv6)
  | _ => none

/-- The host of a URL whose scheme has names and addresses for hosts. -/
def ofChars (chars : List Char) : Except UrlError Host :=
  match bracketed? chars with
  | some result => result
  | none =>
    match (Utf8.chars? (Url.percentDecode chars)).bind Url.Domain.toAscii? with
    | none => .error .internationalName
    | some [] => .error .emptyHost
    | some name =>
      if endsInNumber name then
        match ipv4? name with
        | some a => .ok (.ipv4 a)
        | none => .error .ipv4
      else .ok (.domain (String.ofList name))

def forbidden : List Char :=
  ['\x00', '\t', '\n', '\r', ' ', '#', '/', ':', '<', '>', '?', '@', '[', '\\', ']', '^', '|']

/-- The host of a URL of another scheme: any text without the forbidden characters. -/
def opaqueOfChars (chars : List Char) : Except UrlError Host :=
  match bracketed? chars with
  | some result => result
  | none =>
    if chars = [] then .ok .empty
    else if chars.any forbidden.contains then .error .domainCharacter
    else .ok (.domain (String.ofList (Url.percentEncode Url.EncodeSet.controls chars)))

end Host

end TenantLink
