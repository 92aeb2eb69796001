/-!
# Bytes and text

`Utf8.encode` writes text as bytes. `Utf8.parts` cuts any byte string into characters and
ill-formed stretches; `Utf8.decode?` refuses the latter and `Utf8.decodeLossy` replaces each of
them by one U+FFFD.
-/

namespace TenantLink

/-- A string of bytes, as it comes from or goes to the wire. -/
abbrev Bytes := List UInt8

namespace Utf8

def encodeChars (chars : List Char) : Bytes := chars.flatMap String.utf8EncodeChar

def encode (text : String) : Bytes := encodeChars text.toList

def isTail (b : UInt8) : Bool := 0x80 ≤ b && b ≤ 0xBF

/-- Whether `b` may come second after the lead byte `lead` of a longer character: the ranges
that keep out overlong forms, surrogates and values above U+10FFFF. -/
def isSecond (lead b : UInt8) : Bool :=
  if lead = 0xE0 then 0xA0 ≤ b && b ≤ 0xBF
  else if lead = 0xED then 0x80 ≤ b && b ≤ 0x9F
  else if lead = 0xF0 then 0x90 ≤ b && b ≤ 0xBF
  else if lead = 0xF4 then 0x80 ≤ b && b ≤ 0x8F
  else isTail b

def tailBits (b : UInt8) : Nat := b.toNat % 64

/-- The first part of `b :: rest`, a character or `none` for an ill-formed stretch, and what
follows it. An ill-formed stretch is the longest start of a character, or a single byte. -/
def part (b : UInt8) (rest : Bytes) : Option Char × Bytes :=
  if b < 0x80 then (some (Char.ofNat b.toNat), rest)
  else if b < 0xC2 then (none, rest)
  else if b < 0xE0 then
    match rest with
    | c :: rest' =>
      if isTail c then (some (Char.ofNat (b.toNat % 32 * 64 + tailBits c)), rest')
      else (none, rest)
    | [] => (none, [])
  else if b < 0xF0 then
    match rest with
    | c :: rest' =>
      if isSecond b c then
        match rest' with
        | d :: rest'' =>
          if isTail d then
            (some (Char.ofNat ((b.toNat % 16 * 64 + tailBits c) * 64 + tailBits d)), rest'')
          else (none, rest')
        | [] => (none, [])
      else (none, rest)
    | [] => (none, [])
  else if b < 0xF5 then
    match rest with
    | c :: rest' =>
      if isSecond b c then
        match rest' with
        | d :: rest'' =>
          if isTail d then
            match rest'' with
            | e :: rest''' =>
              if isTail e then
                (some (Char.ofNat
                  (((b.toNat % 8 * 64 + tailBits c) * 64 + tailBits d) * 64 + tailBits e)), rest''')
              else (none, rest'')
            | [] => (none, [])
          else (none, rest')
        | [] => (none, [])
      else (none, rest)
    | [] => (none, [])
  else (none, rest)

theorem length_part_le (b : UInt8) (rest : Bytes) : (part b rest).2.length ≤ rest.length := by
  unfold part
  repeat' split
  all_goals simp
  all_goals omega

/-- `parts` with the parts found so far, last first. -/
def partsLoop (found : List (Option Char)) : Bytes → List (Option Char)
  | [] => found.reverse
  | b :: rest =>
    let next := part b rest
    partsLoop (next.1 :: found) next.2
termination_by bytes => bytes.length
decreasing_by
  have := length_part_le b rest
  simp only [List.length_cons]
  omega

/-- The characters and ill-formed stretches of a byte string, in order. -/
def parts (bytes : Bytes) : List (Option Char) := partsLoop [] bytes

def chars? (bytes : Bytes) : Option (List Char) := (parts bytes).mapM id

def decode? (bytes : Bytes) : Option String := (chars? bytes).map String.ofList

/-- The text of a byte string, with U+FFFD for each ill-formed stretch. -/
def decodeLossy (bytes : Bytes) : String :=
  String.ofList ((parts bytes).map fun c => c.getD (Char.ofNat 0xFFFD))

end Utf8

end TenantLink
