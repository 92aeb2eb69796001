import TenantLink.Proofs.Results
import TenantLink.Text.Utf8

/-!
# Text that is encoded and decoded

The bytes of a character are one part, which is that character (`part_encode`). So a text is read
back from its encoding: `decode?_encodeChars`.
-/

namespace TenantLink.Utf8

/-! ### Bytes -/

theorem byte_lt {n : Nat} (m : Nat) (small : n < 256) (small' : m < 256) :
    UInt8.ofNat n < UInt8.ofNat m ↔ n < m := by
  rw [UInt8.lt_iff_toNat_lt, UInt8.toNat_ofNat_of_lt' small, UInt8.toNat_ofNat_of_lt' small']

theorem isTail_byte {n : Nat} (small : n < 64) : isTail (UInt8.ofNat (n + 128)) = true := by
  have inside : ∀ n < 64, isTail (UInt8.ofNat (n + 128)) = true := by decide
  exact inside n small

theorem tailBits_byte {n : Nat} (small : n < 64) : tailBits (UInt8.ofNat (n + 128)) = n := by
  unfold tailBits
  rw [UInt8.toNat_ofNat_of_lt' (by unfold UInt8.size; omega)]
  omega

/-- A character that takes three bytes is no overlong form and no surrogate. -/
theorem isSecond_three {v : Nat} (least : 2048 ≤ v) (most : v < 65536)
    (valid : v < 0xD800 ∨ 0xDFFF < v) :
    isSecond (UInt8.ofNat (v / 4096 % 16 + 224)) (UInt8.ofNat (v / 64 % 64 + 128)) = true := by
  have inside : ∀ lead < 16, ∀ second < 64, 32 ≤ lead * 64 + second →
      (lead = 13 → second < 32) →
      isSecond (UInt8.ofNat (lead + 224)) (UInt8.ofNat (second + 128)) = true := by decide
  exact inside _ (by omega) _ (by omega) (by omega) (by omega)

/-- A character that takes four bytes is no overlong form, and not above the last one. -/
theorem isSecond_four {v : Nat} (least : 65536 ≤ v) (most : v < 0x110000) :
    isSecond (UInt8.ofNat (v / 262144 % 8 + 240)) (UInt8.ofNat (v / 4096 % 64 + 128)) = true := by
  have inside : ∀ lead < 8, ∀ second < 64, 16 ≤ lead * 64 + second → lead * 64 + second < 272 →
      isSecond (UInt8.ofNat (lead + 240)) (UInt8.ofNat (second + 128)) = true := by decide
  exact inside _ (by omega) _ (by omega) (by omega) (by omega)

/-! ### One character -/

variable {v : Nat} (rest : Bytes)

theorem part_one (most : v ≤ 127) : part (UInt8.ofNat v) rest = (some (Char.ofNat v), rest) := by
  have small : v < 256 := by omega
  have ascii : UInt8.ofNat v < 0x80 := (byte_lt 0x80 small (by decide)).mpr (by omega)
  rw [part.eq_def, if_pos ascii, UInt8.toNat_ofNat_of_lt' small]

theorem part_two (least : 128 ≤ v) (most : v ≤ 2047) :
    part (UInt8.ofNat (v / 64 % 32 + 192)) (UInt8.ofNat (v % 64 + 128) :: rest) =
      (some (Char.ofNat v), rest) := by
  generalize lead : v / 64 % 32 + 192 = n
  have small : n < 256 := by omega
  have value : n % 32 * 64 + v % 64 = v := by omega
  have notOne : ¬ UInt8.ofNat n < 0x80 := mt (byte_lt 0x80 small (by decide)).mp (by omega)
  have legal : ¬ UInt8.ofNat n < 0xC2 := mt (byte_lt 0xC2 small (by decide)).mp (by omega)
  have two : UInt8.ofNat n < 0xE0 := (byte_lt 0xE0 small (by decide)).mpr (by omega)
  have second : v % 64 < 64 := Nat.mod_lt v (by decide)
  rw [part.eq_def, if_neg notOne, if_neg legal, if_pos two]
  dsimp only
  rw [if_pos (isTail_byte second), tailBits_byte second, UInt8.toNat_ofNat_of_lt' small, value]

theorem part_three (least : 2048 ≤ v) (most : v ≤ 65535) (valid : v < 0xD800 ∨ 0xDFFF < v) :
    part (UInt8.ofNat (v / 4096 % 16 + 224))
        (UInt8.ofNat (v / 64 % 64 + 128) :: UInt8.ofNat (v % 64 + 128) :: rest) =
      (some (Char.ofNat v), rest) := by
  have allowed := isSecond_three least (Nat.lt_succ_of_le most) valid
  generalize lead : v / 4096 % 16 + 224 = n at allowed
  have small : n < 256 := by omega
  have value : (n % 16 * 64 + v / 64 % 64) * 64 + v % 64 = v := by omega
  have notOne : ¬ UInt8.ofNat n < 0x80 := mt (byte_lt 0x80 small (by decide)).mp (by omega)
  have legal : ¬ UInt8.ofNat n < 0xC2 := mt (byte_lt 0xC2 small (by decide)).mp (by omega)
  have notTwo : ¬ UInt8.ofNat n < 0xE0 := mt (byte_lt 0xE0 small (by decide)).mp (by omega)
  have three : UInt8.ofNat n < 0xF0 := (byte_lt 0xF0 small (by decide)).mpr (by omega)
  have second : v / 64 % 64 < 64 := Nat.mod_lt _ (by decide)
  have third : v % 64 < 64 := Nat.mod_lt v (by decide)
  rw [part.eq_def, if_neg notOne, if_neg legal, if_neg notTwo, if_pos three]
  dsimp only
  rw [if_pos allowed, if_pos (isTail_byte third), tailBits_byte second, tailBits_byte third,
    UInt8.toNat_ofNat_of_lt' small, value]

theorem part_four (least : 65536 ≤ v) (most : v < 0x110000) :
    part (UInt8.ofNat (v / 262144 % 8 + 240))
        (UInt8.ofNat (v / 4096 % 64 + 128) :: UInt8.ofNat (v / 64 % 64 + 128) ::
          UInt8.ofNat (v % 64 + 128) :: rest) =
      (some (Char.ofNat v), rest) := by
  have allowed := isSecond_four least most
  have below : v / 262144 % 8 + 240 < 0xF5 := by omega
  generalize lead : v / 262144 % 8 + 240 = n at allowed below
  have small : n < 256 := by omega
  have value : ((n % 8 * 64 + v / 4096 % 64) * 64 + v / 64 % 64) * 64 + v % 64 = v := by omega
  have notOne : ¬ UInt8.ofNat n < 0x80 := mt (byte_lt 0x80 small (by decide)).mp (by omega)
  have legal : ¬ UInt8.ofNat n < 0xC2 := mt (byte_lt 0xC2 small (by decide)).mp (by omega)
  have notTwo : ¬ UInt8.ofNat n < 0xE0 := mt (byte_lt 0xE0 small (by decide)).mp (by omega)
  have notThree : ¬ UInt8.ofNat n < 0xF0 := mt (byte_lt 0xF0 small (by decide)).mp (by omega)
  have four : UInt8.ofNat n < 0xF5 := (byte_lt 0xF5 small (by decide)).mpr below
  have second : v / 4096 % 64 < 64 := Nat.mod_lt _ (by decide)
  have third : v / 64 % 64 < 64 := Nat.mod_lt _ (by decide)
  have fourth : v % 64 < 64 := Nat.mod_lt v (by decide)
  rw [part.eq_def, if_neg notOne, if_neg legal, if_neg notTwo, if_neg notThree, if_pos four]
  dsimp only
  rw [if_pos allowed, if_pos (isTail_byte third), if_pos (isTail_byte fourth),
    tailBits_byte second, tailBits_byte third, tailBits_byte fourth,
    UInt8.toNat_ofNat_of_lt' small, value]

/-- The bytes of a character are one part, whatever follows them. -/
theorem part_encode (c : Char) :
    ∃ b more, String.utf8EncodeChar c = b :: more ∧ part b (more ++ rest) = (some c, rest) := by
  have valid : c.toNat < 0xD800 ∨ 0xDFFF < c.toNat ∧ c.toNat < 0x110000 := c.valid
  have same : Char.ofNat c.toNat = c := c.ofNat_toNat
  have value : c.val.toNat = c.toNat := rfl
  unfold String.utf8EncodeChar
  dsimp only
  rw [value]
  generalize c.toNat = v at valid same
  subst same
  split
  next most => exact ⟨_, _, rfl, part_one rest most⟩
  next one =>
    split
    next most => exact ⟨_, _, rfl, part_two rest (by omega) most⟩
    next two =>
      split
      next most => exact ⟨_, _, rfl, part_three rest (by omega) most (by omega)⟩
      next three => exact ⟨_, _, rfl, part_four rest (by omega) (by omega)⟩

/-! ### Texts -/

theorem encodeChars_append (chars more : List Char) :
    encodeChars (chars ++ more) = encodeChars chars ++ encodeChars more :=
  List.flatMap_append

theorem partsLoop_encodeChars (found : List (Option Char)) (chars : List Char) :
    partsLoop found (encodeChars chars) = found.reverse ++ chars.map some := by
  induction chars generalizing found with
  | nil =>
    rw [List.map_nil, List.append_nil]
    exact partsLoop.eq_def found []
  | cons c chars ih =>
    obtain ⟨b, more, bytes, part⟩ := part_encode (encodeChars chars) c
    have later : encodeChars (c :: chars) = b :: (more ++ encodeChars chars) := by
      rw [encodeChars, List.flatMap_cons, bytes]
      rfl
    rw [later, partsLoop, part, ih, List.reverse_cons, List.append_assoc]
    rfl

/-- What is encoded is decoded to the same text. -/
theorem decode?_encodeChars (chars : List Char) :
    decode? (encodeChars chars) = some (String.ofList chars) := by
  have whole : (chars.map some).mapM id = some chars := mapM_eq_some.mpr (List.map_id _)
  unfold decode? chars? parts
  rw [partsLoop_encodeChars, List.reverse_nil, List.nil_append, whole]
  rfl

theorem decodeLossy_encodeChars (chars : List Char) :
    decodeLossy (encodeChars chars) = String.ofList chars := by
  have whole : (chars.map some).map (fun c => c.getD (Char.ofNat 0xFFFD)) = chars := by
    rw [List.map_map]
    exact List.map_id chars
  unfold decodeLossy parts
  rw [partsLoop_encodeChars, List.reverse_nil, List.nil_append, whole]

end TenantLink.Utf8
