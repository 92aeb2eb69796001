import TenantLink.Proofs.Text.Utf8

/-!
# The order of texts and of their bytes

A text comes before another exactly if its encoding does, byte by byte: `encode_lt_iff`.
-/

namespace TenantLink.Utf8

theorem byte_inj {n m : Nat} (small : n < 256) (small' : m < 256) :
    UInt8.ofNat n = UInt8.ofNat m ↔ n = m := by
  rw [← UInt8.toNat_inj, UInt8.toNat_ofNat_of_lt' small, UInt8.toNat_ofNat_of_lt' small']

/-- One byte before another decides, whatever follows them. -/
theorem cons_byte_lt {n m : Nat} (small : n < 256) (small' : m < 256) (rest more : Bytes) :
    UInt8.ofNat n :: rest < UInt8.ofNat m :: more ↔ n < m ∨ n = m ∧ rest < more := by
  rw [List.cons_lt_cons_iff, byte_lt m small small', byte_inj small small']

theorem digit_lt {v w : Nat} (base : Nat) (less : v < w) :
    v / base < w / base ∨ v / base = w / base ∧ v % base < w % base := by
  rcases Nat.lt_or_eq_of_le (Nat.div_le_div_right (c := base) (Nat.le_of_lt less)) with less' | same
  · exact .inl less'
  · have whole := Nat.div_add_mod v base
    have whole' := Nat.div_add_mod w base
    rw [same] at whole
    exact .inr ⟨same, by omega⟩

/-- The first of the digits of four bytes in which two numbers differ tells the lesser one. -/
theorem digits_lt {v w : Nat} (less : v < w) :
    v / 262144 < w / 262144 ∨
      v / 262144 = w / 262144 ∧ v / 4096 % 64 < w / 4096 % 64 ∨
      v / 4096 = w / 4096 ∧ v / 64 % 64 < w / 64 % 64 ∨
      v / 64 = w / 64 ∧ v % 64 < w % 64 := by
  rcases digit_lt 64 less with higher | last
  · rcases digit_lt 64 higher with higher | third
    · have second := digit_lt 64 higher
      simp only [Nat.div_div_eq_div_mul, Nat.reduceMul] at second
      exact second.imp_right .inl
    · simp only [Nat.div_div_eq_div_mul, Nat.reduceMul] at third
      exact .inr (.inr (.inl third))
  · exact .inr (.inr (.inr last))

/-- A longer encoding starts with a greater byte, and of two that are equally long the first byte
in which they differ decides, whatever follows. -/
theorem utf8EncodeChar_lt {c d : Char} (before : c < d) (rest more : Bytes) :
    String.utf8EncodeChar c ++ rest < String.utf8EncodeChar d ++ more := by
  have less : c.val.toNat < d.val.toNat := before
  have valid : d.val.toNat < 0x110000 := by
    rcases d.valid with low | high
    · exact Nat.lt_trans low (by decide)
    · exact high.2
  unfold String.utf8EncodeChar
  dsimp only
  generalize c.val.toNat = v, d.val.toNat = w at less valid
  have digits := digits_lt less
  have top : v / 262144 % 8 = v / 262144 := by omega
  have top' : w / 262144 % 8 = w / 262144 := by omega
  repeat' split
  all_goals
    simp (disch := omega) only [List.cons_append, List.nil_append, cons_byte_lt]
    omega

theorem encodeChars_lt {chars more : List Char} (before : chars < more) :
    encodeChars chars < encodeChars more := by
  induction before with
  | nil =>
    rename_i c rest
    show [] < String.utf8EncodeChar c ++ encodeChars rest
    cases bytes : String.utf8EncodeChar c with
    | nil => exact (String.utf8EncodeChar_ne_nil bytes).elim
    | cons b bytes => exact .nil
  | rel first => exact utf8EncodeChar_lt first _ _
  | cons _ ih => exact List.append_left_lt ih

theorem encode_lt_iff (s t : String) : encode s < encode t ↔ s < t := by
  rw [String.lt_iff]
  constructor
  · intro bytes
    rcases Std.lt_trichotomy s t with before | same | behind
    · exact String.lt_iff.mp before
    · subst same
      exact (List.lt_irrefl _ bytes).elim
    · exact (List.lt_asymm bytes (encodeChars_lt (String.lt_iff.mp behind))).elim
  · exact encodeChars_lt

end TenantLink.Utf8
