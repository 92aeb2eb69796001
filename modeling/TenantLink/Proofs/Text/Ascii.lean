import TenantLink.Text.Utf8

/-!
# ASCII characters, and the bytes of longer ones

What holds of each ASCII character can be tried out. All bytes of a longer character are above
those of ASCII, so a class of bytes is the class of characters that `IsBytewise` says.
-/

namespace TenantLink

/-- What holds of each ASCII character can be tried out. -/
theorem forall_ascii {P : Char → Prop} (each : ∀ v < 128, P (Char.ofNat v)) {c : Char}
    (short : c.toNat < 128) : P c := by
  have here := each c.toNat short
  rwa [c.ofNat_toNat] at here

theorem isAlphanum_short {c : Char} (alphanumeric : c.isAlphanum = true) : c.toNat < 128 := by
  have classes : c.isAlphanum = ((decide (c.val ≥ 'A'.val ∧ c.val ≤ 'Z'.val) ||
      c.val ≥ 'a'.val && c.val ≤ 'z'.val) || c.val ≥ '0'.val && c.val ≤ '9'.val) := rfl
  have upper : 'Z'.val.toNat = 90 := rfl
  have lower : 'z'.val.toNat = 122 := rfl
  have digit : '9'.val.toNat = 57 := rfl
  rw [classes] at alphanumeric
  simp only [Bool.or_eq_true, Bool.and_eq_true, decide_eq_true_eq, ge_iff_le,
    UInt32.le_iff_toNat_le] at alphanumeric
  unfold Char.toNat
  omega

/-- Each ASCII character is in `q` if its byte is in `p`. All longer characters are in `q`, and so
are all of their bytes in `p`, or none of them is. -/
structure IsBytewise (p : UInt8 → Bool) (q : Char → Bool) (longer : Bool) : Prop where
  one : ∀ v < 128, p (UInt8.ofNat v) = q (Char.ofNat v)
  bytes : ∀ n < 128, p (UInt8.ofNat (n + 128)) = longer
  char : ∀ c : Char, 127 < c.toNat → q c = longer

namespace IsBytewise

variable {p : UInt8 → Bool} {q : Char → Bool} {longer : Bool}

theorem byte (h : IsBytewise p q longer) {n : Nat} (least : 128 ≤ n) (most : n < 256) :
    p (UInt8.ofNat n) = longer := by
  have here := h.bytes (n - 128) (by omega)
  rwa [Nat.sub_add_cancel least] at here

theorem all_utf8EncodeChar (h : IsBytewise p q longer) (c : Char) :
    (String.utf8EncodeChar c).all p = q c := by
  have value : c.val.toNat = c.toNat := rfl
  have same : Char.ofNat c.toNat = c := c.ofNat_toNat
  unfold String.utf8EncodeChar
  dsimp only
  rw [value]
  split
  next most =>
    rw [List.all_cons, List.all_nil, Bool.and_true, h.one _ (Nat.lt_succ_of_le most), same]
  next long =>
    rw [h.char c (Nat.lt_of_not_le long)]
    split
    · simp only [List.all_cons, List.all_nil, Bool.and_true]
      rw [h.byte (by omega) (by omega), h.byte (by omega) (by omega), Bool.and_self]
    · split
      · simp only [List.all_cons, List.all_nil, Bool.and_true]
        rw [h.byte (by omega) (by omega), h.byte (by omega) (by omega),
          h.byte (by omega) (by omega), Bool.and_self, Bool.and_self]
      · simp only [List.all_cons, List.all_nil, Bool.and_true]
        rw [h.byte (by omega) (by omega), h.byte (by omega) (by omega),
          h.byte (by omega) (by omega), h.byte (by omega) (by omega), Bool.and_self,
          Bool.and_self, Bool.and_self]

theorem all_encode (h : IsBytewise p q longer) (text : String) :
    (Utf8.encode text).all p = text.toList.all q := by
  rw [Utf8.encode, Utf8.encodeChars, List.all_flatMap]
  exact congrArg text.toList.all (funext h.all_utf8EncodeChar)

end IsBytewise

end TenantLink
