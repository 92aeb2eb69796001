import TenantLink.Http.Header
import TenantLink.Proofs.Text.Ascii

/-!
# Fields that are put in and taken out

Which texts can stand in a field and which can be read back from one (`HeaderValue.ascii?_ofText?`),
and what inserting, appending and removing a header field does to the values of each name.
-/

namespace TenantLink

/-- Whether a character may stand in a header value: a tab, or no control character. -/
def isHeaderChar (c : Char) : Bool := c = '\t' || (0x20 ≤ c.toNat && c.toNat ≠ 0x7F)

/-- Whether a character is a visible ASCII character, a space or a tab. -/
def isVisibleChar (c : Char) : Bool := c = '\t' || (0x20 ≤ c.toNat && c.toNat < 0x7F)

/-- No byte of a longer character is forbidden. -/
theorem isHeaderByte_bytewise : IsBytewise isHeaderByte isHeaderChar true where
  one := by decide
  bytes := by decide
  char := by
    intro c long
    unfold isHeaderChar
    simp only [Bool.or_eq_true, Bool.and_eq_true, decide_eq_true_eq]
    exact .inr ⟨by omega, by omega⟩

theorem all_encode (text : String) :
    (Utf8.encode text).all isHeaderByte = text.toList.all isHeaderChar :=
  isHeaderByte_bytewise.all_encode text

namespace HeaderValue

theorem ofText?_isSome (text : String) :
    (ofText? text).isSome = (Utf8.encode text).all isHeaderByte := by
  rw [ofText?, ofBytes?]
  split
  next legal => exact legal.symm
  next illegal => exact (Bool.eq_false_iff.mpr illegal).symm

/-! ### Reading a value as text -/

theorem isVisibleChar_bytewise :
    IsBytewise (fun b => b = 0x09 || (0x20 ≤ b && b < 0x7F)) isVisibleChar false where
  one := by decide
  bytes := by decide
  char := by
    intro c long
    have tab : c ≠ '\t' := by
      rintro rfl
      exact absurd long (by decide)
    unfold isVisibleChar
    rw [Bool.or_eq_false_iff, Bool.and_eq_false_iff]
    exact ⟨decide_eq_false tab, .inr (decide_eq_false (by omega))⟩

theorem isHeaderChar_of_isVisibleChar {c : Char} (visible : isVisibleChar c = true) :
    isHeaderChar c = true := by
  unfold isVisibleChar at visible
  unfold isHeaderChar
  simp only [Bool.or_eq_true, Bool.and_eq_true, decide_eq_true_eq] at visible ⊢
  exact visible.imp_right fun ⟨least, most⟩ => ⟨least, Nat.ne_of_lt most⟩

theorem utf8EncodeChar_of_isVisibleChar {c : Char} (visible : isVisibleChar c = true) :
    (String.utf8EncodeChar c).map (fun b => Char.ofNat b.toNat) = [c] := by
  have short : c.toNat ≤ 127 := by
    refine Nat.le_of_not_lt fun long => ?_
    rw [isVisibleChar_bytewise.char c long] at visible
    cases visible
  have value : c.val.toNat = c.toNat := rfl
  unfold String.utf8EncodeChar
  dsimp only
  rw [value, if_pos short, List.map_cons,
    UInt8.toNat_ofNat_of_lt' (Nat.lt_of_le_of_lt short (by decide)), c.ofNat_toNat]
  rfl

theorem encodeChars_of_isVisibleChar {chars : List Char}
    (visible : chars.all isVisibleChar = true) :
    (Utf8.encodeChars chars).map (fun b => Char.ofNat b.toNat) = chars := by
  induction chars with
  | nil => rfl
  | cons c rest ih =>
    rw [List.all_cons, Bool.and_eq_true] at visible
    rw [Utf8.encodeChars, List.flatMap_cons, List.map_append,
      utf8EncodeChar_of_isVisibleChar visible.1]
    exact congrArg (c :: ·) (ih visible.2)

/-- A text is read back from its header value if all its characters are visible, and otherwise
nothing is. -/
theorem ascii?_ofText? (text : String) :
    (ofText? text).bind ascii? = if text.toList.all isVisibleChar then some text else none := by
  have ascii : ∀ legal, (⟨Utf8.encode text, legal⟩ : HeaderValue).isAscii =
      text.toList.all isVisibleChar := fun _ => isVisibleChar_bytewise.all_encode text
  rw [ofText?, ofBytes?]
  split
  next legal =>
    rw [Option.bind_some, ascii?, ascii]
    split
    next visible =>
      have same := encodeChars_of_isVisibleChar visible
      exact congrArg some ((congrArg String.ofList same).trans String.ofList_toList)
    next => rfl
  next illegal =>
    rw [Option.bind_none, if_neg]
    intro visible
    rw [all_encode] at illegal
    exact illegal (List.all_eq_true.mpr fun c member =>
      isHeaderChar_of_isVisibleChar (List.all_eq_true.mp visible c member))

end HeaderValue

namespace Headers

variable {headers : Headers} {name other : HeaderName} {value : HeaderValue}

theorem getAll_append (name : HeaderName) :
    (headers.append other value).getAll name =
      headers.getAll name ++ if other = name then [value] else [] := by
  unfold append getAll
  rw [List.filter_append, List.map_append, List.filter_cons]
  by_cases same : other = name
  · simp [same]
  · simp [same]

theorem getAll_remove_of_ne (different : other ≠ name) :
    (headers.remove other).getAll name = headers.getAll name := by
  unfold remove getAll
  rw [List.filter_filter]
  congr 1
  apply List.filter_congr
  intro field _
  by_cases same : field.1 = name
  · simp [same, Ne.symm different]
  · simp [same]

theorem getAll_remove_self : (headers.remove name).getAll name = [] := by
  unfold remove getAll
  rw [List.filter_filter, List.map_eq_nil_iff, List.filter_eq_nil_iff]
  intro field _
  simp

/-- What is inserted is the only value of its name. -/
theorem getAll_insert_self : (headers.insert name value).getAll name = [value] := by
  have added : ((headers.remove name).append name value).getAll name = _ := getAll_append name
  rw [getAll_remove_self, if_pos rfl] at added
  exact added

theorem getAll_insert_of_ne (different : other ≠ name) :
    (headers.insert other value).getAll name = headers.getAll name := by
  have added : ((headers.remove other).append other value).getAll name = _ := getAll_append name
  rw [getAll_remove_of_ne different, if_neg different, List.append_nil] at added
  exact added

theorem remove_append_self : (headers.append name value).remove name = headers.remove name := by
  unfold append remove
  rw [List.filter_append, List.filter_cons_of_neg (by simp), List.filter_nil, List.append_nil]

theorem remove_remove_self : (headers.remove name).remove name = headers.remove name := by
  unfold remove
  rw [List.filter_filter]
  simp

theorem remove_insert_self : (headers.insert name value).remove name = headers.remove name :=
  remove_append_self.trans remove_remove_self

theorem remove_comm (headers : Headers) (name other : HeaderName) :
    (headers.remove name).remove other = (headers.remove other).remove name := by
  unfold remove
  rw [List.filter_filter, List.filter_filter]
  congr 1
  funext field
  exact Bool.and_comm _ _

theorem remove_insert_of_ne (different : name ≠ other) :
    (headers.insert name value).remove other = (headers.remove other).insert name value := by
  have kept : [(name, value)].filter (·.1 ≠ other) = [(name, value)] :=
    List.filter_cons_of_pos (decide_eq_true different)
  calc (headers.insert name value).remove other
    _ = (headers.remove name).remove other ++ [(name, value)].filter (·.1 ≠ other) :=
      List.filter_append ..
    _ = (headers.remove other).remove name ++ [(name, value)] := by rw [remove_comm, kept]

theorem insert_insert_self (last : HeaderValue) :
    (headers.insert name value).insert name last = headers.insert name last :=
  congrArg (· ++ [(name, last)]) remove_insert_self

end Headers

end TenantLink
