import TenantLink.Json.Printer
import TenantLink.Proofs.Json.Places
import TenantLink.Proofs.Text.Utf8

/-!
# Printing and reading back

A printed string spells the characters it was made from, those that are escaped included
(`spellsString_stringChars`, `text?_stringPieces`). So an object of texts in the order of their
names is read back from its bytes: `read?_texts`.
-/

namespace TenantLink.Json

/-! ### Pieces and the text they spell -/

/-- An escaped unit that stands alone, as the character it is. -/
def Piece.joined : Piece → Piece
  | .unit u => .char (Char.ofNat u)
  | p => p

theorem Piece.bytes_joined (p : Piece) : p.joined.bytes = p.bytes := by
  cases p <;> rfl

/-- Where no unit is half of a pair, each is a character of its own. -/
theorem joinUnits_of_units {pieces : List Piece} (units : ∀ u, .unit u ∈ pieces → u < 0xD800)
    (seen : List Piece) :
    joinUnits seen pieces = some (seen.reverse ++ pieces.map Piece.joined) := by
  fun_induction joinUnits seen pieces with
  | case1 => simp
  | case2 seen u v rest high | case3 seen u v rest high | case6 seen u rest _ high =>
    have single := units u List.mem_cons_self
    omega
  | case4 seen u v rest _ low =>
    have single := units u List.mem_cons_self
    omega
  | case5 seen u v rest _ _ ih | case7 seen u rest _ _ ih =>
    rw [ih fun w later => units w (List.mem_cons_of_mem _ later)]
    simp [Piece.joined]
  | case8 seen p rest _ noUnit ih =>
    have same : p.joined = p := by
      cases p with
      | unit u => exact (noUnit u rfl).elim
      | _ => rfl
    rw [ih fun w later => units w (List.mem_cons_of_mem _ later)]
    simp [same]

theorem text?_of_units {pieces : List Piece} (units : ∀ u, .unit u ∈ pieces → u < 0xD800)
    {chars : List Char} (bytes : pieces.flatMap Piece.bytes = Utf8.encodeChars chars) :
    text? pieces = some (String.ofList chars) := by
  have same : (pieces.map Piece.joined).flatMap Piece.bytes = pieces.flatMap Piece.bytes := by
    rw [List.flatMap_map]
    exact congrArg pieces.flatMap (funext Piece.bytes_joined)
  rw [text?, joinUnits_of_units units, List.reverse_nil, List.nil_append, Option.bind_some, same,
    bytes]
  exact Utf8.decode?_encodeChars chars

/-! ### Printed strings -/

/-- The characters that are escaped by a letter. -/
def lettered : List Char := ['"', '\\', '\x08', '\x0c', '\n', '\r', '\t']

/-- The pieces that a character is printed as. -/
def escapedPieces (c : Char) : List Piece :=
  if c ∈ lettered then [.char c]
  else if c.toNat < 0x20 then [.unit c.toNat]
  else (String.utf8EncodeChar c).map .byte

def stringPieces (s : String) : List Piece := s.toList.flatMap escapedPieces

theorem unit_of_mem_escaped {c : Char} {u : Nat} (member : .unit u ∈ escapedPieces c) :
    u < 0x20 := by
  unfold escapedPieces at member
  split at member
  · simp at member
  · split at member
    next control =>
      obtain rfl := Piece.unit.inj (List.mem_singleton.mp member)
      exact control
    next => simp at member

theorem bytes_escapedPieces (c : Char) :
    (escapedPieces c).flatMap Piece.bytes = String.utf8EncodeChar c := by
  unfold escapedPieces
  split
  · simp [Piece.bytes]
  · split
    · simp [Piece.bytes]
    · simp [List.flatMap_map, Piece.bytes]

theorem text?_stringPieces (s : String) : text? (stringPieces s) = some s := by
  have units : ∀ u, .unit u ∈ stringPieces s → u < 0xD800 := by
    intro u member
    obtain ⟨c, -, member⟩ := List.mem_flatMap.mp member
    exact Nat.lt_trans (unit_of_mem_escaped member) (by decide)
  have bytes : (stringPieces s).flatMap Piece.bytes = Utf8.encodeChars s.toList := by
    unfold stringPieces Utf8.encodeChars
    rw [List.flatMap_assoc]
    exact congrArg s.toList.flatMap (funext bytes_escapedPieces)
  rw [text?_of_units units bytes, String.ofList_toList]

theorem escaped_of_not_lettered {c : Char} (h : c ∉ lettered) :
    escaped c =
      if c.toNat < 0x20 then
        ['\\', 'u', '0', '0', hexChar (c.toNat / 16), hexChar (c.toNat % 16)]
      else [c] := by
  simp only [lettered, List.mem_cons, List.not_mem_nil, or_false, not_or] at h
  obtain ⟨quote, slash, bell, feed, line, carriage, tab⟩ := h
  rw [escaped, if_neg quote, if_neg slash, if_neg bell, if_neg feed, if_neg line,
    if_neg carriage, if_neg tab]

theorem spellsHex_hexChar {n : Nat} (h : n < 16) :
    ∃ b, Utf8.encodeChars [hexChar n] = [b] ∧ SpellsHex n b := by
  by_cases decimal : n ≤ 9
  · refine ⟨UInt8.ofNat (0x30 + n), ?_, .digit decimal⟩
    have all : ∀ n ≤ 9, Utf8.encodeChars [hexChar n] = [UInt8.ofNat (0x30 + n)] := by decide
    exact all n decimal
  · refine ⟨UInt8.ofNat (0x57 + n), ?_, .lower (by omega) (by omega)⟩
    have all : ∀ n < 16, 10 ≤ n → Utf8.encodeChars [hexChar n] = [UInt8.ofNat (0x57 + n)] := by
      decide
    exact all n h (by omega)

theorem spellsPieces_escaped (c : Char) {pieces : List Piece} {bytes : Bytes}
    (h : SpellsPieces pieces bytes) :
    SpellsPieces (escapedPieces c ++ pieces) (Utf8.encodeChars (escaped c) ++ bytes) := by
  unfold escapedPieces
  split
  next short =>
    simp only [lettered, List.mem_cons, List.not_mem_nil, or_false] at short
    rcases short with rfl | rfl | rfl | rfl | rfl | rfl | rfl <;> exact .short (by decide) h
  next other =>
    rw [escaped_of_not_lettered other]
    split
    next control =>
      obtain ⟨high, printed, spelled⟩ := spellsHex_hexChar (n := c.toNat / 16) (by omega)
      obtain ⟨low, printed', spelled'⟩ := spellsHex_hexChar (n := c.toNat % 16) (by omega)
      have value : ((0 * 16 + 0) * 16 + c.toNat / 16) * 16 + c.toNat % 16 = c.toNat := by omega
      have unit := SpellsPieces.unit (.digit (Nat.zero_le 9)) (.digit (Nat.zero_le 9)) spelled
        spelled' h
      rw [value] at unit
      have split : Utf8.encodeChars
          ['\\', 'u', '0', '0', hexChar (c.toNat / 16), hexChar (c.toNat % 16)] =
          [0x5C, 0x75, 0x30, 0x30] ++ (Utf8.encodeChars [hexChar (c.toNat / 16)] ++
            Utf8.encodeChars [hexChar (c.toNat % 16)]) := by
        rw [← Utf8.encodeChars_append]
        rfl
      rw [split, printed, printed']
      exact unit
    next printable =>
      have alone : Utf8.encodeChars [c] = String.utf8EncodeChar c := List.append_nil _
      simp only [lettered, List.mem_cons, not_or] at other
      rw [alone]
      exact .plain (Nat.not_lt.mp printable) other.1 other.2.1 h

theorem spellsString_stringChars (s : String) :
    SpellsString (stringPieces s) (Utf8.encodeChars (stringChars s)) := by
  have inner (chars : List Char) :
      SpellsPieces (chars.flatMap escapedPieces) (Utf8.encodeChars (chars.flatMap escaped)) := by
    induction chars with
    | nil => exact .nil
    | cons c rest ih =>
      rw [List.flatMap_cons, List.flatMap_cons, Utf8.encodeChars_append]
      exact spellsPieces_escaped c ih
  have quoted : Utf8.encodeChars (stringChars s) =
      0x22 :: (Utf8.encodeChars (s.toList.flatMap escaped) ++ [0x22]) := by
    rw [stringChars, List.cons_append, ← List.singleton_append, Utf8.encodeChars_append,
      Utf8.encodeChars_append]
    rfl
  rw [quoted]
  exact .quoted (inner s.toList)

/-! ### Objects of texts -/

/-- Members that are in order already. -/
theorem insertMember_last {sorted : List (String × Json)} {key : String}
    (last : ∀ m ∈ sorted, m.1 < key) (value : Json) :
    insertMember key value sorted = sorted ++ [(key, value)] := by
  induction sorted with
  | nil => rfl
  | cons m rest ih =>
    have before := last m List.mem_cons_self
    have different : key ≠ m.1 := fun same => String.lt_irrefl key (same ▸ before)
    rw [insertMember, if_neg (String.lt_asymm before), if_neg different,
      ih fun m' later => last m' (List.mem_cons_of_mem m later)]
    rfl

theorem ofMembers_of_inOrder {members : List (String × Json)} (h : InOrder members) :
    ofMembers members = .object members := by
  have step (done rest : List (String × Json)) (ordered : InOrder (done ++ rest)) :
      rest.foldl (fun sorted m => insertMember m.1 m.2 sorted) done = done ++ rest := by
    induction rest generalizing done with
    | nil => rw [List.append_nil, List.foldl_nil]
    | cons m rest ih =>
      have below : ∀ d ∈ done, d.1 < m.1 := fun d member =>
        (List.pairwise_append.mp ordered).2.2 d member m List.mem_cons_self
      rw [List.foldl_cons, insertMember_last below, ih, List.append_assoc, List.singleton_append]
      rwa [List.append_assoc]
  exact congrArg Json.object (step [] members h)

/-- An object whose members are all texts. -/
def texts (members : List (String × String)) : Json :=
  .object (members.map fun m => (m.1, .string m.2))

/-- A member of an object of texts, as it is printed. -/
def textMember (m : String × String) : Member := (stringPieces m.1, .string (stringPieces m.2))

theorem spellsMember_text (m : String × String) :
    SpellsMember (textMember m) (Utf8.encodeChars (memberChars (m.1, .string m.2))) := by
  have value := (SpellsValue.string (spellsString_stringChars m.2)).text
  have named := SpellsMember.named isBlank_nil (spellsString_stringChars m.1) isBlank_nil value
  have printed : Utf8.encodeChars (memberChars (m.1, .string m.2)) =
      Utf8.encodeChars (stringChars m.1) ++ 0x3A :: Utf8.encodeChars (stringChars m.2) := by
    rw [memberChars, Utf8.encodeChars_append]
    rfl
  rw [printed]
  exact named

theorem spellsMembers_texts (m : String × String) (rest : List (String × String)) :
    ∃ bytes, SpellsMembers ((m :: rest).map textMember) bytes ∧
      Utf8.encodeChars (memberChars (m.1, .string m.2) ++
        restMembers (rest.map fun m => (m.1, .string m.2))) = bytes ++ [0x7D] := by
  induction rest generalizing m with
  | nil =>
    refine ⟨_, .last (spellsMember_text m), ?_⟩
    rw [Utf8.encodeChars_append]
    rfl
  | cons next rest ih =>
    obtain ⟨bytes, spelled, printed⟩ := ih next
    have later : Utf8.encodeChars
        (restMembers ((next :: rest).map fun m => (m.1, .string m.2))) =
        0x2C :: (bytes ++ [0x7D]) := by
      rw [← printed]
      rfl
    refine ⟨_, .more (spellsMember_text m) spelled, ?_⟩
    rw [Utf8.encodeChars_append, later, List.append_assoc, List.cons_append]

theorem spellsText_texts (m : String × String) (rest : List (String × String)) :
    SpellsText (.object ((m :: rest).map textMember)) (texts (m :: rest)).bytes := by
  obtain ⟨bytes, spelled, printed⟩ := spellsMembers_texts m rest
  have object : (texts (m :: rest)).bytes = 0x7B :: (bytes ++ [0x7D]) := by
    rw [← printed]
    rfl
  rw [object]
  exact (SpellsValue.object spelled).text

theorem isReadable_texts (members : List (String × String)) :
    (Document.object (members.map textMember)).IsReadable := by
  have legible (s : String) : (text? (stringPieces s)).isSome := by
    rw [text?_stringPieces]
    rfl
  refine Document.throughout_object.mpr ⟨⟨fun m member => ?_, fun _ => by decide⟩, ?_⟩
  · obtain ⟨named, -, rfl⟩ := List.mem_map.mp member
    exact legible named.1
  · intro m member
    obtain ⟨named, -, rfl⟩ := List.mem_map.mp member
    exact (Document.throughout_scalar id).mpr ⟨legible named.2, False.elim⟩

theorem value?_texts {members : List (String × String)} (ordered : members.Pairwise (·.1 < ·.1)) :
    (Document.object (members.map textMember)).value? = some (texts members) := by
  have inOrder : InOrder (members.map fun m => (m.1, Json.string m.2)) :=
    List.pairwise_map.mpr ordered
  refine Document.value?_object.mpr ⟨_, (ofMembers_of_inOrder inOrder).symm, ?_⟩
  rw [List.map_map, List.map_map]
  refine List.map_congr_left fun m _ => memberValue_eq_some.mpr ⟨text?_stringPieces m.1, ?_⟩
  exact congrArg (Option.map Json.string) (text?_stringPieces m.2)

/-- An object of texts is read back as it was printed. -/
theorem read?_texts {m : String × String} {rest : List (String × String)}
    (ordered : (m :: rest).Pairwise (·.1 < ·.1)) :
    read? (texts (m :: rest)).bytes = some (texts (m :: rest)) := by
  obtain ⟨v, read, value⟩ := (read?_of_text (spellsText_texts m rest)).1 (isReadable_texts _)
  rw [value?_texts ordered] at value
  rw [read, value]

end TenantLink.Json
