import TenantLink.Json.Document

/-!
# The grammar of JSON texts

Which bytes spell which document, production by production as in RFC 8259. The grammar knows no
limits: arrays and objects are nested as deep as one likes, numbers are as large, and a name may
occur twice.
-/

namespace TenantLink.Json

/-- White space. -/
def IsBlank (bytes : Bytes) : Prop := ∀ b ∈ bytes, b = 0x20 ∨ b = 0x09 ∨ b = 0x0A ∨ b = 0x0D

/-! ### Numbers -/

def IsDigits (ds : List Nat) : Prop := ∀ d ∈ ds, d ≤ 9

def digitBytes (ds : List Nat) : Bytes := ds.map fun d => UInt8.ofNat (0x30 + d)

/-- A zero, or digits of which the first is none. -/
inductive SpellsWhole : List Nat → Bytes → Prop
  | zero : SpellsWhole [0] [0x30]
  | positive {d : Nat} {ds : List Nat} : 0 < d → IsDigits (d :: ds) →
    SpellsWhole (d :: ds) (digitBytes (d :: ds))

inductive SpellsFraction : Option (List Nat) → Bytes → Prop
  | absent : SpellsFraction none []
  | point {ds : List Nat} : ds ≠ [] → IsDigits ds →
    SpellsFraction (some ds) (0x2E :: digitBytes ds)

/-- The sign of an exponent. -/
inductive SpellsSign : Bool → Bytes → Prop
  | absent : SpellsSign false []
  | plus : SpellsSign false [0x2B]
  | minus : SpellsSign true [0x2D]

inductive SpellsExponent : Option (Bool × List Nat) → Bytes → Prop
  | absent : SpellsExponent none []
  | power {mark : UInt8} {negative : Bool} {sign : Bytes} {ds : List Nat} :
    mark = 0x65 ∨ mark = 0x45 → SpellsSign negative sign → ds ≠ [] → IsDigits ds →
    SpellsExponent (some (negative, ds)) (mark :: (sign ++ digitBytes ds))

/-- The part of a number behind its sign. -/
inductive SpellsUnsigned (negative : Bool) : NumberText → Bytes → Prop
  | parts {whole : List Nat} {fraction : Option (List Nat)} {exponent : Option (Bool × List Nat)}
    {w f e : Bytes} : SpellsWhole whole w → SpellsFraction fraction f →
    SpellsExponent exponent e →
    SpellsUnsigned negative ⟨negative, whole, fraction, exponent⟩ (w ++ (f ++ e))

inductive SpellsNumber : NumberText → Bytes → Prop
  | positive {n : NumberText} {bytes : Bytes} : SpellsUnsigned false n bytes → SpellsNumber n bytes
  | negative {n : NumberText} {bytes : Bytes} : SpellsUnsigned true n bytes →
    SpellsNumber n (0x2D :: bytes)

/-! ### Strings -/

/-- The letters that stand behind a backslash, each for a character. -/
def shortEscapes : List (UInt8 × Char) :=
  [(0x22, '"'), (0x5C, '\\'), (0x2F, '/'), (0x62, '\x08'), (0x66, '\x0c'), (0x6E, '\n'),
    (0x72, '\r'), (0x74, '\t')]

inductive SpellsHex : Nat → UInt8 → Prop
  | digit {n : Nat} : n ≤ 9 → SpellsHex n (UInt8.ofNat (0x30 + n))
  | upper {n : Nat} : 10 ≤ n → n ≤ 15 → SpellsHex n (UInt8.ofNat (0x37 + n))
  | lower {n : Nat} : 10 ≤ n → n ≤ 15 → SpellsHex n (UInt8.ofNat (0x57 + n))

/-- What stands between the quotes of a string. -/
inductive SpellsPieces : List Piece → Bytes → Prop
  | nil : SpellsPieces [] []
  /-- A character as it is, unless it is a control character, a quote or a backslash. -/
  | plain {c : Char} {pieces : List Piece} {bytes : Bytes} : 0x20 ≤ c.toNat → c ≠ '"' →
    c ≠ '\\' → SpellsPieces pieces bytes →
    SpellsPieces ((String.utf8EncodeChar c).map Piece.byte ++ pieces)
      (String.utf8EncodeChar c ++ bytes)
  | short {b : UInt8} {c : Char} {pieces : List Piece} {bytes : Bytes} : (b, c) ∈ shortEscapes →
    SpellsPieces pieces bytes → SpellsPieces (.char c :: pieces) (0x5C :: b :: bytes)
  | unit {a b c d : Nat} {a' b' c' d' : UInt8} {pieces : List Piece} {bytes : Bytes} :
    SpellsHex a a' → SpellsHex b b' → SpellsHex c c' → SpellsHex d d' →
    SpellsPieces pieces bytes →
    SpellsPieces (.unit (((a * 16 + b) * 16 + c) * 16 + d) :: pieces)
      (0x5C :: 0x75 :: a' :: b' :: c' :: d' :: bytes)

inductive SpellsString : List Piece → Bytes → Prop
  | quoted {pieces : List Piece} {bytes : Bytes} : SpellsPieces pieces bytes →
    SpellsString pieces (0x22 :: (bytes ++ [0x22]))

/-! ### Values -/

mutual

inductive SpellsValue : Document → Bytes → Prop
  | null : SpellsValue .null [0x6E, 0x75, 0x6C, 0x6C]
  | true : SpellsValue (.bool true) [0x74, 0x72, 0x75, 0x65]
  | false : SpellsValue (.bool false) [0x66, 0x61, 0x6C, 0x73, 0x65]
  | number {n : NumberText} {bytes : Bytes} : SpellsNumber n bytes → SpellsValue (.number n) bytes
  | string {pieces : List Piece} {bytes : Bytes} : SpellsString pieces bytes →
    SpellsValue (.string pieces) bytes
  | emptyArray {blank : Bytes} : IsBlank blank → SpellsValue (.array []) (0x5B :: (blank ++ [0x5D]))
  | array {items : List Document} {bytes : Bytes} : SpellsItems items bytes →
    SpellsValue (.array items) (0x5B :: (bytes ++ [0x5D]))
  | emptyObject {blank : Bytes} : IsBlank blank →
    SpellsValue (.object []) (0x7B :: (blank ++ [0x7D]))
  | object {members : List (List Piece × Document)} {bytes : Bytes} : SpellsMembers members bytes →
    SpellsValue (.object members) (0x7B :: (bytes ++ [0x7D]))

/-- A value between white space. -/
inductive SpellsText : Document → Bytes → Prop
  | padded {d : Document} {before bytes after : Bytes} : IsBlank before → SpellsValue d bytes →
    IsBlank after → SpellsText d (before ++ (bytes ++ after))

inductive SpellsItems : List Document → Bytes → Prop
  | last {d : Document} {bytes : Bytes} : SpellsText d bytes → SpellsItems [d] bytes
  | more {d : Document} {rest : List Document} {bytes later : Bytes} : SpellsText d bytes →
    SpellsItems rest later → SpellsItems (d :: rest) (bytes ++ 0x2C :: later)

inductive SpellsMember : List Piece × Document → Bytes → Prop
  | named {key : List Piece} {d : Document} {before name after bytes : Bytes} : IsBlank before →
    SpellsString key name → IsBlank after → SpellsText d bytes →
    SpellsMember (key, d) (before ++ (name ++ (after ++ 0x3A :: bytes)))

inductive SpellsMembers : List (List Piece × Document) → Bytes → Prop
  | last {m : List Piece × Document} {bytes : Bytes} : SpellsMember m bytes →
    SpellsMembers [m] bytes
  | more {m : List Piece × Document} {rest : List (List Piece × Document)} {bytes later : Bytes} :
    SpellsMember m bytes → SpellsMembers rest later →
    SpellsMembers (m :: rest) (bytes ++ 0x2C :: later)

end

/-! ### Texts without white space and escapes -/

theorem isBlank_nil : IsBlank [] := fun _ none => by cases none

theorem SpellsValue.text {d : Document} {bytes : Bytes} (h : SpellsValue d bytes) :
    SpellsText d bytes := by
  have padded := SpellsText.padded isBlank_nil h isBlank_nil
  rwa [List.nil_append, List.append_nil] at padded

/-- The pieces of a text in which nothing is escaped. -/
def plainPieces (text : String) : List Piece := (Utf8.encode text).map .byte

def quotedText (text : String) : Bytes := 0x22 :: (Utf8.encode text ++ [0x22])

/-- Whether a character may stand in a string as it is. -/
def isPlainChar (c : Char) : Bool := 0x20 ≤ c.toNat && c ≠ '"' && c ≠ '\\'

theorem spellsString_plain {text : String} (h : text.toList.all isPlainChar = true) :
    SpellsString (plainPieces text) (quotedText text) := by
  refine .quoted ?_
  unfold plainPieces Utf8.encode
  generalize text.toList = chars at h
  induction chars with
  | nil => exact .nil
  | cons c rest ih =>
    simp only [List.all_cons, Bool.and_eq_true, isPlainChar, decide_eq_true_eq] at h
    obtain ⟨⟨⟨least, quote⟩, slash⟩, later⟩ := h
    rw [Utf8.encodeChars, List.flatMap_cons, List.map_append]
    exact .plain least quote slash (ih (by simpa [isPlainChar] using later))

end TenantLink.Json
