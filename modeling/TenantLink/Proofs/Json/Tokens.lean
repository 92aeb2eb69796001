import TenantLink.Proofs.Json.Grammar

/-!
# The tokens of a text

Bytes that spell a document are cut into the tokens of that document: `tokens?_of_text`. A number
ends where a byte comes that cannot go on with it, and inside a text there always is one.
-/

namespace TenantLink.Json

/-! ### The tokens of a document -/

mutual

def Document.tokens : Document → List Token
  | .null => [.null]
  | .bool b => [.bool b]
  | .number n => [.number n]
  | .string pieces => [.string pieces]
  | .array items => .openArray :: (itemTokens items ++ [.closeArray])
  | .object members => .openObject :: (memberTokens members ++ [.closeObject])

def itemTokens : List Document → List Token
  | [] => []
  | d :: rest => d.tokens ++ restItemTokens rest

/-- The items behind the first one, each with the comma before it. -/
def restItemTokens : List Document → List Token
  | [] => []
  | d :: rest => .comma :: (d.tokens ++ restItemTokens rest)

def memberTokens : List (List Piece × Document) → List Token
  | [] => []
  | m :: rest => namedTokens m ++ restMemberTokens rest

def restMemberTokens : List (List Piece × Document) → List Token
  | [] => []
  | m :: rest => .comma :: (namedTokens m ++ restMemberTokens rest)

def namedTokens : List Piece × Document → List Token
  | (key, d) => .string key :: .colon :: d.tokens

end

/-! ### White space and single tokens -/

theorem tokensLoop_blank {blank : Bytes} (h : IsBlank blank) (seen : List Token) (rest : Bytes) :
    tokensLoop seen (blank ++ rest) = tokensLoop seen rest := by
  induction blank with
  | nil => rfl
  | cons b blank ih =>
    have space : isSpace b = true := by
      rcases h b List.mem_cons_self with rfl | rfl | rfl | rfl <;> rfl
    rw [List.cons_append, tokensLoop, if_pos space]
    exact ih fun b member => h b (List.mem_cons_of_mem _ member)

theorem tokensLoop_token {b : UInt8} {rest rest' : Bytes} {t : Token} (solid : isSpace b = false)
    (h : token? b rest = some (t, rest')) (seen : List Token) :
    tokensLoop seen (b :: rest) = tokensLoop (t :: seen) rest' := by
  rw [tokensLoop, if_neg (by simp [solid])]
  split
  next found =>
    rw [h] at found
    cases found
    rfl
  next none =>
    rw [h] at none
    cases none

theorem tokensLoop_punctuation {b : UInt8} {t : Token} (solid : isSpace b = false)
    (h : punctuation? b = some t) (seen : List Token) (rest : Bytes) :
    tokensLoop seen (b :: rest) = tokensLoop (t :: seen) rest := by
  refine tokensLoop_token solid ?_ seen
  unfold token?
  rw [h]

/-! ### Digits -/

theorem digit?_digitByte {d : Nat} (h : d ≤ 9) : digit? (UInt8.ofNat (0x30 + d)) = some d := by
  have all : ∀ d ≤ 9, digit? (UInt8.ofNat (0x30 + d)) = some d := by decide
  exact all d h

/-- What cannot go on with digits comes next, if anything. -/
def StopsDigits (rest : Bytes) : Prop := ∀ b ∈ rest.head?, digit? b = none

/-- What cannot go on with a number comes next, if anything. -/
def StopsNumber (rest : Bytes) : Prop :=
  ∀ b ∈ rest.head?, digit? b = none ∧ b ≠ 0x2E ∧ b ≠ 0x65 ∧ b ≠ 0x45

theorem StopsNumber.digits {rest : Bytes} (h : StopsNumber rest) : StopsDigits rest :=
  fun b next => (h b next).1

theorem stopsNumber_cons {b : UInt8}
    (other : digit? b = none ∧ b ≠ 0x2E ∧ b ≠ 0x65 ∧ b ≠ 0x45) (rest : Bytes) :
    StopsNumber (b :: rest) := by
  intro b' next
  obtain rfl : b = b' := Option.some.inj next
  exact other

theorem stopsNumber_blank {blank rest : Bytes} (h : IsBlank blank) (stops : StopsNumber rest) :
    StopsNumber (blank ++ rest) := by
  cases blank with
  | nil => exact stops
  | cons b blank =>
    refine stopsNumber_cons ?_ (blank ++ rest)
    rcases h b List.mem_cons_self with rfl | rfl | rfl | rfl <;> decide

theorem digits_of_stops {rest : Bytes} (stops : StopsDigits rest) (seen : List Nat) :
    digits seen rest = (seen.reverse, rest) := by
  cases rest with
  | nil => rfl
  | cons b rest => rw [digits, stops b rfl]

theorem digits_digitBytes {ds : List Nat} (h : IsDigits ds) {rest : Bytes}
    (stops : StopsDigits rest) (seen : List Nat) :
    digits seen (digitBytes ds ++ rest) = (seen.reverse ++ ds, rest) := by
  induction ds generalizing seen with
  | nil =>
    rw [List.append_nil]
    exact digits_of_stops stops seen
  | cons d ds ih =>
    have later := ih fun e member => h e (List.mem_cons_of_mem d member)
    rw [digitBytes, List.map_cons, List.cons_append, digits,
      digit?_digitByte (h d List.mem_cons_self), ← digitBytes]
    dsimp only
    rw [later, List.reverse_cons, List.append_assoc]
    rfl

/-! ### Numbers -/

variable {rest : Bytes}

theorem whole?_of_spells {ds : List Nat} {bytes : Bytes} (h : SpellsWhole ds bytes)
    (stops : StopsDigits rest) : whole? (bytes ++ rest) = some (ds, rest) := by
  cases h with
  | zero => rfl
  | @positive d ds positive range =>
    have later := digits_digitBytes (fun e member => range e (List.mem_cons_of_mem d member)) stops
      [d]
    rw [digitBytes, List.map_cons, List.cons_append, whole?,
      digit?_digitByte (range d List.mem_cons_self), ← digitBytes]
    cases d with
    | zero => exact (Nat.lt_irrefl 0 positive).elim
    | succ d => exact congrArg some later

theorem fraction?_of_spells {f : Option (List Nat)} {bytes : Bytes} (h : SpellsFraction f bytes)
    (stops : StopsDigits rest) (noPoint : ∀ b ∈ rest.head?, b ≠ 0x2E) :
    fraction? (bytes ++ rest) = some (f, rest) := by
  cases h with
  | absent =>
    rw [List.nil_append]
    unfold fraction?
    split
    · exact (noPoint _ rfl rfl).elim
    · rfl
  | @point ds some range =>
    rw [List.cons_append, fraction?, digits_digitBytes range stops, List.reverse_nil,
      List.nil_append]
    cases ds with
    | nil => exact (some rfl).elim
    | cons d ds => rfl

theorem exponentSign_of_spells {negative : Bool} {sign : Bytes} (h : SpellsSign negative sign)
    {d : Nat} (range : d ≤ 9) (more : Bytes) :
    exponentSign (sign ++ UInt8.ofNat (0x30 + d) :: more) =
      (negative, UInt8.ofNat (0x30 + d) :: more) := by
  cases h with
  | plus => rfl
  | minus => rfl
  | absent =>
    have digit := digit?_digitByte range
    rw [List.nil_append]
    unfold exponentSign
    split
    next same =>
      rw [(List.cons.inj same).1] at digit
      cases digit
    next same =>
      rw [(List.cons.inj same).1] at digit
      cases digit
    next => rfl

theorem exponent?_of_spells {e : Option (Bool × List Nat)} {bytes : Bytes}
    (h : SpellsExponent e bytes) (stops : StopsNumber rest) :
    exponent? (bytes ++ rest) = some (e, rest) := by
  cases h with
  | absent =>
    cases rest with
    | nil => rfl
    | cons b rest =>
      obtain ⟨-, -, lower, upper⟩ := stops b rfl
      rw [List.nil_append, exponent?, if_neg (by simp [lower, upper])]
  | @power mark negative sign ds marked signed some range =>
    cases ds with
    | nil => exact (some rfl).elim
    | cons d ds =>
      have split := exponentSign_of_spells signed (range d List.mem_cons_self)
        (digitBytes ds ++ rest)
      have read := digits_digitBytes range stops.digits []
      rw [List.cons_append, exponent?, if_pos marked, List.append_assoc]
      rw [digitBytes, List.map_cons, List.cons_append, ← digitBytes] at read ⊢
      rw [split, read]
      rfl

/-- The part of a number behind its whole part begins with no digit. -/
theorem stopsDigits_exponent {e : Option (Bool × List Nat)} {bytes : Bytes}
    (h : SpellsExponent e bytes) (stops : StopsNumber rest) :
    StopsDigits (bytes ++ rest) ∧ ∀ b ∈ (bytes ++ rest).head?, b ≠ 0x2E := by
  cases h with
  | absent => exact ⟨stops.digits, fun b next => (stops b next).2.1⟩
  | power marked =>
    constructor
    · intro b next
      obtain rfl : _ = b := Option.some.inj next
      rcases marked with rfl | rfl <;> rfl
    · intro b next
      obtain rfl : _ = b := Option.some.inj next
      rcases marked with rfl | rfl <;> decide

theorem number?_of_spells {negative : Bool} {n : NumberText} {bytes : Bytes}
    (h : SpellsUnsigned negative n bytes) (stops : StopsNumber rest) :
    number? negative (bytes ++ rest) = some (n, rest) := by
  cases h with
  | @parts whole fraction exponent w f e spelled point power =>
    obtain ⟨noDigit, noPoint⟩ := stopsDigits_exponent power stops
    have behind : StopsDigits (f ++ (e ++ rest)) := by
      cases point with
      | absent => exact noDigit
      | point =>
        intro b next
        obtain rfl : _ = b := Option.some.inj next
        rfl
    rw [List.append_assoc, List.append_assoc, number?, whole?_of_spells spelled behind]
    dsimp only
    rw [fraction?_of_spells point noDigit noPoint]
    dsimp only
    rw [exponent?_of_spells power stops]

theorem token?_digit {b : UInt8} {d : Nat} (digit : digit? b = some d) {n : NumberText}
    {rest' : Bytes} (h : number? false (b :: rest) = some (n, rest')) :
    isSpace b = false ∧ token? b rest = some (.number n, rest') := by
  have other : ∀ c, digit? c = none → b ≠ c := by
    intro c none same
    rw [same, none] at digit
    cases digit
  have solid : isSpace b = false := by
    simp [isSpace, other 0x20 rfl, other 0x0A rfl, other 0x0D rfl, other 0x09 rfl]
  have none : punctuation? b = none := by
    simp [punctuation?, other 0x7B rfl, other 0x7D rfl, other 0x5B rfl, other 0x5D rfl,
      other 0x3A rfl, other 0x2C rfl]
  refine ⟨solid, ?_⟩
  unfold token?
  rw [none]
  dsimp only
  rw [if_neg (other 0x22 rfl), if_neg (other 0x2D rfl)]
  split
  · exact (other 0x6E rfl rfl).elim
  · exact (other 0x74 rfl rfl).elim
  · exact (other 0x66 rfl rfl).elim
  · rw [h]

theorem token?_minus {n : NumberText} {rest' : Bytes}
    (h : number? true rest = some (n, rest')) : token? 0x2D rest = some (.number n, rest') := by
  unfold token?
  rw [show punctuation? 0x2D = none from rfl]
  dsimp only
  rw [if_neg (by decide), if_pos rfl, h]

/-- A number begins with a sign or a digit. -/
theorem tokensLoop_number {n : NumberText} {bytes : Bytes} (h : SpellsNumber n bytes)
    (stops : StopsNumber rest) (seen : List Token) :
    tokensLoop seen (bytes ++ rest) = tokensLoop (.number n :: seen) rest := by
  cases h with
  | negative unsigned =>
    exact tokensLoop_token rfl (token?_minus (number?_of_spells unsigned stops)) seen
  | positive unsigned =>
    have read := number?_of_spells unsigned stops
    obtain ⟨d, more, range, first⟩ : ∃ d more, d ≤ 9 ∧
        bytes ++ rest = UInt8.ofNat (0x30 + d) :: more := by
      cases unsigned with
      | parts whole =>
        cases whole with
        | zero => exact ⟨0, _, by omega, rfl⟩
        | positive _ range => exact ⟨_, _, range _ List.mem_cons_self, rfl⟩
    rw [first] at read ⊢
    obtain ⟨solid, token⟩ := token?_digit (digit?_digitByte range) read
    exact tokensLoop_token solid token seen

/-! ### Strings -/

/-- Whether a byte stands for itself in a string. -/
def IsPlain (b : UInt8) : Prop := ¬ b < 0x20 ∧ b ≠ 0x22 ∧ b ≠ 0x5C

theorem isPlain_utf8 {c : Char} (least : 0x20 ≤ c.toNat) (quote : c ≠ '"') (slash : c ≠ '\\') :
    ∀ b ∈ String.utf8EncodeChar c, IsPlain b := by
  have value : c.val.toNat = c.toNat := rfl
  have quote : c.toNat ≠ 0x22 := fun same => quote (Char.ext (UInt32.toNat_inj.mp same))
  have slash : c.toNat ≠ 0x5C := fun same => slash (Char.ext (UInt32.toNat_inj.mp same))
  have plain : ∀ n, 0x20 ≤ n → n < 256 → n ≠ 0x22 → n ≠ 0x5C → IsPlain (UInt8.ofNat n) := by
    intro n least small quote slash
    have same : (UInt8.ofNat n).toNat = n := by
      rw [UInt8.toNat_ofNat']
      omega
    refine ⟨?_, fun h => ?_, fun h => ?_⟩
    · rw [UInt8.lt_iff_toNat_lt, same]
      exact Nat.not_lt.mpr least
    · rw [h] at same
      exact quote same.symm
    · rw [h] at same
      exact slash same.symm
  intro b member
  unfold String.utf8EncodeChar at member
  dsimp only at member
  rw [value] at member
  split at member
  · obtain rfl := List.mem_singleton.mp member
    exact plain _ least (by omega) quote slash
  · -- The bytes of a longer encoding are all above the signs that matter.
    split at member
    · simp only [List.mem_cons, List.not_mem_nil, or_false] at member
      rcases member with rfl | rfl <;> apply plain <;> omega
    · split at member
      · simp only [List.mem_cons, List.not_mem_nil, or_false] at member
        rcases member with rfl | rfl | rfl <;> apply plain <;> omega
      · simp only [List.mem_cons, List.not_mem_nil, or_false] at member
        rcases member with rfl | rfl | rfl | rfl <;> apply plain <;> omega

theorem string?_plain {bytes : Bytes} (h : ∀ b ∈ bytes, IsPlain b) (seen : List Piece)
    (rest : Bytes) :
    string? seen (bytes ++ rest) = string? ((bytes.map Piece.byte).reverse ++ seen) rest := by
  induction bytes generalizing seen with
  | nil => rfl
  | cons b bytes ih =>
    obtain ⟨printable, quote, slash⟩ := h b List.mem_cons_self
    have later := ih (fun c member => h c (List.mem_cons_of_mem b member)) (.byte b :: seen)
    have step :
        string? seen (b :: (bytes ++ rest)) = string? (.byte b :: seen) (bytes ++ rest) := by
      rw [string?.eq_def]
      split
      · next same => exact (quote (List.cons.inj same).1).elim
      · next same => exact (slash (List.cons.inj same).1).elim
      · next same => exact (slash (List.cons.inj same).1).elim
      · next same =>
        obtain ⟨rfl, rfl⟩ := List.cons.inj same
        rw [if_neg printable]
      · next same => cases same
    rw [List.cons_append, step, later, List.map_cons, List.reverse_cons, List.append_assoc]
    rfl

theorem hexDigit?_of_spells {n : Nat} {b : UInt8} (h : SpellsHex n b) : hexDigit? b = some n := by
  cases h with
  | digit range =>
    have all : ∀ n ≤ 9, hexDigit? (UInt8.ofNat (0x30 + n)) = some n := by decide
    exact all n range
  | upper least range =>
    have all : ∀ n ≤ 15, 10 ≤ n → hexDigit? (UInt8.ofNat (0x37 + n)) = some n := by decide
    exact all n range least
  | lower least range =>
    have all : ∀ n ≤ 15, 10 ≤ n → hexDigit? (UInt8.ofNat (0x57 + n)) = some n := by decide
    exact all n range least

/-- A string is read up to its closing quote. -/
theorem string?_of_spells {pieces : List Piece} {bytes : Bytes} (h : SpellsPieces pieces bytes)
    (seen : List Piece) (rest : Bytes) :
    string? seen (bytes ++ 0x22 :: rest) = some (seen.reverse ++ pieces, rest) := by
  induction h generalizing seen with
  | nil =>
    rw [List.append_nil]
    rfl
  | plain least quote slash _ ih =>
    rw [List.append_assoc, string?_plain (isPlain_utf8 least quote slash), ih,
      List.reverse_append, List.reverse_reverse, List.append_assoc]
  | @short b c pieces bytes listed _ ih =>
    have step : string? seen (0x5C :: b :: (bytes ++ 0x22 :: rest)) =
        string? (.char c :: seen) (bytes ++ 0x22 :: rest) := by
      simp only [shortEscapes, List.mem_cons, List.not_mem_nil, or_false, Prod.mk.injEq] at listed
      rcases listed with ⟨rfl, rfl⟩ | ⟨rfl, rfl⟩ | ⟨rfl, rfl⟩ | ⟨rfl, rfl⟩ | ⟨rfl, rfl⟩ |
        ⟨rfl, rfl⟩ | ⟨rfl, rfl⟩ | ⟨rfl, rfl⟩ <;> simp [string?, shortEscape?]
    rw [List.cons_append, List.cons_append, step, ih, List.reverse_cons, List.append_assoc]
    rfl
  | unit first second third fourth _ ih =>
    simp only [List.cons_append, string?, unit?, hexDigit?_of_spells first,
      hexDigit?_of_spells second, hexDigit?_of_spells third, hexDigit?_of_spells fourth]
    dsimp only [bind, Option.bind, pure]
    rw [ih, List.reverse_cons, List.append_assoc]
    rfl

theorem tokensLoop_string {pieces : List Piece} {bytes : Bytes} (h : SpellsString pieces bytes)
    (seen : List Token) (rest : Bytes) :
    tokensLoop seen (bytes ++ rest) = tokensLoop (.string pieces :: seen) rest := by
  cases h with
  | @quoted bytes spelled =>
    have read := string?_of_spells spelled [] rest
    rw [List.cons_append, List.append_assoc, List.singleton_append]
    refine tokensLoop_token rfl ?_ seen
    unfold token?
    rw [show punctuation? 0x22 = none from rfl]
    dsimp only
    rw [if_pos rfl, read]
    rfl

/-! ### Values -/

theorem restItemTokens_of_spells {items : List Document} {bytes : Bytes}
    (h : SpellsItems items bytes) : restItemTokens items = .comma :: itemTokens items := by
  cases h <;> rfl

theorem restMemberTokens_of_spells {members : List (List Piece × Document)} {bytes : Bytes}
    (h : SpellsMembers members bytes) :
    restMemberTokens members = .comma :: memberTokens members := by
  cases h <;> rfl

-- By induction on the grammar. What comes behind a value is carried along, since a number in the
-- last place ends only there.
mutual

theorem tokensLoop_value {d : Document} {bytes : Bytes} (h : SpellsValue d bytes) {rest : Bytes}
    (stops : StopsNumber rest) (seen : List Token) :
    tokensLoop seen (bytes ++ rest) = tokensLoop (d.tokens.reverse ++ seen) rest := by
  match h with
  | .null => exact tokensLoop_token rfl rfl seen
  | .true => exact tokensLoop_token rfl rfl seen
  | .false => exact tokensLoop_token rfl rfl seen
  | .number spelled => exact tokensLoop_number spelled stops seen
  | .string spelled => exact tokensLoop_string spelled seen rest
  | .emptyArray blank =>
    rw [List.cons_append, List.append_assoc, tokensLoop_punctuation rfl rfl, tokensLoop_blank blank]
    exact tokensLoop_punctuation rfl rfl _ rest
  | .array items =>
    rw [List.cons_append, List.append_assoc, List.singleton_append,
      tokensLoop_punctuation rfl rfl, tokensLoop_items items (stopsNumber_cons (by decide) rest),
      tokensLoop_punctuation rfl rfl]
    simp [Document.tokens]
  | .emptyObject blank =>
    rw [List.cons_append, List.append_assoc, tokensLoop_punctuation rfl rfl, tokensLoop_blank blank]
    exact tokensLoop_punctuation rfl rfl _ rest
  | .object members =>
    rw [List.cons_append, List.append_assoc, List.singleton_append,
      tokensLoop_punctuation rfl rfl,
      tokensLoop_members members (stopsNumber_cons (by decide) rest),
      tokensLoop_punctuation rfl rfl]
    simp [Document.tokens]

theorem tokensLoop_text {d : Document} {bytes : Bytes} (h : SpellsText d bytes) {rest : Bytes}
    (stops : StopsNumber rest) (seen : List Token) :
    tokensLoop seen (bytes ++ rest) = tokensLoop (d.tokens.reverse ++ seen) rest := by
  match h with
  | .padded before value after =>
    rw [List.append_assoc, tokensLoop_blank before, List.append_assoc,
      tokensLoop_value value (stopsNumber_blank after stops), tokensLoop_blank after]

theorem tokensLoop_items {items : List Document} {bytes : Bytes} (h : SpellsItems items bytes)
    {rest : Bytes} (stops : StopsNumber rest) (seen : List Token) :
    tokensLoop seen (bytes ++ rest) = tokensLoop ((itemTokens items).reverse ++ seen) rest := by
  match h with
  | .last item =>
    rw [tokensLoop_text item stops, itemTokens, restItemTokens, List.append_nil]
  | .more item later =>
    rw [List.append_assoc, List.cons_append, tokensLoop_text item (stopsNumber_cons (by decide) _),
      tokensLoop_punctuation rfl rfl, tokensLoop_items later stops, itemTokens,
      restItemTokens_of_spells later]
    simp

theorem tokensLoop_member {m : List Piece × Document} {bytes : Bytes} (h : SpellsMember m bytes)
    {rest : Bytes} (stops : StopsNumber rest) (seen : List Token) :
    tokensLoop seen (bytes ++ rest) = tokensLoop ((namedTokens m).reverse ++ seen) rest := by
  match h with
  | .named before key after value =>
    rw [List.append_assoc, tokensLoop_blank before, List.append_assoc, tokensLoop_string key,
      List.append_assoc, tokensLoop_blank after, List.cons_append, tokensLoop_punctuation rfl rfl,
      tokensLoop_text value stops, namedTokens]
    simp

theorem tokensLoop_members {members : List (List Piece × Document)} {bytes : Bytes}
    (h : SpellsMembers members bytes) {rest : Bytes} (stops : StopsNumber rest)
    (seen : List Token) :
    tokensLoop seen (bytes ++ rest) = tokensLoop ((memberTokens members).reverse ++ seen) rest := by
  match h with
  | .last member =>
    rw [tokensLoop_member member stops, memberTokens, restMemberTokens, List.append_nil]
  | .more member later =>
    rw [List.append_assoc, List.cons_append,
      tokensLoop_member member (stopsNumber_cons (by decide) _),
      tokensLoop_punctuation rfl rfl, tokensLoop_members later stops, memberTokens,
      restMemberTokens_of_spells later]
    simp

end

/-- A text is cut into the tokens of its document. -/
theorem tokens?_of_text {d : Document} {bytes : Bytes} (h : SpellsText d bytes) :
    tokens? bytes = some d.tokens := by
  have stops : StopsNumber [] := fun b none => by cases none
  have cut := tokensLoop_text h stops []
  rw [List.append_nil, List.append_nil, tokensLoop, List.reverse_reverse] at cut
  exact cut

end TenantLink.Json
