import TenantLink.Proofs.Json.Places
import TenantLink.Proofs.Text.ByteOrder
import TenantLink.Proofs.Text.Split
import TenantLink.Tenant.Scan

/-!
# Places and pointers

`Json.At` says what stands in which place of a value, `Json.Earlier` in which order a walk in depth
comes to the places, and `Json.resolve?` reads a pointer by the rules of RFC 6901. A pointer leads
to the place that it was made for (`resolve?_pointer`), and no other place has it
(`place_unique`).
-/

namespace TenantLink.Json

/-! ### Places -/

/-- `v.Child s w`: the step `s` leads from `v` to its part `w`. -/
inductive Child : Json → Step → Json → Prop
  | item {items : List Json} {i : Nat} {w : Json} : items[i]? = some w →
    Child (.array items) (.item i) w
  | member {members : List (String × Json)} {key : String} {w : Json} : (key, w) ∈ members →
    Child (.object members) (.member key) w

/-- `v.At place y`: the steps of `place` lead from `v` to `y`. -/
inductive At : Json → List Step → Json → Prop
  | top {v : Json} : At v [] v
  | down {v w y : Json} {s : Step} {place : List Step} : Child v s w → At w place y →
    At v (s :: place) y

@[elab_as_elim]
theorem child_induction {P : Json → Prop} (step : ∀ v, (∀ s w, Child v s w → P w) → P v)
    (v : Json) : P v := by
  induction v using Json.induction with
  | array items ih =>
    refine step _ fun s w child => ?_
    cases child with
    | item found => exact ih w (List.mem_of_getElem? found)
  | object members ih =>
    refine step _ fun s w child => ?_
    cases child with
    | member member => exact ih _ member
  | null | bool | number | string =>
    refine step _ fun s w child => ?_
    cases child

theorem within_iff_at {v y : Json} {n : Nat} :
    v.Within n y ↔ ∃ place, place.length = n ∧ v.At place y := by
  constructor
  · intro within
    induction within with
    | top => exact ⟨[], rfl, .top⟩
    | item member _ ih =>
      obtain ⟨i, found⟩ := List.mem_iff_getElem?.mp member
      obtain ⟨place, rfl, there⟩ := ih
      exact ⟨.item i :: place, rfl, .down (.item found) there⟩
    | @member _ _ m _ member _ ih =>
      obtain ⟨place, rfl, there⟩ := ih
      exact ⟨.member m.1 :: place, rfl, .down (.member member) there⟩
  · rintro ⟨place, rfl, there⟩
    induction there with
    | top => exact .top
    | down child _ ih =>
      cases child with
      | item found => exact .item (List.mem_of_getElem? found) ih
      | member member => exact .member member ih

/-- What the last step leads to is a part of what stands one step higher. -/
theorem At.parent {v y : Json} {place : List Step} {s : Step} (there : v.At (place ++ [s]) y) :
    ∃ w, v.At place w ∧ w.Child s y := by
  induction place generalizing v with
  | nil =>
    cases there with
    | down child rest =>
      cases rest with
      | top => exact ⟨v, .top, child⟩
  | cons t place ih =>
    cases there with
    | down child rest =>
      obtain ⟨w, higher, last⟩ := ih rest
      exact ⟨w, .down child higher, last⟩

/-! ### Ordered values -/

/-- Whether all objects in a value have their members in the order of their names. -/
def IsOrdered (v : Json) : Prop := ∀ place members, v.At place (.object members) → InOrder members

theorem IsOrdered.child {v w : Json} {s : Step} (ordered : v.IsOrdered) (child : v.Child s w) :
    w.IsOrdered :=
  fun place members there => ordered (s :: place) members (.down child there)

theorem IsOrdered.unique {v w w' : Json} {s : Step} (ordered : v.IsOrdered) (child : v.Child s w)
    (other : v.Child s w') : w = w' := by
  cases child with
  | item found =>
    cases other with
    | item found' => exact Option.some.inj (found.symm.trans found')
  | member member =>
    cases other with
    | member member' =>
      have inOrder := ordered [] _ .top
      have value := (lookup_eq_some inOrder).mpr member
      exact Option.some.inj (value.symm.trans ((lookup_eq_some inOrder).mpr member'))

/-- The reader gives ordered values only. -/
theorem read?_isOrdered {bytes : Bytes} {v : Json} (read : read? bytes = some v) :
    v.IsOrdered := by
  intro place members there
  obtain ⟨d, value⟩ := exists_document read
  obtain ⟨x, inside, -⟩ := Document.within_of_value (within_iff_at.mpr ⟨place, rfl, there⟩) value
  exact inOrder_of_value? inside

/-! ### The order of places -/

/-- Whether one step comes before another out of the same value: items by their index, and members
by the bytes of their names. -/
def Step.Before : Step → Step → Prop
  | .item i, .item j => i < j
  | .member key, .member other => Utf8.encode key < Utf8.encode other
  | _, _ => False

/-- The order in which a walk in depth comes to places: to each before the places below it, and to
those before all that come behind it. -/
def Earlier (place other : List Step) : Prop := List.Lex Step.Before place other

theorem Step.before_asymm {s t : Step} (before : s.Before t) : ¬ t.Before s := by
  cases s <;> cases t
  · exact List.lt_asymm before
  · exact id
  · exact id
  · exact Nat.lt_asymm before

theorem earlier_asymm {place other : List Step} (earlier : Earlier place other) :
    ¬ Earlier other place := List.lex_asymm Step.before_asymm earlier

/-- Of two steps out of one value one comes first. -/
theorem Child.before {v w w' : Json} {s t : Step} (child : v.Child s w) (other : v.Child t w') :
    s.Before t ∨ s = t ∨ t.Before s := by
  cases child with
  | @item _ i =>
    cases other with
    | @item _ j =>
      rw [Step.item.injEq]
      exact Nat.lt_trichotomy i j
  | @member _ key =>
    cases other with
    | @member _ key' =>
      have bytes := Utf8.encode_lt_iff
      rw [Step.member.injEq]
      unfold Step.Before
      dsimp only
      rw [bytes, bytes]
      exact Std.lt_trichotomy key key'

/-! ### Reading a pointer -/

namespace Pointer

/-- A token without its escapes: `~1` stands for a slash and `~0` for a tilde, and no other tilde
may be there. -/
def unescape? : List Char → Option (List Char)
  | [] => some []
  | '~' :: '0' :: rest => (unescape? rest).map ('~' :: ·)
  | '~' :: '1' :: rest => (unescape? rest).map ('/' :: ·)
  | '~' :: _ => none
  | c :: rest => (unescape? rest).map (c :: ·)

/-- The index that a token spells: its digits in base ten, without a zero in front. -/
def index? (token : List Char) : Option Nat :=
  let n := Nat.ofDigitChars 10 token 0
  if Nat.toDigits 10 n = token then some n else none

/-- The tokens of a pointer: one behind each slash. -/
def tokens? (pointer : String) : Option (List (List Char)) :=
  match pointer.toList with
  | [] => some []
  | '/' :: rest => (Text.splitAt '/' rest).mapM unescape?
  | _ => none

end Pointer

/-- The part of a value that a token names. -/
def child? (v : Json) (token : List Char) : Option Json :=
  match v with
  | .object members => members.lookup (String.ofList token)
  | .array items => (Pointer.index? token).bind (items[·]?)
  | _ => none

/-- What a pointer leads to. -/
def resolve? (v : Json) (pointer : String) : Option Json :=
  (Pointer.tokens? pointer).bind fun tokens => tokens.foldlM child? v

/-! ### Tokens -/

def Step.token : Step → List Char
  | .member key => key.toList
  | .item i => Nat.toDigits 10 i

theorem unescape?_escaped (token : List Char) :
    Pointer.unescape? (token.flatMap Step.escaped) = some token := by
  induction token with
  | nil => rfl
  | cons c rest ih =>
    rw [List.flatMap_cons]
    by_cases tilde : c = '~'
    · subst tilde
      show Pointer.unescape? ('~' :: '0' :: rest.flatMap Step.escaped) = _
      rw [Pointer.unescape?, ih]
      rfl
    · by_cases slash : c = '/'
      · subst slash
        show Pointer.unescape? ('~' :: '1' :: rest.flatMap Step.escaped) = _
        rw [Pointer.unescape?, ih]
        rfl
      · have plain : Step.escaped c = [c] := by simp [Step.escaped, tilde, slash]
        rw [plain, List.singleton_append, Pointer.unescape?, ih]
        · rfl
        all_goals simp [tilde]

theorem slash_not_mem_escaped (token : List Char) : '/' ∉ token.flatMap Step.escaped := by
  rw [List.mem_flatMap]
  rintro ⟨c, -, member⟩
  unfold Step.escaped at member
  split at member
  · simp at member
  · split at member
    · simp at member
    · next other => exact other (List.mem_singleton.mp member).symm

/-- A step is written as a slash and its token. Digits need no escapes. -/
theorem Step.chars_eq (s : Step) : s.chars = '/' :: s.token.flatMap Step.escaped := by
  cases s with
  | member key => rfl
  | item i =>
    have plain : ∀ c ∈ Nat.toDigits 10 i, Step.escaped c = [c] := by
      intro c member
      have digit : c.isDigit = true := Nat.isDigit_of_mem_toDigits (by decide) (by decide) member
      have tilde : c ≠ '~' := by
        rintro rfl
        cases digit
      have slash : c ≠ '/' := by
        rintro rfl
        cases digit
      simp [Step.escaped, tilde, slash]
    show '/' :: Nat.toDigits 10 i = '/' :: (Nat.toDigits 10 i).flatMap Step.escaped
    rw [List.flatMap_def, List.map_congr_left plain, ← List.flatMap_def, List.flatMap_singleton']

theorem splitAt_places (first : Step) (place : List Step) :
    Text.splitAt '/' (first.token.flatMap Step.escaped ++ place.flatMap Step.chars) =
      (first :: place).map fun s => s.token.flatMap Step.escaped := by
  induction place generalizing first with
  | nil =>
    rw [List.flatMap_nil, List.append_nil, Text.splitAt_of_not_mem (slash_not_mem_escaped _)]
    rfl
  | cons s place ih =>
    rw [List.flatMap_cons, Step.chars_eq, List.cons_append,
      Text.splitAt_append (slash_not_mem_escaped _), ih]
    rfl

theorem tokens?_pointer (place : List Step) :
    Pointer.tokens? (pointer place) = some (place.map Step.token) := by
  unfold Pointer.tokens? pointer
  rw [String.toList_ofList]
  cases place with
  | nil => rfl
  | cons s place =>
    rw [List.flatMap_cons, Step.chars_eq, List.cons_append]
    show (Text.splitAt '/' _).mapM _ = _
    rw [splitAt_places, mapM_eq_some, List.map_map, List.map_map]
    exact List.map_congr_left fun s _ => unescape?_escaped s.token

theorem index?_toDigits (i : Nat) : Pointer.index? (Nat.toDigits 10 i) = some i := by
  unfold Pointer.index?
  rw [Nat.ofDigitChars_ten_toDigits]
  exact if_pos rfl

theorem Child.child? {v w : Json} {s : Step} (ordered : v.IsOrdered) (child : v.Child s w) :
    v.child? s.token = some w := by
  cases child with
  | item found =>
    show (Pointer.index? _).bind _ = _
    rw [Step.token, index?_toDigits]
    exact found
  | member member =>
    show List.lookup (String.ofList (Step.token (.member _))) _ = _
    rw [Step.token, String.ofList_toList]
    exact (lookup_eq_some (ordered [] _ .top)).mpr member

/-- A pointer leads to the place that it was made for. -/
theorem resolve?_pointer {v y : Json} {place : List Step} (ordered : v.IsOrdered)
    (there : v.At place y) : v.resolve? (pointer place) = some y := by
  unfold resolve?
  rw [tokens?_pointer, Option.bind_some]
  induction there with
  | top => rfl
  | down child _ ih =>
    rw [List.map_cons, List.foldlM_cons, child.child? ordered]
    exact ih (ordered.child child)

theorem Child.step_unique {v w w' : Json} {s t : Step} (child : v.Child s w)
    (other : v.Child t w') (same : s.token = t.token) : s = t := by
  cases child with
  | item found =>
    cases other with
    | item found' =>
      have digits := congrArg (fun digits => Nat.ofDigitChars 10 digits 0) same
      simpa [Step.token] using digits
  | member member =>
    cases other with
    | member member' => exact congrArg Step.member (String.toList_inj.mp same)

/-- No two places of a value have one pointer. -/
theorem place_unique {v y z : Json} {place other : List Step} (ordered : v.IsOrdered)
    (there : v.At place y) (there' : v.At other z) (same : pointer place = pointer other) :
    place = other ∧ y = z := by
  have tokens : place.map Step.token = other.map Step.token := by
    have read := tokens?_pointer place
    rw [same, tokens?_pointer] at read
    exact (Option.some.inj read).symm
  clear same
  induction there generalizing other with
  | top =>
    cases there' with
    | top => exact ⟨rfl, rfl⟩
    | down => cases tokens
  | down child _ ih =>
    cases there' with
    | top => cases tokens
    | down child' there' =>
      obtain ⟨first, later⟩ := List.cons.inj tokens
      obtain rfl := child.step_unique child' first
      obtain rfl := ordered.unique child child'
      obtain ⟨rfl, rfl⟩ := ih (ordered.child child) there' later
      exact ⟨rfl, rfl⟩

end TenantLink.Json
