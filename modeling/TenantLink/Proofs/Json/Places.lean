import TenantLink.Proofs.Json.Members
import TenantLink.Proofs.Json.Reading
import TenantLink.Proofs.Results

/-!
# What stands where

`Document.Within` and `Json.Within` say what stands how far below the top. The reader takes a text
for its value if no array or object stands too deep and every number and string in it can be read
(`read?_of_text`), and the value then has in every place what the document has there, but for
members whose name comes again (`Document.within_value`, `Document.within_of_value`).
-/

namespace TenantLink.Json

/-! ### Members -/

abbrev Choice := List Member → Member → Prop

def everyMember : Choice := fun members m => m ∈ members

/-- Of the members with one name the last. -/
def lastMember : Choice := fun members m =>
  ∃ before after, members = before ++ m :: after ∧ ∀ m' ∈ after, text? m'.1 ≠ text? m.1

namespace Document

variable {pick : Choice}

/-- `d.Within pick n x`: `x` stands `n` levels below the top of `d`. -/
inductive Within (pick : Choice) : Nat → Document → Document → Prop
  | top {d : Document} : Within pick 0 d d
  | item {n : Nat} {items : List Document} {d x : Document} : d ∈ items → Within pick n d x →
    Within pick (n + 1) (.array items) x
  | member {n : Nat} {members : List Member} {m : Member} {x : Document} : pick members m →
    Within pick n m.2 x → Within pick (n + 1) (.object members) x

/-- What holds wherever it stands. -/
def Throughout (pick : Choice) (d : Document) (p : Nat → Document → Prop) : Prop :=
  ∀ n x, Within pick n d x → p n x

variable {p : Nat → Document → Prop}

theorem throughout_array {items : List Document} :
    Throughout pick (.array items) p ↔
      p 0 (.array items) ∧ ∀ d ∈ items, Throughout pick d fun n x => p (n + 1) x := by
  constructor
  · exact fun h => ⟨h 0 _ .top, fun d member n x within => h (n + 1) x (.item member within)⟩
  · rintro ⟨top, parts⟩ n x within
    cases within with
    | top => exact top
    | item member within => exact parts _ member _ x within

theorem throughout_object {members : List Member} :
    Throughout pick (.object members) p ↔
      p 0 (.object members) ∧
        ∀ m, pick members m → Throughout pick m.2 fun n x => p (n + 1) x := by
  constructor
  · exact fun h => ⟨h 0 _ .top, fun m picked n x within => h (n + 1) x (.member picked within)⟩
  · rintro ⟨top, parts⟩ n x within
    cases within with
    | top => exact top
    | member picked within => exact parts _ picked _ x within

def IsCompound : Document → Prop
  | .array _ | .object _ => True
  | _ => False

theorem throughout_scalar {d : Document} (scalar : ¬ d.IsCompound) :
    Throughout pick d p ↔ p 0 d := by
  constructor
  · exact fun h => h 0 d .top
  · rintro top n x within
    cases within with
    | top => exact top
    | item => exact (scalar trivial).elim
    | member => exact (scalar trivial).elim

end Document

/-! ### Nesting -/

theorem nesting_le {depth deepest most : Nat} {ts : List Token} :
    nesting depth deepest ts ≤ most ↔ deepest ≤ most ∧ nesting depth 0 ts ≤ most := by
  induction ts generalizing depth deepest with
  | nil => simp [nesting]
  | cons t ts ih =>
    cases t with
    | openArray | openObject =>
      have other : nesting (depth + 1) (max 0 (depth + 1)) ts ≤ most ↔ _ := ih
      rw [nesting, nesting, ih, other]
      omega
    | _ => exact ih

namespace Document

/-- Whether all arrays and objects of a document stand high enough, when the document itself stands
inside `depth` others. -/
def Nests (most depth : Nat) (d : Document) : Prop :=
  d.Throughout everyMember fun n x => x.IsCompound → depth + n < most

variable {most depth : Nat}

theorem nests_array {items : List Document} :
    Nests most depth (.array items) ↔ depth < most ∧ ∀ d ∈ items, Nests most (depth + 1) d := by
  unfold Nests
  rw [throughout_array]
  simp only [IsCompound, true_implies, Nat.add_zero, Nat.add_assoc, Nat.add_comm 1]

theorem nests_object {members : List Member} :
    Nests most depth (.object members) ↔
      depth < most ∧ ∀ m ∈ members, Nests most (depth + 1) m.2 := by
  unfold Nests
  rw [throughout_object]
  simp only [IsCompound, true_implies, Nat.add_zero, Nat.add_assoc, Nat.add_comm 1]
  rfl

theorem nests_scalar {d : Document} (scalar : ¬ d.IsCompound) : Nests most depth d :=
  (throughout_scalar scalar).mpr fun compound => (scalar compound).elim

def Weighs (most : Nat) (d : Document) : Prop :=
  ∀ depth ts, nesting depth 0 (d.tokens ++ ts) ≤ most ↔
    d.Nests most depth ∧ nesting depth 0 ts ≤ most

theorem weighs_restItems {items : List Document} (weighs : ∀ d ∈ items, Weighs most d)
    (depth : Nat) (ts : List Token) :
    nesting depth 0 (restItemTokens items ++ ts) ≤ most ↔
      (∀ d ∈ items, Nests most depth d) ∧ nesting depth 0 ts ≤ most := by
  induction items with
  | nil => simp [restItemTokens]
  | cons d rest ih =>
    have later := ih fun d member => weighs d (List.mem_cons_of_mem _ member)
    rw [List.forall_mem_cons, and_assoc, ← later, ← weighs d List.mem_cons_self, restItemTokens]
    simp [nesting]

theorem weighs_restMembers {members : List Member} (weighs : ∀ m ∈ members, Weighs most m.2)
    (depth : Nat) (ts : List Token) :
    nesting depth 0 (restMemberTokens members ++ ts) ≤ most ↔
      (∀ m ∈ members, Nests most depth m.2) ∧ nesting depth 0 ts ≤ most := by
  induction members with
  | nil => simp [restMemberTokens]
  | cons m rest ih =>
    obtain ⟨key, d⟩ := m
    have first := weighs (key, d) List.mem_cons_self depth (restMemberTokens rest ++ ts)
    have later := ih fun d member => weighs d (List.mem_cons_of_mem _ member)
    rw [List.forall_mem_cons, and_assoc, ← later, ← first, restMemberTokens, namedTokens]
    simp [nesting]

theorem weighs_items {items : List Document} (weighs : ∀ d ∈ items, Weighs most d) (depth : Nat)
    (ts : List Token) :
    nesting depth 0 (itemTokens items ++ ts) ≤ most ↔
      (∀ d ∈ items, Nests most depth d) ∧ nesting depth 0 ts ≤ most := by
  cases items with
  | nil => simp [itemTokens]
  | cons d rest =>
    have later := weighs_restItems (fun d member => weighs d (List.mem_cons_of_mem _ member))
      depth ts
    rw [itemTokens, List.append_assoc, weighs d List.mem_cons_self, later, List.forall_mem_cons,
      and_assoc]

theorem weighs_members {members : List Member} (weighs : ∀ m ∈ members, Weighs most m.2)
    (depth : Nat) (ts : List Token) :
    nesting depth 0 (memberTokens members ++ ts) ≤ most ↔
      (∀ m ∈ members, Nests most depth m.2) ∧ nesting depth 0 ts ≤ most := by
  cases members with
  | nil => simp [memberTokens]
  | cons m rest =>
    obtain ⟨key, d⟩ := m
    have first := weighs (key, d) List.mem_cons_self depth (restMemberTokens rest ++ ts)
    have later := weighs_restMembers (fun m member => weighs m (List.mem_cons_of_mem _ member))
      depth ts
    rw [List.forall_mem_cons, and_assoc, ← later, ← first, memberTokens, namedTokens]
    simp [nesting]

/-- The tokens of a document are nested as deep as its arrays and objects stand. -/
theorem weighs (d : Document) : Weighs most d := by
  induction d using Document.induction with
  | array items ih =>
    -- The bracket counts for the array itself, and for all that stands between it and the next one.
    intro depth ts
    have parts := weighs_items ih (depth + 1) (.closeArray :: ts)
    rw [nests_array, and_assoc, tokens, List.cons_append, List.append_assoc, nesting, nesting_le,
      Nat.zero_max]
    exact and_congr_right fun _ => parts
  | object members ih =>
    intro depth ts
    have parts := weighs_members ih (depth + 1) (.closeObject :: ts)
    rw [nests_object, and_assoc, tokens, List.cons_append, List.append_assoc, nesting, nesting_le,
      Nat.zero_max]
    exact and_congr_right fun _ => parts
  | _ => exact fun depth ts => ⟨fun h => ⟨nests_scalar id, h⟩, And.right⟩

theorem nesting_tokens (d : Document) : nesting 0 0 d.tokens ≤ most ↔ d.Nests most 0 := by
  have weighed : nesting 0 0 (d.tokens ++ []) ≤ most ↔ _ := d.weighs 0 []
  rw [List.append_nil] at weighed
  rw [weighed]
  exact and_iff_left (Nat.zero_le most)

/-! ### The value of a document -/

/-- Whether what stands at the top of a document can be read: a number in range, and texts. -/
def IsLegible : Document → Prop
  | .number n => n.number?.isSome
  | .string pieces => (text? pieces).isSome
  | .object members => ∀ m ∈ members, (text? m.1).isSome
  | _ => True

end Document

theorem itemValues_eq_mapM (done : List Json) (items : List Document) :
    itemValues done items = (items.mapM Document.value?).map (done.reverse ++ ·) := by
  induction items generalizing done with
  | nil => simp [itemValues]
  | cons d rest ih =>
    rw [itemValues, List.mapM_cons]
    cases d.value? with
    | none => rfl
    | some v =>
      dsimp only
      rw [ih]
      cases rest.mapM Document.value? <;> simp

theorem memberValues_eq_mapM (done : List (String × Json)) (members : List Member) :
    memberValues done members = (members.mapM memberValue).map (done.reverse ++ ·) := by
  induction members generalizing done with
  | nil => simp [memberValues]
  | cons m rest ih =>
    rw [memberValues, List.mapM_cons]
    cases memberValue m with
    | none => rfl
    | some v =>
      dsimp only
      rw [ih]
      cases rest.mapM memberValue <;> simp

theorem memberValue_eq_some {m : Member} {key : String} {v : Json} :
    memberValue m = some (key, v) ↔ text? m.1 = some key ∧ m.2.value? = some v := by
  obtain ⟨k, d⟩ := m
  rw [memberValue]
  cases text? k <;> cases d.value? <;> simp

namespace Document

theorem value?_array {items : List Document} {v : Json} :
    (array items).value? = some v ↔
      ∃ vs, v = .array vs ∧ items.map value? = vs.map some := by
  rw [value?, itemValues_eq_mapM]
  simp only [List.reverse_nil, List.nil_append, Option.map_id', Option.map_eq_some_iff,
    mapM_eq_some]
  exact exists_congr fun vs => and_comm.trans (and_congr_left' eq_comm)

theorem value?_object {members : List Member} {v : Json} :
    (object members).value? = some v ↔
      ∃ ms, v = ofMembers ms ∧ members.map memberValue = ms.map some := by
  rw [value?, memberValues_eq_mapM]
  simp only [List.reverse_nil, List.nil_append, Option.map_id', Option.map_eq_some_iff,
    mapM_eq_some]
  exact exists_congr fun vs => and_comm.trans (and_congr_left' eq_comm)

theorem exists_value_array {items : List Document} :
    (∃ v, (array items).value? = some v) ↔ ∀ d ∈ items, ∃ v, d.value? = some v := by
  rw [← exists_mapM_eq_some]
  simp only [value?_array, mapM_eq_some]
  constructor
  · rintro ⟨_, vs, -, same⟩
    exact ⟨vs, same⟩
  · rintro ⟨vs, same⟩
    exact ⟨_, vs, rfl, same⟩

theorem exists_value_object {members : List Member} :
    (∃ v, (object members).value? = some v) ↔
      ∀ m ∈ members, (text? m.1).isSome ∧ ∃ v, m.2.value? = some v := by
  have member : ∀ m : Member, ((text? m.1).isSome ∧ ∃ v, m.2.value? = some v) ↔
      ∃ v, memberValue m = some v := by
    intro m
    simp only [Prod.exists, memberValue_eq_some, Option.isSome_iff_exists, exists_and_left,
      exists_and_right]
  simp only [member]
  rw [← exists_mapM_eq_some]
  simp only [value?_object, mapM_eq_some]
  constructor
  · rintro ⟨_, ms, -, same⟩
    exact ⟨ms, same⟩
  · rintro ⟨ms, same⟩
    exact ⟨_, ms, rfl, same⟩

/-- A document has a value if all that stands in it is legible. -/
theorem exists_value {d : Document} :
    (∃ v, d.value? = some v) ↔ d.Throughout everyMember fun _ x => x.IsLegible := by
  induction d using Document.induction with
  | null => exact ⟨fun _ => (throughout_scalar id).mpr trivial, fun _ => ⟨_, rfl⟩⟩
  | bool b => exact ⟨fun _ => (throughout_scalar id).mpr trivial, fun _ => ⟨_, rfl⟩⟩
  | number n =>
    rw [throughout_scalar id, IsLegible, value?]
    cases n.number? <;> simp
  | string pieces =>
    rw [throughout_scalar id, IsLegible, value?]
    cases text? pieces <;> simp
  | array items ih =>
    rw [exists_value_array, throughout_array]
    constructor
    · exact fun h => ⟨trivial, fun d member => (ih d member).mp (h d member)⟩
    · exact fun h d member => (ih d member).mpr (h.2 d member)
  | object members ih =>
    rw [exists_value_object, throughout_object]
    constructor
    · exact fun h => ⟨fun m there => (h m there).1, fun m there => (ih m there).mp (h m there).2⟩
    · exact fun h m there => ⟨h.1 m there, (ih m there).mpr (h.2 m there)⟩

end Document

/-! ### Documents and their values -/

/-- What holds of scalars, and of an array or object as soon as it holds of all its parts, holds of
every value. -/
@[elab_as_elim]
theorem induction {P : Json → Prop} (null : P .null) (bool : ∀ b, P (.bool b))
    (number : ∀ n, P (.number n)) (string : ∀ s, P (.string s))
    (array : ∀ items, (∀ v ∈ items, P v) → P (.array items))
    (object : ∀ members : List (String × Json), (∀ m ∈ members, P m.2) → P (.object members)) :
    ∀ v, P v
  | .null => null
  | .bool b => bool b
  | .number n => number n
  | .string s => string s
  | .array items => array items fun v _ => induction null bool number string array object v
  | .object members =>
    object members fun m _ => induction null bool number string array object m.2
termination_by v => sizeOf v
decreasing_by
  · have smaller := List.sizeOf_lt_of_mem ‹v ∈ items›
    simp only [Json.array.sizeOf_spec]
    omega
  · obtain ⟨key, v⟩ := m
    have smaller := List.sizeOf_lt_of_mem ‹(key, v) ∈ members›
    simp only [Json.object.sizeOf_spec, Prod.mk.sizeOf_spec] at smaller ⊢
    omega

/-- `v.Within n y`: `y` stands `n` levels below the top of `v`. -/
inductive Within : Nat → Json → Json → Prop
  | top {v : Json} : Within 0 v v
  | item {n : Nat} {items : List Json} {v y : Json} : v ∈ items → Within n v y →
    Within (n + 1) (.array items) y
  | member {n : Nat} {members : List (String × Json)} {m : String × Json} {y : Json} :
    m ∈ members → Within n m.2 y → Within (n + 1) (.object members) y

theorem isLast_of_lastMember {members : List Member} {ms : List (String × Json)}
    (h : members.map memberValue = ms.map some) {m : Member} (last : lastMember members m) :
    ∃ w, memberValue m = some w ∧ IsLast ms w := by
  obtain ⟨before, after, rfl, last⟩ := last
  rw [List.map_append, List.map_cons, eq_comm, List.map_eq_append_iff] at h
  obtain ⟨before', rest, rfl, -, same⟩ := h
  rw [List.map_eq_cons_iff] at same
  obtain ⟨w, after', rfl, value, same⟩ := same
  refine ⟨w, value.symm, before', after', rfl, fun w' member => ?_⟩
  obtain ⟨m', later, value'⟩ := exists_item same.symm member
  have named := (memberValue_eq_some.mp value.symm).1
  have named' := (memberValue_eq_some.mp value').1
  intro equal
  refine last m' later ?_
  rw [named, named', equal]

theorem lastMember_of_isLast {members : List Member} {ms : List (String × Json)}
    (h : members.map memberValue = ms.map some) {w : String × Json} (last : IsLast ms w) :
    ∃ m, memberValue m = some w ∧ lastMember members m := by
  obtain ⟨before', after', rfl, last⟩ := last
  rw [List.map_append, List.map_cons, List.map_eq_append_iff] at h
  obtain ⟨before, rest, rfl, -, same⟩ := h
  rw [List.map_eq_cons_iff] at same
  obtain ⟨m, after, rfl, value, same⟩ := same
  refine ⟨m, value, before, after, rfl, fun m' later => ?_⟩
  obtain ⟨w', member, value'⟩ := exists_result same later
  rw [(memberValue_eq_some.mp value).1, (memberValue_eq_some.mp value').1]
  exact fun equal => last w' member (Option.some.inj equal)

namespace Document

/-- What stands in a document stands in its value, unless a later member has its name. -/
theorem within_value {d x : Document} {n : Nat} (within : Within lastMember n d x) {v : Json}
    (h : d.value? = some v) : ∃ y, x.value? = some y ∧ v.Within n y := by
  induction within generalizing v with
  | top => exact ⟨v, h, .top⟩
  | item member _ ih =>
    obtain ⟨vs, rfl, same⟩ := value?_array.mp h
    obtain ⟨w, result, value⟩ := exists_result same member
    obtain ⟨y, read, within⟩ := ih value
    exact ⟨y, read, .item result within⟩
  | member last _ ih =>
    obtain ⟨ms, rfl, same⟩ := value?_object.mp h
    obtain ⟨w, value, last⟩ := isLast_of_lastMember same last
    obtain ⟨y, read, within⟩ := ih (memberValue_eq_some.mp value).2
    exact ⟨y, read, .member ((mem_ofMembers rfl).mpr last) within⟩

theorem eq_array {d : Document} {vs : List Json} (h : d.value? = some (.array vs)) :
    ∃ items, d = .array items ∧ items.map value? = vs.map some := by
  cases d with
  | array items =>
    obtain ⟨ws, same, values⟩ := value?_array.mp h
    cases same
    exact ⟨items, rfl, values⟩
  | object members =>
    obtain ⟨ms, same, -⟩ := value?_object.mp h
    cases same
  | null | bool => cases h
  | number | string =>
    rw [value?, Option.map_eq_some_iff] at h
    obtain ⟨_, -, same⟩ := h
    cases same

theorem eq_object {d : Document} {sorted : List (String × Json)}
    (h : d.value? = some (.object sorted)) :
    ∃ members ms, d = .object members ∧ ofMembers ms = .object sorted ∧
      members.map memberValue = ms.map some := by
  cases d with
  | object members =>
    obtain ⟨ms, same, values⟩ := value?_object.mp h
    exact ⟨members, ms, rfl, same.symm, values⟩
  | array items =>
    obtain ⟨vs, same, -⟩ := value?_array.mp h
    cases same
  | null | bool => cases h
  | number | string =>
    rw [value?, Option.map_eq_some_iff] at h
    obtain ⟨_, -, same⟩ := h
    cases same

/-- What stands in a value stands in the document. -/
theorem within_of_value {v y : Json} {n : Nat} (within : v.Within n y) {d : Document}
    (h : d.value? = some v) : ∃ x, x.value? = some y ∧ Within lastMember n d x := by
  induction within generalizing d with
  | top => exact ⟨d, h, .top⟩
  | item member _ ih =>
    obtain ⟨items, rfl, values⟩ := eq_array h
    obtain ⟨d, item, value⟩ := exists_item values member
    obtain ⟨x, read, within⟩ := ih value
    exact ⟨x, read, .item item within⟩
  | member there _ ih =>
    obtain ⟨members, ms, rfl, same, values⟩ := eq_object h
    obtain ⟨m, value, last⟩ := lastMember_of_isLast values ((mem_ofMembers same).mp there)
    obtain ⟨x, read, within⟩ := ih (memberValue_eq_some.mp value).2
    exact ⟨x, read, .member last within⟩

/-- Whether no object in a document has two members of one name. -/
def IsUnrepeated (d : Document) : Prop :=
  d.Throughout everyMember fun _ x =>
    ∀ members, x = .object members → members.Pairwise fun m m' => text? m.1 ≠ text? m'.1

theorem lastMember_of_pairwise {members : List Member} {m : Member}
    (different : members.Pairwise fun m m' => text? m.1 ≠ text? m'.1) (member : m ∈ members) :
    lastMember members m := by
  obtain ⟨before, after, rfl⟩ := List.append_of_mem member
  obtain ⟨-, later, -⟩ := List.pairwise_append.mp different
  have apart := (List.pairwise_cons.mp later).1
  exact ⟨before, after, rfl, fun m' member => Ne.symm (apart m' member)⟩

theorem within_lastMember {d x : Document} {n : Nat} (unrepeated : d.IsUnrepeated)
    (within : Within everyMember n d x) : Within lastMember n d x := by
  induction within with
  | top => exact .top
  | item member _ ih => exact .item member (ih ((throughout_array.mp unrepeated).2 _ member))
  | member there _ ih =>
    obtain ⟨different, parts⟩ := throughout_object.mp unrepeated
    exact .member (lastMember_of_pairwise (different _ rfl) there) (ih (parts _ there))

theorem everyMember_of_lastMember {members : List Member} {m : Member}
    (last : lastMember members m) : m ∈ members := by
  obtain ⟨before, after, rfl, -⟩ := last
  exact List.mem_append_right before List.mem_cons_self

theorem within_everyMember {d x : Document} {n : Nat} (within : Within lastMember n d x) :
    Within everyMember n d x := by
  induction within with
  | top => exact .top
  | item member _ ih => exact .item member ih
  | member last _ ih => exact .member (everyMember_of_lastMember last) ih

end Document

/-! ### Reading -/

/-- Whether the reader takes a document: not nested too deep, and legible throughout. -/
def Document.IsReadable (d : Document) : Prop :=
  d.Throughout everyMember fun n x => x.IsLegible ∧ (x.IsCompound → n < maxNesting)

/-- The reader takes a text for the value of its document, if that is readable. -/
theorem read?_of_text {d : Document} {bytes : Bytes} (h : SpellsText d bytes) :
    (d.IsReadable → ∃ v, read? bytes = some v ∧ d.value? = some v) ∧
      (¬ d.IsReadable → read? bytes = none) := by
  have nests : nesting 0 0 d.tokens ≤ maxNesting ↔ d.Nests maxNesting 0 := d.nesting_tokens
  have readable : d.IsReadable ↔ d.Nests maxNesting 0 ∧ ∃ v, d.value? = some v := by
    rw [Document.exists_value]
    unfold Document.IsReadable Document.Nests Document.Throughout
    simp only [Nat.zero_add]
    constructor
    · exact fun h => ⟨fun n x within => (h n x within).2, fun n x within => (h n x within).1⟩
    · exact fun h n x within => ⟨h.2 n x within, h.1 n x within⟩
  unfold read?
  rw [tokens?_of_text h]
  dsimp only
  constructor
  · intro reads
    obtain ⟨shallow, v, value⟩ := readable.mp reads
    rw [if_pos (nests.mpr shallow), d.ofTokens?_tokens]
    exact ⟨v, value, value⟩
  · intro unreadable
    split
    next shallow =>
      rw [d.ofTokens?_tokens]
      cases value : d.value? with
      | none => exact value
      | some v => exact (unreadable (readable.mpr ⟨nests.mp shallow, v, value⟩)).elim
    next => rfl

theorem exists_document {bytes : Bytes} {v : Json} (read : read? bytes = some v) :
    ∃ d : Document, d.value? = some v := by
  unfold read? at read
  split at read
  · cases read
  · split at read
    · obtain ⟨d, -, value⟩ := Option.bind_eq_some_iff.mp read
      exact ⟨d, value⟩
    · cases read

theorem inOrder_of_value? {d : Document} {members : List (String × Json)}
    (value : d.value? = some (.object members)) : InOrder members := by
  obtain ⟨_, ms, -, same, -⟩ := Document.eq_object value
  exact ofMembers_inOrder same

theorem inOrder_of_read? {bytes : Bytes} {members : List (String × Json)}
    (read : read? bytes = some (.object members)) : InOrder members := by
  obtain ⟨d, value⟩ := exists_document read
  exact inOrder_of_value? value

end TenantLink.Json
