import Mathlib
import TenantLink.Proofs.Tenant.Verdict

/-!
# The bodies that are rejected

What the scan says of a body that is a JSON text, told by the text itself: `verifyBody_text`. A text
that the reader does not take passes unread, and of members with one name only the last is looked
at.
-/

namespace TenantLink

open Json (Document Choice Member everyMember lastMember text? memberValue SpellsText)

/-! ### Tenants in documents -/

namespace Json.Document

def IsTagged : Document → Prop
  | .object members => ∃ m ∈ members, Json.text? m.1 = some "tenant_id"
  | _ => False

/-- Whether a document, or an item of it, is an object with a tenant. -/
def CarriesTenant : Document → Prop
  | .array items => ∃ d ∈ items, d.IsTagged
  | d => d.IsTagged

/-- Whether a document is an object with a tenant that is not the given one. -/
def IsNotOf (pick : Choice) (tenant : String) (x : Document) : Prop :=
  ∃ members m, x = .object members ∧ pick members m ∧ Json.text? m.1 = some "tenant_id" ∧
    m.2.value?.map tenantText ≠ some tenant

theorem isTagged_value {d : Document} {v : Json} (h : d.value? = some v) :
    v.isTagged = true ↔ d.IsTagged := by
  constructor
  · intro tagged
    cases v with
    | object sorted =>
      obtain ⟨_, ⟨⟩, m, member, named⟩ := isTagged_iff.mp tagged
      obtain ⟨members, ms, rfl, same, values⟩ := eq_object h
      obtain ⟨m', value, last⟩ := lastMember_of_isLast values ((mem_ofMembers same).mp member)
      refine ⟨m', everyMember_of_lastMember last, ?_⟩
      rw [(memberValue_eq_some.mp value).1, named]
    | _ => cases tagged
  · intro tagged
    cases d with
    | object members =>
      obtain ⟨m, member, named⟩ := tagged
      obtain ⟨ms, rfl, values⟩ := value?_object.mp h
      obtain ⟨w, result, value⟩ := exists_result values member
      have same : w.1 = tenantField :=
        Option.some.inj ((memberValue_eq_some.mp value).1.symm.trans named)
      obtain ⟨last, isLast, name⟩ := exists_isLast ⟨w, result, same⟩
      exact isTagged_iff.mpr ⟨_, rfl, last, (mem_ofMembers rfl).mpr isLast, name⟩
    | _ => exact tagged.elim

theorem carriesTenant_value {d : Document} {v : Json} (h : d.value? = some v) :
    v.carriesTenant = true ↔ d.CarriesTenant := by
  have own := isTagged_value h
  cases v with
  | array vs =>
    obtain ⟨items, rfl, values⟩ := eq_array h
    rw [carriesTenant, List.any_eq_true]
    constructor
    · rintro ⟨v, member, tagged⟩
      obtain ⟨d, item, value⟩ := exists_item values member
      exact ⟨d, item, (isTagged_value value).mp tagged⟩
    · rintro ⟨d, item, tagged⟩
      obtain ⟨v, member, value⟩ := exists_result values item
      exact ⟨v, member, (isTagged_value value).mpr tagged⟩
  | object sorted =>
    obtain ⟨members, ms, rfl, -, -⟩ := eq_object h
    exact own
  | null | bool | number | string =>
    cases d with
    | array items =>
      obtain ⟨vs, same, -⟩ := value?_array.mp h
      cases same
    | _ => exact own

theorem isNotOf_value {x : Document} {y : Json} (h : x.value? = some y) (tenant : String) :
    x.IsNotOf lastMember tenant ↔ ¬ y.IsOf tenant := by
  constructor
  · rintro ⟨members, m, rfl, last, named, other⟩ own
    obtain ⟨ms, rfl, values⟩ := value?_object.mp h
    obtain ⟨w, value, isLast⟩ := isLast_of_lastMember values last
    obtain ⟨name, content⟩ := memberValue_eq_some.mp value
    refine other ?_
    rw [content, Option.map_some,
      own w ((mem_ofMembers rfl).mpr isLast) (Option.some.inj (name.symm.trans named))]
  · intro other
    cases y with
    | object sorted =>
      obtain ⟨members, ms, rfl, same, values⟩ := eq_object h
      by_contra none
      refine other fun w member named => ?_
      obtain ⟨m, value, last⟩ := lastMember_of_isLast values ((mem_ofMembers same).mp member)
      obtain ⟨name, content⟩ := memberValue_eq_some.mp value
      by_contra different
      have tagged := name.trans (congrArg some named)
      refine none ⟨members, m, rfl, last, tagged, fun equal => different ?_⟩
      rw [content, Option.map_some] at equal
      exact Option.some.inj equal
    | _ => exact (other trivial).elim

/-- Without repeated names the choice of members makes no difference. -/
theorem isNotOf_everyMember {d x : Document} {n : Nat} (unrepeated : d.IsUnrepeated)
    (within : Within everyMember n d x) (tenant : String) :
    x.IsNotOf everyMember tenant ↔ x.IsNotOf lastMember tenant := by
  constructor
  · rintro ⟨members, m, rfl, member, rest⟩
    have different := unrepeated n _ within members rfl
    exact ⟨members, m, rfl, lastMember_of_pairwise different member, rest⟩
  · rintro ⟨members, m, rfl, last, rest⟩
    exact ⟨members, m, rfl, everyMember_of_lastMember last, rest⟩

end Json.Document

namespace TenantScan

open Json.Document

/-- What the reader does not take passes. -/
theorem verifyBody_of_unreadable (scan : TenantScan) {d : Document} {body : Bytes}
    (text : SpellsText d body) (unreadable : ¬ d.IsReadable) : scan.verifyBody body = .ok () := by
  unfold verifyBody
  rw [(Json.read?_of_text text).2 unreadable]

/-- A body that is a JSON text. If the reader does not take it, it passes. If the reader takes it,
it is rejected when it carries a tenant and something in it stands too deep or names another
tenant; members whose name comes again later do not count, and without such members everything
does. -/
theorem verifyBody_text (scan : TenantScan) (d : Document) (body : Bytes)
    (text : SpellsText d body) :
    (¬ d.IsReadable → scan.verifyBody body = .ok ()) ∧
    (d.IsReadable →
      ((∃ violation, scan.verifyBody body = .error violation) ↔
        d.CarriesTenant ∧ ∃ n x, d.Within lastMember n x ∧
          (scan.maxDepth < n ∨ x.IsNotOf lastMember scan.expected))) ∧
    (d.IsReadable → d.IsUnrepeated →
      ((∃ violation, scan.verifyBody body = .error violation) ↔
        d.CarriesTenant ∧ ∃ n x, d.Within everyMember n x ∧
          (scan.maxDepth < n ∨ x.IsNotOf everyMember scan.expected))) := by
  have verdict : d.IsReadable →
      ((∃ violation, scan.verifyBody body = .error violation) ↔
        d.CarriesTenant ∧ ∃ n x, d.Within lastMember n x ∧
          (scan.maxDepth < n ∨ x.IsNotOf lastMember scan.expected)) := by
    intro reads
    -- The scan goes over the value: each place in it is one in the document, and the other way
    -- round.
    obtain ⟨v, read, value⟩ := (Json.read?_of_text text).1 reads
    unfold verifyBody
    rw [read]
    dsimp only
    rw [verify_error, carriesTenant_value value]
    refine and_congr_right fun _ => ?_
    constructor
    · rintro ⟨n, y, within, fails⟩
      obtain ⟨x, content, there⟩ := within_of_value within value
      refine ⟨n, x, there, ?_⟩
      rw [isNotOf_value content, ← Nat.not_le, ← not_and_or]
      exact fails
    · rintro ⟨n, x, within, offends⟩
      obtain ⟨y, content, there⟩ := within_value within value
      refine ⟨n, y, there, ?_⟩
      rw [isNotOf_value content, ← Nat.not_le, ← not_and_or] at offends
      exact offends
  refine ⟨scan.verifyBody_of_unreadable text, verdict, fun reads unrepeated => ?_⟩
  rw [verdict reads]
  refine and_congr_right fun _ => exists_congr fun n => exists_congr fun x => ?_
  constructor
  · rintro ⟨within, offends⟩
    have there := within_everyMember within
    exact ⟨there, offends.imp_right (isNotOf_everyMember unrepeated there _).mpr⟩
  · rintro ⟨within, offends⟩
    refine ⟨within_lastMember unrepeated within, ?_⟩
    exact offends.imp_right (isNotOf_everyMember unrepeated within _).mp

/-! ### Bodies with one tenant -/

def tagged (tenant : String) : Document :=
  .object [(Json.plainPieces "tenant_id", .string (Json.plainPieces tenant))]

def taggedText (tenant : String) : Bytes :=
  0x7B :: ((Json.quotedText "tenant_id" ++ 0x3A :: Json.quotedText tenant) ++ [0x7D])

theorem tagged_spelled {tenant : String} (plain : tenant.toList.all Json.isPlainChar = true) :
    Json.SpellsValue (tagged tenant) (taggedText tenant) := by
  have plainKey : "tenant_id".toList.all Json.isPlainChar = true := by decide
  have key := Json.spellsString_plain plainKey
  have value := (Json.SpellsValue.string (Json.spellsString_plain plain)).text
  exact .object (.last (.named Json.isBlank_nil key Json.isBlank_nil value))

theorem text?_tenant : text? (Json.plainPieces "tenant_id") = some "tenant_id" := by
  cbv

theorem tagged_carriesTenant (tenant : String) : (tagged tenant).CarriesTenant :=
  ⟨_, List.mem_singleton_self _, text?_tenant⟩

theorem tagged_isNotOf {tenant found expected : String}
    (read : text? (Json.plainPieces tenant) = some found) (other : found ≠ expected) :
    (tagged tenant).IsNotOf everyMember expected := by
  refine ⟨_, _, rfl, List.mem_singleton_self _, text?_tenant, ?_⟩
  rw [Json.Document.value?, read]
  exact fun same => other (Option.some.inj same)

theorem verifyBody_text_tagged :
    ∃ violation, (TenantScan.mk "A" 64).verifyBody (taggedText "B") = .error violation := by
  have read : text? (Json.plainPieces "B") = some "B" := by cbv
  have plain : "B".toList.all Json.isPlainChar = true := by decide
  have text := (tagged_spelled plain).text
  have readable : (tagged "B").IsReadable := by
    refine throughout_object.mpr ⟨⟨?_, fun _ => by decide⟩, ?_⟩
    · intro m member
      rw [List.mem_singleton.mp member, text?_tenant]
      rfl
    · intro m member
      rw [List.mem_singleton.mp member]
      refine (throughout_scalar id).mpr ⟨?_, False.elim⟩
      show (text? (Json.plainPieces "B")).isSome
      rw [read]
      rfl
  have unrepeated : (tagged "B").IsUnrepeated := by
    refine throughout_object.mpr ⟨?_, ?_⟩
    · rintro members ⟨rfl⟩
      exact List.pairwise_singleton _ _
    · intro m member
      rw [List.mem_singleton.mp member]
      refine (throughout_scalar id).mpr ?_
      rintro members ⟨⟩
  obtain ⟨-, -, verdict⟩ := verifyBody_text ⟨"A", 64⟩ (tagged "B") (taggedText "B") text
  exact (verdict readable unrepeated).mpr
    ⟨tagged_carriesTenant "B", 0, _, .top, .inr (tagged_isNotOf read (by decide))⟩

/-! ### Bodies nested too deep -/

def deep : Nat → Document
  | 0 => .array []
  | n + 1 => .array [deep n]

def deepText : Nat → Bytes
  | 0 => [0x5B, 0x5D]
  | n + 1 => 0x5B :: (deepText n ++ [0x5D])

theorem deep_spelled (n : Nat) : Json.SpellsValue (deep n) (deepText n) := by
  induction n with
  | zero => exact .emptyArray Json.isBlank_nil
  | succ n ih => exact .array (.last ih.text)

theorem within_deep (n : Nat) : (deep n).Within everyMember n (.array []) := by
  induction n with
  | zero => exact .top
  | succ n ih => exact .item (List.mem_singleton_self _) ih

/-- Beside something that is nested deep enough an object of another tenant passes. -/
theorem nested_tenant_passes :
    ∃ d body, SpellsText d body ∧ d.CarriesTenant ∧
      (∃ n x, d.Within everyMember n x ∧ x.IsNotOf everyMember "A") ∧
      (TenantScan.mk "A" 64).verifyBody body = .ok () := by
  have read : text? (Json.plainPieces "B") = some "B" := by cbv
  have plain : "B".toList.all Json.isPlainChar = true := by decide
  have first := (tagged_spelled plain).text
  have text := (Json.SpellsValue.array (.more first (.last (deep_spelled 126).text))).text
  refine ⟨_, _, text, ⟨_, List.mem_cons_self, tagged_carriesTenant "B"⟩,
    ⟨1, _, .item List.mem_cons_self .top, tagged_isNotOf read (by decide)⟩,
    verifyBody_of_unreadable _ text fun readable => ?_⟩
  have inside := List.mem_cons_of_mem (tagged "B") (List.mem_singleton_self (deep 126))
  have shallow := (readable 127 _ (.item inside (within_deep 126))).2 trivial
  exact Nat.lt_irrefl 127 shallow

end TenantScan

end TenantLink
