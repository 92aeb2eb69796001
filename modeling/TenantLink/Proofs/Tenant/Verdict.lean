import TenantLink.Proofs.Json.Places
import TenantLink.Tenant.Scan

/-!
# The verdict of the scan

The scan of a value passes if everything in it stands high enough and no object in it names another
tenant: `visit_ok`. Of a body it goes by the value that the reader takes the body for.
-/

namespace TenantLink

namespace Json

/-- Whether an object names a tenant for itself, if it names one. -/
def IsOf (tenant : String) : Json → Prop
  | .object members => ∀ m ∈ members, m.1 = tenantField → m.2.tenantText = tenant
  | _ => True

/-- Whether a value stands for a tenant: a string for what it says, and any other value for its
text. -/
def StandsFor (value : Json) (tenant : String) : Prop :=
  value = .string tenant ∨ (∀ s, value ≠ .string s) ∧ value.text = tenant

theorem tenantText_eq_iff {value : Json} {tenant : String} :
    value.tenantText = tenant ↔ value.StandsFor tenant := by
  unfold StandsFor
  cases value <;> simp [tenantText]

/-- Whether a value is an object that names a tenant for itself. -/
def NamesTenant (v : Json) : Prop :=
  ∃ members, v = .object members ∧ ∃ m ∈ members, m.1 = "tenant_id"

theorem isTagged_iff {v : Json} : v.isTagged = true ↔ v.NamesTenant := by
  unfold NamesTenant
  cases v with
  | object members =>
    have found : (Json.object members).isTagged = true ↔ ∃ m ∈ members, m.1 = tenantField := by
      rw [isTagged, member?, List.lookup_isSome_iff]
      simp only [beq_iff_eq]
      exact exists_congr fun m => and_congr_right fun _ => eq_comm
    rw [found]
    simp [tenantField]
  | _ => simp [isTagged, member?]

theorem carriesTenant_iff {v : Json} :
    v.carriesTenant = true ↔
      v.NamesTenant ∨ ∃ items, v = .array items ∧ ∃ w ∈ items, w.NamesTenant := by
  cases v with
  | array items =>
    rw [carriesTenant, List.any_eq_true]
    simp [isTagged_iff, NamesTenant]
  | _ =>
    rw [carriesTenant, isTagged_iff]
    · simp
    · simp

end Json

namespace TenantScan

open Json (Within)

variable {scan : TenantScan}

/-- Whether a part of a value passes that stands `n` levels below the top. -/
def Passes (scan : TenantScan) (n : Nat) (y : Json) : Prop :=
  n ≤ scan.maxDepth ∧ y.IsOf scan.expected

/-- Whether a value passes when it stands at a depth. -/
def PassesAt (scan : TenantScan) (depth : Nat) (v : Json) : Prop :=
  ∀ n y, v.Within n y → scan.Passes (depth + n) y

theorem passesAt_array {depth : Nat} {items : List Json} :
    scan.PassesAt depth (.array items) ↔
      depth ≤ scan.maxDepth ∧ ∀ v ∈ items, scan.PassesAt (depth + 1) v := by
  constructor
  · intro h
    refine ⟨(h 0 _ .top).1, fun v member n y within => ?_⟩
    rw [Nat.add_right_comm]
    exact h (n + 1) y (.item member within)
  · rintro ⟨shallow, parts⟩ n y within
    cases within with
    | top => exact ⟨shallow, trivial⟩
    | @item n _ v _ member within =>
      have passes := parts v member n y within
      rwa [Nat.add_right_comm] at passes

theorem passesAt_object {depth : Nat} {members : List (String × Json)} :
    scan.PassesAt depth (.object members) ↔
      depth ≤ scan.maxDepth ∧ ∀ m ∈ members,
        (m.1 = tenantField → m.2.tenantText = scan.expected) ∧ scan.PassesAt (depth + 1) m.2 := by
  constructor
  · intro h
    obtain ⟨shallow, own⟩ := h 0 _ .top
    refine ⟨shallow, fun m member => ⟨own m member, fun n y within => ?_⟩⟩
    rw [Nat.add_right_comm]
    exact h (n + 1) y (.member member within)
  · rintro ⟨shallow, parts⟩ n y within
    cases within with
    | top => exact ⟨shallow, fun m member => (parts m member).1⟩
    | @member n _ m _ member within =>
      have passes := (parts m member).2 n y within
      rwa [Nat.add_right_comm] at passes

theorem passesAt_scalar {depth : Nat} {v : Json} (item : ∀ items, v ≠ .array items)
    (member : ∀ members, v ≠ .object members) :
    scan.PassesAt depth v ↔ depth ≤ scan.maxDepth := by
  constructor
  · exact fun h => (h 0 v .top).1
  · rintro shallow n y within
    cases within with
    | top =>
      refine ⟨shallow, ?_⟩
      cases v with
      | object members => exact (member _ rfl).elim
      | _ => trivial
    | item => exact (item _ rfl).elim
    | member => exact (member _ rfl).elim

theorem visitItems_ok {items : List Json}
    (ih : ∀ v ∈ items, ∀ depth steps,
      scan.visit depth steps v = .ok () ↔ scan.PassesAt depth v)
    (depth : Nat) (steps : List Json.Step) (index : Nat) :
    scan.visitItems depth steps index items = .ok () ↔ ∀ v ∈ items, scan.PassesAt depth v := by
  induction items generalizing index with
  | nil => simp [visitItems]
  | cons v rest rest_ih =>
    have later := rest_ih (fun v member => ih v (List.mem_cons_of_mem _ member)) (index + 1)
    have first := ih v List.mem_cons_self depth (.item index :: steps)
    rw [List.forall_mem_cons, ← first, ← later, visitItems]
    split
    next ok => simp [ok]
    next v failed => simp [failed]

theorem visitMember_ok {m : String × Json}
    (ih : ∀ depth steps, scan.visit depth steps m.2 = .ok () ↔ scan.PassesAt depth m.2)
    (depth : Nat) (steps : List Json.Step) :
    scan.visitMember depth steps m = .ok () ↔
      (m.1 = tenantField → m.2.tenantText = scan.expected) ∧ scan.PassesAt depth m.2 := by
  obtain ⟨key, v⟩ := m
  rw [← ih depth (.member key :: steps), visitMember]
  unfold check
  by_cases tenant : key = tenantField
  · by_cases same : v.tenantText = scan.expected
    · simp [tenant, same]
    · simp [tenant, same]
  · simp [tenant]

theorem visitMembers_ok {members : List (String × Json)}
    (ih : ∀ m ∈ members, ∀ depth steps,
      scan.visit depth steps m.2 = .ok () ↔ scan.PassesAt depth m.2)
    (depth : Nat) (steps : List Json.Step) :
    scan.visitMembers depth steps members = .ok () ↔ ∀ m ∈ members,
      (m.1 = tenantField → m.2.tenantText = scan.expected) ∧ scan.PassesAt depth m.2 := by
  induction members with
  | nil => simp [visitMembers]
  | cons m rest rest_ih =>
    have later := rest_ih fun m member => ih m (List.mem_cons_of_mem _ member)
    have first := visitMember_ok (ih m List.mem_cons_self) depth steps
    rw [List.forall_mem_cons, ← first, ← later, visitMembers]
    split
    next ok => simp [ok]
    next v failed => simp [failed]

/-- What stands too deep does not pass. -/
theorem visit_deep {depth : Nat} (deep : scan.maxDepth < depth) (steps : List Json.Step)
    (v : Json) : scan.visit depth steps v = .ok () ↔ scan.PassesAt depth v := by
  have failed : scan.visit depth steps v = .error (.depthExceeded scan.maxDepth) := by
    cases v <;> exact if_pos deep
  rw [failed]
  constructor
  · intro ok
    cases ok
  · intro passes
    exact (Nat.not_lt.mpr (passes 0 v .top).1 deep).elim

theorem visit_ok (scan : TenantScan) (v : Json) (depth : Nat) (steps : List Json.Step) :
    scan.visit depth steps v = .ok () ↔ scan.PassesAt depth v := by
  -- The depth guard comes first in every case, and scalars have no other.
  induction v using Json.induction generalizing depth steps with
  | array items ih =>
    by_cases deep : scan.maxDepth < depth
    · exact visit_deep deep steps _
    · rw [visit, if_neg deep, passesAt_array, visitItems_ok ih]
      exact (and_iff_right (Nat.not_lt.mp deep)).symm
  | object members ih =>
    by_cases deep : scan.maxDepth < depth
    · exact visit_deep deep steps _
    · rw [visit, if_neg deep, passesAt_object, visitMembers_ok ih]
      exact (and_iff_right (Nat.not_lt.mp deep)).symm
  | null | bool | number | string =>
    by_cases deep : scan.maxDepth < depth
    · exact visit_deep deep steps _
    · unfold visit
      rw [if_neg deep, passesAt_scalar (by simp) (by simp)]
      exact iff_of_true rfl (Nat.not_lt.mp deep)

/-- A value that names no tenant is not looked at. -/
theorem verify_error {v : Json} :
    (∃ violation, scan.verify v = .error violation) ↔
      v.carriesTenant = true ∧ ∃ n y, v.Within n y ∧ ¬ scan.Passes n y := by
  have visited := scan.visit_ok v 0 []
  unfold verify
  by_cases carries : v.carriesTenant = true
  · have failed : (∃ violation, scan.visit 0 [] v = .error violation) ↔
        ¬ scan.visit 0 [] v = .ok () := by
      cases scan.visit 0 [] v <;> simp
    rw [if_pos carries, failed, visited]
    simp [PassesAt, carries]
  · rw [if_neg carries]
    simp [carries]

/-- What passes the scan: a value that is no object with a tenant and no list with one among its
items, and a value with nothing deeper than the limit and no other tenant anywhere. -/
theorem verify_ok (scan : TenantScan) (v : Json) :
    scan.verify v = .ok () ↔
      ¬ (v.NamesTenant ∨ ∃ items, v = .array items ∧ ∃ w ∈ items, w.NamesTenant) ∨
      (∀ n y, v.Within n y → n ≤ scan.maxDepth) ∧
        ∀ n members m, v.Within n (.object members) → m ∈ members → m.1 = "tenant_id" →
          m.2.StandsFor scan.expected := by
  have passed : scan.verify v = .ok () ↔ ¬ ∃ violation, scan.verify v = .error violation := by
    cases scan.verify v <;> simp
  rw [passed, verify_error, Json.carriesTenant_iff, Classical.not_and_iff_not_or_not]
  refine or_congr_right ?_
  constructor
  · intro none
    have passes : ∀ n y, v.Within n y → scan.Passes n y := by simpa using none
    refine ⟨fun n y within => (passes n y within).1, fun n members m within member named => ?_⟩
    exact Json.tenantText_eq_iff.mp ((passes n _ within).2 m member named)
  · rintro ⟨shallow, own⟩ ⟨n, y, within, fails⟩
    refine fails ⟨shallow n y within, ?_⟩
    cases y with
    | object members =>
      intro m member named
      exact Json.tenantText_eq_iff.mpr (own n members m within member named)
    | _ => trivial

end TenantScan

end TenantLink
