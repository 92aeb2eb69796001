import TenantLink.Proofs.Json.Pointers
import TenantLink.Proofs.Tenant.Verdict

/-!
# The violation that is reported

Of all that offends in a value the scan reports what a walk in depth comes to first:
`verify_reports`.
-/

namespace TenantLink.TenantScan

open Json (Step pointer Earlier)

variable {scan : TenantScan} {steps : List Step} {v : Json} {violation : Violation}

/-- What offends, and at which place, in a value that stands at `base`: another tenant, and whatever
stands below the limit. -/
inductive Offends (scan : TenantScan) (base : List Step) (v : Json) : List Step → Violation → Prop
  | tenant {place : List Step} {value : Json} : v.At place value →
    (base ++ place).getLast? = some (.member "tenant_id") → ¬ value.StandsFor scan.expected →
    Offends scan base v place
      (.tenantMismatch scan.expected value.tenantText (pointer (base ++ place)))
  | depth {place : List Step} {value : Json} : v.At place value →
    scan.maxDepth < (base ++ place).length →
    Offends scan base v place (.depthExceeded scan.maxDepth)

/-- Whether a walk in depth comes to a violation before all others. At one place it sees the tenant
before the depth. -/
def IsFirst (scan : TenantScan) (base : List Step) (v : Json) (place : List Step)
    (violation : Violation) : Prop :=
  scan.Offends base v place violation ∧
    ∀ other violation', scan.Offends base v other violation' →
      Earlier place other ∨
        other = place ∧ (violation' = violation ∨ violation' = .depthExceeded scan.maxDepth)

/-- What the scan says of a value that it comes to: its tenant first, and then what stands in it. -/
def verdict (scan : TenantScan) (steps : List Step) (v : Json) : Except Violation Unit :=
  match if steps.head? = some (.member tenantField) then scan.check steps v else .ok () with
  | .ok () => scan.visit steps.length steps v
  | .error violation => .error violation

theorem visit_item (i : Nat) (w : Json) :
    scan.visit (steps.length + 1) (.item i :: steps) w = scan.verdict (.item i :: steps) w := rfl

theorem visitMember_eq (m : String × Json) :
    scan.visitMember (steps.length + 1) steps m = scan.verdict (.member m.1 :: steps) m.2 := by
  obtain ⟨key, w⟩ := m
  by_cases named : key = tenantField
  · subst named
    cases checked : scan.check (.member tenantField :: steps) w with
    | ok => simp [visitMember, verdict, checked]
    | error violation => simp [visitMember, verdict, checked]
  · simp [visitMember, verdict, named]

theorem verdict_tenant (last : steps.head? = some (.member tenantField))
    (other : v.tenantText ≠ scan.expected) :
    scan.verdict steps v =
      .error (.tenantMismatch scan.expected v.tenantText (pointer steps.reverse)) := by
  rw [verdict, if_pos last, check, if_neg other]

theorem verdict_visit
    (own : ¬ (steps.head? = some (.member tenantField) ∧ v.tenantText ≠ scan.expected)) :
    scan.verdict steps v = scan.visit steps.length steps v := by
  unfold verdict check
  by_cases last : steps.head? = some (.member tenantField)
  · have same : v.tenantText = scan.expected := Decidable.not_not.mp fun other => own ⟨last, other⟩
    rw [if_pos last, if_pos same]
  · rw [if_neg last]

theorem verdict_ok :
    scan.verdict steps v = .ok () ↔
      ¬ (steps.head? = some (.member tenantField) ∧ v.tenantText ≠ scan.expected) ∧
        scan.PassesAt steps.length v := by
  by_cases own : steps.head? = some (.member tenantField) ∧ v.tenantText ≠ scan.expected
  · rw [verdict_tenant own.1 own.2]
    simp [own]
  · rw [verdict_visit own, visit_ok]
    exact (and_iff_right own).symm

theorem verdict_child {s : Step} {w : Json} (passes : scan.verdict steps v = .ok ())
    (child : v.Child s w) : scan.verdict (s :: steps) w = .ok () := by
  have inside := (verdict_ok.mp passes).2
  refine verdict_ok.mpr ?_
  cases child with
  | item found =>
    have part := (passesAt_array.mp inside).2 w (List.mem_of_getElem? found)
    exact ⟨by simp, part⟩
  | member member =>
    obtain ⟨own, part⟩ := (passesAt_object.mp inside).2 _ member
    refine ⟨?_, part⟩
    rintro ⟨tenant, other⟩
    rw [List.head?_cons, Option.some.injEq, Step.member.injEq] at tenant
    exact other (own tenant)

/-! ### What offends -/

theorem offends_nil :
    scan.Offends steps.reverse v [] violation ↔
      steps.head? = some (.member tenantField) ∧ v.tenantText ≠ scan.expected ∧
          violation = .tenantMismatch scan.expected v.tenantText (pointer steps.reverse) ∨
        scan.maxDepth < steps.length ∧ violation = .depthExceeded scan.maxDepth := by
  constructor
  · intro offends
    cases offends with
    | tenant there last other =>
      cases there with
      | top =>
        rw [List.append_nil] at last ⊢
        rw [List.getLast?_reverse] at last
        exact .inl ⟨last, fun same => other (Json.tenantText_eq_iff.mp same), rfl⟩
    | depth there deep =>
      rw [List.append_nil, List.length_reverse] at deep
      exact .inr ⟨deep, rfl⟩
  · rintro (⟨last, other, rfl⟩ | ⟨deep, rfl⟩)
    · have offends : scan.Offends steps.reverse v []
          (.tenantMismatch scan.expected v.tenantText (pointer (steps.reverse ++ []))) := by
        refine .tenant .top ?_ fun same => other (Json.tenantText_eq_iff.mpr same)
        rwa [List.append_nil, List.getLast?_reverse]
      rwa [List.append_nil] at offends
    · refine .depth .top ?_
      rwa [List.append_nil, List.length_reverse]

theorem offends_cons {s : Step} {place : List Step} :
    scan.Offends steps.reverse v (s :: place) violation ↔
      ∃ w, v.Child s w ∧ scan.Offends (s :: steps).reverse w place violation := by
  have whole : steps.reverse ++ s :: place = (s :: steps).reverse ++ place := by simp
  constructor
  · intro offends
    cases offends with
    | tenant there last other =>
      rw [whole] at last ⊢
      cases there with
      | down child there => exact ⟨_, child, .tenant there last other⟩
    | depth there deep =>
      rw [whole] at deep
      cases there with
      | down child there => exact ⟨_, child, .depth there deep⟩
  · rintro ⟨w, child, offends⟩
    cases offends with
    | tenant there last other =>
      rw [← whole] at last ⊢
      exact .tenant (.down child there) last other
    | depth there deep =>
      rw [← whole] at deep
      exact .depth (.down child there) deep

/-- In a value that passes nothing offends. -/
theorem not_offends {place : List Step} (passes : scan.verdict steps v = .ok ()) :
    ¬ scan.Offends steps.reverse v place violation := by
  induction place generalizing steps v with
  | nil =>
    obtain ⟨own, inside⟩ := verdict_ok.mp passes
    rw [offends_nil]
    rintro (⟨last, other, -⟩ | ⟨deep, -⟩)
    · exact own ⟨last, other⟩
    · exact Nat.not_lt.mpr (inside 0 v .top).1 deep
  | cons s place ih =>
    rw [offends_cons]
    rintro ⟨w, child, offends⟩
    exact ih (verdict_child passes child) offends

/-! ### The part of a value that fails -/

theorem visitItems_error {items : List Json} {index : Nat}
    (failed : scan.visitItems (steps.length + 1) steps index items = .error violation) :
    ∃ i w, items[i]? = some w ∧ scan.verdict (.item (index + i) :: steps) w = .error violation ∧
      ∀ j u, j < i → items[j]? = some u → scan.verdict (.item (index + j) :: steps) u = .ok () := by
  induction items generalizing index with
  | nil => cases failed
  | cons first rest ih =>
    rw [visitItems, visit_item] at failed
    split at failed
    next passed =>
      obtain ⟨i, w, found, fails, before⟩ := ih failed
      rw [Nat.add_right_comm, Nat.add_assoc] at fails
      refine ⟨i + 1, w, found, fails, fun j u earlier there => ?_⟩
      cases j with
      | zero =>
        obtain rfl := Option.some.inj there
        exact passed
      | succ j =>
        have passes := before j u (Nat.lt_of_succ_lt_succ earlier) there
        rwa [Nat.add_right_comm, Nat.add_assoc] at passes
    next fails =>
      cases failed
      exact ⟨0, first, rfl, fails, fun j u earlier => (Nat.not_lt_zero j earlier).elim⟩

theorem visitMembers_error {members : List (String × Json)}
    (failed : scan.visitMembers (steps.length + 1) steps members = .error violation) :
    ∃ before m after, members = before ++ m :: after ∧
      scan.verdict (.member m.1 :: steps) m.2 = .error violation ∧
      ∀ m' ∈ before, scan.verdict (.member m'.1 :: steps) m'.2 = .ok () := by
  induction members with
  | nil => cases failed
  | cons first rest ih =>
    rw [visitMembers, visitMember_eq] at failed
    split at failed
    next passed =>
      obtain ⟨before, m, after, rfl, fails, passes⟩ := ih failed
      exact ⟨first :: before, m, after, rfl, fails, List.forall_mem_cons.mpr ⟨passed, passes⟩⟩
    next fails =>
      cases failed
      exact ⟨[], first, rest, rfl, fails, by simp⟩

/-- A value fails for the first of its parts that does. -/
theorem visit_child (ordered : v.IsOrdered) (shallow : ¬ scan.maxDepth < steps.length)
    (failed : scan.visit steps.length steps v = .error violation) :
    ∃ s w, v.Child s w ∧ scan.verdict (s :: steps) w = .error violation ∧
      ∀ t u, v.Child t u → t.Before s → scan.verdict (t :: steps) u = .ok () := by
  unfold visit at failed
  rw [if_neg shallow] at failed
  cases v with
  | array items =>
    obtain ⟨i, w, found, fails, passes⟩ := visitItems_error failed
    simp only [Nat.zero_add] at fails passes
    refine ⟨.item i, w, .item found, fails, fun t u child before => ?_⟩
    cases child with
    | item there => exact passes _ u before there
  | object members =>
    obtain ⟨before, m, after, rfl, fails, passes⟩ := visitMembers_error failed
    refine ⟨.member m.1, m.2, .member (List.mem_append_right _ List.mem_cons_self), fails,
      fun t u child earlier => ?_⟩
    cases child with
    | @member _ key _ member =>
      -- The members stand in the order of their names, so what comes first is in front.
      have lower : key < m.1 := (Utf8.encode_lt_iff _ _).mp earlier
      obtain ⟨-, later, -⟩ := List.pairwise_append.mp (ordered [] _ .top)
      rcases List.mem_append.mp member with front | back
      · exact passes _ front
      · rcases List.mem_cons.mp back with rfl | back
        · exact (String.lt_irrefl _ lower).elim
        · have upper := (List.pairwise_cons.mp later).1 _ back
          exact (String.lt_asymm lower upper).elim
  | _ => cases failed

/-! ### The first violation -/

theorem isFirst_top (offends : scan.Offends steps.reverse v [] violation)
    (only : ∀ violation', scan.Offends steps.reverse v [] violation' →
      violation' = violation ∨ violation' = .depthExceeded scan.maxDepth) :
    scan.IsFirst steps.reverse v [] violation := by
  refine ⟨offends, fun other violation' there => ?_⟩
  cases other with
  | nil => exact .inr ⟨rfl, only _ there⟩
  | cons => exact .inl .nil

theorem isFirst_child {s : Step} {w : Json} {place : List Step} (ordered : v.IsOrdered)
    (own : ∀ violation', ¬ scan.Offends steps.reverse v [] violation') (child : v.Child s w)
    (passes : ∀ t u, v.Child t u → t.Before s → scan.verdict (t :: steps) u = .ok ())
    (first : scan.IsFirst (s :: steps).reverse w place violation) :
    scan.IsFirst steps.reverse v (s :: place) violation := by
  obtain ⟨offends, before⟩ := first
  refine ⟨offends_cons.mpr ⟨w, child, offends⟩, fun other violation' offends' => ?_⟩
  cases other with
  | nil => exact (own violation' offends').elim
  | cons t other =>
    obtain ⟨u, child', there⟩ := offends_cons.mp offends'
    rcases child.before child' with earlier | rfl | later
    · exact .inl (.rel earlier)
    · obtain rfl := ordered.unique child child'
      rcases before other violation' there with earlier | ⟨rfl, same⟩
      · exact .inl (.cons earlier)
      · exact .inr ⟨rfl, same⟩
    · exact (not_offends (passes t u child' later) there).elim

theorem verdict_error (ordered : v.IsOrdered) (failed : scan.verdict steps v = .error violation) :
    ∃ place, scan.IsFirst steps.reverse v place violation := by
  induction v using Json.child_induction generalizing steps with
  | step v ih =>
    -- The tenant is looked at first, then the depth, and then the parts.
    by_cases tenant : steps.head? = some (.member tenantField) ∧ v.tenantText ≠ scan.expected
    · obtain ⟨last, other⟩ := tenant
      rw [verdict_tenant last other] at failed
      cases failed
      refine ⟨[], isFirst_top (offends_nil.mpr (.inl ⟨last, other, rfl⟩)) ?_⟩
      intro violation' offends
      rcases offends_nil.mp offends with ⟨-, -, same⟩ | ⟨-, same⟩
      · exact .inl same
      · exact .inr same
    · rw [verdict_visit tenant] at failed
      by_cases deep : scan.maxDepth < steps.length
      · unfold visit at failed
        rw [if_pos deep] at failed
        cases failed
        refine ⟨[], isFirst_top (offends_nil.mpr (.inr ⟨deep, rfl⟩)) ?_⟩
        intro violation' offends
        rcases offends_nil.mp offends with ⟨last, other, -⟩ | ⟨-, same⟩
        · exact (tenant ⟨last, other⟩).elim
        · exact .inr same
      · obtain ⟨s, w, child, fails, passes⟩ := visit_child ordered deep failed
        obtain ⟨place, first⟩ := ih s w child (ordered.child child) fails
        refine ⟨s :: place, isFirst_child ordered ?_ child passes first⟩
        intro violation' offends
        rcases offends_nil.mp offends with ⟨last, other, -⟩ | ⟨below, -⟩
        · exact tenant ⟨last, other⟩
        · exact deep below

theorem IsFirst.unique {base place other : List Step} {violation' : Violation}
    (first : scan.IsFirst base v place violation) (first' : scan.IsFirst base v other violation') :
    place = other ∧ violation = violation' := by
  rcases first.2 other violation' first'.1 with earlier | ⟨rfl, same⟩
  · rcases first'.2 place violation first.1 with later | ⟨rfl, -⟩
    · exact (Json.earlier_asymm earlier later).elim
    · exact (Json.earlier_asymm earlier earlier).elim
  · rcases first'.2 other violation first.1 with later | ⟨-, same'⟩
    · exact (Json.earlier_asymm later later).elim
    · refine ⟨rfl, ?_⟩
      rcases same with rfl | rfl
      · rfl
      · rcases same' with rfl | rfl <;> rfl

theorem pointer_tenant (place : List Step) :
    pointer (place ++ [.member "tenant_id"]) = pointer place ++ "/tenant_id" := by
  unfold pointer
  rw [List.flatMap_append, String.ofList_append]
  rfl

/-- The path of a violation leads to the tenant that offends. -/
theorem Offends.leads {place : List Step} {expected found path : String} (ordered : v.IsOrdered)
    (offends : scan.Offends [] v place (.tenantMismatch expected found path)) :
    expected = scan.expected ∧ found ≠ scan.expected ∧
      ∃ parent members value, path = parent ++ "/tenant_id" ∧
        v.resolve? parent = some (.object members) ∧ ("tenant_id", value) ∈ members ∧
        v.resolve? path = some value ∧ value.StandsFor found := by
  cases offends with
  | @tenant value there last other =>
    rw [List.nil_append] at last
    obtain ⟨higher, rfl⟩ := List.getLast?_eq_some_iff.mp last
    obtain ⟨_, above, child⟩ := there.parent
    have led := Json.resolve?_pointer ordered there
    cases child with
    | @member members _ _ member =>
      exact ⟨rfl, fun same => other (Json.tenantText_eq_iff.mp same), pointer higher, members,
        value, pointer_tenant higher, Json.resolve?_pointer ordered above, member, led,
        Json.tenantText_eq_iff.mp rfl⟩

/-- Why a value is rejected whose members are in order, as the reader gives them: for the first
violation in it, and for another tenant at the place that the path leads to. No other place has that
path. -/
theorem verify_reports (scan : TenantScan) (v : Json) (ordered : v.IsOrdered) :
    (∀ violation, scan.verify v = .error violation ↔
      v.carriesTenant = true ∧ ∃ place, scan.IsFirst [] v place violation) ∧
    (∀ expected found path, scan.verify v = .error (.tenantMismatch expected found path) →
      expected = scan.expected ∧ found ≠ scan.expected ∧
        ∃ parent members value, path = parent ++ "/tenant_id" ∧
          v.resolve? parent = some (.object members) ∧ ("tenant_id", value) ∈ members ∧
          v.resolve? path = some value ∧ value.StandsFor found) ∧
    ∀ place other y z, v.At place y → v.At other z → place ≠ other →
      pointer place ≠ pointer other := by
  have reports : ∀ violation, scan.verify v = .error violation ↔
      v.carriesTenant = true ∧ ∃ place, scan.IsFirst [] v place violation := by
    intro violation
    unfold verify
    by_cases carries : v.carriesTenant = true
    · rw [if_pos carries, and_iff_right carries]
      show scan.verdict [] v = .error violation ↔ _
      constructor
      · exact verdict_error ordered
      · rintro ⟨place, first⟩
        cases result : scan.verdict [] v with
        | ok => exact (not_offends result first.1).elim
        | error violation' =>
          obtain ⟨place', first'⟩ := verdict_error ordered result
          rw [(first.unique first').2]
    · simp [carries]
  refine ⟨reports, fun expected found path rejected => ?_, fun place other y z there there' => ?_⟩
  · obtain ⟨-, place, offends, -⟩ := (reports _).mp rejected
    exact offends.leads ordered
  · exact fun different same => different (Json.place_unique ordered there there' same).1

/-- An object of tenant `B` behind a name with a slash, in an object of tenant `A`. -/
def slashed : Json :=
  .object [("a/b", .object [("tenant_id", .string "B")]), ("tenant_id", .string "A")]

theorem slashed_isOrdered : slashed.IsOrdered := by
  intro place members there
  rcases there with _ | ⟨_ | member, there⟩
  · show List.Pairwise _ _
    decide
  · simp only [List.mem_cons, Prod.mk.injEq, List.not_mem_nil, or_false] at member
    rcases member with ⟨rfl, rfl⟩ | ⟨rfl, rfl⟩
    · rcases there with _ | ⟨_ | member, there⟩
      · exact List.pairwise_singleton _ _
      · cases List.mem_singleton.mp member
        rcases there with _ | ⟨⟨⟩, -⟩
    · rcases there with _ | ⟨⟨⟩, -⟩

theorem verify_reports_slashed :
    (TenantScan.mk "A" 64).verify slashed =
        .error (.tenantMismatch "A" "B" "/a~1b/tenant_id") ∧
      ∃ place, (TenantScan.mk "A" 64).IsFirst [] slashed place
        (.tenantMismatch "A" "B" "/a~1b/tenant_id") := by
  have rejected : (TenantScan.mk "A" 64).verify slashed =
      .error (.tenantMismatch "A" "B" "/a~1b/tenant_id") := rfl
  obtain ⟨reports, -, -⟩ := verify_reports ⟨"A", 64⟩ slashed slashed_isOrdered
  exact ⟨rejected, ((reports _).mp rejected).2⟩

end TenantLink.TenantScan
