import TenantLink.Json.Value

/-!
# The members of an object

An object keeps its members in the order of their names, and of the members with one name the last
that was written: `mem_ofMembers`.
-/

namespace TenantLink.Json

/-- Whether members are in the order of their names, which are all different. -/
def InOrder (members : List (String × Json)) : Prop := members.Pairwise (·.1 < ·.1)

variable {sorted : List (String × Json)} {m : String × Json} {key : String} {value : Json}

theorem lt_of_not_lt {a b : String} (least : ¬ a < b) (different : a ≠ b) : b < a :=
  String.not_le.mp fun above => different (String.le_antisymm above (String.not_lt.mp least))

theorem mem_insertMember_of_mem (member : m ∈ insertMember key value sorted) :
    m = (key, value) ∨ m ∈ sorted := by
  induction sorted with
  | nil => exact .inl (List.mem_singleton.mp member)
  | cons first rest ih =>
    rw [insertMember] at member
    split at member
    · exact List.mem_cons.mp member
    · split at member
      · exact (List.mem_cons.mp member).imp_right (List.mem_cons_of_mem first)
      · rcases List.mem_cons.mp member with same | later
        · exact .inr (same ▸ List.mem_cons_self)
        · exact (ih later).imp_right (List.mem_cons_of_mem first)

theorem insertMember_inOrder (h : InOrder sorted) : InOrder (insertMember key value sorted) := by
  induction sorted with
  | nil => exact List.pairwise_singleton _ _
  | cons first rest ih =>
    obtain ⟨behind, ordered⟩ := List.pairwise_cons.mp h
    rw [insertMember]
    split
    next before =>
      refine List.pairwise_cons.mpr ⟨fun m member => ?_, h⟩
      rcases List.mem_cons.mp member with rfl | later
      · exact before
      · exact String.lt_trans before (behind m later)
    next notBefore =>
      split
      next same =>
        subst same
        exact List.pairwise_cons.mpr ⟨behind, ordered⟩
      next different =>
        refine List.pairwise_cons.mpr ⟨fun m member => ?_, ih ordered⟩
        rcases mem_insertMember_of_mem member with rfl | later
        · exact lt_of_not_lt notBefore different
        · exact behind m later

/-- The new member takes the place of the one with its name. -/
theorem mem_insertMember (h : InOrder sorted) :
    m ∈ insertMember key value sorted ↔ m = (key, value) ∨ m.1 ≠ key ∧ m ∈ sorted := by
  induction sorted with
  | nil => simp [insertMember]
  | cons first rest ih =>
    obtain ⟨behind, ordered⟩ := List.pairwise_cons.mp h
    have later : m ∈ rest → first.1 < m.1 := behind m
    rw [insertMember]
    split
    next before =>
      have above : m ∈ first :: rest → m.1 ≠ key := by
        intro member same
        rcases List.mem_cons.mp member with rfl | member
        · exact String.lt_irrefl key (same ▸ before)
        · exact String.lt_irrefl key (String.lt_trans before (same ▸ later member))
      rw [List.mem_cons]
      exact or_congr_right ⟨fun member => ⟨above member, member⟩, And.right⟩
    next notBefore =>
      split
      next same =>
        subst same
        rw [List.mem_cons, List.mem_cons]
        refine or_congr_right ⟨fun member => ⟨fun same => ?_, .inr member⟩, ?_⟩
        · exact String.lt_irrefl m.1 (same.symm ▸ later member)
        · rintro ⟨different, rfl | member⟩
          · exact (different rfl).elim
          · exact member
      next different =>
        rw [List.mem_cons, List.mem_cons, ih ordered]
        constructor
        · rintro (rfl | new | ⟨other, member⟩)
          · exact .inr ⟨Ne.symm different, .inl rfl⟩
          · exact .inl new
          · exact .inr ⟨other, .inr member⟩
        · rintro (new | ⟨other, same | member⟩)
          · exact .inr (.inl new)
          · exact .inl same
          · exact .inr (.inr ⟨other, member⟩)

/-- Whether a member is there, and no later one has its name. -/
def IsLast (members : List (String × Json)) (m : String × Json) : Prop :=
  ∃ before after, members = before ++ m :: after ∧ ∀ m' ∈ after, m'.1 ≠ m.1

theorem isLast_cons {first : String × Json} {rest : List (String × Json)} :
    IsLast (first :: rest) m ↔ IsLast rest m ∨ m = first ∧ ∀ m' ∈ rest, m'.1 ≠ m.1 := by
  constructor
  · rintro ⟨before, after, same, last⟩
    cases before with
    | nil =>
      obtain ⟨rfl, rfl⟩ := List.cons.inj same
      exact .inr ⟨rfl, last⟩
    | cons b before =>
      obtain ⟨rfl, rfl⟩ := List.cons.inj same
      exact .inl ⟨before, after, rfl, last⟩
  · rintro (⟨before, after, rfl, last⟩ | ⟨rfl, last⟩)
    · exact ⟨first :: before, after, rfl, last⟩
    · exact ⟨[], rest, rfl, last⟩

/-- Where there is a name, there is a last member with it. -/
theorem exists_isLast {members : List (String × Json)} (named : ∃ m ∈ members, m.1 = key) :
    ∃ m, IsLast members m ∧ m.1 = key := by
  induction members with
  | nil =>
    obtain ⟨m, none, -⟩ := named
    cases none
  | cons first rest ih =>
    by_cases again : ∃ m ∈ rest, m.1 = key
    · obtain ⟨m, last, same⟩ := ih again
      exact ⟨m, isLast_cons.mpr (.inl last), same⟩
    · obtain ⟨m, member, same⟩ := named
      rcases List.mem_cons.mp member with rfl | later
      · refine ⟨m, isLast_cons.mpr (.inr ⟨rfl, fun m' later equal => ?_⟩), same⟩
        exact again ⟨m', later, equal.trans same⟩
      · exact (again ⟨m, later, same⟩).elim

/-- Behind members in order come further ones: the last of each name are left. -/
theorem mem_foldl_insertMember (h : InOrder sorted) (members : List (String × Json)) :
    m ∈ members.foldl (fun sorted m => insertMember m.1 m.2 sorted) sorted ↔
      IsLast members m ∨ m ∈ sorted ∧ ∀ m' ∈ members, m'.1 ≠ m.1 := by
  induction members generalizing sorted with
  | nil =>
    refine ⟨fun member => .inr ⟨member, by simp⟩, ?_⟩
    rintro (⟨before, after, none, -⟩ | ⟨member, -⟩)
    · simp at none
    · exact member
  | cons first rest ih =>
    rw [List.foldl_cons, ih (insertMember_inOrder h), isLast_cons, mem_insertMember h]
    constructor
    · rintro (last | ⟨rfl | ⟨other, member⟩, none⟩)
      · exact .inl (.inl last)
      · exact .inl (.inr ⟨rfl, none⟩)
      · refine .inr ⟨member, fun m' new => ?_⟩
        rcases List.mem_cons.mp new with rfl | new
        · exact Ne.symm other
        · exact none m' new
    · rintro ((last | ⟨rfl, none⟩) | ⟨member, none⟩)
      · exact .inl last
      · exact .inr ⟨.inl rfl, none⟩
      · have other := none first List.mem_cons_self
        exact .inr ⟨.inr ⟨Ne.symm other, member⟩,
          fun m' new => none m' (List.mem_cons_of_mem _ new)⟩

theorem mem_ofMembers {members sorted : List (String × Json)}
    (h : ofMembers members = .object sorted) : m ∈ sorted ↔ IsLast members m := by
  obtain rfl := Json.object.inj h
  rw [mem_foldl_insertMember List.Pairwise.nil]
  simp

theorem foldl_insertMember_inOrder (h : InOrder sorted) (members : List (String × Json)) :
    InOrder (members.foldl (fun sorted m => insertMember m.1 m.2 sorted) sorted) := by
  induction members generalizing sorted with
  | nil => exact h
  | cons first rest ih => exact ih (insertMember_inOrder h)

theorem ofMembers_inOrder {members : List (String × Json)}
    (h : ofMembers members = .object sorted) : InOrder sorted := by
  obtain rfl := Json.object.inj h
  exact foldl_insertMember_inOrder List.Pairwise.nil members

/-- Members in order have one value for a name. -/
theorem lookup_eq_some (h : InOrder sorted) :
    sorted.lookup key = some value ↔ (key, value) ∈ sorted := by
  induction sorted with
  | nil => simp
  | cons first rest ih =>
    obtain ⟨k, v⟩ := first
    obtain ⟨behind, ordered⟩ := List.pairwise_cons.mp h
    rw [List.lookup_cons, List.mem_cons, Prod.mk.injEq]
    by_cases same : key = k
    · subst same
      have none : (key, value) ∉ rest := fun later => String.lt_irrefl key (behind _ later)
      simp [none, eq_comm]
    · rw [beq_false_of_ne same]
      simp [same, ih ordered]

end TenantLink.Json
