import TenantLink.Updates.Channel

/-!
# What a reader of a channel gets

A `Reader` keeps a receipt of each item that it got. `Reads` says how one receipt follows the other,
and what is published later does not change that. So a reader gets the items in order, and misses
one only if it has fallen further behind than the channel keeps.
-/

namespace TenantLink

namespace Channel

variable {α : Type}

theorem exponentFor_least (size k : Nat) :
    k ≤ exponentFor size k ∧ size ≤ Nat.pow 2 (exponentFor size k) ∧
      ∀ j, k ≤ j → size ≤ Nat.pow 2 j → exponentFor size k ≤ j := by
  fun_induction exponentFor size k with
  | case1 k enough => exact ⟨Nat.le_refl k, enough, fun j least _ => least⟩
  | case2 k small ih =>
    obtain ⟨bound, enough, least⟩ := ih
    refine ⟨by omega, enough, fun j after suits => ?_⟩
    have other : k ≠ j := by
      rintro rfl
      exact small suits
    exact least j (by omega) suits

/-- The capacity is the least power of two that is enough, and at least one. -/
theorem capacity_ofSize (size : Nat) :
    ∃ k, (ofSize size : Channel α).capacity = Nat.pow 2 k ∧ max size 1 ≤ Nat.pow 2 k ∧
      ∀ j, max size 1 ≤ Nat.pow 2 j → k ≤ j := by
  obtain ⟨-, enough, least⟩ := exponentFor_least size 0
  refine ⟨_, rfl, Nat.max_le.mpr ⟨enough, Nat.two_pow_pos _⟩, fun j suits => ?_⟩
  exact least j (Nat.zero_le j) (Nat.le_trans (Nat.le_max_left size 1) suits)

theorem size_le_capacity (size : Nat) : max size 1 ≤ (ofSize size : Channel α).capacity := by
  obtain ⟨k, power, enough, -⟩ := capacity_ofSize (α := α) size
  rw [power]
  exact enough

/-- `d` has the items of `c`, and more that were published later. -/
structure Grows (c d : Channel α) : Prop where
  capacity : d.capacity = c.capacity
  published : c.published <+: d.published

variable {c d e : Channel α}

theorem Grows.refl (c : Channel α) : c.Grows c := ⟨rfl, List.prefix_refl _⟩

theorem Grows.trans (h : c.Grows d) (h' : d.Grows e) : c.Grows e where
  capacity := h'.capacity.trans h.capacity
  published := h.published.trans h'.published

end Channel

/-- How a reader got an item. -/
structure Receipt (α : Type) where
  /-- The place with which it would have gone on. -/
  wanted : Nat
  place : Nat
  /-- The number of items that were published by then. -/
  extent : Nat
  item : α
  deriving DecidableEq, Repr

structure Reader (α : Type) where
  /-- The number of items that were published before it subscribed. -/
  since : Nat
  place : Subscription
  receipts : List (Receipt α) := []
  deriving DecidableEq, Repr

namespace Reader

variable {α : Type}

def items (r : Reader α) : List α := r.receipts.map Receipt.item

def places (r : Reader α) : List Nat := r.receipts.map Receipt.place

end Reader

namespace Channel

variable {α : Type} {c d : Channel α} {r : Reader α}

def reader (c : Channel α) : Reader α := { since := c.published.length, place := c.subscribe }

def read (c : Channel α) (r : Reader α) : Option α × Reader α :=
  match c.receive? r.place with
  | none => (none, r)
  | some (item, place) =>
    let receipt := ⟨r.place.next, c.nextFor r.place, c.published.length, item⟩
    (some item, { r with place, receipts := r.receipts ++ [receipt] })

/-- The receipts that a reader has when it wants the item at `next`, one following the other. -/
inductive Reads (c : Channel α) (since : Nat) : List (Receipt α) → Nat → Prop
  | start : Reads c since [] since
  | next {receipts : List (Receipt α)} {wanted place extent : Nat} {item : α} :
    Reads c since receipts wanted → place = max wanted (extent - c.capacity) → place < extent →
    extent ≤ c.published.length → c.published[place]? = some item →
    Reads c since (receipts ++ [⟨wanted, place, extent, item⟩]) (place + 1)

variable {since next : Nat} {receipts : List (Receipt α)}

theorem Grows.getElem? (h : c.Grows d) {place : Nat} {item : α}
    (there : c.published[place]? = some item) : d.published[place]? = some item := by
  obtain ⟨more, published⟩ := h.published
  obtain ⟨inside, -⟩ := List.getElem?_eq_some_iff.mp there
  rw [← published, List.getElem?_append_left inside]
  exact there

theorem Reads.grow (h : c.Reads since receipts next) (grows : c.Grows d) :
    d.Reads since receipts next := by
  induction h with
  | start => exact .start
  | next _ place before extent item ih =>
    rw [← grows.capacity] at place
    exact .next ih place before (Nat.le_trans extent grows.published.length_le)
      (grows.getElem? item)

theorem read_cases (c : Channel α) (r : Reader α) :
    c.published[c.nextFor r.place]? = none ∧ c.read r = (none, r) ∨
      ∃ item, c.published[c.nextFor r.place]? = some item ∧
        c.read r = (some item, { r with
          place := ⟨c.nextFor r.place + 1⟩
          receipts := r.receipts ++
            [⟨r.place.next, c.nextFor r.place, c.published.length, item⟩] }) := by
  unfold read receive?
  cases there : c.published[c.nextFor r.place]? with
  | none => exact .inl ⟨rfl, rfl⟩
  | some item => exact .inr ⟨item, rfl, rfl⟩

/-- What is known of a reader whenever something may be published. -/
structure Serves (c : Channel α) (r : Reader α) : Prop where
  reads : c.Reads r.since r.receipts r.place.next
  since : r.since ≤ c.published.length

theorem Serves.grow (h : c.Serves r) (grows : c.Grows d) : d.Serves r where
  reads := h.reads.grow grows
  since := Nat.le_trans h.since grows.published.length_le

theorem reader_served (c : Channel α) : c.Serves c.reader := ⟨.start, Nat.le_refl _⟩

theorem Serves.read (h : c.Serves r) : c.Serves (c.read r).2 := by
  rcases c.read_cases r with ⟨-, nothing⟩ | ⟨item, there, gets⟩
  · rw [nothing]
    exact h
  · rw [gets]
    obtain ⟨inside, -⟩ := List.getElem?_eq_some_iff.mp there
    exact ⟨.next h.reads rfl inside (Nat.le_refl _) there, h.since⟩

/-! ### In order -/

theorem Reads.since_le (h : c.Reads since receipts next) : since ≤ next := by
  induction h with
  | start => exact Nat.le_refl _
  | next _ place _ _ _ ih => omega

theorem Reads.next_le (h : c.Reads since receipts next) (since : since ≤ c.published.length) :
    next ≤ c.published.length := by
  cases h with
  | start => exact since
  | next _ _ before extent _ => omega

theorem Reads.places (h : c.Reads since receipts next) :
    (receipts.map Receipt.place).Pairwise (· < ·) ∧
      ∀ e ∈ receipts, since ≤ e.place ∧ e.place < next ∧ c.published[e.place]? = some e.item := by
  induction h with
  | start => exact ⟨.nil, by simp⟩
  | @next receipts wanted place extent item earlier follows _ _ there ih =>
    obtain ⟨increasing, known⟩ := ih
    have bound : wanted ≤ place := by omega
    rw [List.map_append]
    refine ⟨List.pairwise_append.mpr ⟨increasing, List.pairwise_singleton _ _, ?_⟩, ?_⟩
    · intro p member q last
      obtain ⟨e, old, rfl⟩ := List.mem_map.mp member
      obtain rfl := List.mem_singleton.mp last
      exact Nat.lt_of_lt_of_le (known e old).2.1 bound
    · intro e member
      rcases List.mem_append.mp member with old | last
      · obtain ⟨after, before, there⟩ := known e old
        exact ⟨after, by omega, there⟩
      · obtain rfl := List.mem_singleton.mp last
        exact ⟨Nat.le_trans earlier.since_le bound, Nat.lt_succ_self _, there⟩

theorem Reads.sublist (h : c.Reads since receipts next) :
    (receipts.map Receipt.item).Sublist ((c.published.take next).drop since) := by
  induction h with
  | start => exact List.nil_sublist _
  | @next receipts wanted place extent item earlier follows _ _ there ih =>
    have bound : wanted ≤ place := by omega
    have since_le := Nat.le_trans earlier.since_le bound
    have inside := (List.getElem?_eq_some_iff.mp there).1
    have upTo : c.published.take (place + 1) = c.published.take place ++ [item] := by
      rw [List.take_add_one, there]
      rfl
    rw [List.map_append, upTo, List.drop_append_of_le_length (by rw [List.length_take]; omega)]
    refine (ih.trans ?_).append (List.Sublist.refl _)
    exact (List.take_sublist_take_left bound).drop since

/-! ### What is missing -/

/-- An item is missed by a reader that got another one while it was too far behind. The oldest item
that was still kept came instead. -/
theorem Reads.missed (h : c.Reads since receipts next) {place : Nat} (after : since ≤ place)
    (before : place < next) (missing : place ∉ receipts.map Receipt.place) :
    ∃ e ∈ receipts, e.wanted ≤ place ∧ place + c.capacity < e.extent ∧
      e.place = e.extent - c.capacity := by
  induction h with
  | start => omega
  | @next receipts wanted got extent item earlier follows _ _ _ ih =>
    rw [List.map_append, List.mem_append, not_or] at missing
    obtain ⟨other, notNow⟩ := missing
    have different : place ≠ got := fun same => notNow (same ▸ List.mem_singleton_self _)
    -- The item was missed with an earlier receipt, or this one passes over it.
    by_cases old : place < wanted
    · obtain ⟨e, member, behind⟩ := ih old other
      exact ⟨e, List.mem_append_left _ member, behind⟩
    · refine ⟨_, List.mem_append_right _ (List.mem_singleton_self _), ?_⟩
      dsimp only
      omega

/-- A reader that is never further behind than the channel keeps gets everything. -/
theorem Reads.whole (h : c.Reads since receipts next)
    (close : ∀ e ∈ receipts, e.extent ≤ e.wanted + c.capacity) :
    receipts.map Receipt.item = (c.published.take next).drop since := by
  induction h with
  | start => rw [List.drop_take, Nat.sub_self, List.take_zero]; rfl
  | @next receipts wanted place extent item earlier follows _ _ there ih =>
    have near := close _ (List.mem_append_right _ (List.mem_singleton_self _))
    dsimp only at near
    obtain rfl : place = wanted := by omega
    have inside := (List.getElem?_eq_some_iff.mp there).1
    have since_le := earlier.since_le
    rw [List.map_append, ih fun e member => close e (List.mem_append_left _ member),
      List.take_add_one, there, List.drop_append_of_le_length (by rw [List.length_take]; omega)]
    rfl

theorem waiting_of_close {s : Subscription} (close : c.published.length ≤ s.next + c.capacity) :
    c.waiting s = c.published.drop s.next := by
  have here : c.nextFor s = s.next := by
    unfold nextFor oldest
    omega
  rw [waiting, here]

/-- What a reader has got out of a channel for `size` items. -/
structure Delivers (c : Channel α) (size : Nat) (r : Reader α) : Prop where
  reads : c.Reads r.since r.receipts r.place.next
  part : r.items.Sublist (c.published.drop r.since)
  increasing : r.places.Pairwise (· < ·)
  published : ∀ e ∈ r.receipts, r.since ≤ e.place ∧ c.published[e.place]? = some e.item
  /-- An item is missed only when more than are kept had been published by then, from it on. The
  oldest item that was still kept came instead. -/
  missed : ∀ place, r.since ≤ place → place < r.place.next → place ∉ r.places →
    ∃ e ∈ r.receipts, e.wanted ≤ place ∧ place + c.capacity < e.extent ∧
      e.place = e.extent - c.capacity
  whole : (∀ e ∈ r.receipts, e.extent ≤ e.wanted + max size 1) →
    r.items = (c.published.take r.place.next).drop r.since ∧
      (c.published.length ≤ r.place.next + max size 1 →
        r.items ++ c.waiting r.place = c.published.drop r.since)

theorem Serves.delivers (h : c.Serves r) {size : Nat} (room : max size 1 ≤ c.capacity) :
    c.Delivers size r where
  reads := h.reads
  part := h.reads.sublist.trans ((List.take_sublist _ _).drop _)
  increasing := h.reads.places.1
  published := fun e member =>
    ⟨(h.reads.places.2 e member).1, (h.reads.places.2 e member).2.2⟩
  missed := fun _ => h.reads.missed
  whole := by
    intro close
    have close : ∀ e ∈ r.receipts, e.extent ≤ e.wanted + c.capacity := by
      intro e member
      have := close e member
      omega
    have received := h.reads.whole close
    refine ⟨received, fun now => ?_⟩
    have since_le := h.reads.since_le
    have next_le := h.reads.next_le h.since
    have here := waiting_of_close (c := c) (s := r.place) (by omega)
    rw [Reader.items, received, here,
      ← List.drop_append_of_le_length (by rw [List.length_take]; omega), List.take_append_drop]

theorem waiting_eq_nil {s : Subscription} : c.waiting s = [] ↔ c.receive? s = none := by
  rw [waiting, receive?, Option.map_eq_none_iff, List.drop_eq_nil_iff, List.getElem?_eq_none_iff]

theorem head?_waiting (c : Channel α) (s : Subscription) :
    (c.waiting s).head? = (c.receive? s).map (·.1) := by
  rw [waiting, receive?, List.head?_drop, Option.map_map]
  exact Option.map_id'.symm

end Channel

end TenantLink
