/-!
# Results of a whole list

A function that may fail is taken through a list: the results are there if every one of them is.
-/

namespace TenantLink

variable {α β : Type} {f : α → Option β} {items : List α} {results : List β}

theorem mapM_eq_some : items.mapM f = some results ↔ items.map f = results.map some := by
  induction items generalizing results with
  | nil => cases results <;> simp
  | cons item rest ih =>
    rw [List.mapM_cons, List.map_cons]
    cases results with
    | nil => simp [Option.bind_eq_some_iff]
    | cons result results => simp [Option.bind_eq_some_iff, ih]

theorem exists_mapM_eq_some :
    (∃ results, items.mapM f = some results) ↔ ∀ a ∈ items, ∃ b, f a = some b := by
  induction items with
  | nil => simp
  | cons item rest ih =>
    rw [List.forall_mem_cons, ← ih]
    simp only [mapM_eq_some, List.map_cons]
    constructor
    · rintro ⟨results, same⟩
      cases results with
      | nil => cases same
      | cons result results =>
        obtain ⟨first, later⟩ := List.cons.inj same
        exact ⟨⟨result, first⟩, results, later⟩
    · rintro ⟨⟨result, first⟩, results, later⟩
      exact ⟨result :: results, by rw [List.map_cons, first, later]⟩

/-- Every item has its result. -/
theorem exists_result {a : α} (h : items.map f = results.map some) (member : a ∈ items) :
    ∃ b ∈ results, f a = some b := by
  have there : f a ∈ results.map some := h ▸ List.mem_map_of_mem member
  obtain ⟨b, result, same⟩ := List.mem_map.mp there
  exact ⟨b, result, same.symm⟩

/-- Every result is that of an item. -/
theorem exists_item {b : β} (h : items.map f = results.map some) (member : b ∈ results) :
    ∃ a ∈ items, f a = some b := by
  have there : some b ∈ items.map f := h ▸ List.mem_map_of_mem member
  exact List.mem_map.mp there

end TenantLink
