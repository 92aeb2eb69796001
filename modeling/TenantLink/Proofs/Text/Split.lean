import TenantLink.Text.Split

/-!
# Text that is cut and joined

Pieces that hold no separator are found again between the separators: `splitAt_intercalate`. What
lies between two separators holds none, nor does what lies before the first one.
-/

namespace TenantLink.Text

variable {sep : Char} {p : Char → Bool}

/-! ### Joining -/

theorem all_intercalate {glue : List Char} (all : glue.all p = true) (pieces : List (List Char)) :
    (glue.intercalate pieces).all p = pieces.all fun piece => piece.all p := by
  induction pieces with
  | nil => rfl
  | cons first rest ih =>
    cases rest with
    | nil => simp
    | cons second rest =>
      rw [List.intercalate_cons_cons, List.all_append, List.all_append, all, ih, Bool.and_true]
      rfl

/-- What stands before the pieces belongs to the first one. -/
theorem append_intercalate (pad glue first : List Char) (rest : List (List Char)) :
    pad ++ glue.intercalate (first :: rest) = glue.intercalate ((pad ++ first) :: rest) := by
  cases rest with
  | nil => simp
  | cons second rest => simp [List.intercalate_cons_cons]

/-! ### Cutting at every separator -/

theorem splitAt_of_not_mem {piece : List Char} (free : sep ∉ piece) :
    splitAt sep piece = [piece] := by
  induction piece with
  | nil => rfl
  | cons c rest ih =>
    obtain ⟨other, free⟩ := List.ne_and_not_mem_of_not_mem_cons free
    rw [splitAt_cons, if_neg (Ne.symm other), ih free]
    rfl

theorem splitAt_append {piece : List Char} (free : sep ∉ piece) (rest : List Char) :
    splitAt sep (piece ++ sep :: rest) = piece :: splitAt sep rest := by
  induction piece with
  | nil => rw [List.nil_append, splitAt_cons, if_pos rfl]
  | cons c piece ih =>
    obtain ⟨other, free⟩ := List.ne_and_not_mem_of_not_mem_cons free
    rw [List.cons_append, splitAt_cons, if_neg (Ne.symm other), ih free]
    rfl

/-- Cutting undoes joining. What is put behind each separator stands before each later piece. -/
theorem splitAt_intercalate {pad first : List Char} {rest : List (List Char)}
    (clear : sep ∉ pad) (free : sep ∉ first) (free' : ∀ piece ∈ rest, sep ∉ piece) :
    splitAt sep ((sep :: pad).intercalate (first :: rest)) = first :: rest.map (pad ++ ·) := by
  induction rest generalizing first with
  | nil =>
    rw [List.intercalate_singleton, splitAt_of_not_mem free]
    rfl
  | cons second rest ih =>
    obtain ⟨here, later⟩ := List.forall_mem_cons.mp free'
    have padded : sep ∉ pad ++ second := by
      rw [List.mem_append, not_or]
      exact ⟨clear, here⟩
    rw [List.intercalate_cons_cons, List.append_assoc, List.cons_append, splitAt_append free,
      append_intercalate, ih padded later]
    rfl

theorem not_mem_of_mem_splitAt {chars piece : List Char} (member : piece ∈ splitAt sep chars) :
    sep ∉ piece := by
  induction chars generalizing piece with
  | nil =>
    obtain rfl := List.mem_singleton.mp member
    exact List.not_mem_nil
  | cons c rest ih =>
    rw [splitAt_cons] at member
    split at member
    next =>
      rcases List.mem_cons.mp member with rfl | later
      · exact List.not_mem_nil
      · exact ih later
    next other =>
      cases pieces : splitAt sep rest with
      | nil => exact (splitAt_ne_nil sep rest pieces).elim
      | cons first more =>
        rw [pieces] at ih member
        rcases List.mem_cons.mp member with rfl | later
        · exact List.not_mem_cons_of_ne_of_not_mem (Ne.symm other) (ih List.mem_cons_self)
        · exact ih (List.mem_cons_of_mem _ later)

/-! ### Cutting at the first separator -/

theorem cutAt?_append {before : List Char} (free : sep ∉ before) (after : List Char) :
    cutAt? sep (before ++ sep :: after) = some (before, after) := by
  have all : ∀ c ∈ before, decide (c ≠ sep) = true :=
    fun c member => decide_eq_true fun same => free (same ▸ member)
  unfold cutAt?
  rw [List.dropWhile_append_of_pos all, List.takeWhile_append_of_pos all]
  simp

theorem cutAt?_eq_some {chars before after : List Char}
    (cut : cutAt? sep chars = some (before, after)) :
    chars = before ++ sep :: after ∧ sep ∉ before := by
  have whole := List.takeWhile_append_dropWhile (p := fun c => decide (c ≠ sep)) (l := chars)
  have stops := List.head?_dropWhile_not (fun c => decide (c ≠ sep)) chars
  have all := List.all_takeWhile (p := fun c => decide (c ≠ sep)) (l := chars)
  unfold cutAt? at cut
  split at cut
  next => cases cut
  next c rest found =>
    cases cut
    rw [found] at whole stops
    obtain rfl : c = sep := by simpa using stops
    exact ⟨whole.symm, fun member => by simpa using List.all_eq_true.mp all _ member⟩

end TenantLink.Text
