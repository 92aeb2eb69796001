import TenantLink.Text.Blank

/-!
# Trimmed text

`Text.trim` takes away the white space at both ends and nothing else, and leaves none there:
`isTrimmed_iff`.
-/

namespace TenantLink.Text

/-- What is left of a text when the white space at both its ends is gone. -/
structure IsTrimmed (text trimmed : List Char) : Prop where
  cut : ∃ before after, text = before ++ (trimmed ++ after) ∧
    (∀ c ∈ before, isBlank c = true) ∧ ∀ c ∈ after, isBlank c = true
  first : ∀ c ∈ trimmed.head?, isBlank c = false
  last : ∀ c ∈ trimmed.getLast?, isBlank c = false

variable {p : Char → Bool}

/-! ### Dropping from either end -/

theorem dropWhile_stops {dropped kept : List Char} (all : ∀ c ∈ dropped, p c = true)
    (stops : ∀ c ∈ kept.head?, p c = false) : (dropped ++ kept).dropWhile p = kept := by
  rw [List.dropWhile_append_of_pos all]
  cases kept with
  | nil => rfl
  | cons c rest => exact List.dropWhile_cons_of_neg (by simp [stops c rfl])

theorem dropEndWhile_stops {kept dropped : List Char} (all : ∀ c ∈ dropped, p c = true)
    (stops : ∀ c ∈ kept.getLast?, p c = false) : dropEndWhile p (kept ++ dropped) = kept := by
  rw [dropEndWhile, List.reverse_append, dropWhile_stops, List.reverse_reverse]
  · exact fun c member => all c (List.mem_reverse.mp member)
  · rwa [List.head?_reverse]

theorem dropAround_of_ends {chars : List Char} (front : ∀ c ∈ chars.head?, p c = false)
    (back : ∀ c ∈ chars.getLast?, p c = false) : dropAround p chars = chars := by
  have whole : chars.dropWhile p = chars := @dropWhile_stops p [] chars (by simp) front
  have whole' : dropEndWhile p (chars ++ []) = chars := dropEndWhile_stops (by simp) back
  rw [dropAround, whole, ← List.append_nil chars, whole', List.append_nil]

theorem dropAround_of_none {chars : List Char} (none : ∀ c ∈ chars, p c = false) :
    dropAround p chars = chars :=
  dropAround_of_ends (fun c first => none c (List.mem_of_head? first))
    fun c last => none c (List.mem_of_getLast? last)

theorem dropEndWhile_sublist (p : Char → Bool) (chars : List Char) :
    (dropEndWhile p chars).Sublist chars := by
  have back := (List.dropWhile_sublist p (l := chars.reverse)).reverse
  rwa [List.reverse_reverse] at back

theorem dropAround_sublist (p : Char → Bool) (chars : List Char) :
    (dropAround p chars).Sublist chars :=
  (dropEndWhile_sublist p _).trans (List.dropWhile_sublist p)

theorem head_dropWhile (chars : List Char) : ∀ c ∈ (chars.dropWhile p).head?, p c = false := by
  intro c first
  have stops := List.head?_dropWhile_not p chars
  rw [Option.mem_def.mp first] at stops
  exact stops

theorem last_dropEndWhile (chars : List Char) :
    ∀ c ∈ (dropEndWhile p chars).getLast?, p c = false := by
  rw [dropEndWhile, List.getLast?_reverse]
  exact head_dropWhile chars.reverse

theorem dropAround_eq_self {chars : List Char} :
    dropAround p chars = chars ↔
      (∀ c ∈ chars.head?, p c = false) ∧ ∀ c ∈ chars.getLast?, p c = false := by
  constructor
  · intro same
    have front : chars.dropWhile p = chars := by
      have inside := dropEndWhile_sublist p (chars.dropWhile p)
      rw [show dropEndWhile p (chars.dropWhile p) = chars from same] at inside
      exact (List.dropWhile_sublist p).eq_of_length_le inside.length_le
    have first := head_dropWhile (p := p) chars
    have last := last_dropEndWhile (p := p) (chars.dropWhile p)
    rw [front] at first
    rw [show dropEndWhile p (chars.dropWhile p) = chars from same] at last
    exact ⟨first, last⟩
  · exact fun ends => dropAround_of_ends ends.1 ends.2

theorem dropWhile_cut (p : Char → Bool) (chars : List Char) :
    ∃ dropped, chars = dropped ++ chars.dropWhile p ∧ ∀ c ∈ dropped, p c = true :=
  ⟨chars.takeWhile p, List.takeWhile_append_dropWhile.symm, List.all_eq_true.mp List.all_takeWhile⟩

theorem dropEndWhile_cut (p : Char → Bool) (chars : List Char) :
    ∃ dropped, chars = dropEndWhile p chars ++ dropped ∧ ∀ c ∈ dropped, p c = true := by
  obtain ⟨dropped, same, all⟩ := dropWhile_cut p chars.reverse
  refine ⟨dropped.reverse, ?_, fun c member => all c (List.mem_reverse.mp member)⟩
  rw [dropEndWhile, ← List.reverse_append, ← same, List.reverse_reverse]

/-! ### Trimming -/

theorem trim_isTrimmed (text : List Char) : IsTrimmed text (trim text) := by
  obtain ⟨before, front, blank⟩ := dropWhile_cut isBlank text
  obtain ⟨after, back, blank'⟩ := dropEndWhile_cut isBlank (text.dropWhile isBlank)
  have middle : text.dropWhile isBlank = trim text ++ after := back
  refine ⟨⟨before, after, ?_, blank, blank'⟩, fun c first => ?_, last_dropEndWhile _⟩
  · rw [← middle]
    exact front
  · refine head_dropWhile text c ?_
    rw [middle, List.head?_append, Option.mem_def.mp first]
    rfl

theorem IsTrimmed.eq_trim {text trimmed : List Char} (h : IsTrimmed text trimmed) :
    trimmed = trim text := by
  obtain ⟨before, after, rfl, blank, blank'⟩ := h.cut
  cases trimmed with
  | nil =>
    -- All is white space, and the first pass takes it away.
    have all : ∀ c ∈ before ++ after, isBlank c = true := by
      intro c member
      exact (List.mem_append.mp member).elim (blank c) (blank' c)
    have none : ((before ++ after) ++ []).dropWhile isBlank = [] := dropWhile_stops all (by simp)
    rw [List.append_nil] at none
    rw [List.nil_append, trim, dropAround, none]
    rfl
  | cons c rest =>
    have first : ∀ d ∈ (c :: rest ++ after).head?, isBlank d = false := h.first
    rw [trim, dropAround, dropWhile_stops blank first, dropEndWhile_stops blank' h.last]

theorem isTrimmed_iff {text trimmed : List Char} :
    IsTrimmed text trimmed ↔ trimmed = trim text :=
  ⟨IsTrimmed.eq_trim, fun same => same ▸ trim_isTrimmed text⟩

theorem trim_trim (text : List Char) : trim (trim text) = trim text := by
  have trimmed := trim_isTrimmed text
  exact (isTrimmed_iff.mp ⟨⟨[], [], by simp, by simp, by simp⟩, trimmed.first, trimmed.last⟩).symm

theorem mem_of_mem_trim {text : List Char} {c : Char} (member : c ∈ trim text) : c ∈ text := by
  obtain ⟨before, after, whole, -, -⟩ := (trim_isTrimmed text).cut
  rw [whole]
  exact List.mem_append_right _ (List.mem_append_left _ member)

end TenantLink.Text
