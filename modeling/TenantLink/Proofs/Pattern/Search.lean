import TenantLink.Pattern.Basic

/-!
# What a search finds

The empty text belongs to a pattern where the pattern is nullable (`nullable_iff`), and a text that
begins with a character belongs to it if what is left of the text belongs to one of the rests
(`matches_cons_iff`). So a search, which goes on with the rests of all that it has begun, finds a
pattern exactly where some part of the text belongs to it: `occursIn_iff`.
-/

namespace TenantLink

namespace Text

variable {place : Option Char}

theorem wordAt_eq_true_iff : wordAt place = true ↔ ∃ c ∈ place, isWord c = true := by
  cases place <;> simp [wordAt]

theorem wordAt_eq_false_iff : wordAt place = false ↔ ∀ c ∈ place, isWord c = false := by
  cases place <;> simp [wordAt]

end Text

namespace Pattern

variable {p q : Pattern} {before after : Option Char} {c : Char} {s t : List Char}

/-! ### Neighbours -/

@[simp] theorem nextOf_nil : nextOf [] after = after := rfl

@[simp] theorem nextOf_cons : nextOf (c :: s) after = some c := rfl

@[simp] theorem lastOf_nil : lastOf before [] = before := rfl

@[simp] theorem lastOf_cons : lastOf before (c :: s) = lastOf (some c) s := by
  unfold lastOf
  cases s with
  | nil => rfl
  | cons d s => rw [List.getLast?_cons_cons, List.getLast?_eq_some_getLast (List.cons_ne_nil d s)]

theorem lastOf_append : lastOf before (s ++ t) = lastOf (lastOf before s) t := by
  induction s generalizing before with
  | nil => rfl
  | cons c s ih => rw [List.cons_append, lastOf_cons, lastOf_cons, ih]

theorem lastOf_none : lastOf none s = s.getLast? := by
  unfold lastOf
  cases s.getLast? <;> rfl

theorem nextOf_none : nextOf s none = s.head? := by
  cases s <;> rfl

theorem nextOf_append : nextOf (s ++ t) after = nextOf s (nextOf t after) := by
  cases s <;> rfl

/-! ### The texts of each pattern -/

theorem matches_empty_iff : Matches empty before s after ↔ s = [] := by
  constructor
  · rintro ⟨⟩
    rfl
  · rintro rfl
    exact .empty

theorem matches_one_iff {k : CharClass} :
    Matches (one k) before s after ↔ ∃ c, s = [c] ∧ k.holds c = true := by
  constructor
  · rintro ⟨⟩
    exact ⟨_, rfl, ‹_›⟩
  · rintro ⟨c, rfl, holds⟩
    exact .one holds

theorem matches_seq_iff :
    Matches (seq p q) before s after ↔
      ∃ t u, s = t ++ u ∧ Matches p before t (nextOf u after) ∧
        Matches q (lastOf before t) u after := by
  constructor
  · rintro ⟨⟩
    exact ⟨_, _, rfl, ‹_›, ‹_›⟩
  · rintro ⟨t, u, rfl, first, second⟩
    exact .seq first second

theorem matches_alt_iff :
    Matches (alt p q) before s after ↔ Matches p before s after ∨ Matches q before s after := by
  constructor
  · rintro ⟨⟩
    · exact .inl ‹_›
    · exact .inr ‹_›
  · rintro (left | right)
    · exact .left left
    · exact .right right

theorem matches_edge_iff :
    Matches edge before s after ↔ s = [] ∧ isEdge before after = true := by
  constructor
  · rintro ⟨⟩
    exact ⟨rfl, ‹_›⟩
  · rintro ⟨rfl, atEdge⟩
    exact .edge atEdge

/-- Of the texts that a text of `many p` is made of, the first that is not empty begins it. -/
theorem matches_many_cons_iff :
    Matches (many p) before (c :: s) after ↔
      ∃ t u, s = t ++ u ∧ Matches p before (c :: t) (nextOf u after) ∧
        Matches (many p) (lastOf (some c) t) u after := by
  constructor
  · intro h
    generalize same : many p = r at h
    generalize whole : c :: s = text at h
    induction h with
    | @more p' before after part rest first later _ ih =>
      obtain rfl := many.inj same
      cases part with
      | nil => exact ih rfl whole
      | cons d part =>
        obtain ⟨rfl, rfl⟩ := List.cons.inj whole
        exact ⟨_, _, rfl, first, by rwa [lastOf_cons] at later⟩
    | done => cases whole
    | _ => cases same
  · rintro ⟨t, u, rfl, first, later⟩
    exact .more (s := c :: t) first (by rwa [lastOf_cons])

/-! ### Nullable patterns and rests -/

theorem nullable_iff : p.nullable (isEdge before after) = true ↔ Matches p before [] after := by
  induction p with
  | empty => simp [nullable, matches_empty_iff]
  | one k => simp [nullable, matches_one_iff]
  | edge => simp [nullable, matches_edge_iff]
  | many p _ => exact ⟨fun _ => .done, fun _ => rfl⟩
  | alt p q ihp ihq => rw [nullable, Bool.or_eq_true, ihp, ihq, matches_alt_iff]
  | seq p q ihp ihq =>
    rw [nullable, Bool.and_eq_true, ihp, ihq, matches_seq_iff]
    constructor
    · rintro ⟨first, second⟩
      exact ⟨[], [], rfl, first, second⟩
    · rintro ⟨t, u, none, first, second⟩
      obtain ⟨rfl, rfl⟩ := List.append_eq_nil_iff.mp none.symm
      exact ⟨first, second⟩

theorem matches_followedBy_iff :
    Matches (p.followedBy q) before s after ↔ Matches (seq p q) before s after := by
  unfold followedBy
  split
  next none =>
    subst none
    rw [matches_seq_iff]
    constructor
    · exact fun h => ⟨[], s, rfl, .empty, h⟩
    · rintro ⟨t, u, rfl, first, second⟩
      obtain rfl := matches_empty_iff.mp first
      exact second
  next => rfl

/-- What is left of a text of `seq p q` once its first character has been read. -/
theorem matches_seq_cons_iff :
    Matches (seq p q) before (c :: s) after ↔
      (∃ t u, s = t ++ u ∧ Matches p before (c :: t) (nextOf u after) ∧
        Matches q (lastOf (some c) t) u after) ∨
      Matches p before [] (some c) ∧ Matches q before (c :: s) after := by
  rw [matches_seq_iff]
  constructor
  · rintro ⟨t, u, whole, first, second⟩
    cases t with
    | nil =>
      obtain rfl : c :: s = u := whole
      exact .inr ⟨first, second⟩
    | cons d t =>
      obtain ⟨rfl, rfl⟩ := List.cons.inj whole
      exact .inl ⟨t, u, rfl, first, by rwa [lastOf_cons] at second⟩
  · rintro (⟨t, u, rfl, first, second⟩ | ⟨first, second⟩)
    · exact ⟨c :: t, u, rfl, first, by rwa [lastOf_cons]⟩
    · exact ⟨[], c :: s, rfl, first, second⟩

/-- What follows some rest of `p`, said of the rests of a pattern that goes on behind `p`. -/
theorem exists_followedBy_iff {rests : List Pattern} {chars : List Char}
    (left : ∀ t after, (∃ r ∈ rests, Matches r (some c) t after) ↔
      Matches p before (c :: t) after) :
    (∃ r ∈ rests.map (·.followedBy q), Matches r (some c) chars after) ↔
      ∃ t u, chars = t ++ u ∧ Matches p before (c :: t) (nextOf u after) ∧
        Matches q (lastOf (some c) t) u after := by
  simp only [← left]
  constructor
  · rintro ⟨_, listed, here⟩
    obtain ⟨r, member, rfl⟩ := List.mem_map.mp listed
    obtain ⟨t, u, whole, first, second⟩ := matches_seq_iff.mp (matches_followedBy_iff.mp here)
    exact ⟨t, u, whole, ⟨r, member, first⟩, second⟩
  · rintro ⟨t, u, whole, ⟨r, member, first⟩, second⟩
    have here := matches_seq_iff.mpr ⟨t, u, whole, first, second⟩
    exact ⟨r.followedBy q, List.mem_map_of_mem member, matches_followedBy_iff.mpr here⟩

theorem matches_cons_iff :
    (∃ r ∈ p.rests (isEdge before (some c)) c, Matches r (some c) s after) ↔
      Matches p before (c :: s) after := by
  induction p generalizing s after with
  | empty => simp [rests, matches_empty_iff]
  | edge => simp [rests, matches_edge_iff]
  | one k =>
    rw [rests, matches_one_iff]
    split
    next holds =>
      simp only [List.mem_singleton, exists_eq_left, matches_empty_iff]
      constructor
      · rintro rfl
        exact ⟨c, rfl, holds⟩
      · rintro ⟨d, same, -⟩
        exact (List.cons.inj same).2
    next fails =>
      constructor
      · rintro ⟨r, none, -⟩
        cases none
      · rintro ⟨d, same, holds⟩
        obtain rfl := (List.cons.inj same).1
        exact (fails holds).elim
  | alt p q ihp ihq =>
    rw [rests, matches_alt_iff, ← ihp, ← ihq]
    simp only [List.mem_append, or_and_right, exists_or]
  | many p ih =>
    rw [rests, matches_many_cons_iff]
    exact exists_followedBy_iff fun t after => ih
  | seq p q ihp ihq =>
    have first :
        (∃ r ∈ (p.rests (isEdge before (some c)) c).map (·.followedBy q),
          Matches r (some c) s after) ↔
        ∃ t u, s = t ++ u ∧ Matches p before (c :: t) (nextOf u after) ∧
          Matches q (lastOf (some c) t) u after :=
      exists_followedBy_iff fun t after => ihp
    rw [rests, matches_seq_cons_iff, ← first, ← nullable_iff, ← ihq]
    simp only [List.mem_append, or_and_right, exists_or]
    split
    next null => simp [null]
    next solid => simp [solid]

/-! ### Searching -/

/-- Some part at the start of `text`, which stands behind `before`, belongs to `p`. -/
def Begins (p : Pattern) (before : Option Char) (text : List Char) : Prop :=
  ∃ part rest, text = part ++ rest ∧ Matches p before part (nextOf rest none)

theorem begins_nil_iff : p.Begins before [] ↔ p.nullable (isEdge before none) = true := by
  rw [nullable_iff]
  constructor
  · rintro ⟨part, rest, none, here⟩
    obtain ⟨rfl, rfl⟩ := List.append_eq_nil_iff.mp none.symm
    exact here
  · exact fun here => ⟨[], [], rfl, here⟩

theorem begins_cons_iff :
    p.Begins before (c :: s) ↔
      p.nullable (isEdge before (some c)) = true ∨
        ∃ r ∈ p.rests (isEdge before (some c)) c, r.Begins (some c) s := by
  rw [nullable_iff]
  constructor
  · rintro ⟨part, rest, whole, here⟩
    cases part with
    | nil =>
      obtain rfl : c :: s = rest := whole
      exact .inl here
    | cons d part =>
      obtain ⟨rfl, rfl⟩ := List.cons.inj whole
      obtain ⟨r, member, left⟩ := matches_cons_iff.mpr here
      exact .inr ⟨r, member, part, rest, rfl, left⟩
  · rintro (here | ⟨r, member, part, rest, rfl, left⟩)
    · exact ⟨[], c :: s, rfl, here⟩
    · exact ⟨c :: part, rest, rfl, matches_cons_iff.mp ⟨r, member, left⟩⟩

/-- Some part of `text`, which stands behind `before`, belongs to `p`. -/
def BeginsLater (p : Pattern) (before : Option Char) (text : List Char) : Prop :=
  ∃ s rest, text = s ++ rest ∧ p.Begins (lastOf before s) rest

theorem beginsLater_nil_iff : p.BeginsLater before [] ↔ p.Begins before [] := by
  constructor
  · rintro ⟨s, rest, none, here⟩
    obtain ⟨rfl, rfl⟩ := List.append_eq_nil_iff.mp none.symm
    exact here
  · exact fun here => ⟨[], [], rfl, here⟩

theorem beginsLater_cons_iff :
    p.BeginsLater before (c :: s) ↔ p.Begins before (c :: s) ∨ p.BeginsLater (some c) s := by
  constructor
  · rintro ⟨t, rest, whole, here⟩
    cases t with
    | nil =>
      obtain rfl : c :: s = rest := whole
      exact .inl here
    | cons d t =>
      obtain ⟨rfl, rfl⟩ := List.cons.inj whole
      exact .inr ⟨t, rest, rfl, by rwa [lastOf_cons] at here⟩
  · rintro (here | ⟨t, rest, rfl, later⟩)
    · exact ⟨[], c :: s, rfl, here⟩
    · exact ⟨c :: t, rest, rfl, by rwa [lastOf_cons]⟩

/-- A search goes on with what it has begun, and begins anew at every place. -/
theorem search_iff {begun : List Pattern} {text : List Char} :
    search p begun before text = true ↔
      p.BeginsLater before text ∨ ∃ q ∈ begun, q.Begins before text := by
  induction text generalizing begun before with
  | nil =>
    rw [search, List.any_eq_true, beginsLater_nil_iff]
    simp only [← begins_nil_iff, List.mem_cons, exists_eq_or_imp]
  | cons c text ih =>
    have step : (∃ q ∈ p :: begun, q.Begins before (c :: text)) ↔
        (∃ q ∈ p :: begun, q.nullable (isEdge before (some c)) = true) ∨
          ∃ r ∈ (p :: begun).flatMap (·.rests (isEdge before (some c)) c),
            r.Begins (some c) text := by
      simp only [begins_cons_iff, and_or_left, exists_or, List.mem_flatMap]
      refine or_congr_right ⟨?_, ?_⟩
      · rintro ⟨q, member, r, left, later⟩
        exact ⟨r, ⟨q, member, left⟩, later⟩
      · rintro ⟨r, ⟨q, member, left⟩, later⟩
        exact ⟨q, member, r, left, later⟩
    rw [search, Bool.or_eq_true, List.any_eq_true, ih, beginsLater_cons_iff]
    simp only [List.mem_eraseDups]
    rw [or_left_comm, ← step]
    simp only [List.mem_cons, exists_eq_or_imp]
    rw [or_left_comm, or_assoc]

/-- A search finds a pattern exactly if some part of the text belongs to it where it stands. -/
theorem occursIn_iff {text : List Char} : p.occursIn text = true ↔ p.OccursIn text := by
  rw [occursIn, search_iff]
  constructor
  · rintro (⟨s, rest, rfl, part, t, rfl, here⟩ | ⟨q, none, -⟩)
    · exact ⟨s, part, t, (List.append_assoc s part t).symm, here⟩
    · cases none
  · rintro ⟨s, part, t, rfl, here⟩
    exact .inl ⟨s, part ++ t, List.append_assoc s part t, part, t, rfl, here⟩

end Pattern

end TenantLink
