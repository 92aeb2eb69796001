import TenantLink.Proofs.Pattern.Languages
import TenantLink.Proofs.Text.Blank

/-!
# Patterns that occur whatever surrounds them

The classes of a folded pattern do not tell cases apart, so it occurs in a text in any case
(`Matches.recased`). A part that begins and ends in solid characters, which are no white space, is
still there when the text is trimmed, and no edge of a word is lost between characters that belong
to no word: `OccursIn.surrounded`, `OccursIn.trimmed`.
-/

namespace TenantLink

/-! ### White space, digits and words -/

namespace Text

variable {c : Char}

theorem isBlank_of_isDigit (digit : isDigit c = true) : isBlank c = false := by
  have apart : ∀ r ∈ digitRanges, isOutside blankRanges r.1 r.2 = true := by decide +kernel
  obtain ⟨r, member, least, most⟩ := inRanges_iff.mp digit
  exact inRanges_of_isOutside (apart r member) least most

theorem isWord_of_isBlank (blank : isBlank c = true) : isWord c = false := by
  have apart : ∀ r ∈ blankRanges, isOutside wordRanges r.1 r.2 = true := by decide +kernel
  obtain ⟨r, member, least, most⟩ := inRanges_iff.mp blank
  rw [isWord_eq]
  exact inRanges_of_isOutside (apart r member) least most

end Text

/-! ### Classes -/

namespace CharClass

/-- Whether a class does not tell cases apart: its letters and signs are of ASCII, and its signs
have one case. -/
def isFolded : CharClass → Bool
  | letter a => a.toNat < 128
  | space | digit => true
  | wordOr marks => marks.all fun m => decide (Pattern.IsSign m)
  | allBut m => decide (Pattern.IsSign m)

/-- Whether a class holds no white space. -/
def isSolid : CharClass → Bool
  | letter a => (caseForms a).all fun c => !Text.isBlank c
  | digit => true
  | _ => false

variable {k : CharClass} {c d : Char}

theorem holds_of_fold (folded : k.isFolded = true) (same : Text.fold c = Text.fold d)
    (h : k.holds c = true) : k.holds d = true := by
  cases k with
  | letter a =>
    have short := of_decide_eq_true folded
    exact (Pattern.holds_letter_iff short).mpr
      (same.symm.trans ((Pattern.holds_letter_iff short).mp h))
  | space =>
    rw [holds] at h ⊢
    rwa [← Text.isBlank_fold, ← same, Text.isBlank_fold]
  | digit =>
    rw [holds] at h ⊢
    rwa [← Text.isDigit_fold, ← same, Text.isDigit_fold]
  | wordOr marks =>
    rw [holds, Bool.or_eq_true, List.contains_iff_mem] at h ⊢
    refine h.imp (fun word => ?_) fun mark => ?_
    · rwa [← Text.isWord_fold, ← same, Text.isWord_fold]
    · have sign := of_decide_eq_true (List.all_eq_true.mp folded c mark)
      rwa [(Pattern.fold_eq_sign sign).mp same.symm]
  | allBut m =>
    have sign := of_decide_eq_true folded
    rw [holds, bne_iff_ne] at h ⊢
    rintro rfl
    exact h ((Pattern.fold_eq_sign sign).mp same)

theorem isBlank_of_isSolid (solid : k.isSolid = true) (h : k.holds c = true) :
    Text.isBlank c = false := by
  cases k with
  | letter a =>
    have none := List.all_eq_true.mp solid c (List.contains_iff_mem.mp h)
    exact (Bool.not_eq_true' _).mp none
  | digit => exact Text.isBlank_of_isDigit h
  | _ => cases solid

end CharClass

namespace Pattern

variable {p q : Pattern} {before after before' after' : Option Char} {s s' t t' : List Char}

/-! ### Any case -/

def isFolded : Pattern → Bool
  | empty => true
  | one k => k.isFolded
  | seq p q => p.isFolded && q.isFolded
  | alt p q => p.isFolded && q.isFolded
  | many p => p.isFolded
  | edge => true

theorem wordAt_nextOf_of_fold (same : s.map Text.fold = s'.map Text.fold)
    (next : Text.wordAt after = Text.wordAt after') :
    Text.wordAt (nextOf s after) = Text.wordAt (nextOf s' after') := by
  cases s with
  | nil =>
    obtain rfl := List.map_eq_nil_iff.mp same.symm
    exact next
  | cons c s =>
    obtain ⟨d, rest, rfl, first, -⟩ := List.map_eq_cons_iff.mp same.symm
    show Text.isWord c = Text.isWord d
    rw [← Text.isWord_fold, ← first, Text.isWord_fold]

theorem wordAt_lastOf_of_fold (same : s.map Text.fold = s'.map Text.fold)
    (last : Text.wordAt before = Text.wordAt before') :
    Text.wordAt (lastOf before s) = Text.wordAt (lastOf before' s') := by
  induction s generalizing s' before before' with
  | nil =>
    obtain rfl := List.map_eq_nil_iff.mp same.symm
    exact last
  | cons c s ih =>
    obtain ⟨d, rest, rfl, first, later⟩ := List.map_eq_cons_iff.mp same.symm
    rw [lastOf_cons, lastOf_cons]
    refine ih later.symm ?_
    show Text.isWord c = Text.isWord d
    rw [← Text.isWord_fold, ← first, Text.isWord_fold]

/-- A folded pattern has a text in any case, between all neighbours that belong to words or not as
the old ones did. -/
theorem Matches.recased (h : Matches p before s after) (folded : p.isFolded = true)
    (same : s.map Text.fold = s'.map Text.fold)
    (last : Text.wordAt before = Text.wordAt before')
    (next : Text.wordAt after = Text.wordAt after') : Matches p before' s' after' := by
  induction h generalizing s' before' after' with
  | empty =>
    obtain rfl := List.map_eq_nil_iff.mp same.symm
    exact .empty
  | one holds =>
    obtain ⟨d, rfl, first⟩ := List.map_eq_singleton_iff.mp same.symm
    exact .one (CharClass.holds_of_fold folded first.symm holds)
  | seq _ _ ihp ihq =>
    obtain ⟨folded, folded'⟩ := Bool.and_eq_true_iff.mp folded
    obtain ⟨t, u, rfl, first, second⟩ := List.map_eq_append_iff.mp (same.symm.trans List.map_append)
    exact .seq (ihp folded first.symm last (wordAt_nextOf_of_fold second.symm next))
      (ihq folded' second.symm (wordAt_lastOf_of_fold first.symm last) next)
  | left _ ih => exact .left (ih (Bool.and_eq_true_iff.mp folded).1 same last next)
  | right _ ih => exact .right (ih (Bool.and_eq_true_iff.mp folded).2 same last next)
  | done =>
    obtain rfl := List.map_eq_nil_iff.mp same.symm
    exact .done
  | more _ _ ih ihs =>
    obtain ⟨t, u, rfl, first, second⟩ := List.map_eq_append_iff.mp (same.symm.trans List.map_append)
    exact .more (ih folded first.symm last (wordAt_nextOf_of_fold second.symm next))
      (ihs folded second.symm (wordAt_lastOf_of_fold first.symm last) next)
  | edge atEdge =>
    obtain rfl := List.map_eq_nil_iff.mp same.symm
    rw [isEdge, last, next] at atEdge
    exact .edge atEdge

/-! ### Solid ends -/

/-- Whether the only text of a pattern is the empty one. -/
def isVoid : Pattern → Bool
  | empty => true
  | edge => true
  | _ => false

/-- Whether all texts of a pattern begin with a solid character. -/
def opensSolid : Pattern → Bool
  | one k => k.isSolid
  | seq p q => p.opensSolid || p.isVoid && q.opensSolid
  | alt p q => p.opensSolid && q.opensSolid
  | _ => false

/-- Whether all texts of a pattern that are not empty end with a solid character. -/
def trailsSolid : Pattern → Bool
  | empty => true
  | one k => k.isSolid
  | seq p q => p.trailsSolid && q.trailsSolid
  | alt p q => p.trailsSolid && q.trailsSolid
  | many p => p.trailsSolid
  | edge => true

/-- Whether all texts of a pattern end with a solid character. -/
def closesSolid : Pattern → Bool
  | one k => k.isSolid
  | seq p q => q.closesSolid || p.closesSolid && q.trailsSolid
  | alt p q => p.closesSolid && q.closesSolid
  | _ => false

theorem Matches.eq_nil_of_isVoid (h : Matches p before s after) (void : p.isVoid = true) :
    s = [] := by
  cases h with
  | empty => rfl
  | edge => rfl
  | _ => cases void

theorem Matches.opens (h : Matches p before s after) (solid : p.opensSolid = true) :
    ∃ c ∈ s.head?, Text.isBlank c = false := by
  induction h with
  | @one k c _ _ holds => exact ⟨c, rfl, CharClass.isBlank_of_isSolid solid holds⟩
  | @seq p q _ _ s t first _ ihp ihq =>
    rcases Bool.or_eq_true_iff.mp solid with opens | both
    · obtain ⟨c, head, solid⟩ := ihp opens
      refine ⟨c, ?_, solid⟩
      rw [List.head?_append, Option.mem_def.mp head]
      rfl
    · obtain ⟨void, opens⟩ := Bool.and_eq_true_iff.mp both
      obtain rfl := first.eq_nil_of_isVoid void
      exact ihq opens
  | left _ ih => exact ih (Bool.and_eq_true_iff.mp solid).1
  | right _ ih => exact ih (Bool.and_eq_true_iff.mp solid).2
  | _ => cases solid

theorem Matches.trails (h : Matches p before s after) (solid : p.trailsSolid = true) :
    ∀ c ∈ s.getLast?, Text.isBlank c = false := by
  have joined {s t : List Char} (first : ∀ c ∈ s.getLast?, Text.isBlank c = false)
      (second : ∀ c ∈ t.getLast?, Text.isBlank c = false) :
      ∀ c ∈ (s ++ t).getLast?, Text.isBlank c = false := by
    intro c last
    rw [List.getLast?_append] at last
    cases final : t.getLast? with
    | none =>
      rw [final] at last
      exact first c last
    | some d =>
      rw [final] at last
      exact second c (final.trans last)
  induction h with
  | empty => exact fun c none => by cases none
  | @one k c _ _ holds =>
    rintro d last
    obtain rfl := Option.some.inj last
    exact CharClass.isBlank_of_isSolid solid holds
  | seq _ _ ihp ihq =>
    obtain ⟨solid, solid'⟩ := Bool.and_eq_true_iff.mp solid
    exact joined (ihp solid) (ihq solid')
  | left _ ih => exact ih (Bool.and_eq_true_iff.mp solid).1
  | right _ ih => exact ih (Bool.and_eq_true_iff.mp solid).2
  | done => exact fun c none => by cases none
  | more _ _ ih ihs => exact joined (ih solid) (ihs solid)
  | edge => exact fun c none => by cases none

theorem Matches.closes (h : Matches p before s after) (solid : p.closesSolid = true) :
    ∃ c ∈ s.getLast?, Text.isBlank c = false := by
  induction h with
  | @one k c _ _ holds => exact ⟨c, rfl, CharClass.isBlank_of_isSolid solid holds⟩
  | @seq p q _ _ s t _ second ihp ihq =>
    rw [List.getLast?_append]
    rcases Bool.or_eq_true_iff.mp solid with closes | both
    · obtain ⟨c, last, solid⟩ := ihq closes
      refine ⟨c, ?_, solid⟩
      rw [Option.mem_def.mp last]
      rfl
    · obtain ⟨closes, trails⟩ := Bool.and_eq_true_iff.mp both
      have solid := second.trails trails
      cases final : t.getLast? with
      | none => exact ihp closes
      | some c => exact ⟨c, rfl, solid c final⟩
  | left _ ih => exact ih (Bool.and_eq_true_iff.mp solid).1
  | right _ ih => exact ih (Bool.and_eq_true_iff.mp solid).2
  | _ => cases solid

/-! ### Other surroundings -/

/-- What stands in front of a text is not seen behind it, if it ends in no word character. -/
theorem wordAt_lastOf_append (ends : ∀ c ∈ t.getLast?, Text.isWord c = false) :
    Text.wordAt (lastOf none (t ++ s)) = Text.wordAt (lastOf none s) := by
  rw [lastOf_append]
  refine wordAt_lastOf_of_fold rfl ?_
  rw [lastOf_none, Text.wordAt_eq_false_iff.mpr ends]
  rfl

theorem wordAt_nextOf_append (starts : ∀ c ∈ t.head?, Text.isWord c = false) :
    Text.wordAt (nextOf (s ++ t) none) = Text.wordAt (nextOf s none) := by
  rw [nextOf_append]
  refine wordAt_nextOf_of_fold rfl ?_
  rw [nextOf_none, Text.wordAt_eq_false_iff.mpr starts]
  rfl

/-- What occurs in a text occurs in any case between other texts that have no word character next
to it. -/
theorem OccursIn.surrounded {text front back whole : List Char} (h : p.OccursIn text)
    (folded : p.isFolded = true) (ends : ∀ c ∈ front.getLast?, Text.isWord c = false)
    (starts : ∀ c ∈ back.head?, Text.isWord c = false)
    (same : whole.map Text.fold = (front ++ text ++ back).map Text.fold) : p.OccursIn whole := by
  obtain ⟨s, part, t, rfl, here⟩ := h
  have parts : front ++ (s ++ part ++ t) ++ back = (front ++ s) ++ (part ++ (t ++ back)) := by
    simp only [List.append_assoc]
  rw [parts] at same
  obtain ⟨s', rest, rfl, before, later⟩ :=
    List.map_eq_append_iff.mp (same.trans List.map_append)
  obtain ⟨part', t', rfl, middle, after⟩ :=
    List.map_eq_append_iff.mp (later.trans List.map_append)
  refine ⟨s', part', t', (List.append_assoc s' part' t').symm, here.recased folded middle.symm ?_ ?_⟩
  · rw [← wordAt_lastOf_append ends]
    exact wordAt_lastOf_of_fold before.symm rfl
  · rw [← wordAt_nextOf_append starts]
    exact wordAt_nextOf_of_fold after.symm rfl

/-- What occurs in a text with solid ends occurs in the trimmed text. -/
theorem OccursIn.trimmed {text : List Char} (h : p.OccursIn text) (folded : p.isFolded = true)
    (opens : p.opensSolid = true) (closes : p.closesSolid = true) :
    p.OccursIn (Text.trim text) := by
  obtain ⟨s, part, t, rfl, here⟩ := h
  obtain ⟨dropped, front, blank⟩ := Text.dropWhile_cut Text.isBlank s
  obtain ⟨dropped', back, blank'⟩ := Text.dropEndWhile_cut Text.isBlank t
  have first := Text.head_dropWhile (p := Text.isBlank) s
  have last := Text.last_dropEndWhile (p := Text.isBlank) t
  generalize s.dropWhile Text.isBlank = s' at front first
  generalize Text.dropEndWhile Text.isBlank t = t' at back last
  subst front back
  have trimmed : Text.IsTrimmed (dropped ++ s' ++ part ++ (t' ++ dropped')) (s' ++ part ++ t') := by
    refine ⟨⟨dropped, dropped', by simp only [List.append_assoc], blank, blank'⟩, ?_, ?_⟩
    · obtain ⟨c, head, solid⟩ := here.opens opens
      intro d next
      cases s' with
      | nil =>
        rw [List.nil_append, List.head?_append, Option.mem_def.mp head] at next
        obtain rfl := Option.some.inj next
        exact solid
      | cons e s' => exact first d next
    · obtain ⟨c, final, solid⟩ := here.closes closes
      intro d next
      rw [List.getLast?_append] at next
      cases final' : t'.getLast? with
      | none =>
        rw [final', List.getLast?_append, Option.mem_def.mp final] at next
        obtain rfl := Option.some.inj next
        exact solid
      | some e =>
        rw [final'] at next
        exact last d (final'.trans next)
  have noWord : ∀ c ∈ dropped.getLast?, Text.isWord c = false := fun c member =>
    Text.isWord_of_isBlank (blank c (List.mem_of_getLast? member))
  have noWord' : ∀ c ∈ dropped'.head?, Text.isWord c = false := fun c member =>
    Text.isWord_of_isBlank (blank' c (List.mem_of_head? member))
  rw [← trimmed.eq_trim]
  exact ⟨s', part, t', rfl,
    here.recased folded rfl (wordAt_lastOf_append noWord) (wordAt_nextOf_append noWord')⟩

end Pattern

end TenantLink
