import TenantLink.Proofs.Disclosure.Envelope
import TenantLink.Proofs.Pattern.Stability

/-!
# Leaks in disguise

A message that is internal stays so with any text around it that does not join its words, with any
change of case, and once it is trimmed; so nothing of a body that says it is shown:
`disguised_internal`.
-/

namespace TenantLink

namespace Text

/-- Whether two characters differ at most in the case of an ASCII letter. -/
def SameLetter (c d : Char) : Prop := c.toLower = d.toLower

instance (c d : Char) : Decidable (SameLetter c d) := inferInstanceAs (Decidable (_ = _))

variable {c d : Char}

theorem toLower_of_longer (longer : 0x80 ≤ c.toNat) : c.toLower = c := by
  unfold Char.toLower
  split
  next capital =>
    have most := UInt32.le_iff_toNat_le.mp capital.2
    exact absurd (Nat.le_trans longer most) (by decide)
  next => rfl

theorem SameLetter.fold (h : SameLetter c d) : Text.fold c = Text.fold d := by
  have lower {c : Char} (short : c.toNat < 128) : c.toLower.toNat < 128 :=
    (Pattern.toLower_forms short).1
  unfold SameLetter at h
  rcases Nat.lt_or_ge c.toNat 0x80 with short | longer <;>
    rcases Nat.lt_or_ge d.toNat 0x80 with short' | longer'
  · rw [fold_ascii short, fold_ascii short', h]
  · have short' := lower short
    rw [h, toLower_of_longer longer'] at short'
    omega
  · have short := lower short'
    rw [← h, toLower_of_longer longer] at short
    omega
  · rw [toLower_of_longer longer, toLower_of_longer longer'] at h
    rw [h]

theorem map_fold_of_forall₂ {s t : List Char} (h : List.Forall₂ SameLetter s t) :
    s.map Text.fold = t.map Text.fold := by
  induction h with
  | nil => rfl
  | cons first _ ih => rw [List.map_cons, List.map_cons, first.fold, ih]

end Text

namespace Disclosure

theorem markers_stable :
    ∀ p ∈ markers, p.isFolded = true ∧ p.opensSolid = true ∧ p.closesSolid = true := by
  decide

theorem isInternal_iff_occursIn (message : String) :
    isInternal message = true ↔ ∃ p ∈ markers, p.OccursIn message.toList := by
  simp only [isInternal, List.any_eq_true, Pattern.occursIn_iff]

/-- What a body says is not shown if it is internal once it is trimmed. -/
theorem safeMessage_of_internal {body : Bytes} {text : String}
    (internal : isInternal (Text.trimmed text) = true) (said : Says body text) :
    safeMessage body = genericMessage := by
  have hidden : ¬isPresentable (Text.trimmed text) = true := by simp [isPresentable, internal]
  rw [safeMessage, says_iff.mp said, Option.map_some]
  exact if_neg hidden

/-- An internal message stays internal inside another text and in any case, and nothing of a body
that says it is shown to the user. -/
theorem disguised_internal {message front back text : String} (internal : isInternal message = true)
    (ends : ∀ c ∈ front.toList.getLast?, Text.isWord c = false)
    (starts : ∀ c ∈ back.toList.head?, Text.isWord c = false)
    (recased : List.Forall₂ Text.SameLetter (front ++ message ++ back).toList text.toList) :
    isInternal text = true ∧ isInternal (Text.trimmed text) = true ∧
      ∀ body, Says body text → safeMessage body = genericMessage := by
  obtain ⟨p, member, occurs⟩ := (isInternal_iff_occursIn message).mp internal
  obtain ⟨folded, opens, closes⟩ := markers_stable p member
  have same : text.toList.map Text.fold =
      (front.toList ++ message.toList ++ back.toList).map Text.fold := by
    rw [← Text.map_fold_of_forall₂ recased, String.toList_append, String.toList_append]
  have here : p.OccursIn text.toList := occurs.surrounded folded ends starts same
  have trimmed : isInternal (Text.trimmed text) = true := by
    refine (isInternal_iff_occursIn _).mpr ⟨p, member, ?_⟩
    rw [Text.trimmed, String.toList_ofList]
    exact here.trimmed folded opens closes
  exact ⟨(isInternal_iff_occursIn text).mpr ⟨p, member, here⟩, trimmed,
    fun _ => safeMessage_of_internal trimmed⟩

theorem shouted_file_hidden :
    isInternal "file \"app.py\", line 3" = true ∧
      (∀ c ∈ "\n -> ".toList.getLast?, Text.isWord c = false) ∧
      (∀ c ∈ ", in main\n".toList.head?, Text.isWord c = false) ∧
      List.Forall₂ Text.SameLetter
        ("\n -> " ++ "file \"app.py\", line 3" ++ ", in main\n").toList
        "\n -> FILE \"App.PY\", LINE 3, IN MAIN\n".toList ∧
      isInternal "\n -> FILE \"App.PY\", LINE 3, IN MAIN\n" = true ∧
      isInternal (Text.trimmed "\n -> FILE \"App.PY\", LINE 3, IN MAIN\n") = true ∧
      ∀ body, Says body "\n -> FILE \"App.PY\", LINE 3, IN MAIN\n" →
        safeMessage body = genericMessage := by
  have internal : isInternal "file \"app.py\", line 3" = true := by decide +kernel
  have ends : ∀ c ∈ "\n -> ".toList.getLast?, Text.isWord c = false := by
    intro c last
    obtain rfl : ' ' = c := Option.some.inj last
    decide
  have starts : ∀ c ∈ ", in main\n".toList.head?, Text.isWord c = false := by
    intro c first
    obtain rfl : ',' = c := Option.some.inj first
    decide
  have recased : List.Forall₂ Text.SameLetter
      ("\n -> " ++ "file \"app.py\", line 3" ++ ", in main\n").toList
      "\n -> FILE \"App.PY\", LINE 3, IN MAIN\n".toList := by decide +kernel
  exact ⟨internal, ends, starts, recased, disguised_internal internal ends starts recased⟩

end Disclosure

end TenantLink
