import Mathlib.Computability.Language
import TenantLink.Proofs.Pattern.Search
import TenantLink.Proofs.Text.Folding

/-!
# The language of a pattern

A pattern that asks for no edge of a word has the same texts wherever they stand: its language,
`texts`. Patterns are written with cases in mind, so a letter of a pattern stands for all
characters that fold as it does (`holds_letter_iff`), and a spelled word for all texts that fold as
the word does (`mem_texts_word`).
-/

namespace TenantLink.Pattern

open scoped Computability

/-- The texts of a pattern, whose edges are taken to be everywhere. -/
def texts : Pattern → Language Char
  | empty => 1
  | one k => {part | ∃ c, part = [c] ∧ k.holds c = true}
  | seq p q => p.texts * q.texts
  | alt p q => p.texts + q.texts
  | many p => p.texts∗
  | edge => 1

/-- Whether a pattern asks for no edge of a word. -/
def isPlain : Pattern → Bool
  | empty => true
  | one _ => true
  | seq p q => p.isPlain && q.isPlain
  | alt p q => p.isPlain && q.isPlain
  | many p => p.isPlain
  | edge => false

variable {p q : Pattern} {before after : Option Char} {s : List Char}

theorem mem_texts_of_matches (h : Matches p before s after) (plain : p.isPlain = true) :
    s ∈ p.texts := by
  induction h with
  | empty => exact Language.nil_mem_one
  | one holds => exact ⟨_, rfl, holds⟩
  | seq _ _ ihp ihq =>
    obtain ⟨plain, plain'⟩ := Bool.and_eq_true_iff.mp plain
    exact Language.mem_mul.mpr ⟨_, ihp plain, _, ihq plain', rfl⟩
  | left _ ih => exact .inl (ih (Bool.and_eq_true_iff.mp plain).1)
  | right _ ih => exact .inr (ih (Bool.and_eq_true_iff.mp plain).2)
  | done => exact Language.nil_mem_kstar _
  | @more p _ _ first later _ _ ih ihs =>
    have joined : first ++ later ∈ p.texts * p.texts∗ :=
      Language.mem_mul.mpr ⟨first, ih plain, later, ihs plain, rfl⟩
    exact (mul_kstar_le_kstar : p.texts * p.texts∗ ≤ p.texts∗) joined
  | edge => cases plain

theorem matches_many_flatten {parts : List (List Char)}
    (each : ∀ part ∈ parts, ∀ before after, Matches p before part after)
    (before after : Option Char) : Matches (many p) before parts.flatten after := by
  induction parts generalizing before with
  | nil => exact .done
  | cons part parts ih =>
    obtain ⟨first, later⟩ := List.forall_mem_cons.mp each
    exact .more (first _ _) (ih later _)

theorem matches_of_mem_texts (plain : p.isPlain = true) (h : s ∈ p.texts)
    (before after : Option Char) : Matches p before s after := by
  induction p generalizing s before after with
  | empty =>
    obtain rfl := h
    exact .empty
  | one k =>
    obtain ⟨c, rfl, holds⟩ := h
    exact .one holds
  | seq p q ihp ihq =>
    obtain ⟨plain, plain'⟩ := Bool.and_eq_true_iff.mp plain
    obtain ⟨t, first, u, second, rfl⟩ := Language.mem_mul.mp h
    exact .seq (ihp plain first _ _) (ihq plain' second _ _)
  | alt p q ihp ihq =>
    obtain ⟨plain, plain'⟩ := Bool.and_eq_true_iff.mp plain
    rcases h with left | right
    · exact .left (ihp plain left _ _)
    · exact .right (ihq plain' right _ _)
  | many p ih =>
    obtain ⟨parts, rfl, each⟩ := h
    exact matches_many_flatten (fun part member => ih plain (each part member)) before after
  | edge => cases plain

theorem matches_iff_mem_texts (plain : p.isPlain = true) :
    Matches p before s after ↔ s ∈ p.texts :=
  ⟨fun h => mem_texts_of_matches h plain, fun h => matches_of_mem_texts plain h before after⟩

/-! ### Patterns in a row -/

theorem inOrder_cons_cons (p q : Pattern) (ps : List Pattern) :
    inOrder (p :: q :: ps) = seq p (inOrder (q :: ps)) := rfl

theorem texts_inOrder (ps : List Pattern) : (inOrder ps).texts = (ps.map texts).prod := by
  induction ps with
  | nil => rfl
  | cons p ps ih =>
    cases ps with
    | nil => rw [inOrder, List.map_singleton, List.prod_singleton]
    | cons q ps => exact congrArg (p.texts * ·) ih

theorem texts_oneOf (p : Pattern) (qs : List Pattern) :
    (oneOf p qs).texts = ((p :: qs).map texts).sum := by
  induction qs generalizing p with
  | nil => rw [oneOf, List.map_singleton, List.sum_singleton]
  | cons q qs ih => exact congrArg (p.texts + ·) (ih q)

/-! ### Letters in any case -/

/-- The characters of the texts that a letter of ASCII is written in. -/
theorem of_mem_caseForms {a c : Char} (short : a.toNat < 128) (member : c ∈ CharClass.caseForms a) :
    c.toNat < 128 ∧ c.toLower = a.toLower ∨ c = Char.ofNat 0x17F ∧ a.toLower = 's' ∨
      c = Char.ofNat 0x212A ∧ a.toLower = 'k' := by
  have all := forall_ascii (P := fun a => (CharClass.caseForms a).all (fun c =>
    c.toNat < 128 ∧ c.toLower = a.toLower ∨ c = Char.ofNat 0x17F ∧ a.toLower = 's' ∨
      c = Char.ofNat 0x212A ∧ a.toLower = 'k') = true) (by decide) short
  exact of_decide_eq_true (List.all_eq_true.mp all c member)

theorem toLower_forms {a : Char} (short : a.toNat < 128) :
    a.toLower.toNat < 128 ∧ a ∈ CharClass.caseForms a.toLower ∧
      CharClass.caseForms a.toLower = CharClass.caseForms a :=
  forall_ascii (P := fun a => a.toLower.toNat < 128 ∧ a ∈ CharClass.caseForms a.toLower ∧
    CharClass.caseForms a.toLower = CharClass.caseForms a) (by decide) short

/-- A letter stands for all the characters that fold as it does. -/
theorem holds_letter_iff {a c : Char} (short : a.toNat < 128) :
    (CharClass.letter a).holds c = true ↔ Text.fold c = Text.fold a := by
  obtain ⟨lower, -, forms⟩ := toLower_forms short
  rw [CharClass.holds, List.contains_iff_mem, Text.fold_ascii short]
  constructor
  · intro member
    rcases of_mem_caseForms short member with ⟨short', same⟩ | ⟨rfl, same⟩ | ⟨rfl, same⟩
    · rw [Text.fold_ascii short', same]
    · rw [Text.fold_long, same]
    · rw [Text.fold_kelvin, same]
  · intro same
    rw [← same] at lower
    rw [← forms, ← same]
    rcases Text.of_fold_ascii lower with short' | rfl | rfl
    · rw [Text.fold_ascii short']
      exact (toLower_forms short').2.1
    · rw [Text.fold_long]
      decide
    · rw [Text.fold_kelvin]
      decide

/-- Whether `c` is a character of ASCII that has no other case. -/
def IsSign (c : Char) : Prop := c.toNat < 128 ∧ CharClass.caseForms c = [c, c]

instance (c : Char) : Decidable (IsSign c) := inferInstanceAs (Decidable (_ ∧ _))

theorem fold_eq_sign {m c : Char} (sign : IsSign m) : Text.fold c = Text.fold m ↔ c = m := by
  rw [← holds_letter_iff sign.1, CharClass.holds, sign.2]
  simp

end TenantLink.Pattern

namespace TenantLink.Text

/-! ### Languages in any case -/

/-- The texts that differ from `text` at most in case. -/
def spelled (text : String) : Language Char :=
  {part | part.map fold = text.toList.map fold}

/-- The texts of one character that differs from some character in `p` at most in case. -/
def anyOf (p : Char → Prop) : Language Char := {part | ∃ c d, part = [c] ∧ p d ∧ fold c = fold d}

/-- The texts of one character that differs from all characters in `p`, and not in case alone. -/
def noneOf (p : Char → Prop) : Language Char :=
  {part | ∃ c, part = [c] ∧ ∀ d, p d → fold c ≠ fold d}

end TenantLink.Text

namespace TenantLink.Pattern

theorem mem_texts_word {chars : List Char} (short : ∀ c ∈ chars, c.toNat < 128) :
    s ∈ (word chars).texts ↔ s.map Text.fold = chars.map Text.fold := by
  induction chars generalizing s with
  | nil => exact (Language.mem_one s).trans List.map_eq_nil_iff.symm
  | cons c chars ih =>
    obtain ⟨first, later⟩ := List.forall_mem_cons.mp short
    have joined : (word (c :: chars)).texts = (one (.letter c)).texts * (word chars).texts := by
      cases chars with
      | nil => exact (mul_one _).symm
      | cons d chars => rfl
    rw [joined, Language.mem_mul]
    constructor
    · rintro ⟨_, ⟨d, rfl, holds⟩, rest, spelled, rfl⟩
      exact congrArg₂ List.cons ((holds_letter_iff first).mp holds) ((ih later).mp spelled)
    · intro folded
      obtain ⟨d, rest, rfl, same, spelled⟩ := List.map_eq_cons_iff.mp folded
      exact ⟨[d], ⟨d, rfl, (holds_letter_iff first).mpr same⟩, rest, (ih later).mpr spelled, rfl⟩

theorem texts_words {text : String} (short : text.toList.all (·.toNat < 128) = true) :
    (word text.toList).texts = Text.spelled text := by
  ext part
  exact mem_texts_word fun c member => of_decide_eq_true (List.all_eq_true.mp short c member)

theorem texts_space : (one .space).texts = Text.anyOf (Text.isBlank · = true) := by
  ext part
  constructor
  · rintro ⟨c, rfl, holds⟩
    exact ⟨c, c, rfl, holds, rfl⟩
  · rintro ⟨c, d, rfl, blank, same⟩
    refine ⟨c, rfl, ?_⟩
    rwa [CharClass.holds, ← Text.isBlank_fold, same, Text.isBlank_fold]

theorem texts_digit : (one .digit).texts = Text.anyOf (Text.isDigit · = true) := by
  ext part
  constructor
  · rintro ⟨c, rfl, holds⟩
    exact ⟨c, c, rfl, holds, rfl⟩
  · rintro ⟨c, d, rfl, digit, same⟩
    refine ⟨c, rfl, ?_⟩
    rwa [CharClass.holds, ← Text.isDigit_fold, same, Text.isDigit_fold]

theorem texts_wordOr {marks : List Char} (signs : marks.all (IsSign ·) = true) :
    (one (.wordOr marks)).texts = Text.anyOf fun c => Text.isWord c = true ∨ c ∈ marks := by
  have signs : ∀ m ∈ marks, IsSign m :=
    fun m member => of_decide_eq_true (List.all_eq_true.mp signs m member)
  ext part
  constructor
  · rintro ⟨c, rfl, holds⟩
    rw [CharClass.holds, Bool.or_eq_true, List.contains_iff_mem] at holds
    exact ⟨c, c, rfl, holds, rfl⟩
  · rintro ⟨c, d, rfl, word | mark, same⟩
    · refine ⟨c, rfl, Bool.or_eq_true_iff.mpr (.inl ?_)⟩
      rwa [← Text.isWord_fold, same, Text.isWord_fold]
    · obtain rfl := (fold_eq_sign (signs d mark)).mp same
      exact ⟨c, rfl, Bool.or_eq_true_iff.mpr (.inr (List.contains_iff_mem.mpr mark))⟩

theorem texts_allBut {m : Char} (sign : IsSign m) :
    (one (.allBut m)).texts = Text.noneOf (· = m) := by
  ext part
  constructor
  · rintro ⟨c, rfl, holds⟩
    refine ⟨c, rfl, ?_⟩
    rintro d rfl same
    exact bne_iff_ne.mp holds ((fold_eq_sign sign).mp same)
  · rintro ⟨c, rfl, other⟩
    refine ⟨c, rfl, bne_iff_ne.mpr ?_⟩
    rintro rfl
    exact other c rfl rfl

end TenantLink.Pattern
