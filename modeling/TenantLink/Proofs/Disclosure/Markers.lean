import TenantLink.Disclosure.Markers
import TenantLink.Proofs.Pattern.Languages

/-!
# Which texts are taken to be internal

A leak is a part of a message in one of ten languages, which are written out here; four of them
ask for the edge of a word before the part, and one also behind it. A message is taken to be
internal exactly if a part of it is a leak: `isInternal_iff`.
-/

namespace TenantLink.Disclosure

open scoped Computability
open Text (spelled anyOf noneOf)

/-! ### Ten languages -/

namespace Leak

/-- The texts of one or more texts of `l`. -/
def run (l : Language Char) : Language Char := l * l∗

def blank : Language Char := anyOf (Text.isBlank · = true)

def number : Language Char := run (anyOf (Text.isDigit · = true))

/-- The texts of word characters and some signs. -/
def name (signs : List Char) : Language Char :=
  run (anyOf fun c => Text.isWord c = true ∨ c ∈ signs)

def line : Language Char := spelled ":" * number

def tracebackHead : Language Char :=
  spelled "traceback" * run blank * spelled "(most" * run blank * spelled "recent" * run blank *
    spelled "call" * run blank * spelled "last)"

def quotedFile : Language Char :=
  spelled "file" * run blank * spelled "\"" * run (noneOf (· = '"')) * spelled "\"," * run blank *
    spelled "line" * run blank * number

def callPlace : Language Char :=
  spelled "at" * run blank * name ['$', '.', '<', '>', '[', ']'] * blank∗ * spelled "(" *
    (noneOf (· = ')'))∗ * line * (line + 1) * spelled ")"

def classPlace : Language Char :=
  spelled "at" * run blank * name ['$', '.'] * spelled ".java" * line

def panicPlace : Language Char := spelled "panicked" * run blank * spelled "at"

def backtrace : Language Char := spelled "stack" * run blank * spelled "backtrace"

def threadException : Language Char :=
  spelled "exception" * run blank * spelled "in" * run blank * spelled "thread"

/-- The last parts of the names of source files. -/
def extensions : List String := ["rs", "py", "js", "ts", "java", "go", "rb", "php", "cs"]

def sourceLine : Language Char := spelled "." * (extensions.map spelled).sum * line

def modulePath : Language Char := spelled "node_modules/"

def databaseState : Language Char := spelled "sqlstate"

end Leak

/-- Whether a word begins or ends between two parts of a text, outside of which there is none. -/
def IsWordEdge (before after : List Char) : Prop :=
  ¬((∃ c ∈ before.getLast?, Text.isWord c = true) ↔ ∃ c ∈ after.head?, Text.isWord c = true)

/-- Whether a part of a text is a leak, between what stands before it and behind it. -/
inductive IsLeak (before part after : List Char) : Prop
  | traceback : part ∈ Leak.tracebackHead → IsLeak before part after
  | file : IsWordEdge before (part ++ after) → part ∈ Leak.quotedFile → IsLeak before part after
  | call : IsWordEdge before (part ++ after) → part ∈ Leak.callPlace → IsLeak before part after
  | source : IsWordEdge before (part ++ after) → part ∈ Leak.classPlace → IsLeak before part after
  | panic : part ∈ Leak.panicPlace → IsLeak before part after
  | backtrace : part ∈ Leak.backtrace → IsLeak before part after
  | exception : part ∈ Leak.threadException → IsLeak before part after
  | line : part ∈ Leak.sourceLine → IsLeak before part after
  | path : part ∈ Leak.modulePath → IsLeak before part after
  | database : IsWordEdge before (part ++ after) → part ∈ Leak.databaseState →
      IsWordEdge (before ++ part) after → IsLeak before part after

/-! ### The edges of words -/

open Pattern

variable {before part after : List Char}

theorem isEdge_iff :
    isEdge (lastOf none before) (nextOf after none) = true ↔ IsWordEdge before after := by
  rw [isEdge, bne_iff_ne, Ne, Bool.eq_iff_iff, lastOf_none, nextOf_none,
    Text.wordAt_eq_true_iff, Text.wordAt_eq_true_iff, IsWordEdge]

/-- A pattern with an edge in front has texts where a word begins or ends. -/
theorem matches_behind_edge {p : Pattern} (plain : p.isPlain = true) :
    Matches (seq edge p) (lastOf none before) part (nextOf after none) ↔
      IsWordEdge before (part ++ after) ∧ part ∈ p.texts := by
  have text : Matches p (lastOf none before) part (nextOf after none) ↔ part ∈ p.texts :=
    matches_iff_mem_texts plain
  rw [matches_seq_iff, ← isEdge_iff, nextOf_append, ← text]
  constructor
  · rintro ⟨_, rest, rfl, first, second⟩
    obtain ⟨rfl, atEdge⟩ := matches_edge_iff.mp first
    exact ⟨atEdge, second⟩
  · rintro ⟨atEdge, second⟩
    exact ⟨[], part, rfl, .edge atEdge, second⟩

/-- A pattern with edges at both ends has texts where a word begins or ends at either. -/
theorem matches_between_edges {p : Pattern} (plain : p.isPlain = true) :
    Matches (seq edge (seq p edge)) (lastOf none before) part (nextOf after none) ↔
      IsWordEdge before (part ++ after) ∧ part ∈ p.texts ∧ IsWordEdge (before ++ part) after := by
  have text : Matches p (lastOf none before) part (nextOf after none) ↔ part ∈ p.texts :=
    matches_iff_mem_texts plain
  rw [matches_seq_iff, ← isEdge_iff, ← isEdge_iff, nextOf_append, lastOf_append, ← text]
  constructor
  · rintro ⟨_, rest, rfl, first, second⟩
    obtain ⟨rfl, atEdge⟩ := matches_edge_iff.mp first
    obtain ⟨here, _, rfl, text, last⟩ := matches_seq_iff.mp second
    obtain ⟨rfl, atEdge'⟩ := matches_edge_iff.mp last
    rw [List.append_nil] at atEdge ⊢
    exact ⟨atEdge, text, atEdge'⟩
  · rintro ⟨atEdge, text, atEdge'⟩
    refine ⟨[], part, rfl, .edge atEdge, matches_seq_iff.mpr ⟨part, [], ?_, text, .edge atEdge'⟩⟩
    rw [List.append_nil]

/-! ### The languages of the patterns -/

theorem texts_words {text : String} (short : text.toList.all (·.toNat < 128) = true) :
    (words text).texts = spelled text :=
  Pattern.texts_words short

theorem texts_gap : gap.texts = Leak.run Leak.blank := congrArg Leak.run texts_space

theorem texts_figures : figures.texts = Leak.number := congrArg Leak.run texts_digit

theorem texts_name {signs : List Char} (each : signs.all (IsSign ·) = true) :
    (repeated (one (.wordOr signs))).texts = Leak.name signs :=
  congrArg Leak.run (texts_wordOr each)

theorem texts_others {c : Char} (sign : IsSign c) :
    (many (one (.allBut c))).texts = (noneOf (· = c))∗ :=
  congrArg KStar.kstar (texts_allBut sign)

theorem texts_quoted {c : Char} (sign : IsSign c) :
    (repeated (one (.allBut c))).texts = Leak.run (noneOf (· = c)) :=
  congrArg Leak.run (texts_allBut sign)

theorem texts_spaces : (many (one .space)).texts = Leak.blank∗ :=
  congrArg KStar.kstar texts_space

theorem texts_colonNumber : colonNumber.texts = Leak.line := by
  simp (disch := decide) only [colonNumber, texts_inOrder, List.map_cons, List.map_nil,
    List.prod_cons, List.prod_nil, mul_one, texts_words, texts_figures, Leak.line]

theorem texts_optional (p : Pattern) : (alt p empty).texts = p.texts + 1 := rfl

theorem texts_extension :
    (oneOf (words "rs") [words "py", words "js", words "ts", words "java", words "go", words "rb",
      words "php", words "cs"]).texts = (Leak.extensions.map spelled).sum := by
  simp (disch := decide) only [texts_oneOf, Leak.extensions, List.map_cons, List.map_nil,
    texts_words]

theorem matches_tracebackHead :
    Matches tracebackHead (lastOf none before) part (nextOf after none) ↔
      part ∈ Leak.tracebackHead := by
  rw [matches_iff_mem_texts (by decide)]
  simp (disch := decide) only [tracebackHead, texts_inOrder, List.map_cons, List.map_nil,
    List.prod_cons, List.prod_nil, mul_one, mul_assoc, texts_words, texts_gap, Leak.tracebackHead]

theorem matches_quotedFile :
    Matches quotedFile (lastOf none before) part (nextOf after none) ↔
      IsWordEdge before (part ++ after) ∧ part ∈ Leak.quotedFile := by
  rw [quotedFile, inOrder_cons_cons, matches_behind_edge (by decide)]
  simp (disch := decide) only [texts_inOrder, List.map_cons, List.map_nil, List.prod_cons,
    List.prod_nil, mul_one, mul_assoc, texts_words, texts_gap, texts_quoted, texts_figures,
    Leak.quotedFile]

theorem matches_callPlace :
    Matches callPlace (lastOf none before) part (nextOf after none) ↔
      IsWordEdge before (part ++ after) ∧ part ∈ Leak.callPlace := by
  rw [callPlace, inOrder_cons_cons, matches_behind_edge (by decide)]
  simp (disch := decide) only [texts_inOrder, List.map_cons, List.map_nil, List.prod_cons,
    List.prod_nil, mul_one, mul_assoc, texts_words, texts_gap, texts_name, texts_spaces,
    texts_others, texts_colonNumber, texts_optional, Leak.callPlace]

theorem matches_classPlace :
    Matches classPlace (lastOf none before) part (nextOf after none) ↔
      IsWordEdge before (part ++ after) ∧ part ∈ Leak.classPlace := by
  rw [classPlace, inOrder_cons_cons, matches_behind_edge (by decide)]
  simp (disch := decide) only [texts_inOrder, List.map_cons, List.map_nil, List.prod_cons,
    List.prod_nil, mul_one, mul_assoc, texts_words, texts_gap, texts_name, texts_colonNumber,
    Leak.classPlace]

theorem matches_panicPlace :
    Matches panicPlace (lastOf none before) part (nextOf after none) ↔
      part ∈ Leak.panicPlace := by
  rw [matches_iff_mem_texts (by decide)]
  simp (disch := decide) only [panicPlace, texts_inOrder, List.map_cons, List.map_nil,
    List.prod_cons, List.prod_nil, mul_one, mul_assoc, texts_words, texts_gap, Leak.panicPlace]

theorem matches_backtrace :
    Matches backtrace (lastOf none before) part (nextOf after none) ↔ part ∈ Leak.backtrace := by
  rw [matches_iff_mem_texts (by decide)]
  simp (disch := decide) only [backtrace, texts_inOrder, List.map_cons, List.map_nil,
    List.prod_cons, List.prod_nil, mul_one, mul_assoc, texts_words, texts_gap, Leak.backtrace]

theorem matches_threadException :
    Matches threadException (lastOf none before) part (nextOf after none) ↔
      part ∈ Leak.threadException := by
  rw [matches_iff_mem_texts (by decide)]
  simp (disch := decide) only [threadException, texts_inOrder, List.map_cons, List.map_nil,
    List.prod_cons, List.prod_nil, mul_one, mul_assoc, texts_words, texts_gap,
    Leak.threadException]

theorem matches_sourceLine :
    Matches sourceLine (lastOf none before) part (nextOf after none) ↔
      part ∈ Leak.sourceLine := by
  rw [matches_iff_mem_texts (by decide)]
  simp (disch := decide) only [sourceLine, texts_inOrder, List.map_cons, List.map_nil,
    List.prod_cons, List.prod_nil, mul_one, mul_assoc, texts_words, texts_extension,
    texts_colonNumber, Leak.sourceLine]

theorem matches_modulePath :
    Matches modulePath (lastOf none before) part (nextOf after none) ↔
      part ∈ Leak.modulePath := by
  rw [matches_iff_mem_texts (by decide), modulePath, texts_words (by decide), Leak.modulePath]

theorem matches_databaseState :
    Matches databaseState (lastOf none before) part (nextOf after none) ↔
      IsWordEdge before (part ++ after) ∧ part ∈ Leak.databaseState ∧
        IsWordEdge (before ++ part) after := by
  have shape : databaseState = seq edge (seq (words "sqlstate") edge) := rfl
  rw [shape, matches_between_edges (by decide), texts_words (by decide), Leak.databaseState]

/-! ### Finding a leak -/

theorem isLeak_iff :
    IsLeak before part after ↔
      ∃ p ∈ markers, Matches p (lastOf none before) part (nextOf after none) := by
  simp only [markers, List.mem_cons, List.not_mem_nil, or_false, exists_eq_or_imp, exists_eq_left,
    matches_tracebackHead, matches_quotedFile, matches_callPlace, matches_classPlace,
    matches_panicPlace, matches_backtrace, matches_threadException, matches_sourceLine,
    matches_modulePath, matches_databaseState]
  constructor
  · rintro (h | ⟨e, h⟩ | ⟨e, h⟩ | ⟨e, h⟩ | h | h | h | h | h | ⟨e, h, e'⟩) <;> simp [*]
  · rintro (h | ⟨e, h⟩ | ⟨e, h⟩ | ⟨e, h⟩ | h | h | h | h | h | ⟨e, h, e'⟩)
    · exact .traceback h
    · exact .file e h
    · exact .call e h
    · exact .source e h
    · exact .panic h
    · exact .backtrace h
    · exact .exception h
    · exact .line h
    · exact .path h
    · exact .database e h e'

/-- A message is taken to be internal exactly if some part of it is a leak. -/
theorem isInternal_iff (message : String) :
    isInternal message = true ↔
      ∃ before part after, message.toList = before ++ part ++ after ∧
        IsLeak before part after := by
  simp only [isInternal, List.any_eq_true, occursIn_iff, OccursIn, isLeak_iff]
  constructor
  · rintro ⟨p, member, before, part, after, whole, here⟩
    exact ⟨before, part, after, whole, p, member, here⟩
  · rintro ⟨before, part, after, whole, p, member, here⟩
    exact ⟨p, member, before, part, after, whole, here⟩

/-- The long s and the Kelvin sign are letters of a marker, too. -/
example : isInternal "no ſTACK  BAC\u212ATRACE" = true := by decide +kernel

end TenantLink.Disclosure
