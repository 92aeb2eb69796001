import TenantLink.Proofs.Text.Ascii
import TenantLink.Proofs.Text.Blank
import TenantLink.Proofs.Text.Split
import TenantLink.Proofs.Url.Origin

/-!
# Plain segments

Nothing in a plain segment means anything to the reader of a URL, so a reference made of plain
segments puts them where the last segment of its base stands: `join_segments`.
-/

namespace TenantLink.Url

variable {u : Url} {kind : SchemeKind} {c : Char} {chars segment : List Char}
  {before segments : List (List Char)}

/-- Whether a character stands for itself everywhere in a URL. -/
def isUnreserved (c : Char) : Bool := c.isAlphanum || c ∈ ['-', '_', '~', '.']

/-- A segment that says nothing but its text. -/
structure IsPlainSegment (segment : List Char) : Prop where
  nonempty : segment ≠ []
  unreserved : segment.all isUnreserved = true
  undotted : segment ≠ ['.'] ∧ segment ≠ ['.', '.']

/-- Segments with a slash between any two. -/
def joined (segments : List (List Char)) : List Char := ['/'].intercalate segments

/-! ### Single characters -/

/-- What a character is not that stands for itself or is a slash. -/
structure IsPathChar (c : Char) : Prop where
  backslash : c ≠ '\\'
  unmarked : c ≠ '?' ∧ c ≠ '#' ∧ c ≠ ':' ∧ c ≠ '%'
  unbroken : isBreak c = false
  visible : ¬ c.toNat ≤ 0x20
  kept : isPlain EncodeSet.path c = true

instance (c : Char) : Decidable (IsPathChar c) :=
  decidable_of_iff (c ≠ '\\' ∧ (c ≠ '?' ∧ c ≠ '#' ∧ c ≠ ':' ∧ c ≠ '%') ∧ isBreak c = false ∧
      ¬ c.toNat ≤ 0x20 ∧ isPlain EncodeSet.path c = true)
    ⟨fun ⟨backslash, unmarked, unbroken, visible, kept⟩ =>
        ⟨backslash, unmarked, unbroken, visible, kept⟩,
      fun h => ⟨h.backslash, h.unmarked, h.unbroken, h.visible, h.kept⟩⟩

theorem isUnreserved_short (unreserved : isUnreserved c = true) : c.toNat < 128 := by
  have marks : ['-', '_', '~', '.'].all (·.toNat < 128) = true := by decide
  simp only [isUnreserved, Bool.or_eq_true, decide_eq_true_eq] at unreserved
  rcases unreserved with alphanumeric | mark
  · exact isAlphanum_short alphanumeric
  · simpa using List.all_eq_true.mp marks c mark

theorem isPathChar_of_isUnreserved (unreserved : isUnreserved c = true) :
    c ≠ '/' ∧ IsPathChar c := by
  have each : isUnreserved c = true → c ≠ '/' ∧ IsPathChar c :=
    forall_ascii (P := fun c => isUnreserved c = true → c ≠ '/' ∧ IsPathChar c) (by decide)
      (isUnreserved_short unreserved)
  exact each unreserved

theorem isSlash_eq_false (slash : c ≠ '/') (backslash : c ≠ '\\') : isSlash kind c = false := by
  simp [isSlash, slash, backslash]

/-! ### One segment -/

theorem IsPlainSegment.char (h : IsPlainSegment segment) (member : c ∈ segment) :
    c ≠ '/' ∧ IsPathChar c :=
  isPathChar_of_isUnreserved (List.all_eq_true.mp h.unreserved c member)

theorem percentEncode_of_plain {set : EncodeSet} (plain : ∀ c ∈ chars, isPlain set c = true) :
    percentEncode set chars = chars := by
  induction chars with
  | nil => rfl
  | cons c rest ih =>
    obtain ⟨here, there⟩ := List.forall_mem_cons.mp plain
    have later : percentEncode set rest = rest := ih there
    unfold percentEncode at later ⊢
    rw [List.flatMap_cons, if_pos here, later]
    rfl

/-- Without percent-encoding a dot is a dot. -/
theorem dot?_eq_some {rest : List Char} (dot : dot? segment = some rest) (plain : '%' ∉ segment) :
    segment = '.' :: rest := by
  unfold dot? at dot
  split at dot
  next =>
    cases dot
    rfl
  next => exact (plain List.mem_cons_self).elim
  next => exact (plain List.mem_cons_self).elim
  next => cases dot

theorem IsPlainSegment.isDot (h : IsPlainSegment segment) :
    isDot segment = false ∧ isDotDot segment = false := by
  have plain : '%' ∉ segment := fun member => (h.char member).2.unmarked.2.2.2 rfl
  constructor
  · exact decide_eq_false fun dot => h.undotted.1 (dot?_eq_some dot plain)
  · refine decide_eq_false fun dots => ?_
    obtain ⟨rest, first, second⟩ := Option.bind_eq_some_iff.mp dots
    have front := dot?_eq_some first plain
    rw [front] at plain
    rw [dot?_eq_some second fun member => plain (List.mem_cons_of_mem _ member)] at front
    exact h.undotted.2 front

theorem IsPlainSegment.add (h : IsPlainSegment segment) (web : kind ≠ .file) (w : Walk)
    (more : Bool) : w.add kind segment more = { w with done := segment :: w.done } := by
  unfold Walk.add
  rw [h.isDot.1, h.isDot.2, percentEncode_of_plain fun c member => (h.char member).2.kept]
  simp [web]

/-- The characters of a plain segment are collected one by one. -/
theorem readSegments_append (unreserved : ∀ c ∈ segment, c ≠ '/' ∧ IsPathChar c)
    (w : Walk) (current rest : List Char) :
    readSegments kind w .usual current (segment ++ rest) =
      readSegments kind w .usual (segment.reverse ++ current) rest := by
  induction segment generalizing current with
  | nil => rfl
  | cons c more ih =>
    obtain ⟨⟨slash, char⟩, there⟩ := List.forall_mem_cons.mp unreserved
    rw [List.cons_append, readSegments, isSlash_eq_false slash char.backslash, char.unbroken]
    simp only [char.unmarked, Bool.false_eq_true, or_self, if_false, reduceCtorEq]
    rw [ih there, List.reverse_cons, List.append_assoc]
    rfl

/-! ### All of them -/

theorem joined_cons (first second : List Char) (rest : List (List Char)) :
    joined (first :: second :: rest) = first ++ '/' :: joined (second :: rest) := by
  rw [joined, List.intercalate_cons_cons, List.append_assoc]
  rfl

theorem flatMap_slash (some : segments ≠ []) :
    segments.flatMap ('/' :: ·) = '/' :: joined segments := by
  induction segments with
  | nil => exact (some rfl).elim
  | cons first rest ih =>
    cases rest with
    | nil => simp [joined]
    | cons second rest => rw [List.flatMap_cons, ih (by simp), joined_cons]; rfl

/-- Plain segments are put behind those that were read before. -/
theorem readSegments_joined (web : kind ≠ .file) (some : segments ≠ [])
    (plain : ∀ s ∈ segments, IsPlainSegment s) (w : Walk) :
    readSegments kind w .usual [] (joined segments) =
      ({ w with done := segments.reverse ++ w.done }, []) := by
  induction segments generalizing w with
  | nil => exact (some rfl).elim
  | cons first rest ih =>
    obtain ⟨here, there⟩ := List.forall_mem_cons.mp plain
    have char : ∀ c ∈ first, c ≠ '/' ∧ IsPathChar c := fun c member => here.char member
    -- A slash closes every segment but the last one, which the end of the text closes.
    cases rest with
    | nil =>
      have single : joined [first] = first ++ [] := by
        rw [joined, List.intercalate_singleton, List.append_nil]
      rw [single, readSegments_append char, readSegments, readSegments.finish,
        if_neg (by decide), List.append_nil, List.reverse_reverse, here.add web]
      rfl
    | cons second rest =>
      have slash : isSlash kind '/' = true := rfl
      rw [joined_cons, readSegments_append char, readSegments, if_pos slash,
        readSegments.finish, if_neg (by decide), List.append_nil, List.reverse_reverse,
        here.add web, ih (by simp) there]
      simp

theorem mem_joined (plain : ∀ s ∈ segments, IsPlainSegment s) :
    ∀ c ∈ joined segments, IsPathChar c := by
  have all : (joined segments).all (fun c => decide (IsPathChar c)) = true := by
    rw [joined, Text.all_intercalate (by decide), List.all_eq_true]
    intro s member
    exact List.all_eq_true.mpr fun c inside => decide_eq_true ((plain s member).char inside).2
  exact fun c member => of_decide_eq_true (List.all_eq_true.mp all c member)

theorem head_joined (some : segments ≠ []) (plain : ∀ s ∈ segments, IsPlainSegment s) :
    ∃ c rest, joined segments = c :: rest ∧ c ≠ '/' := by
  obtain ⟨first, rest, rfl⟩ := List.exists_cons_of_ne_nil some
  have here := (List.forall_mem_cons.mp plain).1
  obtain ⟨c, more, rfl⟩ := List.exists_cons_of_ne_nil here.nonempty
  have slash := (here.char List.mem_cons_self).1
  cases rest with
  | nil => exact ⟨c, more, by rw [joined, List.intercalate_singleton], slash⟩
  | cons second rest => exact ⟨c, _, joined_cons (c :: more) second rest, slash⟩

/-! ### As references -/

theorem counted_of_isPathChar (char : ∀ c ∈ chars, IsPathChar c) :
    counted (String.ofList chars) = chars := by
  have trimmed : trimmedChars (String.ofList chars) = chars := by
    rw [trimmedChars, String.toList_ofList]
    exact Text.dropAround_of_none fun c member => decide_eq_false (char c member).visible
  rw [counted, trimmed, cleaned]
  exact List.filter_eq_self.mpr fun c member => by rw [(char c member).unbroken]; rfl

theorem scheme?_of_not_mem (free : ':' ∉ chars) : scheme? chars = none := by
  cases chars with
  | nil => rfl
  | cons c rest =>
    refine if_neg ?_
    rintro ⟨-, colon⟩
    exact free ((List.dropWhile_sublist isSchemeChar).subset (List.mem_of_head? colon))

/-- A reference made of plain segments puts them where the last segment of its base stands, and
leaves nothing of the query and the fragment of its base. -/
theorem join_segments {last : List Char} (special : u.kind = .special)
    (path : u.path = .segments (before ++ [last])) (some : segments ≠ [])
    (plain : ∀ s ∈ segments, IsPlainSegment s) :
    u.join (String.ofList (joined segments)) =
      .ok { u with path := .segments (before ++ segments), query := none, fragment := none } := by
  have char := mem_joined plain
  have schemeless : scheme? (counted (String.ofList (joined segments))) = none := by
    rw [counted_of_isPathChar char]
    exact scheme?_of_not_mem fun member => (char _ member).unmarked.2.2.1 rfl
  have hierarchical : u.isOpaque = false := by
    unfold isOpaque
    rw [path]
  have web : u.scheme ≠ "file" := by
    intro file
    rw [kind, file] at special
    cases special
  have directory : u.directory = before := by
    rw [directory, if_neg fun file => web file.1, segmentList, path]
    exact List.dropLast_concat
  rw [join_schemeless special hierarchical schemeless, counted_of_isPathChar char]
  obtain ⟨c, rest, start, slash⟩ := head_joined some plain
  have first := char c (start ▸ List.mem_cons_self)
  have read : readPath u.kind before (joined segments) =
      ({ done := segments.reverse ++ before.reverse }, []) :=
    readSegments_joined (by rw [special]; decide) some plain { done := before.reverse }
  rw [start] at read ⊢
  simp only [fromRelative, first.unmarked, slash, first.backslash, or_self, if_false, directory,
    read, withRest, withQueryAndFragment, cleaned, List.filter_nil, queryAndFragment, Walk.path]
  rw [special]
  simp

end TenantLink.Url
