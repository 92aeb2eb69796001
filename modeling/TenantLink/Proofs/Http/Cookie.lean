import Mathlib.Data.List.Basic
import TenantLink.Http.CookieJar
import TenantLink.Proofs.Headers
import TenantLink.Proofs.Text.Blank
import TenantLink.Proofs.Text.Split

/-!
# Cookies in one header

A jar writes its cookies into one header, and `Cookie.value?` finds them there again:
`value?_headerText`. That is so for the cookies that a jar can hold (`CookieJar.Filled.readable`),
whatever else stands in their names and values.
-/

namespace TenantLink

namespace Cookie

/-- Neither of the marks of a header stands in the name and none of those between cookies in the
value, and no white space around either. -/
structure Readable (c : Cookie) : Prop where
  uncut : ';' ∉ c.name.toList ∧ ';' ∉ c.value.toList
  unnamed : '=' ∉ c.name.toList
  trimmed : Text.trim c.name.toList = c.name.toList ∧ Text.trim c.value.toList = c.value.toList

def pairText (c : Cookie) : String := c.name ++ "=" ++ c.value

def headerText (cookies : List Cookie) : String := "; ".intercalate (cookies.map pairText)

variable {c : Cookie} {cookies : List Cookie}

theorem pairText_toList (c : Cookie) :
    (pairText c).toList = c.name.toList ++ '=' :: c.value.toList := by
  simp [pairText]

/-! ### One pair -/

theorem Readable.semicolon (h : c.Readable) : ';' ∉ (pairText c).toList := by
  rw [pairText_toList, List.mem_append, List.mem_cons]
  rintro (name | mark | value)
  · exact h.uncut.1 name
  · exact absurd mark (by decide)
  · exact h.uncut.2 value

/-- A pair is read back, also behind white space. -/
theorem Readable.pair? (h : c.Readable) {pad : List Char}
    (blank : ∀ ch ∈ pad, Text.isBlank ch = true) :
    pair? (pad ++ (pairText c).toList) = some (c.name.toList, c.value.toList) := by
  have name := Text.isTrimmed_iff.mpr h.trimmed.1.symm
  have value := Text.isTrimmed_iff.mpr h.trimmed.2.symm
  have mark : Text.isBlank '=' = false := by decide
  have trimmed : Text.IsTrimmed (pad ++ (pairText c).toList) (pairText c).toList := {
    cut := ⟨pad, [], by simp, blank, by simp⟩
    first := by
      rw [pairText_toList]
      cases chars : c.name.toList with
      | nil => simp [mark]
      | cons ch more => simpa [chars] using name.first
    last := by
      rw [pairText_toList, List.getLast?_append, List.getLast?_cons]
      cases chars : c.value.toList.getLast? with
      | none => simp [mark]
      | some ch => simpa [chars] using value.last }
  rw [Cookie.pair?, ← trimmed.eq_trim, pairText_toList, Text.cutAt?_append h.unnamed]

/-! ### All of them -/

theorem headerText_toList (first : Cookie) (rest : List Cookie) :
    (headerText (first :: rest)).toList =
      [';', ' '].intercalate
        ((pairText first).toList :: rest.map fun c => (pairText c).toList) := by
  rw [headerText, String.toList_intercalate, List.map_map]
  rfl

theorem pairs_headerText (readable : ∀ c ∈ cookies, c.Readable) :
    (Text.splitAt ';' (headerText cookies).toList).filterMap Cookie.pair? =
      cookies.map fun c => (c.name.toList, c.value.toList) := by
  cases cookies with
  | nil => rfl
  | cons first rest =>
    obtain ⟨readable, later⟩ := List.forall_mem_cons.mp readable
    have uncut : ∀ piece ∈ rest.map fun c => (pairText c).toList, ';' ∉ piece := by
      intro piece member
      obtain ⟨c, there, rfl⟩ := List.mem_map.mp member
      exact (later c there).semicolon
    have here : Cookie.pair? (pairText first).toList = _ := readable.pair? (List.forall_mem_nil _)
    -- The blank behind each semicolon stands before the next pair.
    have behind : ∀ c ∈ rest, Cookie.pair? ([' '] ++ (pairText c).toList) = _ :=
      fun c member => (later c member).pair? (List.forall_mem_singleton.mpr (by decide))
    rw [headerText_toList, Text.splitAt_intercalate (by decide) readable.semicolon uncut,
      List.filterMap_cons_some here, List.map_map, List.filterMap_map, List.map_cons]
    exact congrArg _ (List.filterMap_eq_map_iff_forall_eq_some.mpr behind)

/-- The header tells the value of the first cookie with a name. -/
theorem value?_headerText (readable : ∀ c ∈ cookies, c.Readable) (name : String) :
    value? (headerText cookies) name =
      ((cookies.find? (·.name = name)).map fun c => plain c.value.toList).bind fun value =>
        if value = [] then none else some (String.ofList value) := by
  have named : ((fun pair : List Char × List Char => decide (pair.1 = name.toList)) ∘
      fun c : Cookie => (c.name.toList, c.value.toList)) = fun c => decide (c.name = name) := by
    funext c
    simp [String.toList_inj]
  unfold value?
  dsimp only
  rw [pairs_headerText readable, List.find?_map, named]
  cases cookies.find? (·.name = name) with
  | none => rfl
  | some c => rfl

/-! ### What is told exactly -/

theorem plain_sublist (value : List Char) : (plain value).Sublist value :=
  (Text.dropAround_sublist _ _).trans (Text.dropAround_sublist _ _)

theorem plain_eq_iff {value : List Char} :
    plain value = value ↔
      Text.trim value = value ∧ Text.dropAround (· = '"') value = value := by
  unfold plain
  constructor
  · intro same
    have inside := Text.dropAround_sublist (· = '"') (Text.trim value)
    rw [same] at inside
    have trimmed : Text.trim value = value :=
      (Text.dropAround_sublist _ value).eq_of_length_le inside.length_le
    rw [trimmed] at same
    exact ⟨trimmed, same⟩
  · rintro ⟨trimmed, unquoted⟩
    rw [trimmed, unquoted]

/-- A value is told as it is if neither white space nor a quote stands at its ends. -/
theorem plain_eq_self {value : List Char} :
    plain value = value ↔
      (∀ ch ∈ value.head?, Text.isBlank ch = false ∧ ch ≠ '"') ∧
        ∀ ch ∈ value.getLast?, Text.isBlank ch = false ∧ ch ≠ '"' := by
  rw [plain_eq_iff, Text.trim, Text.dropAround_eq_self, Text.dropAround_eq_self]
  simp only [decide_eq_false_iff_not]
  constructor
  · rintro ⟨⟨first, last⟩, first', last'⟩
    exact ⟨fun ch here => ⟨first ch here, first' ch here⟩,
      fun ch here => ⟨last ch here, last' ch here⟩⟩
  · rintro ⟨first, last⟩
    exact ⟨⟨fun ch here => (first ch here).1, fun ch here => (last ch here).1⟩,
      fun ch here => (first ch here).2, fun ch here => (last ch here).2⟩

/-- A cookie of which a header tells the name and the value as they are: no mark of a header cuts
them, and nothing stands at their ends that is taken away there. -/
structure Exact (c : Cookie) : Prop where
  uncut : ';' ∉ c.name.toList ∧ ';' ∉ c.value.toList
  unnamed : '=' ∉ c.name.toList
  nameEnds : (∀ ch ∈ c.name.toList.head?, Text.isBlank ch = false) ∧
    ∀ ch ∈ c.name.toList.getLast?, Text.isBlank ch = false
  valueEnds : (∀ ch ∈ c.value.toList.head?, Text.isBlank ch = false ∧ ch ≠ '"') ∧
    ∀ ch ∈ c.value.toList.getLast?, Text.isBlank ch = false ∧ ch ≠ '"'

theorem Exact.plain_value (h : c.Exact) : plain c.value.toList = c.value.toList :=
  plain_eq_self.mpr h.valueEnds

theorem Exact.readable (h : c.Exact) : c.Readable where
  uncut := h.uncut
  unnamed := h.unnamed
  trimmed := ⟨Text.dropAround_eq_self.mpr h.nameEnds, (plain_eq_iff.mp h.plain_value).1⟩

/-- Of the cookies with exactly the given name the first one counts, even if its value is empty,
which is as if there were none. A longer name is another one, and a value may hold equals signs. -/
theorem value?_first (exact : ∀ c ∈ cookies, c.Exact) (name : String) :
    (∀ before c after, cookies = before ++ c :: after → (∀ d ∈ before, d.name ≠ name) →
      c.name = name →
      value? (headerText cookies) name = if c.value = "" then none else some c.value) ∧
    ((∀ c ∈ cookies, c.name ≠ name) → value? (headerText cookies) name = none) := by
  rw [value?_headerText fun c member => (exact c member).readable]
  constructor
  · intro before c after split earlier named
    have found : cookies.find? (·.name = name) = some c := by
      rw [List.find?_eq_some_iff_append]
      exact ⟨decide_eq_true named, before, after, split, fun d member => by
        simpa using earlier d member⟩
    have whole := (exact c (split ▸ List.mem_append_right _ List.mem_cons_self)).plain_value
    rw [found, Option.map_some, Option.bind_some, whole, String.ofList_toList]
    simp only [String.toList_eq_nil_iff]
  · intro absent
    have none : cookies.find? (·.name = name) = none :=
      List.find?_eq_none.mpr fun c member => by simpa using absent c member
    rw [none]
    rfl

/-- A cookie of some name and value for the host `h`. -/
def plainCookie (name value : String) : Cookie := { name, value, scope := .host "h", path := "/" }

/-- Cookies whose names begin or end alike, and one name twice. -/
theorem value?_first_repeated :
    (∀ c ∈ [plainCookie "xtoken" "1", plainCookie "token" "a=b=", plainCookie "token" "",
      plainCookie "token2" ""], c.Exact) ∧
    value? "xtoken=1; token=a=b=; token=; token2=" "token" = some "a=b=" ∧
    value? "xtoken=1; token=a=b=; token=; token2=" "token2" = none ∧
    value? "xtoken=1; token=a=b=; token=; token2=" "oken" = none := by
  have exact : ∀ c ∈ [plainCookie "xtoken" "1", plainCookie "token" "a=b=", plainCookie "token" "",
      plainCookie "token2" ""], c.Exact := by
    simp only [List.forall_mem_cons]
    refine ⟨?_, ?_, ?_, ?_, List.forall_mem_nil _⟩ <;>
      exact {
        uncut := by decide
        unnamed := by decide
        nameEnds := by constructor <;> simp [plainCookie] <;> decide
        valueEnds := by constructor <;> simp [plainCookie] <;> decide }
  have first := (value?_first exact "token").1 [plainCookie "xtoken" "1"] _ _ rfl
    (by simp [plainCookie]) rfl
  have empty := (value?_first exact "token2").1 [plainCookie "xtoken" "1",
    plainCookie "token" "a=b=", plainCookie "token" ""] _ _ rfl (by simp [plainCookie]) rfl
  exact ⟨exact, first, empty, (value?_first exact "oken").2 (by simp [plainCookie])⟩

/-! ### What a jar can hold -/

theorem readable_of_piece {first name value : List Char} (c : Cookie) (uncut : ';' ∉ first)
    (cut : Text.cutAt? '=' first = some (name, value))
    (names : c.name = String.ofList (Text.trim name))
    (holds : c.value = String.ofList (Text.trim value)) : c.Readable := by
  obtain ⟨whole, unnamed⟩ := Text.cutAt?_eq_some cut
  rw [whole, List.mem_append, List.mem_cons, not_or, not_or] at uncut
  have name' : c.name.toList = Text.trim name := by rw [names, String.toList_ofList]
  have value' : c.value.toList = Text.trim value := by rw [holds, String.toList_ofList]
  exact {
    uncut := by
      rw [name', value']
      exact ⟨mt Text.mem_of_mem_trim uncut.1, mt Text.mem_of_mem_trim uncut.2.2⟩
    unnamed := name' ▸ mt Text.mem_of_mem_trim unnamed
    trimmed := by
      rw [name', value']
      exact ⟨Text.trim_trim name, Text.trim_trim value⟩ }

theorem read?_readable {now : Span} {u : Url} {text : String} (h : read? now u text = some c) :
    c.Readable := by
  unfold read? at h
  split at h
  next => cases h
  next first rest pieces =>
    have uncut : ';' ∉ first := Text.not_mem_of_mem_splitAt (pieces ▸ List.mem_cons_self)
    split at h
    next => cases h
    next name value cut =>
      dsimp only at h
      split at h
      next => cases h
      next =>
        split at h
        next => cases h
        next =>
          cases h
          exact readable_of_piece _ uncut cut rfl rfl

end Cookie

namespace CookieJar

variable {jar : CookieJar}

/-- How a jar comes to hold its cookies. -/
inductive Filled : CookieJar → Prop
  | empty : Filled {}
  | set {jar : CookieJar} (now : Span) (u : Url) (text : String) :
    Filled jar → Filled (jar.set now u text)
  | setAll {jar : CookieJar} (now : Span) (u : Url) (headers : Headers) :
    Filled jar → Filled (jar.setAll now u headers)

theorem set_readable (readable : ∀ c ∈ jar.cookies, c.Readable) (now : Span) (u : Url)
    (text : String) : ∀ c ∈ (jar.set now u text).cookies, c.Readable := by
  unfold set
  split
  next => exact readable
  next c found =>
    dsimp only
    split
    next => exact readable
    next =>
      have others : ∀ d ∈ jar.cookies.filter (!c.sameKey ·), d.Readable :=
        fun d member => readable d (List.mem_filter.mp member).1
      unfold put
      dsimp only
      split
      next => exact others
      next =>
        intro d member
        rcases List.mem_append.mp member with old | new
        · exact others d old
        · exact List.mem_singleton.mp new ▸ Cookie.read?_readable found

theorem setAll_readable (readable : ∀ c ∈ jar.cookies, c.Readable) (now : Span) (u : Url)
    (headers : Headers) : ∀ c ∈ (jar.setAll now u headers).cookies, c.Readable := by
  unfold setAll
  refine List.foldlRecOn (motive := fun jar : CookieJar => ∀ c ∈ jar.cookies, c.Readable) _ _
    readable fun jar readable value _ => ?_
  split
  · exact set_readable readable now u _
  · exact readable

/-- Whatever has been put into a jar, its cookies can be told from each other in one header. -/
theorem Filled.readable (h : jar.Filled) : ∀ c ∈ jar.cookies, c.Readable := by
  induction h with
  | empty => simp
  | set now u text _ ih => exact set_readable ih now u text
  | setAll now u headers _ ih => exact setAll_readable ih now u headers

end CookieJar

end TenantLink
