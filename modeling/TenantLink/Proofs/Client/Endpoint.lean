import TenantLink.Proofs.Client.Origin
import TenantLink.Proofs.Url.Segments

/-!
# Addresses behind the base

The path of the API base ends with a slash, so a path of plain segments is put behind it, and
nothing else of the base is lost but its query and its fragment: `endpoint_appends`.
-/

namespace TenantLink.Config

variable {c : Config} {u : Url} {base path : String}

/-! ### The end of the base -/

theorem closePath_closed (hierarchical : u.isOpaque = false) (web : u.kind ≠ .file) :
    ∃ before, (closePath u).path = .segments (before ++ [[]]) := by
  unfold closePath
  cases path : u.path with
  | text => simp [Url.isOpaque, path] at hierarchical
  | segments ss =>
    dsimp only
    rw [if_neg web]
    split
    next closed =>
      obtain ⟨before, rfl⟩ := List.getLast?_eq_some_iff.mp closed
      exact ⟨before, path⟩
    next => exact ⟨ss, rfl⟩

theorem readBase_closed (accepted : readBase base = .ok u) (http : Cookie.isHttp u = true) :
    ∃ before, u.path = .segments (before ++ [[]]) := by
  obtain ⟨parsed, -, hierarchical, rfl⟩ := readBase_eq_ok accepted
  refine closePath_closed hierarchical ?_
  have special := kind_of_isHttp http
  rw [Url.kind, (closePath_origin parsed).1] at special
  rw [Url.kind, special]
  decide

theorem ofBase_eq_ok (accepted : ofBase base = .ok c) : readBase base = .ok c.apiBase := by
  unfold ofBase at accepted
  cases read : readBase base with
  | error e =>
    rw [read] at accepted
    cases accepted
  | ok u =>
    rw [read] at accepted
    cases accepted
    rfl

/-! ### Paths of plain segments -/

/-- A path of segments behind some slashes. -/
def rooted (slashes : Nat) (segments : List String) : String :=
  String.ofList (List.replicate slashes '/') ++ "/".intercalate segments

theorem rooted_toList (slashes : Nat) (segments : List String) :
    (rooted slashes segments).toList =
      List.replicate slashes '/' ++ Url.joined (segments.map String.toList) := by
  rw [rooted, String.toList_append, String.toList_ofList, String.toList_intercalate]
  rfl

theorem isAbsolute_of_not_mem (free : ':' ∉ path.toList) : isAbsolute path = false := by
  unfold isAbsolute
  rw [Bool.or_eq_false_iff, ← Bool.not_eq_true, ← Bool.not_eq_true, String.startsWith_string_iff,
    String.startsWith_string_iff]
  exact ⟨fun start => free (start.subset (by decide)), fun start => free (start.subset (by decide))⟩

/-- The API base of an accepted text ends with a slash. Behind any number of slashes, plain
segments are put at its end, and all else is as in the base, without its query and fragment. -/
theorem endpoint_appends (accepted : ofBase base = .ok c)
    (http : Cookie.isHttp c.apiBase = true) :
    c.apiBase.pathText.toList.getLast? = some '/' ∧
    ∀ (slashes : Nat) (segments : List String), segments ≠ [] →
      (∀ s ∈ segments, Url.IsPlainSegment s.toList) →
      ∃ path, c.endpoint (rooted slashes segments) =
          .ok { c.apiBase with path := path, query := none, fragment := none } ∧
        String.ofList path.chars = c.apiBase.pathText ++ "/".intercalate segments := by
  obtain ⟨before, closed⟩ := readBase_closed (ofBase_eq_ok accepted) http
  have whole : c.apiBase.path.chars = before.flatMap ('/' :: ·) ++ ['/'] := by
    rw [closed, Url.Path.chars, List.flatMap_append]
    rfl
  refine ⟨by rw [Url.pathText, String.toList_ofList, whole, List.getLast?_concat], ?_⟩
  intro slashes segments some plain
  have plain : ∀ s ∈ segments.map String.toList, Url.IsPlainSegment s :=
    List.forall_mem_map.mpr plain
  have some : segments.map String.toList ≠ [] := mt List.map_eq_nil_iff.mp some
  have relative : isAbsolute (rooted slashes segments) = false := by
    refine isAbsolute_of_not_mem fun colon => ?_
    rw [rooted_toList, List.mem_append] at colon
    rcases colon with front | inside
    · exact absurd (List.eq_of_mem_replicate front) (by decide)
    · exact (Url.mem_joined plain _ inside).unmarked.2.2.1 rfl
  have refers : reference (rooted slashes segments) =
      String.ofList (Url.joined (segments.map String.toList)) := by
    obtain ⟨c, rest, start, slash⟩ := Url.head_joined some plain
    rw [reference, rooted_toList, Text.dropWhile_stops]
    · exact fun c member => decide_eq_true (List.eq_of_mem_replicate member)
    · rw [start]
      rintro _ ⟨rfl⟩
      exact decide_eq_false slash
  refine ⟨.segments (before ++ segments.map String.toList), ?_, ?_⟩
  · rw [endpoint_relative relative, refers,
      Url.join_segments (kind_of_isHttp http) closed some plain]
    rfl
  · have behind : (Url.Path.segments (before ++ segments.map String.toList)).chars =
        c.apiBase.path.chars ++ Url.joined (segments.map String.toList) := by
      rw [whole, Url.Path.chars, List.flatMap_append, Url.flatMap_slash some, List.append_assoc]
      rfl
    rw [← String.toList_inj, behind, Url.pathText, String.toList_append, String.toList_intercalate,
      String.toList_ofList, String.toList_ofList]
    rfl

/-- A base with all that an address can have. -/
def signedBase : Url :=
  { scheme := "https", username := "me", password := some "pw",
    host := some (.domain "example.com"), port := some 8443, path := .segments ["v1".toList, []],
    query := some "a=1", fragment := some "f" }

theorem endpoint_appends_signed :
    ofBase " HTTPS://me:pw@Example.com:8443/v1?a=1#f\n" = .ok { apiBase := signedBase } ∧
    Cookie.isHttp signedBase = true ∧
    (∀ s ∈ ["jobs", "...", "a~b_c-9"], Url.IsPlainSegment s.toList) ∧
    ∃ path, endpoint { apiBase := signedBase } "//jobs/.../a~b_c-9" =
        .ok { signedBase with path := path, query := none, fragment := none } ∧
      String.ofList path.chars = "/v1/jobs/.../a~b_c-9" := by
  have read : readBase " HTTPS://me:pw@Example.com:8443/v1?a=1#f\n" = .ok signedBase := by
    decide +kernel
  have accepted : ofBase " HTTPS://me:pw@Example.com:8443/v1?a=1#f\n" =
      .ok { apiBase := signedBase } := by
    rw [ofBase, read]
    rfl
  have plain : ∀ s ∈ ["jobs", "...", "a~b_c-9"], Url.IsPlainSegment s.toList := by
    simp only [List.forall_mem_cons]
    refine ⟨?_, ?_, ?_, List.forall_mem_nil _⟩ <;> exact ⟨by decide, by decide, by decide⟩
  obtain ⟨path, address, whole⟩ :=
    (endpoint_appends accepted (by decide)).2 2 ["jobs", "...", "a~b_c-9"] (by simp) plain
  exact ⟨accepted, by decide, plain, path, address, whole⟩

end TenantLink.Config
