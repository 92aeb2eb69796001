import TenantLink.Url.Parser

/-!
# References and origins

A reference that names no origin stays on the one of its base: `join_stays`. The others leave
nothing of a base but its scheme: `join_elsewhere`.
-/

namespace TenantLink.Url

variable {u v : Url} {chars : List Char} {text : String}

/-- `v` has the origin of `u`. -/
structure Stays (u v : Url) : Prop where
  scheme : v.scheme = u.scheme
  host : v.host = u.host
  port : v.port = u.port

theorem Stays.sameOrigin (stays : u.Stays v) : v.SameOrigin u := by
  refine ⟨stays.scheme, stays.host, ?_⟩
  unfold effectivePort
  rw [stays.port, stays.scheme]

theorem withFragment_stays (u : Url) (chars : List Char) : u.Stays (u.withFragment chars) :=
  ⟨rfl, rfl, rfl⟩

theorem withQueryAndFragment_stays (u : Url) (chars : List Char) :
    u.Stays (u.withQueryAndFragment chars) := ⟨rfl, rfl, rfl⟩

theorem withRest_stays (u : Url) (read : Walk × List Char) : u.Stays (u.withRest read) :=
  ⟨rfl, rfl, rfl⟩

/-- The slashes at the start of a text. -/
def slashes (chars : List Char) : Nat := (chars.takeWhile (isSlash .special)).length

/-- What counts of a reference. -/
def counted (text : String) : List Char := cleaned (trimmedChars text)

/-- What counts of a reference behind its scheme. -/
def countedBehind (text : String) : List Char :=
  cleaned (((trimmedChars text).dropWhile (· ≠ ':')).drop 1)

/-- Whether a reference against a URL of the given scheme names an origin: with another scheme, or
with two slashes. A backslash is as good as a slash. -/
inductive NamesOrigin (scheme text : String) : Prop
  | otherScheme {own : String} : scheme? (counted text) = some own → own ≠ scheme →
    NamesOrigin scheme text
  | slashesBehind : scheme? (counted text) = some scheme → 2 ≤ slashes (countedBehind text) →
    NamesOrigin scheme text
  | slashes : scheme? (counted text) = none → 2 ≤ slashes (counted text) → NamesOrigin scheme text

theorem not_namesOrigin {scheme : String} (schemeless : scheme? (counted text) = none)
    (few : ¬ 2 ≤ slashes (counted text)) : ¬ NamesOrigin scheme text := by
  intro names
  cases names with
  | otherScheme schemed | slashesBehind schemed => cases schemeless.symm.trans schemed
  | slashes _ two => exact few two

theorem slash_iff {c : Char} : isSlash .special c = true ↔ c = '/' ∨ c = '\\' := by
  simp [isSlash, SchemeKind.isSpecial]

theorem two_le_slashes :
    2 ≤ slashes chars ↔ ∃ c d rest, chars = c :: d :: rest ∧ (c = '/' ∨ c = '\\') ∧
      (d = '/' ∨ d = '\\') := by
  unfold slashes
  constructor
  · intro two
    match chars with
    | [] => simp at two
    | [c] =>
      have short := (List.takeWhile_sublist (isSlash .special) (l := [c])).length_le
      rw [List.length_singleton] at short
      omega
    | c :: d :: rest =>
      refine ⟨c, d, rest, rfl, ?_⟩
      rw [← slash_iff, ← slash_iff]
      by_cases first : isSlash .special c = true
      · by_cases second : isSlash .special d = true
        · exact ⟨first, second⟩
        · simp [first, second] at two
      · simp [first] at two
  · rintro ⟨c, d, rest, rfl, first, second⟩
    simp [slash_iff.mpr first, slash_iff.mpr second]

/-! ### References without a scheme -/

theorem fromRelative_stays (u : Url) (few : ¬ 2 ≤ slashes chars) :
    ∃ v, fromRelative u chars = .ok v ∧ u.Stays v := by
  rw [two_le_slashes] at few
  unfold fromRelative
  dsimp only
  split
  next => exact ⟨_, rfl, rfl, rfl, rfl⟩
  next c rest =>
    split
    · exact ⟨_, rfl, withQueryAndFragment_stays _ _⟩
    · split
      · exact ⟨_, rfl, withFragment_stays _ _⟩
      · split
        next slash =>
          split
          next both => exact (few ⟨_, _, _, both, .inl rfl, .inl rfl⟩).elim
          next d _ _ _ =>
            rw [if_neg fun second => few ⟨_, _, _, rfl, slash, second⟩]
            exact ⟨_, rfl, withRest_stays _ _⟩
          next => exact ⟨_, rfl, withRest_stays _ _⟩
        next => exact ⟨_, rfl, withRest_stays _ _⟩

theorem fromRelative_elsewhere (same : u.scheme = v.scheme) (two : 2 ≤ slashes chars) :
    fromRelative u chars = fromRelative v chars := by
  obtain ⟨c, d, rest, rfl, first, second⟩ := two_le_slashes.mp two
  rcases first with rfl | rfl <;> rcases second with rfl | rfl <;> simp [fromRelative, same]

theorem join_schemeless (special : u.kind = .special) (hierarchical : u.isOpaque = false)
    (schemeless : scheme? (counted text) = none) :
    u.join text = fromRelative u (counted text) := by
  unfold counted at schemeless ⊢
  unfold join read
  dsimp only
  rw [schemeless]
  dsimp only
  cases path : u.path with
  | text => simp [isOpaque, path] at hierarchical
  | segments =>
    rw [special]
    split
    next fragment => rw [fragment]; rfl
    next absent _ => cases absent
    next => rfl

/-! ### References with a scheme -/

theorem join_schemed {own : String} (schemed : scheme? (counted text) = some own) :
    u.join text =
      fromScheme (some u) own (((trimmedChars text).dropWhile (· ≠ ':')).drop 1) := by
  unfold counted at schemed
  unfold join read
  dsimp only
  rw [schemed]

theorem fromScheme_stays (special : u.kind = .special) (few : ¬ 2 ≤ slashes (cleaned chars)) :
    ∃ v, fromScheme (some u) u.scheme chars = .ok v ∧ u.Stays v := by
  have kind : SchemeKind.ofScheme u.scheme = .special := special
  unfold fromScheme
  rw [kind]
  dsimp only
  rw [if_pos ⟨Nat.not_le.mp few, rfl⟩]
  exact fromRelative_stays u few

theorem fromScheme_elsewhere {own : String} (special : u.kind = .special)
    (elsewhere : own ≠ u.scheme ∨ 2 ≤ slashes (cleaned chars)) :
    fromScheme (some u) own chars = fromScheme none own chars := by
  unfold fromScheme
  cases SchemeKind.ofScheme own with
  | plain => rfl
  | file =>
    have web : u.scheme ≠ "file" := by
      intro file
      unfold kind at special
      rw [file] at special
      cases special
    dsimp only
    rw [if_neg web]
  | special =>
    dsimp only
    refine if_neg ?_
    rintro ⟨few, same⟩
    rcases elsewhere with other | two
    · exact other same.symm
    · exact Nat.not_lt.mpr two few

/-! ### All references -/

theorem join_stays (special : u.kind = .special) (hierarchical : u.isOpaque = false)
    (relative : ¬ NamesOrigin u.scheme text) : ∃ v, u.join text = .ok v ∧ u.Stays v := by
  cases named : scheme? (counted text) with
  | none =>
    rw [join_schemeless special hierarchical named]
    exact fromRelative_stays u fun two => relative (.slashes named two)
  | some own =>
    have same : own = u.scheme := Decidable.not_not.mp fun other =>
      relative (.otherScheme named other)
    subst same
    rw [join_schemed named]
    exact fromScheme_stays special fun two => relative (.slashesBehind named two)

theorem join_elsewhere (special : u.kind = .special) (same : u.scheme = v.scheme)
    (hierarchical : u.isOpaque = false) (hierarchical' : v.isOpaque = false)
    (elsewhere : NamesOrigin u.scheme text) : u.join text = v.join text := by
  have special' : v.kind = .special := by
    unfold kind at special ⊢
    rwa [← same]
  cases elsewhere with
  | otherScheme named other =>
    rw [join_schemed named, join_schemed named, fromScheme_elsewhere special (.inl other),
      fromScheme_elsewhere special' (.inl (same ▸ other))]
  | slashesBehind named two =>
    rw [join_schemed named, join_schemed named, fromScheme_elsewhere special (.inr two),
      fromScheme_elsewhere special' (.inr two)]
  | slashes named two =>
    rw [join_schemeless special hierarchical named, join_schemeless special' hierarchical' named]
    exact fromRelative_elsewhere same two

/-! ### The host of a URL with a special scheme -/

theorem fromHost_origin {scheme : String} {user : String × Option String}
    (h : fromHost scheme user chars = .ok u) : u.scheme = scheme ∧ u.host.isSome = true := by
  unfold fromHost at h
  dsimp only at h
  split at h
  · cases h
  · split at h
    · cases h
    · split at h
      · cases h
      · cases h
        exact ⟨rfl, rfl⟩

theorem fromAuthority_origin {scheme : String} (h : fromAuthority scheme chars = .ok u) :
    u.scheme = scheme ∧ u.host.isSome = true := by
  unfold fromAuthority at h
  dsimp only at h
  split at h
  · exact fromHost_origin h
  · split at h
    · cases h
    · exact fromHost_origin h
  · exact fromHost_origin h

theorem fromPlain_scheme {scheme : String} (h : fromPlain scheme chars = .ok u) :
    u.scheme = scheme := by
  unfold fromPlain at h
  split at h
  · exact (fromAuthority_origin h).1
  · cases h
    rfl
  · cases h
    rfl

theorem fromFile_scheme (h : fromFile none chars = .ok u) : u.scheme = "file" := by
  unfold fromFile at h
  split at h
  · cases h
    rfl
  · split at h
    · split at h
      · split at h
        · unfold fromFileHost at h
          split at h <;> cases h <;> rfl
        · cases h
          rfl
      · cases h
        rfl
    · cases h
      rfl

theorem parse_host (special : u.kind = .special) (parsed : parse text = .ok u) :
    ∃ host, u.host = some host := by
  unfold parse read at parsed
  dsimp only at parsed
  split at parsed
  next scheme _ =>
    unfold fromScheme at parsed
    split at parsed
    next file =>
      rw [kind, fromFile_scheme parsed] at special
      cases special
    next plain =>
      rw [kind, fromPlain_scheme parsed, plain] at special
      cases special
    next => exact Option.isSome_iff_exists.mp (fromAuthority_origin parsed).2
  next => cases parsed

end TenantLink.Url
