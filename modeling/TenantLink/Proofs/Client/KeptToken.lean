import TenantLink.Proofs.Client.FailOpen
import TenantLink.Proofs.Client.Origin
import TenantLink.Proofs.Client.StoredToken

/-!
# The token that is kept

A token that the backend gives is put into the cookies, and looked for there from then on. It is
found as it was if it is visible ASCII text without a semicolon and has neither white space nor
quotes at its ends; another token comes back changed, or is asked for again: `bootstrap_keeps`.
-/

namespace TenantLink

/-! ### Tokens that survive in a cookie -/

/-- Whether a token is read from a cookie as it was put there. -/
structure Csrf.IsKept (token : String) : Prop where
  visible : token.toList.all isVisibleChar = true
  whole : ';' ∉ token.toList
  first : ∀ ch ∈ token.toList.head?, Text.isBlank ch = false ∧ ch ≠ '"'
  last : ∀ ch ∈ token.toList.getLast?, Text.isBlank ch = false ∧ ch ≠ '"'

namespace Cookie

theorem isKept_iff {token : String} :
    Csrf.IsKept token ↔
      token.toList.all isVisibleChar = true ∧ ';' ∉ token.toList ∧
        plain token.toList = token.toList := by
  rw [plain_eq_self]
  exact ⟨fun kept => ⟨kept.visible, kept.whole, kept.first, kept.last⟩,
    fun ⟨visible, whole, first, last⟩ => ⟨visible, whole, first, last⟩⟩

/-! ### The cookie of a token -/

/-- The cookie in which a token is kept. -/
def ofToken (host : Host) (name token : String) : Cookie :=
  { name, value := String.ofList (Text.trim token.toList), scope := .host host.text, path := "/" }

variable {now : Span} {u : Url} {host : Host} {name token : String}

theorem isTokenChar_short {ch : Char} (char : Http.isTokenChar ch = true) : ch.toNat < 128 := by
  have marks : Http.tokenMarks.all (·.toNat < 128) = true := by decide
  simp only [Http.isTokenChar, Bool.or_eq_true, List.contains_iff_mem] at char
  rcases char with alphanumeric | mark
  · exact isAlphanum_short alphanumeric
  · simpa using List.all_eq_true.mp marks ch mark

/-- What a character of a token is not. -/
structure IsClear (ch : Char) : Prop where
  visible : isVisibleChar ch = true
  solid : Text.isBlank ch = false
  unmarked : ch ≠ ';' ∧ ch ≠ '='

instance (ch : Char) : Decidable (IsClear ch) :=
  decidable_of_iff (isVisibleChar ch = true ∧ Text.isBlank ch = false ∧ ch ≠ ';' ∧ ch ≠ '=')
    ⟨fun ⟨visible, solid, unmarked⟩ => ⟨visible, solid, unmarked⟩,
      fun clear => ⟨clear.visible, clear.solid, clear.unmarked⟩⟩

theorem isClear_of_isTokenChar {ch : Char} (char : Http.isTokenChar ch = true) : IsClear ch := by
  have clear : Http.isTokenChar ch = true → IsClear ch :=
    forall_ascii (P := fun ch => Http.isTokenChar ch = true → IsClear ch) (by decide)
      (isTokenChar_short char)
  exact clear char

theorem splitAt_cookieText (clear : ∀ ch ∈ name.toList, IsClear ch) (whole : ';' ∉ token.toList) :
    Text.splitAt ';' (Csrf.cookieText name token).toList =
      [name.toList ++ '=' :: token.toList, " Path=/".toList] := by
  have uncut : ';' ∉ name.toList ++ '=' :: token.toList := by
    rw [List.mem_append, List.mem_cons]
    rintro (inName | mark | inToken)
    · exact (clear _ inName).unmarked.1 rfl
    · exact absurd mark (by decide)
    · exact whole inToken
  have text : (Csrf.cookieText name token).toList =
      (name.toList ++ '=' :: token.toList) ++ ';' :: " Path=/".toList := by
    simp [Csrf.cookieText]
  rw [text, Text.splitAt_append uncut]
  rfl

theorem attribute?_path {key : String} (other : key ≠ "path") :
    attribute? [("path", some "/")] key = none := by
  simp [attribute?, Ne.symm other]

theorem read?_cookieText (there : u.host = some host) (named : name ≠ "")
    (clear : ∀ ch ∈ name.toList, IsClear ch) (whole : ';' ∉ token.toList) :
    read? now u (Csrf.cookieText name token) = some (ofToken host name token) := by
  have unnamed : '=' ∉ name.toList := fun inName => (clear _ inName).unmarked.2 rfl
  have trimmed : Text.trim name.toList = name.toList :=
    Text.dropAround_of_none fun ch member => (clear ch member).solid
  have attributes : [" Path=/".toList].map readAttribute = [("path", some "/")] := by
    decide +kernel
  have path : (attribute? [("path", some "/")] "path").filter (·.startsWith "/") = some "/" := by
    decide +kernel
  have scope : scope? u none = some (.host host.text) := by
    unfold scope?
    rw [there]
    rfl
  have lasting : endOf now [("path", some "/")] = none := by
    rw [endOf, attribute?_path (by decide), attribute?_path (by decide)]
    rfl
  unfold read?
  rw [splitAt_cookieText clear whole]
  dsimp only
  rw [Text.cutAt?_append unnamed]
  dsimp only
  rw [attributes, trimmed, String.ofList_toList, attribute?_path (by decide), path, scope, lasting]
  dsimp only
  rw [if_neg named]
  rfl

theorem fits_ofToken (now : Span) (there : u.host = some host) (hierarchical : u.isOpaque = false)
    (rooted : u.path.chars.head? = some '/') : (ofToken host name token).fits now u = true := by
  have lasting : (ofToken host name token).hasEnded now = false := rfl
  have scope : u.host.any (ofToken host name token).scope.fits = true := by
    rw [there]
    exact decide_eq_true rfl
  have below : pathFits (ofToken host name token).path.toList u.path.chars = true := by
    cases chars : u.path.chars with
    | nil => simp [chars] at rooted
    | cons ch rest =>
      rw [chars, List.head?_cons, Option.some.injEq] at rooted
      simp [pathFits, ofToken, rooted]
  unfold fits
  rw [lasting, hierarchical, scope, below]
  rfl

end Cookie

theorem CookieJar.set_cookieText {now : Span} {u : Url} {host : Host} {name token : String}
    (there : u.host = some host) (named : name ≠ "")
    (clear : ∀ ch ∈ name.toList, Cookie.IsClear ch) (whole : ';' ∉ token.toList) :
    ({} : CookieJar).set now u (Csrf.cookieText name token) =
      { cookies := [Cookie.ofToken host name token] } := by
  rw [set, Cookie.read?_cookieText there named clear whole]
  rfl

/-! ### The token in the jar -/

namespace World

open Csrf Cookie

variable {w : World} {c : Config} {a : Reaction} {base token : String} {now : Span}

/-- What is read from a jar has no semicolon. -/
theorem csrfCookie_whole (filled : w.jar.Filled) (found : w.csrfCookie c = some token) :
    ';' ∉ token.toList := by
  rw [csrfCookie_eq filled] at found
  split at found
  · simp only [Option.bind_eq_some_iff, Option.map_eq_some_iff] at found
    obtain ⟨_, ⟨k, first, rfl⟩, value⟩ := found
    split at value
    · cases value
    · obtain rfl := Option.some.inj value
      have there : k ∈ w.jar.cookies := (List.mem_filter.mp (List.mem_of_find?_eq_some first)).1
      rw [String.toList_ofList]
      exact fun member => (filled.readable k there).uncut.2 ((plain_sublist _).subset member)
  · cases found

section Stored

variable (accepted : Config.readBase base = .ok c.apiBase)
  (http : Cookie.isHttp c.apiBase = true) (named : c.csrfCookieName ≠ "")
  (clear : ∀ ch ∈ c.csrfCookieName.toList, IsClear ch)
  (jar : w.jar = ({} : CookieJar).set now c.apiBase (cookieText c.csrfCookieName token))

include accepted http named clear jar

theorem csrfCookie_stored (whole : ';' ∉ token.toList) :
    w.csrfCookie c =
      if (Text.trim token.toList).all isVisibleChar then
        if plain token.toList = [] then none else some (String.ofList (plain token.toList))
      else none := by
  obtain ⟨host, there⟩ := Config.readBase_host accepted http
  have filled : w.jar.Filled := by
    rw [jar]
    exact CookieJar.Filled.empty.set _ _ _
  have fits : (ofToken host c.csrfCookieName token).fits w.wall c.apiBase = true :=
    fits_ofToken _ there (Config.readBase_isOpaque accepted) (Config.readBase_rooted accepted http)
  have only : w.apiCookies c = [ofToken host c.csrfCookieName token] := by
    rw [apiCookies, jar, CookieJar.set_cookieText there named clear whole]
    exact List.filter_eq_self.mpr (List.forall_mem_singleton.mpr fits)
  have visible : [ofToken host c.csrfCookieName token].all isVisible =
      (Text.trim token.toList).all isVisibleChar := by
    have name : c.csrfCookieName.toList.all isVisibleChar = true :=
      List.all_eq_true.mpr fun ch member => (clear ch member).visible
    simp [isVisible, ofToken, name]
  have found : [ofToken host c.csrfCookieName token].find? (·.name = c.csrfCookieName) =
      some (ofToken host c.csrfCookieName token) := by
    simp [ofToken]
  have value : plain (ofToken host c.csrfCookieName token).value.toList = plain token.toList := by
    simp [ofToken, plain, Text.trim_trim]
  rw [csrfCookie_eq filled, only, visible, found, Option.map_some, Option.bind_some, value]

/-- A token that was put into an empty jar is found there as it was if it is kept. -/
theorem csrfCookie_iff_isKept (present : token ≠ "") :
    w.csrfCookie c = some token ↔ IsKept token := by
  rw [isKept_iff]
  by_cases cut : ';' ∈ token.toList
  · have filled : w.jar.Filled := by
      rw [jar]
      exact CookieJar.Filled.empty.set _ _ _
    exact iff_of_false (fun found => csrfCookie_whole filled found cut) fun kept => kept.2.1 cut
  · rw [csrfCookie_stored accepted http named clear jar cut]
    constructor
    · intro found
      split at found
      next visible =>
        split at found
        next => cases found
        next =>
          have same := congrArg String.toList (Option.some.inj found)
          rw [String.toList_ofList] at same
          rw [(plain_eq_iff.mp same).1] at visible
          exact ⟨visible, cut, same⟩
      next => cases found
    · rintro ⟨visible, -, same⟩
      have some : token.toList ≠ [] := fun none => present (String.toList_eq_nil_iff.mp none)
      rw [(plain_eq_iff.mp same).1, if_pos visible, same, if_neg some, String.ofList_toList]

end Stored

/-! ### Asking once -/

/-- Without an outer limit a request for a token has the time that head and body may take. -/
theorem askForToken_unlimited {limit : Nat} (ample : w.now + 2 * c.requestTimeout ≤ limit) :
    w.askForToken c none = w.askForToken c (some limit) := by
  have head : sooner (some limit) (w.now + c.requestTimeout) =
      sooner none (w.now + c.requestTimeout) := Nat.min_eq_right (by omega)
  unfold askForToken
  cases c.endpoint path with
  | error e => rfl
  | ok u =>
    dsimp only
    rw [head]
    rcases sent : w.dispatch (sooner none (w.now + c.requestTimeout)) u .get [] none with
      ⟨halt | reply, w₁⟩
    · rfl
    · have inTime : w₁.now ≤ w.now + c.requestTimeout :=
        (dispatch_timely (Nat.le_add_right _ _) sent).within
      have body : sooner (some limit) (w₁.now + c.requestTimeout) =
          sooner none (w₁.now + c.requestTimeout) := Nat.min_eq_right (by omega)
      dsimp only
      rw [body]

theorem resolveToken_brings {u : Url} (untokened : w.csrfCookie c = none)
    (address : c.endpoint path = .ok u) (reached : w.backend.reaches u)
    (cookieless : a.SetsNoCookies) (brings : (a.framed .get).Brings c.requestTimeout token) :
    (w.offering a).resolveToken c =
      (some token,
        ((w.asked u).withNow (w.now + (a.framed .get).takes c.requestTimeout)).storeToken c
          token) := by
  have untokened' : (w.offering a).csrfCookie c = none := untokened
  have start : (w.offering a).now = w.now := rfl
  -- Any limit will do that comes behind all that is waited for.
  have ample : (w.offering a).now + 2 * c.requestTimeout ≤
      w.now + 2 * c.requestTimeout + (a.framed .get).takes c.requestTimeout + 1 := by omega
  have inTime : (w.asked u).now + ((a.framed .get).awaitToken c.requestTimeout).1 <
      w.now + 2 * c.requestTimeout + (a.framed .get).takes c.requestTimeout + 1 := by
    show w.now + (a.framed .get).takes c.requestTimeout < _
    omega
  unfold resolveToken csrfToken bootstrapToken
  rw [untokened']
  dsimp only
  rw [askForToken_unlimited ample, askForToken_own address reached cookieless (by omega),
    within_inTime inTime, Reaction.awaitToken_brings.mpr brings]
  rfl

/-- The tokens for so many calls, one after another. -/
def resolveTokens (w : World) (c : Config) : Nat → List (Option String) × World
  | 0 => ([], w)
  | n + 1 =>
    let first := w.resolveToken c
    let rest := first.2.resolveTokens c n
    (first.1 :: rest.1, rest.2)

theorem resolveTokens_settled (settled : w.resolveToken c = (some token, w)) (n : Nat) :
    w.resolveTokens c n = (List.replicate n (some token), w) := by
  induction n with
  | zero => rfl
  | succ n ih =>
    unfold resolveTokens
    rw [settled]
    dsimp only
    rw [ih]
    rfl

theorem resolveToken_of_cookie (found : w.csrfCookie c = some token) :
    w.resolveToken c = (some token, w) := by
  unfold resolveToken csrfToken
  rw [found]

theorem resolveToken_asks (missing : w.csrfCookie c = none) (gives : w.GivesTokens c) :
    ∃ q : SentRequest, (w.resolveToken c).2.backend.received = w.backend.received ++ [q] ∧
      q.method = .get := by
  have same : (w.resolveToken c).2 = (w.bootstrapToken c none).2 := by
    unfold resolveToken csrfToken
    rw [missing]
    dsimp only
    rcases w.bootstrapToken c none with ⟨halt | token, w₁⟩ <;> rfl
  obtain ⟨csrf, asks⟩ := bootstrapToken_asks (Prod.mk.eta (p := w.bootstrapToken c none)).symm
  obtain ⟨q, rfl⟩ := Option.isSome_iff_exists.mp (asks.reached.mpr gives)
  obtain ⟨u, -, rfl⟩ := asks.request q rfl
  refine ⟨w.requestFor u .get [] none, ?_, rfl⟩
  rw [same, asks.backend, (Backend.receiveAll_frame _ _).1]
  rfl

/-- The backend is asked for a token by one request, and its token is put into the cookies. If it is
a token that is kept, all calls from then on find it there, as long as nothing is done to the
cookies. If it is not, what comes next is another token or another request. -/
theorem bootstrap_keeps (w : World) (c : Config) (a : Reaction) (base token : String)
    (accepted : Config.readBase base = .ok c.apiBase) (http : Cookie.isHttp c.apiBase = true)
    (named : c.csrfCookieName ≠ "")
    (word : c.csrfCookieName.toList.all Http.isTokenChar = true) (empty : w.jar = {})
    (gives : w.GivesTokens c) (cookieless : a.SetsNoCookies)
    (brings : (a.framed .get).Brings c.requestTimeout token) :
    ∃ (q : SentRequest) (w₁ : World), (w.offering a).resolveToken c = (some token, w₁) ∧
      w₁.backend.received = w.backend.received ++ [q] ∧ q.method = .get ∧
      (∃ u, c.endpoint path = .ok u ∧ q.target = u.target) ∧
      (IsKept token →
        (∀ w₂ : World, w₂.jar = w₁.jar → w₂.resolveToken c = (some token, w₂)) ∧
        ∀ n, (w.offering a).resolveTokens c (n + 1) =
          (List.replicate (n + 1) (some token), w₁)) ∧
      (¬ IsKept token → ∀ w₂ : World, w₂.jar = w₁.jar → w₂.GivesTokens c →
        (∃ other : String, other ≠ token ∧ w₂.resolveToken c = (some other, w₂)) ∨
          ∃ again : SentRequest,
            (w₂.resolveToken c).2.backend.received = w₂.backend.received ++ [again] ∧
              again.method = .get) := by
  obtain ⟨u, address, reached⟩ := gives
  have untokened : w.csrfCookie c = none := by
    rw [csrfCookie, empty]
    rfl
  have present : token ≠ "" := by
    cases result : a.framed .get with
    | answer reply =>
      rw [result] at brings
      exact brings.nonempty
    | hangUp | silence =>
      rw [result] at brings
      exact brings.elim
  have clear : ∀ ch ∈ c.csrfCookieName.toList, IsClear ch := fun ch member =>
    isClear_of_isTokenChar (List.all_eq_true.mp word ch member)
  have resolved := resolveToken_brings untokened address reached cookieless brings
  generalize given : ((w.asked u).withNow _).storeToken c token = w₁ at resolved
  have jar : w₁.jar =
      ({} : CookieJar).set w.wall c.apiBase (cookieText c.csrfCookieName token) := by
    rw [← given, ← empty]
    rfl
  have finds : ∀ w₂ : World, w₂.jar = w₁.jar → (w₂.csrfCookie c = some token ↔ IsKept token) :=
    fun w₂ same => csrfCookie_iff_isKept accepted http named clear (same.trans jar) present
  refine ⟨w.requestFor u .get [] none, w₁, resolved, ?_, rfl, ⟨u, address, rfl⟩, ?_, ?_⟩
  · rw [← given]
    rfl
  · intro kept
    have settled : ∀ w₂ : World, w₂.jar = w₁.jar → w₂.resolveToken c = (some token, w₂) :=
      fun w₂ same => resolveToken_of_cookie ((finds w₂ same).mpr kept)
    refine ⟨settled, fun n => ?_⟩
    unfold resolveTokens
    rw [resolved]
    dsimp only
    rw [resolveTokens_settled (settled w₁ rfl)]
    rfl
  · intro lost w₂ same gives
    cases found : w₂.csrfCookie c with
    | none => exact .inr (resolveToken_asks found gives)
    | some other =>
      refine .inl ⟨other, ?_, resolveToken_of_cookie found⟩
      rintro rfl
      exact lost ((finds w₂ same).mp found)

/-- A reply with a body brings what it brings with its size, too. -/
theorem framed_brings {own : Nat} {reply : Reply} {token : String}
    (bodied : reply.hasBody .get = true) (brings : reply.Brings own token) :
    (reply.framed .get).Brings own token := by
  obtain ⟨head, success, body, complete, document, nonempty⟩ := brings
  unfold Reply.framed
  rw [if_pos bodied]
  split
  · exact ⟨head, success, body, complete, document, nonempty⟩
  · exact ⟨head, success, body, complete, document, nonempty⟩

theorem giving_brings {token : String} (present : token ≠ "")
    (read : Json.read? (Utf8.encode ("\x7b\"csrf_token\": \"" ++ token ++ "\"\x7d")) =
      some (.object [("csrf_token", .string token)])) :
    ((giving token).framed .get).Brings 30000 token := by
  have soon : 0 < 30000 := by decide
  refine framed_brings rfl ⟨soon, rfl, soon, rfl, ⟨.object [("csrf_token", .string token)], ?_, rfl⟩,
    present⟩
  rw [← read]
  exact congrArg Json.read? (List.append_nil _)

/-- One request, and the same token three times. -/
theorem plainToken_kept :
    ∃ w₁, (bare.offering (giving "t")).resolveTokens { apiBase := Config.defaultBase } 3 =
        ([some "t", some "t", some "t"], w₁) ∧
      w₁.backend.received.length = 1 := by
  have gives : bare.GivesTokens { apiBase := Config.defaultBase } := ⟨csrfUrl, by cbv, by cbv⟩
  have brings : ((giving "t").framed .get).Brings 30000 "t" :=
    giving_brings (by decide) (by cbv)
  obtain ⟨q, w₁, -, received, -, -, kept, -⟩ := bootstrap_keeps bare
    { apiBase := Config.defaultBase } (giving "t") "http://localhost:8000/api" "t"
    Config.readBase_localhost (by decide) (by decide) (by decide +kernel) rfl gives rfl brings
  refine ⟨w₁, (kept (Cookie.isKept_iff.mpr (by decide))).2 2, ?_⟩
  rw [received]
  rfl

/-- A token with a semicolon comes back cut off, and one beyond ASCII is asked for again. -/
theorem cutToken_lost :
    ((giving "a;b").framed .get).Brings 30000 "a;b" ∧
      ((bare.offering (giving "a;b")).resolveTokens { apiBase := Config.defaultBase } 2).1 =
        [some "a;b", some "a"] ∧
      ((bare.offering (giving "é")).resolveTokens
        { apiBase := Config.defaultBase } 2).2.backend.received.map SentRequest.target =
        ["/api/csrf", "/api/csrf"] := by
  refine ⟨giving_brings (by decide) (by cbv), ?_, ?_⟩
  · decide +kernel
  · decide +kernel

end World

end TenantLink
