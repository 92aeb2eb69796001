import TenantLink.Proofs.Client.Trace
import TenantLink.Proofs.Url.Origin

/-!
# The origin of a call

A call whose path names no origin goes to the origin of the API base, and no other backend receives
anything of it: `send_stays`.
-/

namespace TenantLink

namespace Config

variable {c : Config} {u : Url} {base path : String}

theorem closePath_isOpaque (hierarchical : u.isOpaque = false) :
    (closePath u).isOpaque = false := by
  unfold closePath
  split
  · exact hierarchical
  · split
    · exact hierarchical
    · split <;> rfl

theorem readBase_eq_ok (accepted : readBase base = .ok u) :
    ∃ parsed, Url.parse (Text.trimmed base) = .ok parsed ∧ parsed.isOpaque = false ∧
      u = closePath parsed := by
  unfold readBase at accepted
  split at accepted
  next => cases accepted
  next parsed url =>
    split at accepted
    next => cases accepted
    next hierarchical =>
      cases accepted
      exact ⟨parsed, url, Bool.eq_false_iff.mpr hierarchical, rfl⟩

theorem readBase_isOpaque (accepted : readBase base = .ok u) : u.isOpaque = false := by
  obtain ⟨parsed, -, hierarchical, rfl⟩ := readBase_eq_ok accepted
  exact closePath_isOpaque hierarchical

theorem kind_of_isHttp (http : Cookie.isHttp u = true) : u.kind = .special := by
  simp only [Cookie.isHttp, Bool.or_eq_true, decide_eq_true_eq] at http
  unfold Url.kind
  rcases http with scheme | scheme <;> rw [scheme] <;> decide

theorem closePath_origin (u : Url) :
    (closePath u).scheme = u.scheme ∧ (closePath u).host = u.host := by
  unfold closePath
  split
  · exact ⟨rfl, rfl⟩
  · split
    · exact ⟨rfl, rfl⟩
    · split <;> exact ⟨rfl, rfl⟩

/-- A base that goes over HTTP has a host. -/
theorem readBase_host (accepted : readBase base = .ok u) (http : Cookie.isHttp u = true) :
    ∃ host, u.host = some host := by
  obtain ⟨parsed, url, -, rfl⟩ := readBase_eq_ok accepted
  obtain ⟨scheme, host⟩ := closePath_origin parsed
  have special := kind_of_isHttp http
  rw [Url.kind, scheme] at special
  rw [host]
  exact Url.parse_host special url

/-- Its path starts with a slash. -/
theorem readBase_rooted (accepted : readBase base = .ok u) (http : Cookie.isHttp u = true) :
    u.path.chars.head? = some '/' := by
  obtain ⟨parsed, -, hierarchical, rfl⟩ := readBase_eq_ok accepted
  have special := kind_of_isHttp http
  rw [Url.kind, (closePath_origin parsed).1] at special
  unfold closePath
  cases path : parsed.path with
  | text => simp [Url.isOpaque, path] at hierarchical
  | segments ss =>
    dsimp only
    split
    next closed =>
      rw [path]
      cases ss with
      | nil => cases closed
      | cons => rfl
    next =>
      rw [Url.kind, special, if_neg (by decide)]
      cases ss <;> rfl

theorem readBase_localhost : readBase "http://localhost:8000/api" = .ok defaultBase := by
  decide +kernel

/-- What is resolved of a path that is no URL of its own. -/
def reference (path : String) : String := String.ofList (path.toList.dropWhile (· = '/'))

theorem endpoint_relative (relative : isAbsolute path = false) :
    c.endpoint path = (c.apiBase.join (reference path)).mapError .invalidUrl := by
  simp only [endpoint, relative, Bool.false_eq_true, if_false, reference]

theorem endpoint_stays (accepted : readBase base = .ok c.apiBase)
    (http : Cookie.isHttp c.apiBase = true) (relative : isAbsolute path = false)
    (own : ¬ Url.NamesOrigin c.apiBase.scheme (reference path)) :
    ∃ u, c.endpoint path = .ok u ∧ c.apiBase.Stays u := by
  obtain ⟨u, joined, stays⟩ :=
    Url.join_stays (kind_of_isHttp http) (readBase_isOpaque accepted) own
  rw [endpoint_relative relative, joined]
  exact ⟨u, rfl, stays⟩

/-- CSRF tokens come from the origin of the API base. -/
theorem endpoint_csrf (accepted : readBase base = .ok c.apiBase)
    (http : Cookie.isHttp c.apiBase = true) :
    ∃ u, c.endpoint Csrf.path = .ok u ∧ c.apiBase.Stays u :=
  endpoint_stays accepted http (by decide) (Url.not_namesOrigin (by decide) (by decide))

end Config

namespace World

variable {w w' : World} {c : Config} {r : Request} {limit : Nat}

/-- A backend that is at no address of the call receives nothing. -/
theorem deliver_elsewhere {result : Except Halt (Reply × Option Session)}
    (unreached : ∀ u, c.endpoint r.path = .ok u → w.backend.reaches u = false)
    (tokenless : ¬ w.GivesTokens c) (h : w.deliver c limit r = (result, w')) :
    w'.backend = w.backend := by
  rcases deliver_steps h with ⟨silent, -⟩ |
    ⟨u, session, w₁, headers, attached, w₂, address, looked, -, attach, next⟩
  · exact silent.backend
  · have silent := look_silent looked
    obtain ⟨csrf, backend, -, asks⟩ := attachCsrf_asks attach
    have unasked : csrf = none := by
      rw [← Option.not_isSome_iff_eq_none, asks]
      rintro ⟨-, -, gives⟩
      rw [GivesTokens, silent.backend] at gives
      exact tokenless gives
    rw [unasked, silent.backend] at backend
    rcases next with rfl | ⟨headers', -, exchange⟩
    · exact backend
    · have away : w₂.backend.reaches u = false := by
        rw [backend]
        exact unreached u address
      obtain ⟨answer, w₃, sent, replay⟩ := exchange_dispatches exchange
      obtain ⟨original, first, -, reached⟩ := dispatch_backend sent
      have unsent : original = none := by
        rw [← Option.not_isSome_iff_eq_none, reached, away]
        exact Bool.false_ne_true
      rw [unsent, backend] at first
      rcases replay with ⟨waited, -⟩ | ⟨reply, _, _, _, _, rfl, -⟩
      · exact waited.backend.trans first
      · have there := (dispatch_answer sent).1
        rw [away] at there
        cases there

theorem not_reaches {b : Backend} {base u : Url} (stays : base.Stays u)
    (elsewhere : ¬ base.SameOrigin b.origin) : b.reaches u = false := by
  have other : ¬ u.SameOrigin b.origin := by
    rintro ⟨scheme, host, port⟩
    obtain ⟨scheme', host', port'⟩ := stays.sameOrigin
    exact elsewhere ⟨scheme'.symm.trans scheme, host'.symm.trans host, port'.symm.trans port⟩
  simp [Backend.reaches, other]

/-- A path that is no URL of its own and names no origin is on the origin of the API base, and no
other backend receives anything of a call to it. With a path that names an origin, nothing of the
base counts but its scheme. -/
theorem send_stays (c : Config) (base path : String)
    (accepted : Config.readBase base = .ok c.apiBase) (http : Cookie.isHttp c.apiBase = true)
    (relative : Config.isAbsolute path = false) :
    (¬ Url.NamesOrigin c.apiBase.scheme (Config.reference path) →
      (∃ u, c.endpoint path = .ok u ∧ u.scheme = c.apiBase.scheme ∧ u.host = c.apiBase.host ∧
        u.port = c.apiBase.port) ∧
      ∀ (w : World) (r : Request), r.path = path → ¬ c.apiBase.SameOrigin w.backend.origin →
        (w.send c r).2.backend = w.backend) ∧
    (Url.NamesOrigin c.apiBase.scheme (Config.reference path) →
      ∀ (c' : Config) (base' : String), Config.readBase base' = .ok c'.apiBase →
        c'.apiBase.scheme = c.apiBase.scheme → c'.endpoint path = c.endpoint path) := by
  constructor
  · intro own
    obtain ⟨u, address, stays⟩ := Config.endpoint_stays accepted http relative own
    refine ⟨⟨u, address, stays.scheme, stays.host, stays.port⟩, fun w r target elsewhere => ?_⟩
    rw [(send_delivers w c r).1]
    refine deliver_elsewhere (fun u' address' => ?_) ?_ Prod.mk.eta.symm
    · rw [target, address] at address'
      cases address'
      exact not_reaches stays elsewhere
    · rintro ⟨v, tokens, reached⟩
      obtain ⟨v', tokens', stays'⟩ := Config.endpoint_csrf accepted http
      rw [tokens] at tokens'
      cases tokens'
      rw [not_reaches stays' elsewhere] at reached
      cases reached
  · intro named c' base' accepted' same
    rw [Config.endpoint_relative relative, Config.endpoint_relative relative,
      Url.join_elsewhere (Config.kind_of_isHttp http) same.symm
        (Config.readBase_isOpaque accepted) (Config.readBase_isOpaque accepted') named]

theorem send_stays_jobs :
    Config.readBase "http://localhost:8000/api" = .ok Config.defaultBase ∧
      ∀ w : World, ¬ Config.defaultBase.SameOrigin w.backend.origin →
        (w.send { apiBase := Config.defaultBase } (.get "/jobs")).2.backend = w.backend := by
  obtain ⟨stays, -⟩ := send_stays { apiBase := Config.defaultBase } "http://localhost:8000/api"
    "/jobs" Config.readBase_localhost (by decide) (by decide +kernel)
  have own : ¬ Url.NamesOrigin "http" (Config.reference "/jobs") :=
    Url.not_namesOrigin (by decide +kernel) (by decide +kernel)
  exact ⟨Config.readBase_localhost, fun w => (stays own).2 w (.get "/jobs") rfl⟩

/-- Behind two backslashes a path names a host, and the token of the session goes there. -/
theorem backslashes_lead_away :
    Config.readBase "http://localhost:8000/api" = .ok Config.defaultBase ∧
      Cookie.isHttp Config.defaultBase = true ∧
      Config.isAbsolute "\\\\evil.example/jobs" = false ∧
      Config.endpoint { apiBase := Config.defaultBase } "\\\\evil.example/jobs" =
        .ok {
          scheme := "http"
          host := some (.domain "evil.example")
          path := .segments ["jobs".toList] } ∧
      (World.send
        { wall := ⟨0⟩
          backend := {
            origin := {
              scheme := "http"
              host := some (.domain "evil.example")
              path := .segments [[]] } }
          provider := { current := some { token := "secret" } } }
        { apiBase := Config.defaultBase }
        (.get "\\\\evil.example/jobs")).2.backend.received.map
          (fun q => (q.target, (q.headers.getAll .authorization).map HeaderValue.ascii?)) =
        [("/jobs", [some "Bearer secret"])] := by
  decide +kernel

end World

end TenantLink
