import Mathlib
import TenantLink.Proofs.Client.Anonymity

/-!
# The requests of one call

A call sends at most three requests: one for a CSRF token, itself, and itself once more with a new
token. `send_traffic` says when each of them is sent, and what it carries.
-/

namespace TenantLink.World

variable {w w' : World} {c : Config} {r : Request} {limit : Nat}

/-! ### The request for a CSRF token -/

theorem askForToken_dispatches {outer : Option Nat} {result : Except Halt (Option String)}
    (h : w.askForToken c outer = (result, w')) :
    (∃ e, c.endpoint Csrf.path = .error e) ∧ w' = w ∨
      ∃ base within answer w₁, c.endpoint Csrf.path = .ok base ∧
        w.dispatch within base .get [] none = (answer, w₁) ∧ Silent w₁ w' := by
  unfold askForToken at h
  split at h
  case h_1 e refused =>
    cases h
    exact .inl ⟨⟨e, refused⟩, rfl⟩
  case h_2 base address =>
    right
    split at h
    case h_1 sent =>
      cases h
      exact ⟨base, _, _, _, address, sent, .refl _⟩
    case h_2 sent =>
      refine ⟨base, _, _, _, address, sent, ?_⟩
      split at h
      case isFalse =>
        cases h
        exact .refl _
      case isTrue =>
        split at h
        case h_1 read =>
          cases h
          exact readBody_silent read
        case h_2 read =>
          split at h <;> cases h <;> exact readBody_silent read

/-- Whether the backend is the one that gives tokens. -/
def GivesTokens (w : World) (c : Config) : Prop :=
  ∃ u, c.endpoint Csrf.path = .ok u ∧ w.backend.reaches u

/-- The backend is asked for a token by one request without authorization, if it gives tokens. -/
structure AsksForToken (w : World) (c : Config) (csrf : Option SentRequest) (w' : World) :
    Prop where
  backend : w'.backend = w.backend.receiveAll csrf.toList
  request : ∀ q ∈ csrf, ∃ u, c.endpoint Csrf.path = .ok u ∧ q = w.requestFor u .get [] none
  reached : csrf.isSome ↔ w.GivesTokens c

theorem askForToken_asks {outer : Option Nat} {result : Except Halt (Option String)}
    (h : w.askForToken c outer = (result, w')) : ∃ csrf, AsksForToken w c csrf w' := by
  rcases askForToken_dispatches h with ⟨⟨e, refused⟩, rfl⟩ | ⟨base, _, _, w₁, address, sent, silent⟩
  · refine ⟨none, rfl, by simp, ?_⟩
    simp [GivesTokens, refused]
  · obtain ⟨csrf, backend, request, reached⟩ := dispatch_backend sent
    refine ⟨csrf, silent.backend.trans backend,
      fun q member => ⟨base, address, request q member⟩, ?_⟩
    simp [GivesTokens, address, reached]

theorem bootstrapToken_asks {outer : Option Nat} {result : Except Halt (Option String)}
    (h : w.bootstrapToken c outer = (result, w')) : ∃ csrf, AsksForToken w c csrf w' := by
  unfold bootstrapToken at h
  split at h
  case h_1 asked =>
    -- The token is kept in the jar, of which the backend knows nothing.
    cases h
    obtain ⟨csrf, backend, request, reached⟩ := askForToken_asks asked
    exact ⟨csrf, backend, request, reached⟩
  case h_2 asked =>
    split at h <;> cases h <;> exact askForToken_asks asked
  case h_3 asked =>
    cases h
    exact askForToken_asks asked

/-- A token is asked for if the method wants one and the cookies hold none. -/
theorem attachCsrf_asks {headers : Headers} {result : Except Halt Headers}
    (h : w.attachCsrf c limit r.method headers = (result, w')) :
    ∃ csrf : Option SentRequest,
      w'.backend = w.backend.receiveAll csrf.toList ∧
      (∀ q ∈ csrf, ∃ u, c.endpoint Csrf.path = .ok u ∧ q = w.requestFor u .get [] none) ∧
      (csrf.isSome ↔ r.method.isMutating ∧ w.csrfCookie c = none ∧ w.GivesTokens c) := by
  unfold attachCsrf at h
  split at h
  next mutating =>
    have token : ∃ result, w.csrfToken c (some limit) = (result, w') := by
      split at h <;> rename_i asked <;> cases h <;> exact ⟨_, asked⟩
    obtain ⟨_, asked⟩ := token
    unfold csrfToken at asked
    split at asked
    next known =>
      cases asked
      exact ⟨none, rfl, by simp, by simp [known]⟩
    next missing =>
      obtain ⟨csrf, backend, request, reached⟩ := bootstrapToken_asks asked
      refine ⟨csrf, backend, request, reached.trans ?_⟩
      exact ⟨fun gives => ⟨mutating, missing, gives⟩, fun needs => needs.2.2⟩
  next safe =>
    cases h
    exact ⟨none, rfl, by simp, by simp [safe]⟩

theorem attachCsrf_headers {headers headers' : Headers}
    (h : w.attachCsrf c limit r.method headers = (.ok headers', w')) :
    headers'.getAll .authorization = headers.getAll .authorization := by
  unfold attachCsrf at h
  split at h
  · split at h <;> cases h
    exact getAll_withCsrf headers _
  · cases h
    rfl

/-! ### The call and its replay -/

theorem refresh_asked {result : Except Halt RefreshOutcome}
    (h : w.refresh limit = (result, w')) : w'.provider.asked = w.provider.asked + 1 := by
  unfold refresh at h
  dsimp only at h
  split at h <;> rename_i waited <;> cases h <;>
    obtain ⟨-, delays, provider⟩ := awaitProvider_frame waited
  · rw [provider]
  · rw [SessionProvider.refresh_asked, provider]

theorem look_asked {result : Except Halt (Option Session)} (h : w.look limit = (result, w')) :
    w'.provider.asked = w.provider.asked := by
  unfold look at h
  split at h <;> rename_i waited <;> cases h <;>
    obtain ⟨-, delays, provider⟩ := awaitProvider_frame waited
  · rw [provider]
  · rw [SessionProvider.look_asked, provider]

theorem refresh_renewed {s : Session} (h : w.refresh limit = (.ok (.renewed s), w')) :
    w.provider.refresh.1 = .renewed s := (refresh_spec h).1.symm

/-- An exchange is one dispatch, behind which a session may be asked for; or it is two, the second
one with a new session. -/
theorem exchange_dispatches {u : Url} {headers : Headers} {session : Option Session}
    {result : Except Halt (Reply × Option Session)}
    (h : w.exchange limit u r headers session = (result, w')) :
    ∃ answer w₁, w.dispatch limit u r.method headers r.body = (answer, w₁) ∧
      (Silent w₁ w' ∧ w'.provider.asked ≤ w₁.provider.asked + 1 ∧
          (r.skipAuth → w'.provider.asked = w₁.provider.asked) ∨
        ∃ reply w₂ s headers' again, answer = .ok reply ∧ reply.status.isAuthExpired ∧
          r.skipAuth = false ∧ w₁.refresh limit = (.ok (.renewed s), w₂) ∧
          authorize headers (some s) = .ok headers' ∧
          w₂.dispatch limit u r.method headers' r.body = (again, w')) := by
  unfold exchange at h
  split at h
  case h_1 w₁ sent =>
    cases h
    exact ⟨_, _, sent, .inl ⟨.refl _, Nat.le_succ _, fun _ => rfl⟩⟩
  case h_2 reply w₁ sent =>
    refine ⟨_, _, sent, ?_⟩
    split at h
    case isFalse =>
      cases h
      exact .inl ⟨.refl _, Nat.le_succ _, fun _ => rfl⟩
    case isTrue expired =>
      simp only [Bool.and_eq_true, Bool.not_eq_true'] at expired
      obtain ⟨expired, authenticated⟩ := expired
      -- A refresh that leads to no second dispatch.
      have unsent : ∀ {outcome}, w₁.refresh limit = (outcome, w') →
          Silent w₁ w' ∧ w'.provider.asked ≤ w₁.provider.asked + 1 ∧
            (r.skipAuth → w'.provider.asked = w₁.provider.asked) := by
        intro outcome refreshed
        have asked := refresh_asked refreshed
        refine ⟨refresh_silent refreshed, Nat.le_of_eq asked, fun skipped => ?_⟩
        rw [authenticated] at skipped
        cases skipped
      split at h
      case h_1 refreshed =>
        cases h
        exact .inl (unsent refreshed)
      case h_3 refreshed =>
        cases h
        exact .inl (unsent refreshed)
      case h_2 s w₂ refreshed =>
        split at h
        case h_1 =>
          cases h
          exact .inl (unsent refreshed)
        case h_2 headers' authorized =>
          split at h <;> rename_i replayed <;> cases h <;>
            exact .inr ⟨reply, w₂, s, headers', _, rfl, expired, authenticated, refreshed,
              authorized, replayed⟩

structure Replays (w : World) (u : Url) (r : Request) (headers : Headers) (p : SentRequest) :
    Prop where
  authenticated : r.skipAuth = false
  expired : ∃ reply, w.backend.reactionAt 0 = .answer reply ∧ reply.status.code = 401
  renewed : ∃ s headers' w₁, w.provider.refresh.1 = .renewed s ∧
    authorize headers (some s) = .ok headers' ∧ p = requestFor w₁ u r.method headers' r.body

structure Exchanges (w : World) (u : Url) (r : Request) (headers : Headers)
    (original replay : Option SentRequest) (w' : World) : Prop where
  backend : w'.backend = w.backend.receiveAll (original.toList ++ replay.toList)
  request : ∀ o ∈ original, o = w.requestFor u r.method headers r.body
  ordered : replay.isSome → original.isSome
  replays : ∀ p ∈ replay, Replays w u r headers p
  refreshes : w'.provider.asked ≤ w.provider.asked + 1
  anonymous : r.skipAuth → w'.provider.asked = w.provider.asked

theorem exchange_exchanges {u : Url} {headers : Headers} {session : Option Session}
    {result : Except Halt (Reply × Option Session)}
    (h : w.exchange limit u r headers session = (result, w')) :
    ∃ original replay, Exchanges w u r headers original replay w' := by
  obtain ⟨answer, w₁, sent, next⟩ := exchange_dispatches h
  obtain ⟨original, backend, request, reached⟩ := dispatch_backend sent
  have provider := (dispatch_quiet sent).provider
  rcases next with ⟨silent, refreshes, anonymous⟩ |
    ⟨reply, w₂, s, headers', again, rfl, expired, authenticated, refreshed, authorized, replayed⟩
  · refine ⟨original, none, ?_, request, by simp, by simp, ?_, ?_⟩
    · rw [silent.backend, backend, Option.toList_none, List.append_nil]
    · rwa [← provider]
    · rwa [← provider]
  · obtain ⟨replay, backend', request', -⟩ := dispatch_backend replayed
    obtain ⟨there, scripted, script, status⟩ := dispatch_answer sent
    have asked := refresh_asked refreshed
    refine ⟨original, replay, ?_, request, fun _ => reached.trans there, ?_, ?_, ?_⟩
    · rw [backend', (refresh_silent refreshed).backend, backend, Backend.receiveAll_append]
    · intro p member
      exact {
        authenticated := authenticated
        expired := ⟨scripted, script, by rw [← status]; exact of_decide_eq_true expired⟩
        renewed := ⟨s, headers', w₂, provider ▸ refresh_renewed refreshed, authorized,
          request' p member⟩ }
    · exact Nat.le_of_eq (by rw [(dispatch_quiet replayed).provider, asked, provider])
    · intro skipped
      rw [authenticated] at skipped
      cases skipped

/-! ### A whole call -/

/-- A call sends nothing; or it comes to its address and its fields, and may then be sent. -/
theorem deliver_steps {result : Except Halt (Reply × Option Session)}
    (h : w.deliver c limit r = (result, w')) :
    Silent w w' ∧ w'.provider.asked = w.provider.asked ∨
      ∃ u session w₁ headers attached w₂, c.endpoint r.path = .ok u ∧
        w.look limit = (.ok session, w₁) ∧
        authorize r.headers (if r.skipAuth then none else session) = .ok headers ∧
        w₁.attachCsrf c limit r.method headers = (attached, w₂) ∧
        (w' = w₂ ∨ ∃ headers', attached = .ok headers' ∧
          w₂.exchange limit u r headers' session = (result, w')) := by
  unfold deliver at h
  split at h
  case h_1 =>
    cases h
    exact .inl ⟨.refl w, rfl⟩
  case h_2 u address =>
    split at h
    case h_1 looked =>
      cases h
      exact .inl ⟨look_silent looked, look_asked looked⟩
    case h_2 session w₁ looked =>
      split at h
      case h_1 =>
        cases h
        exact .inl ⟨look_silent looked, look_asked looked⟩
      case h_2 headers authorized =>
        right
        refine ⟨u, session, w₁, headers, ?_⟩
        split at h
        case h_1 attached =>
          cases h
          exact ⟨_, _, address, looked, authorized, attached, .inl rfl⟩
        case h_2 headers' w₂ attached =>
          exact ⟨_, w₂, address, looked, authorized, attached, .inr ⟨headers', rfl, h⟩⟩

/-- What the backend receives of a call: a request for a CSRF token, the call itself, and the call
once more. -/
structure Traffic (w : World) (c : Config) (r : Request) (csrf original replay : Option SentRequest)
    (w' : World) : Prop where
  received : w'.backend.received =
    w.backend.received ++ (csrf.toList ++ original.toList ++ replay.toList)
  ordered : replay.isSome → original.isSome
  refreshes : w'.provider.asked ≤ w.provider.asked + 1
  bootstrap : ∀ q ∈ csrf, q.method = .get ∧ q.body = none ∧
    q.headers.getAll .authorization = [] ∧
    ∃ u, c.endpoint Csrf.path = .ok u ∧ q.target = u.target
  /-- A backend that gives no tokens may still be sent a call with an address of its own. -/
  first : csrf.isSome ∨ original.isSome →
    (csrf.isSome ↔ r.method.isMutating ∧ w.csrfCookie c = none ∧ w.GivesTokens c)
  unaddressed : (∀ u, c.endpoint r.path ≠ .ok u) → csrf = none ∧ original = none
  unsendable : ∀ s, w.provider.look.1 = some s → HeaderValue.ofText? s.token = none →
    r.skipAuth = false → csrf = none ∧ original = none
  request : ∀ o ∈ original, o.method = r.method ∧ o.body = r.body ∧
    ∃ u, c.endpoint r.path = .ok u ∧ o.target = u.target
  authorized : ∀ s, w.provider.look.1 = some s → r.skipAuth = false →
    ∀ o ∈ original, o.Bears s.token
  replayed : ∀ p ∈ replay, r.skipAuth = false ∧
    (∃ reply, w.backend.reactionAt csrf.toList.length = .answer reply ∧ reply.status.code = 401) ∧
    ∃ s, w.provider.look.2.refresh.1 = .renewed s ∧ p.Bears s.token
  repeated : ∀ o ∈ original, ∀ p ∈ replay, p.method = o.method ∧ p.target = o.target ∧
    p.body = o.body ∧ p.plainHeaders = o.plainHeaders
  anonymous : r.skipAuth → w'.provider.asked = w.provider.asked ∧
    ∀ o ∈ original, o.headers.getAll .authorization = r.headers.getAll .authorization

theorem Traffic.none_sent (silent : Silent w w') (asked : w'.provider.asked = w.provider.asked) :
    Traffic w c r none none none w' where
  received := by rw [silent.backend]; exact (List.append_nil _).symm
  ordered := by simp
  refreshes := by omega
  bootstrap := by simp
  first := by simp
  unaddressed := fun _ => ⟨rfl, rfl⟩
  unsendable := fun _ _ _ _ => ⟨rfl, rfl⟩
  request := by simp
  authorized := by simp
  replayed := by simp
  repeated := by simp
  anonymous := fun _ => ⟨asked, by simp⟩

theorem bears_of_authorize {u : Url} {headers headers' : Headers} {s : Session} {w₁ : World}
    {method : Method} {body : Option Bytes} {q : SentRequest}
    (authorized : authorize headers (some s) = .ok headers')
    (request : q = w₁.requestFor u method headers' body) : q.Bears s.token := by
  obtain ⟨v, value, rfl⟩ := authorize_some authorized
  unfold SentRequest.Bears
  rw [request, requestFor, getAll_withCookies, Headers.getAll_insert_self]
  exact congrArg (fun bytes => [bytes]) value

theorem plainHeaders_requestFor (u : Url) (method : Method) (headers : Headers)
    (body : Option Bytes) :
    (w.requestFor u method headers body).plainHeaders =
      (headers.remove .cookie).remove .authorization := by
  unfold SentRequest.plainHeaders requestFor
  rw [remove_withCookies]

theorem plainHeaders_of_authorize {u : Url} {headers headers' : Headers} {s : Session}
    {method : Method} {body : Option Bytes} (v : World)
    (authorized : authorize headers (some s) = .ok headers') :
    (v.requestFor u method headers' body).plainHeaders =
      (w.requestFor u method headers body).plainHeaders := by
  obtain ⟨_, -, rfl⟩ := authorize_some authorized
  rw [plainHeaders_requestFor, plainHeaders_requestFor, Headers.remove_comm,
    Headers.remove_insert_self, Headers.remove_comm]

theorem Exchanges.none_sent (u : Url) (headers : Headers) :
    Exchanges w u r headers none none w where
  backend := rfl
  request := by simp
  ordered := by simp
  replays := by simp
  refreshes := Nat.le_succ _
  anonymous := fun _ => rfl

theorem deliver_traffic {result : Except Halt (Reply × Option Session)}
    (h : w.deliver c limit r = (result, w')) :
    ∃ csrf original replay, Traffic w c r csrf original replay w' := by
  rcases deliver_steps h with ⟨silent, asked⟩ |
    ⟨u, session, w₁, headers, attached, w₂, address, looked, authorized, attach, next⟩
  · exact ⟨none, none, none, .none_sent silent asked⟩
  · obtain ⟨found, lookAsked, outcomes⟩ := look_spec looked
    have silent := look_silent looked
    have provider := (attachCsrf_quiet attach).provider
    obtain ⟨csrf, backend, bootstrap, first⟩ := attachCsrf_asks attach
    -- A call that stops before it is sent is an exchange of nothing.
    have exchanged : ∃ headers' original replay, Exchanges w₂ u r headers' original replay w' ∧
        headers'.getAll .authorization = headers.getAll .authorization := by
      rcases next with rfl | ⟨headers', rfl, exchange⟩
      · exact ⟨headers, none, none, .none_sent u headers, rfl⟩
      · obtain ⟨original, replay, sent⟩ := exchange_exchanges exchange
        exact ⟨headers', original, replay, sent, attachCsrf_headers attach⟩
    obtain ⟨headers', original, replay, sent, same⟩ := exchanged
    have all :
        w'.backend = w.backend.receiveAll (csrf.toList ++ original.toList ++ replay.toList) := by
      rw [sent.backend, backend, silent.backend, ← Backend.receiveAll_append, List.append_assoc]
    have bearer : ∀ o ∈ original,
        o.headers.getAll .authorization = headers.getAll .authorization := by
      intro o member
      rw [sent.request o member, requestFor, getAll_withCookies, same]
    refine ⟨csrf, original, replay, ?_⟩
    exact {
      received := by rw [all]; exact (Backend.receiveAll_frame _ _).1
      ordered := sent.ordered
      refreshes := by
        have bound := sent.refreshes
        rwa [provider, lookAsked] at bound
      bootstrap := by
        intro q member
        obtain ⟨base, there, rfl⟩ := bootstrap q member
        refine ⟨rfl, rfl, ?_, base, there, rfl⟩
        exact getAll_withCookies w₁ base []
      first := by
        intro _
        rwa [GivesTokens, csrfCookie, silent.backend, silent.jar, (look_keeps looked).wall] at first
      unaddressed := fun nowhere => (nowhere u address).elim
      unsendable := by
        intro s current illegal authenticated
        rw [authenticated, if_neg (by simp), found, current, authorize_of_illegal illegal]
          at authorized
        cases authorized
      request := by
        intro o member
        rw [sent.request o member]
        exact ⟨rfl, rfl, u, address, rfl⟩
      authorized := by
        intro s current authenticated o member
        rw [authenticated, if_neg (by simp), found, current] at authorized
        obtain ⟨v, value, rfl⟩ := authorize_some authorized
        unfold SentRequest.Bears
        rw [bearer o member, Headers.getAll_insert_self]
        exact congrArg (fun bytes => [bytes]) value
      replayed := by
        intro p member
        obtain ⟨authenticated, ⟨reply, reaction, expired⟩, s, fields, w₃, renewed, again,
          request⟩ := sent.replays p member
        refine ⟨authenticated, ⟨reply, ?_, expired⟩, s, ?_, bears_of_authorize again request⟩
        · rwa [backend, silent.backend, Backend.reactionAt_receiveAll] at reaction
        · rw [← renewed, provider]
          exact SessionProvider.refresh_eq_of_outcomes
            (w.provider.look_outcomes.trans outcomes.symm)
      repeated := by
        intro o member p member'
        obtain ⟨-, -, s, fields, w₃, -, again, rfl⟩ := sent.replays p member'
        rw [sent.request o member]
        exact ⟨rfl, rfl, rfl, plainHeaders_of_authorize w₃ again⟩
      anonymous := by
        intro skipped
        refine ⟨?_, fun o member => ?_⟩
        · rw [sent.anonymous skipped, provider, lookAsked]
        · rw [if_pos skipped] at authorized
          cases authorized
          exact bearer o member }

/-- Behind the delivery of an answer nothing is sent, and no session is asked for. -/
theorem send_delivers (w : World) (c : Config) (r : Request) :
    (w.send c r).2.backend = (w.deliver c (w.now + deadline c r) r).2.backend ∧
      (w.send c r).2.provider = (w.deliver c (w.now + deadline c r) r).2.provider := by
  unfold send sendWithin
  rcases w.deliver c (w.now + deadline c r) r with ⟨halt | ⟨reply, session⟩, w₁⟩
  · cases halt <;> exact ⟨rfl, rfl⟩
  · dsimp only
    unfold conclude
    cases read : w₁.readBody (w.now + deadline c r) reply with
    | mk result w₂ =>
      have backend := (readBody_silent read).backend
      have provider := (readBody_quiet read).provider
      cases result with
      | error halt => cases halt <;> exact ⟨backend, provider⟩
      | ok body =>
        dsimp only
        have warned : (w₂.warnRateLimit reply.status).backend = w₂.backend ∧
            (w₂.warnRateLimit reply.status).provider = w₂.provider := by
          unfold warnRateLimit
          split <;> exact ⟨rfl, rfl⟩
        cases release c session { status := reply.status, headers := reply.headers, body } <;>
          exact ⟨warned.1.trans backend, warned.2.trans provider⟩

theorem Traffic.of_same {csrf original replay : Option SentRequest} {w₁ : World}
    (h : Traffic w c r csrf original replay w₁) (backend : w'.backend = w₁.backend)
    (provider : w'.provider = w₁.provider) : Traffic w c r csrf original replay w' :=
  { h with
    received := by rw [backend, h.received]
    refreshes := by rw [provider]; exact h.refreshes
    anonymous := by rw [provider]; exact h.anonymous }

/-- One call sends a request for a CSRF token, itself and itself once more, or a start of these. No
reply to one of them is a redirect, by which the transport would send more. A call without
authorization sends the same whatever sessions there are. -/
theorem send_traffic (w : World) (c : Config) (r : Request) (direct : w.backend.IsDirect) :
    (∃ csrf original replay, Traffic w c r csrf original replay (w.send c r).2) ∧
      (∀ i, (w.backend.reactionAt i).isRedirect = false) ∧
      (r.skipAuth → ∀ p : SessionProvider, p.delays = w.provider.delays →
        ((w.withProvider p).send c r).2.backend = (w.send c r).2.backend) := by
  obtain ⟨backend, provider⟩ := send_delivers w c r
  refine ⟨?_, direct.reactionAt, ?_⟩
  · obtain ⟨csrf, original, replay, traffic⟩ :=
      deliver_traffic (Prod.mk.eta (p := w.deliver c (w.now + deadline c r) r)).symm
    exact ⟨csrf, original, replay, traffic.of_same backend provider⟩
  · intro skipped p delays
    rw [(send_delivers (w.withProvider p) c r).1, backend]
    exact deliver_anonymous w p c _ skipped delays

/-- A token that cannot stand in a header field stops no call that does without it. -/
theorem illegal_token_unused :
    HeaderValue.ofText? "bad\n" = none ∧
      ((World.send
        { wall := ⟨0⟩
          backend := { origin := Config.defaultBase }
          provider := { current := some { token := "bad\n" } } }
        { apiBase := Config.defaultBase }
        (Request.withoutAuth (.get "jobs"))).2.backend.received.map SentRequest.target) =
        ["/api/jobs"] := by
  refine ⟨by decide, ?_⟩
  cbv

/-- A backend that gives a token for changes, and no longer accepts the token of the session. -/
def outdated : World where
  wall := ⟨0⟩
  backend := {
    origin := Config.defaultBase
    script := [
      .answer { status := .ok, chunks := [Utf8.encode "\x7b\"csrf_token\": \"t\"\x7d"] },
      .answer { status := ⟨401, by decide⟩ }] }
  provider := { current := some { token := "a" }, outcomes := [.renewed { token := "b" }] }

/-- A token is asked for, and the call is sent twice. -/
theorem outdated_sent_twice :
    ∃ csrf original replay,
      (outdated.send { apiBase := Config.defaultBase } (.post "jobs")).2.backend.received =
        [csrf, original, replay] ∧
      csrf.headers.getAll .authorization = [] ∧ original.Bears "a" ∧ replay.Bears "b" ∧
      replay.plainHeaders = original.plainHeaders := by
  obtain ⟨⟨csrf, original, replay, traffic⟩, -⟩ :=
    send_traffic outdated { apiBase := Config.defaultBase } (.post "jobs") (by decide)
  have three : (outdated.send { apiBase := Config.defaultBase }
      (.post "jobs")).2.backend.received.length = 3 := by cbv
  have received := traffic.received
  rw [received] at three ⊢
  cases csrf with
  | none => cases original <;> cases replay <;> cases three
  | some q =>
    cases original with
    | none => cases replay <;> cases three
    | some o =>
      cases replay with
      | none => cases three
      | some p =>
        obtain ⟨-, -, s, renewed, bears⟩ := traffic.replayed p rfl
        cases renewed
        exact ⟨q, o, p, rfl, (traffic.bootstrap q rfl).2.2.1, traffic.authorized _ rfl rfl o rfl,
          bears, (traffic.repeated o rfl p rfl).2.2.2⟩

end TenantLink.World
