import Mathlib
import TenantLink.Proofs.Client.Bootstrap
import TenantLink.Proofs.Client.Deadline
import TenantLink.Proofs.Client.Trace

/-!
# Calls that need a CSRF token

Whatever the backend says when it is asked for a token, the call goes on: with the token if there is
one, and otherwise as it was. Without a token nothing but the time that the answer took is left of
it: `bootstrap_failsOpen`.
-/

namespace TenantLink.World

open Csrf

variable {w w' : World} {c : Config} {r : Request} {limit : Nat} {base : Url} {a : Reaction}

/-! ### Before the token -/

theorem look_offering (w : World) (limit : Nat) (a : Reaction) :
    (w.offering a).look limit = ((w.look limit).1, (w.look limit).2.offering a) := by
  unfold look awaitProvider
  rw [show (w.offering a).provider.delays = w.provider.delays from rfl]
  rcases w.provider.delays with _ | ⟨delay, delays⟩
  · rfl
  · dsimp only
    by_cases atOnce : delay = 0
    · rw [if_pos atOnce, if_pos atOnce]
      rfl
    · rw [if_neg atOnce, if_neg atOnce]
      unfold pause
      by_cases early : w.now + delay < limit
      · rw [if_pos early, if_pos (show (w.offering a).now + delay < limit from early)]
        rfl
      · rw [if_neg early, if_neg (show ¬(w.offering a).now + delay < limit from early)]
        rfl

/-- A call has come to its address `u` and to the header fields with which it is sent, in `w₁`. -/
structure Ready (w : World) (c : Config) (limit : Nat) (r : Request) (u : Url)
    (session : Option Session) (headers : Headers) (w₁ : World) : Prop where
  address : c.endpoint r.path = .ok u
  looked : w.look limit = (.ok session, w₁)
  authorized : authorize r.headers (if r.skipAuth then none else session) = .ok headers

/-- A call that does not come so far stops, whatever the backend would react. -/
theorem ready_or_stops (w : World) (c : Config) (limit : Nat) (r : Request) :
    (∃ u session headers w₁, w.Ready c limit r u session headers w₁) ∨
      ∃ (halt : Halt) (w' : World),
        ∀ a, (w.offering a).deliver c limit r = (.error halt, w'.offering a) := by
  unfold deliver
  cases address : c.endpoint r.path with
  | error e => exact .inr ⟨_, w, fun a => rfl⟩
  | ok u =>
    rcases looked : w.look limit with ⟨halt | session, w₁⟩
    · refine .inr ⟨halt, w₁, fun a => ?_⟩
      rw [look_offering, looked]
    · cases authorized : authorize r.headers (if r.skipAuth then none else session) with
      | error e =>
        refine .inr ⟨.failed e, w₁, fun a => ?_⟩
        rw [look_offering, looked]
        dsimp only
        rw [authorized]
      | ok headers => exact .inl ⟨u, session, headers, w₁, address, looked, authorized⟩

/-! ### Behind the token -/

/-- What is exchanged begins with the request itself. -/
theorem exchange_sends {u : Url} (reached : w.backend.reaches u) (limit : Nat) (r : Request)
    (headers : Headers) (session : Option Session) :
    ∃ more, (w.exchange limit u r headers session).2.backend.received =
      w.backend.received ++ w.requestFor u r.method headers r.body :: more := by
  rcases exchanged : w.exchange limit u r headers session with ⟨result, w'⟩
  obtain ⟨answer, w₁, sent, next⟩ := exchange_dispatches exchanged
  obtain ⟨original, backend, request, sends⟩ := dispatch_backend sent
  cases original with
  | none =>
    rw [reached] at sends
    cases sends
  | some q =>
    obtain rfl := request q rfl
    have received : w₁.backend.received =
        w.backend.received ++ [w.requestFor u r.method headers r.body] := by
      rw [backend]
      exact (Backend.receiveAll_frame _ _).1
    rcases next with ⟨silent, -⟩ | ⟨reply, w₂, s, headers', again, -, -, -, renewed, -, replayed⟩
    · refine ⟨[], ?_⟩
      dsimp only
      rw [silent.backend, received]
    · obtain ⟨replay, backend', -, -⟩ := dispatch_backend replayed
      refine ⟨replay.toList, ?_⟩
      dsimp only
      rw [backend', (Backend.receiveAll_frame _ _).1, (refresh_silent renewed).backend, received,
        List.append_assoc]
      rfl

theorem withCsrf_of_legal {headers : Headers} {token : String} {v : HeaderValue}
    (legal : HeaderValue.ofText? token = some v) :
    withCsrf headers (some token) = headers.insert .csrfToken v := by
  rw [withCsrf, Option.bind_some, legal]

theorem withCsrf_of_illegal {headers : Headers} {token : Option String}
    (illegal : ∀ t ∈ token, HeaderValue.ofText? t = none) : withCsrf headers token = headers := by
  cases token with
  | none => rfl
  | some t => rw [withCsrf, Option.bind_some, illegal t rfl]

section Asking

variable {u : Url} {session : Option Session} {headers : Headers} {w₁ : World}
  (mutating : r.method.isMutating = true) (untokened : w.csrfCookie c = none)
  (address : c.endpoint path = .ok base) (reached : w.backend.reaches base)

theorem Ready.deliver_of_attached (ready : w.Ready c limit r u session headers w₁)
    {fields : Headers} {w₂ : World}
    (attached : (w₁.offering a).attachCsrf c limit r.method headers = (.ok fields, w₂)) :
    (w.offering a).deliver c limit r = w₂.exchange limit u r fields session := by
  unfold deliver
  rw [ready.address]
  dsimp only
  rw [look_offering, ready.looked]
  dsimp only
  rw [ready.authorized]
  dsimp only
  rw [attached]

theorem Ready.deliver_of_halt (ready : w.Ready c limit r u session headers w₁)
    {halt : Halt} {w₂ : World}
    (stopped : (w₁.offering a).attachCsrf c limit r.method headers = (.error halt, w₂)) :
    (w.offering a).deliver c limit r = (.error halt, w₂) := by
  unfold deliver
  rw [ready.address]
  dsimp only
  rw [look_offering, ready.looked]
  dsimp only
  rw [ready.authorized]
  dsimp only
  rw [stopped]

include mutating untokened address reached

/-- The call goes on behind the reaction, unless its limit comes first. -/
theorem Ready.goes_on (ready : w.Ready c limit r u session headers w₁)
    (cookieless : a.SetsNoCookies) (begun : w.now ≤ limit) :
    (w₁.now + (a.framed .get).takes c.requestTimeout < limit →
      ∃ token w₂, (∀ t, token = some t ↔ (a.framed .get).Brings c.requestTimeout t) ∧
        w₂ = ((w₁.asked base).withNow
          (w₁.now + (a.framed .get).takes c.requestTimeout)).keepToken c token ∧
        (w.offering a).deliver c limit r =
          w₂.exchange limit u r (withCsrf headers token) session) ∧
    (limit ≤ w₁.now + (a.framed .get).takes c.requestTimeout →
      ((w.offering a).deliver c limit r).1 = .error .expired) := by
  have silent := look_silent ready.looked
  have untokened : w₁.csrfCookie c = none := by
    rwa [csrfCookie, silent.jar, (look_keeps ready.looked).wall]
  have reached : w₁.backend.reaches base := by rwa [silent.backend]
  obtain ⟨inTime, late⟩ := attachCsrf_offering headers mutating untokened address
    reached cookieless (look_timely begun ready.looked).within
  refine ⟨fun early => ?_, fun missed => ?_⟩
  · obtain ⟨token, attached, brings⟩ := inTime early
    exact ⟨token, _, brings, rfl, ready.deliver_of_attached attached⟩
  · rw [ready.deliver_of_halt (late missed)]

/-- The backend receives the request for a token, and behind it the call. -/
theorem Ready.sends (ready : w.Ready c (w.now + deadline c r) r u session headers w₁)
    (cookieless : a.SetsNoCookies) (there : w.backend.reaches u)
    (inTime : w₁.now + (a.framed .get).takes c.requestTimeout < w.now + deadline c r) :
    ∃ token w₂ more, (∀ t, token = some t ↔ (a.framed .get).Brings c.requestTimeout t) ∧
      ((w.offering a).send c r).2.backend.received =
        w.backend.received ++ w₁.requestFor base .get [] none ::
          requestFor w₂ u r.method (withCsrf headers token) r.body :: more := by
  obtain ⟨token, w₂, brings, asked, delivers⟩ := (ready.goes_on mutating untokened address reached
    cookieless (Nat.le_add_right _ _)).1 inTime
  have silent := (look_silent ready.looked).backend
  have backend : w₂.backend = (w₁.asked base).backend := by
    rw [asked, keepToken_backend]
    rfl
  have there : w₂.backend.reaches u := by
    have same : (w₁.asked base).backend.reaches u = w₁.backend.reaches u := rfl
    rwa [backend, same, silent]
  obtain ⟨more, received⟩ :=
    exchange_sends there (w.now + deadline c r) r (withCsrf headers token) session
  refine ⟨token, w₂, more, brings, ?_⟩
  have start : (w.offering a).now = w.now := rfl
  have csrf : (w₁.asked base).backend.received =
      w₁.backend.received ++ [w₁.requestFor base .get [] none] := rfl
  rw [(send_delivers _ c r).1, start, delivers, received, backend, csrf, silent, List.append_assoc]
  rfl

/-- Without a token nothing but the clock tells what the reaction was. -/
theorem Ready.tokenless (ready : w.Ready c limit r u session headers w₁)
    (cookieless : a.SetsNoCookies) (begun : w.now ≤ limit)
    (none : ∀ token, ¬(a.framed .get).Brings c.requestTimeout token) :
    ((w.offering a).deliver c limit r).1 = .error .expired ∨
      ∃ now, (w.offering a).deliver c limit r =
        ((w₁.asked base).withNow now).exchange limit u r headers session := by
  obtain ⟨inTime, late⟩ := ready.goes_on mutating untokened address reached cookieless begun
  rcases Nat.lt_or_ge (w₁.now + (a.framed .get).takes c.requestTimeout) limit with early | missed
  · obtain ⟨token, w₂, brings, rfl, delivers⟩ := inTime early
    have absent : token = .none :=
      Option.eq_none_iff_forall_ne_some.mpr fun t some => none t ((brings t).mp some)
    subst absent
    exact .inr ⟨_, delivers⟩
  · exact .inl (late missed)

theorem tokenless_agrees {b : Reaction} (cookieless : a.SetsNoCookies)
    (cookieless' : b.SetsNoCookies) (begun : w.now ≤ limit)
    (none : ∀ token, ¬(a.framed .get).Brings c.requestTimeout token)
    (none' : ∀ token, ¬(b.framed .get).Brings c.requestTimeout token)
    (ready : w.Ready c limit r u session headers w₁) :
    Agree ((w.offering a).deliver c limit r) ((w.offering b).deliver c limit r) := by
  rcases ready.tokenless mutating untokened address reached cookieless begun none with
    expired | ⟨now, delivers⟩
  · exact .of_expired (.inl expired)
  · rcases ready.tokenless mutating untokened address reached cookieless' begun none' with
      expired | ⟨now', delivers'⟩
    · exact .of_expired (.inr expired)
    · rw [delivers, delivers']
      exact exchange_agrees ((w₁.asked base).withNow now) now' limit r u headers session

end Asking

/-- A call that stops before it asks for a token leaves the world as it is but for its script. -/
theorem send_of_stops {halt : Halt}
    (stops : ∀ a, (w.offering a).deliver c (w.now + deadline c r) r = (.error halt, w'.offering a))
    (a b : Reaction) :
    ((w.offering a).send c r).1 = ((w.offering b).send c r).1 ∧
      ((w.offering a).send c r).2 = w'.offering a := by
  have start : ∀ a, (w.offering a).now = w.now := fun _ => rfl
  unfold send sendWithin
  rw [start a, start b, stops a, stops b]
  cases halt <;> exact ⟨rfl, rfl⟩

theorem offering_direct (direct : w.backend.IsDirect) (final : a.isRedirect = false) :
    (w.offering a).backend.IsDirect := List.forall_mem_cons.mpr ⟨final, direct⟩

/-- Whatever the backend reacts with when it is asked for a token, short of a redirect, the call
itself is sent, with the token if the reaction brings one in time that can stand in a header field,
and otherwise with the fields that it has without one. And of two reactions that bring no token a
call that keeps its deadline ends alike. -/
theorem bootstrap_failsOpen (direct : w.backend.IsDirect) (mutating : r.method.isMutating = true)
    (untokened : w.csrfCookie c = none) (gives : w.GivesTokens c) :
    (∀ (a : Reaction) (u : Url) (session : Option Session) (headers : Headers) (w₁ : World),
      a.isRedirect = false → a.SetsNoCookies →
      w.Ready c (w.now + deadline c r) r u session headers w₁ → w.backend.reaches u →
      w₁.now + (a.framed .get).takes c.requestTimeout < w.now + deadline c r →
      ∃ csrf w₂ fields more,
        ((w.offering a).send c r).2.backend.received =
          w.backend.received ++ csrf :: requestFor w₂ u r.method fields r.body :: more ∧
        (∀ i, ((w.offering a).backend.reactionAt i).isRedirect = false) ∧
        csrf.method = .get ∧ (∃ base, c.endpoint path = .ok base ∧ csrf.target = base.target) ∧
        (∀ token v, (a.framed .get).Brings c.requestTimeout token →
          HeaderValue.ofText? token = some v → fields = headers.insert .csrfToken v) ∧
        ((∀ token, (a.framed .get).Brings c.requestTimeout token →
          HeaderValue.ofText? token = none) → fields = headers)) ∧
    ∀ a b : Reaction, a.isRedirect = false → b.isRedirect = false →
      a.SetsNoCookies → b.SetsNoCookies →
      (∀ token, ¬(a.framed .get).Brings c.requestTimeout token) →
      (∀ token, ¬(b.framed .get).Brings c.requestTimeout token) →
      (∀ span, ((w.offering a).send c r).1 ≠ .error (.timeout span)) →
      (∀ span, ((w.offering b).send c r).1 ≠ .error (.timeout span)) →
      ((w.offering a).send c r).1 = ((w.offering b).send c r).1 ∧
        ((w.offering a).send c r).2.toasts = ((w.offering b).send c r).2.toasts ∧
        ((w.offering a).send c r).2.jar = ((w.offering b).send c r).2.jar := by
  obtain ⟨base, address, reached⟩ := gives
  constructor
  · intro a u session headers w₁ final cookieless ready there inTime
    obtain ⟨token, w₂, more, brings, received⟩ :=
      ready.sends mutating untokened address reached cookieless there inTime
    refine ⟨_, w₂, _, more, received, (offering_direct direct final).reactionAt, rfl,
      ⟨base, address, rfl⟩, ?_, ?_⟩
    · intro t v brought legal
      rw [(brings t).mpr brought, withCsrf_of_legal legal]
    · intro illegal
      exact withCsrf_of_illegal fun t member => illegal t ((brings t).mp member)
  · intro a b _ _ cookieless cookieless' tokenless tokenless' kept kept'
    rcases w.ready_or_stops c (w.now + deadline c r) r with
      ⟨u, session, headers, w₁, ready⟩ | ⟨halt, w', stops⟩
    · have start : (w.offering a).now = (w.offering b).now := rfl
      have delivered := tokenless_agrees mutating untokened address reached cookieless cookieless'
        (Nat.le_add_right _ _) tokenless tokenless' ready
      obtain ⟨result, now, alike⟩ := send_agrees start delivered kept kept'
      exact ⟨result, by rw [alike]; rfl, by rw [alike]; rfl⟩
    · obtain ⟨result, left⟩ := send_of_stops stops a b
      obtain ⟨-, left'⟩ := send_of_stops stops b a
      exact ⟨result, by rw [left, left']; rfl, by rw [left, left']; rfl⟩

/-- A world without cookies, where the backend answers 404 in the end. -/
def bare : World :=
  { wall := ⟨0⟩, backend := { origin := Config.defaultBase }, provider := {} }

def jobsUrl : Url := { Config.defaultBase with path := .segments ["api".toList, "jobs".toList] }

def csrfUrl : Url := { Config.defaultBase with path := .segments ["api".toList, "csrf".toList] }

def giving (token : String) : Reaction :=
  .answer {
    status := .ok
    chunks := [Utf8.encode ("\x7b\"csrf_token\": \"" ++ token ++ "\"\x7d")] }

def badGateway : Reaction := .answer { status := ⟨502, by decide⟩ }

/-- A token comes with the call; a refusal and a lost connection make no difference. -/
theorem post_behind_bootstrap :
    (∃ csrf w₂ more,
      ((bare.offering (giving "t")).send { apiBase := Config.defaultBase }
          (.post "jobs")).2.backend.received =
        csrf :: requestFor w₂ jobsUrl .post [(.csrfToken, ⟨Utf8.encode "t", by decide⟩)] none ::
          more) ∧
    ((bare.offering badGateway).send { apiBase := Config.defaultBase }
        (.post "jobs")).1 =
      ((bare.offering (.hangUp 0)).send { apiBase := Config.defaultBase }
        (.post "jobs")).1 := by
  have gives : bare.GivesTokens { apiBase := Config.defaultBase } :=
    ⟨csrfUrl, by cbv, by cbv⟩
  obtain ⟨sends, alike⟩ := bootstrap_failsOpen (w := bare)
    (c := { apiBase := Config.defaultBase }) (r := .post "jobs") (by decide) rfl (by cbv) gives
  constructor
  · have ready : bare.Ready { apiBase := Config.defaultBase } 30000 (.post "jobs") jobsUrl
        none [] bare := ⟨by cbv, rfl, rfl⟩
    have brings : ((giving "t").framed .get).Brings 30000 "t" := {
      head := by decide
      success := by decide
      body := by decide
      complete := rfl
      document := ⟨.object [("csrf_token", .string "t")], by cbv, by cbv⟩
      nonempty := by decide }
    obtain ⟨csrf, w₂, fields, more, received, -, -, -, legal, -⟩ :=
      sends (giving "t") jobsUrl none [] bare rfl rfl ready (by cbv) (by cbv)
    rw [legal "t" ⟨Utf8.encode "t", by decide⟩ brings rfl] at received
    exact ⟨csrf, w₂, more, received⟩
  · have kept (a : Reaction) (ok : ((bare.offering a).send
        { apiBase := Config.defaultBase } (.post "jobs")).1.isOk = true) (span : Span) :
        ((bare.offering a).send { apiBase := Config.defaultBase } (.post "jobs")).1 ≠
          .error (.timeout span) := by
      intro missed
      rw [missed] at ok
      cases ok
    exact (alike badGateway (.hangUp 0) rfl rfl rfl trivial
      (fun _ brings => absurd brings.success (by decide)) (fun _ brings => brings)
      (kept _ (by cbv)) (kept _ (by cbv))).1

end TenantLink.World
