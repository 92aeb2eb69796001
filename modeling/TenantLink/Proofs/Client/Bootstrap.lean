import Mathlib
import TenantLink.Proofs.Client.Clock
import TenantLink.Proofs.Client.Transmission

/-!
# Asking for a CSRF token

A backend that is asked for a token reacts once. How long that is waited for, and what comes of it,
hangs on the reaction alone, as long as the limit of the call does not come first: there is a token
or there is none (`bootstrapToken_offering`).
-/

namespace TenantLink

open Csrf

/-! ### What comes of waiting for a reaction -/

/-- A success that comes in time and whose body is a document with a token. Head and body have `own`
milliseconds each. -/
structure Reply.Brings (own : Nat) (reply : Reply) (token : String) : Prop where
  head : reply.headDelay < own
  success : reply.status.isSuccess = true
  body : reply.bodyDelay < own
  complete : reply.ending = .complete
  document : ∃ value, Json.read? reply.body = some value ∧
    value.member? tokenField = some (.string token)
  nonempty : token ≠ ""

/-- How long the body of a reply is waited for, `own` milliseconds at most, and what comes of it. -/
def Reply.awaitBody (own : Nat) (reply : Reply) : Nat × Except Halt Bytes :=
  if own ≤ reply.bodyDelay then (own, .error .expired)
  else
    match reply.ending with
    | .complete => (reply.bodyDelay, .ok reply.body)
    | .broken => (reply.bodyDelay, .error (.failed .network))
    | .stalled => (own, .error .expired)

namespace Reaction

/-- A reaction as it comes to who has sent a request. -/
def framed (m : Method) : Reaction → Reaction
  | .answer reply => .answer (reply.framed m)
  | other => other

def Brings (own : Nat) (token : String) : Reaction → Prop
  | .answer reply => reply.Brings own token
  | _ => False

def SetsNoCookies : Reaction → Prop
  | .answer reply => reply.headers.getAll .setCookie = []
  | _ => True

def awaitHead (own : Nat) : Reaction → Nat × Except Halt Reply
  | .silence => (own, .error .expired)
  | .hangUp delay =>
    if own ≤ delay then (own, .error .expired) else (delay, .error (.failed .network))
  | .answer reply =>
    if own ≤ reply.headDelay then (own, .error .expired) else (reply.headDelay, .ok reply)

def tokenIn (body : Bytes) : Except Halt (Option String) :=
  match Json.read? body with
  | none => .error (.failed .json)
  | some value => .ok (tokenOf value)

/-- Only the body of a success is waited for. -/
def awaitToken (own : Nat) (a : Reaction) : Nat × Except Halt (Option String) :=
  match a.awaitHead own with
  | (time, .error halt) => (time, .error halt)
  | (time, .ok reply) =>
    if reply.status.isSuccess then
      match reply.awaitBody own with
      | (more, .error halt) => (time + more, .error halt)
      | (more, .ok body) => (time + more, tokenIn body)
    else (time, .ok none)

/-- How long a client that asks for a token waits for a reaction. -/
def takes (own : Nat) (a : Reaction) : Nat := (a.awaitToken own).1

variable {own : Nat} {a : Reaction} {token : String}

theorem tokenOf_eq_some {value : Json} :
    tokenOf value = some token ↔ value.member? tokenField = some (.string token) ∧ token ≠ "" := by
  have asString (v : Json) : v.asString? = some token ↔ v = .string token := by
    cases v <;> simp [Json.asString?]
  simp [tokenOf, Option.filter_eq_some_iff, Option.bind_eq_some_iff, asString]

theorem tokenIn_eq_ok {body : Bytes} :
    tokenIn body = .ok (some token) ↔
      ∃ value, Json.read? body = some value ∧ value.member? tokenField = some (.string token) ∧
        token ≠ "" := by
  unfold tokenIn
  cases Json.read? body with
  | none => simp
  | some value => simp [tokenOf_eq_some]

theorem awaitToken_brings :
    (a.awaitToken own).2 = .ok (some token) ↔ a.Brings own token := by
  cases a with
  | silence => simp [awaitToken, awaitHead, Brings]
  | hangUp delay =>
    rw [awaitToken, awaitHead]
    by_cases late : own ≤ delay
    · simp [late, Brings]
    · simp [late, Brings]
  | answer reply =>
    have brings : (answer reply).Brings own token ↔
        reply.headDelay < own ∧ reply.status.isSuccess = true ∧ reply.bodyDelay < own ∧
          reply.ending = .complete ∧ tokenIn reply.body = .ok (some token) := by
      rw [tokenIn_eq_ok]
      constructor
      · rintro ⟨head, success, body, complete, ⟨value, read, member⟩, nonempty⟩
        exact ⟨head, success, body, complete, value, read, member, nonempty⟩
      · rintro ⟨head, success, body, complete, value, read, member, nonempty⟩
        exact ⟨head, success, body, complete, ⟨value, read, member⟩, nonempty⟩
    rw [brings, awaitToken, awaitHead]
    rcases Nat.lt_or_ge reply.headDelay own with early | late
    · rw [if_neg (Nat.not_le.mpr early)]
      dsimp only
      by_cases success : reply.status.isSuccess = true
      · rw [if_pos success, Reply.awaitBody]
        rcases Nat.lt_or_ge reply.bodyDelay own with early' | late'
        · rw [if_neg (Nat.not_le.mpr early')]
          cases reply.ending <;> simp [early, success, early']
        · simp [late', Nat.not_lt.mpr late']
      · simp [success]
    · simp [late, Nat.not_lt.mpr late]

end Reaction

namespace World

variable {α : Type} {w : World} {c : Config} {r : Request} {limit own ms : Nat} {base : Url}
  {a : Reaction}

/-- The same world whose backend reacts to the next request by `a`. -/
def offering (w : World) (a : Reaction) : World :=
  { w with backend := { w.backend with script := a :: w.backend.script } }

/-- The same world when the backend has been asked for a token. -/
def asked (w : World) (base : Url) : World :=
  { w with
    backend := { w.backend with
      received := w.backend.received ++ [w.requestFor base .get [] none] } }

/-! ### Limits of its own -/

/-- What is waited for comes, unless the limit comes first. -/
def within (w : World) (limit : Nat) (waited : Nat × Except Halt α) : Except Halt α × World :=
  if w.now + waited.1 < limit then (waited.2, w.withNow (w.now + waited.1))
  else (.error .expired, w.withNow limit)

theorem within_inTime {waited : Nat × Except Halt α} (inTime : w.now + waited.1 < limit) :
    w.within limit waited = (waited.2, w.withNow (w.now + waited.1)) := if_pos inTime

theorem within_late {waited : Nat × Except Halt α} (late : limit ≤ w.now + waited.1) :
    w.within limit waited = (.error .expired, w.withNow limit) := if_neg (Nat.not_lt.mpr late)

theorem within_expired (own : Nat) :
    w.within limit ((own, .error .expired) : Nat × Except Halt α) =
      (.error .expired, w.withNow (min limit (w.now + own))) := by
  rcases Nat.lt_or_ge (w.now + own) limit with inTime | late
  · rw [within_inTime inTime, Nat.min_eq_right (Nat.le_of_lt inTime)]
  · rw [within_late late, Nat.min_eq_left late]

theorem expire_own (begun : w.now ≤ limit) :
    w.expire (sooner (some limit) (w.now + own)) = w.withNow (min limit (w.now + own)) := by
  have later : w.now ≤ min limit (w.now + own) := Nat.le_min.mpr ⟨begun, Nat.le_add_right _ _⟩
  exact congrArg w.withNow (Nat.max_eq_right later)

theorem lt_sooner :
    w.now + ms < sooner (some limit) (w.now + own) ↔ w.now + ms < limit ∧ ms < own := by
  rw [sooner, Nat.lt_min, Nat.add_lt_add_iff_left]

/-- A pause ends of itself, at the limit of the call, or at its own. -/
theorem pause_own (begun : w.now ≤ limit) (ms : Nat) :
    (ms < own ∧ w.now + ms < limit ∧
      w.pause (sooner (some limit) (w.now + own)) ms = (.ok (), w.withNow (w.now + ms))) ∨
    (ms < own ∧ limit ≤ w.now + ms ∧
      w.pause (sooner (some limit) (w.now + own)) ms = (.error .expired, w.withNow limit)) ∨
    (own ≤ ms ∧ w.pause (sooner (some limit) (w.now + own)) ms =
      (.error .expired, w.withNow (min limit (w.now + own)))) := by
  unfold pause
  rw [expire_own begun]
  rcases Nat.lt_or_ge ms own with early | missed
  · rcases Nat.lt_or_ge (w.now + ms) limit with inTime | late
    · exact .inl ⟨early, inTime, if_pos (lt_sooner.mpr ⟨inTime, early⟩)⟩
    · refine .inr (.inl ⟨early, late, ?_⟩)
      have first : limit ≤ w.now + own := Nat.le_trans late (Nat.add_le_add_left early.le _)
      rw [if_neg fun inside => Nat.not_lt.mpr late (lt_sooner.mp inside).1, Nat.min_eq_left first]
  · refine .inr (.inr ⟨missed, if_neg fun inside => ?_⟩)
    exact Nat.not_lt.mpr missed (lt_sooner.mp inside).2

theorem readBody_own (begun : w.now ≤ limit) (reply : Reply) :
    w.readBody (sooner (some limit) (w.now + own)) reply =
      w.within limit (reply.awaitBody own) := by
  unfold readBody
  rw [Reply.awaitBody]
  rcases w.pause_own begun reply.bodyDelay with
    ⟨early, inTime, paused⟩ | ⟨early, late, paused⟩ | ⟨missed, paused⟩
  · rw [paused, if_neg (Nat.not_le.mpr early)]
    dsimp only
    cases reply.ending with
    | complete => rw [within_inTime inTime]
    | broken => rw [within_inTime inTime]
    | stalled =>
      have waited : (w.withNow (w.now + reply.bodyDelay)).expire
          (sooner (some limit) (w.now + own)) = w.withNow (min limit (w.now + own)) :=
        congrArg w.withNow (Nat.max_eq_right (Nat.le_of_lt (lt_sooner.mpr ⟨inTime, early⟩)))
      rw [within_expired, waited]
  · rw [paused, if_neg (Nat.not_le.mpr early)]
    dsimp only
    cases reply.ending with
    | complete => rw [within_late late]
    | broken => rw [within_late late]
    | stalled =>
      rw [within_late (Nat.le_trans late (Nat.add_le_add_left (Nat.le_of_lt early) _))]
  · rw [paused, if_pos missed, within_expired]

/-! ### One request -/

theorem transmit_offering (reached : w.backend.reaches base) :
    (w.offering a).transmit base .get [] none = some (a.framed .get, w.asked base) := by
  unfold transmit
  rw [if_pos (show (w.offering a).backend.reaches base from reached)]
  cases a <;> rfl

theorem framed_setsNoCookies (cookieless : a.SetsNoCookies) :
    (a.framed .get).SetsNoCookies := by
  cases a with
  | answer reply =>
    have none : reply.headers.getAll .setCookie = [] := cookieless
    show (reply.framed .get).headers.getAll .setCookie = []
    unfold Reply.framed
    split
    · split
      · rw [Headers.getAll_append, none, if_neg (by decide)]
        rfl
      · exact none
    · exact none
  | _ => trivial

theorem storeCookies_cookieless {reply : Reply} (cookieless : (Reaction.answer reply).SetsNoCookies)
    (w : World) (u : Url) : w.storeCookies u reply = w := by
  have none : reply.headers.getAll .setCookie = [] := cookieless
  rw [storeCookies, CookieJar.setAll, none]
  rfl

theorem dispatch_own (reached : w.backend.reaches base) (cookieless : a.SetsNoCookies)
    (begun : w.now ≤ limit) :
    (w.offering a).dispatch (sooner (some limit) (w.now + own)) base .get [] none =
      (w.asked base).within limit ((a.framed .get).awaitHead own) := by
  have begun' : (w.asked base).now ≤ limit := begun
  have clock : sooner (some limit) (w.now + own) = sooner (some limit) ((w.asked base).now + own) :=
    rfl
  have cookieless := framed_setsNoCookies cookieless
  unfold dispatch
  rw [transmit_offering reached, clock]
  generalize w.asked base = w, a.framed .get = received at begun' cookieless ⊢
  cases received with
  | silence =>
    dsimp only
    rw [Reaction.awaitHead, within_expired, expire_own begun']
  | hangUp delay =>
    dsimp only
    rw [Reaction.awaitHead]
    rcases w.pause_own begun' delay with
      ⟨early, inTime, paused⟩ | ⟨early, late, paused⟩ | ⟨missed, paused⟩
    · rw [paused, if_neg (Nat.not_le.mpr early), within_inTime inTime]
    · rw [paused, if_neg (Nat.not_le.mpr early), within_late late]
    · rw [paused, if_pos missed, within_expired]
  | answer reply =>
    dsimp only
    rw [Reaction.awaitHead]
    rcases w.pause_own begun' reply.headDelay with
      ⟨early, inTime, paused⟩ | ⟨early, late, paused⟩ | ⟨missed, paused⟩
    · rw [paused, if_neg (Nat.not_le.mpr early), within_inTime inTime]
      dsimp only
      rw [storeCookies_cookieless cookieless]
    · rw [paused, if_neg (Nat.not_le.mpr early), within_late late]
    · rw [paused, if_pos missed, within_expired]

theorem askForToken_own (address : c.endpoint path = .ok base)
    (reached : w.backend.reaches base) (cookieless : a.SetsNoCookies) (begun : w.now ≤ limit) :
    (w.offering a).askForToken c (some limit) =
      (w.asked base).within limit ((a.framed .get).awaitToken c.requestTimeout) := by
  have clock : (w.offering a).now = w.now := rfl
  unfold askForToken
  rw [address]
  dsimp only
  rw [clock, dispatch_own reached cookieless begun, Reaction.awaitToken]
  generalize w.asked base = w
  rcases (a.framed .get).awaitHead c.requestTimeout with ⟨time, result⟩
  rcases Nat.lt_or_ge (w.now + time) limit with inTime | late
  · rw [within_inTime inTime]
    cases result with
    | error halt => rw [within_inTime inTime]
    | ok reply =>
      dsimp only
      split
      next =>
        rw [readBody_own (Nat.le_of_lt inTime)]
        rcases reply.awaitBody c.requestTimeout with ⟨more, result⟩
        have later : (w.withNow (w.now + time)).now + more = w.now + (time + more) :=
          Nat.add_assoc _ _ _
        rcases Nat.lt_or_ge (w.now + (time + more)) limit with inTime | late
        · have ends : (w.withNow (w.now + time)).withNow ((w.withNow (w.now + time)).now + more) =
              w.withNow (w.now + (time + more)) := congrArg w.withNow later
          rw [within_inTime (later ▸ inTime), ends]
          cases result with
          | error halt => rw [within_inTime inTime]
          | ok body =>
            rw [within_inTime inTime]
            unfold Reaction.tokenIn
            dsimp only
            cases Json.read? body <;> rfl
        · rw [within_late (later ▸ late)]
          cases result with
          | error halt =>
            rw [within_late late]
            rfl
          | ok body =>
            rw [within_late late]
            rfl
      next => rw [within_inTime inTime]
  · rw [within_late late]
    dsimp only
    -- The limit has come before the head, and so before all that would come behind it.
    have later : ∀ more, limit ≤ w.now + (time + more) := fun more =>
      Nat.le_trans late (Nat.add_le_add_left (Nat.le_add_right time more) _)
    cases result with
    | error halt => rw [within_late late]
    | ok reply =>
      dsimp only
      split
      next =>
        rcases reply.awaitBody c.requestTimeout with ⟨more, halt | body⟩
        · rw [within_late (later more)]
        · rw [within_late (later more)]
      next => rw [within_late late]

/-- With the token in the cookies, if there is one. -/
def keepToken (w : World) (c : Config) : Option String → World
  | some token => w.storeToken c token
  | none => w

theorem keepToken_backend (w : World) (c : Config) (token : Option String) :
    (w.keepToken c token).backend = w.backend := by
  cases token <;> rfl

/-- Only the limit of the call stops it. Whatever else comes of asking, there is a token or none. -/
theorem bootstrapToken_offering (address : c.endpoint path = .ok base)
    (reached : w.backend.reaches base) (cookieless : a.SetsNoCookies) (begun : w.now ≤ limit) :
    (w.now + (a.framed .get).takes c.requestTimeout < limit →
      ∃ token, (w.offering a).bootstrapToken c (some limit) =
          (.ok token, ((w.asked base).withNow
            (w.now + (a.framed .get).takes c.requestTimeout)).keepToken c token) ∧
        ∀ t, token = some t ↔ (a.framed .get).Brings c.requestTimeout t) ∧
    (limit ≤ w.now + (a.framed .get).takes c.requestTimeout →
      (w.offering a).bootstrapToken c (some limit) =
        (.error .expired, (w.asked base).withNow limit)) := by
  have asks := askForToken_own address reached cookieless begun
  have brings : ∀ t, _ ↔ (a.framed .get).Brings c.requestTimeout t :=
    fun _ => Reaction.awaitToken_brings
  have clock : (w.asked base).now = w.now := rfl
  unfold bootstrapToken Reaction.takes
  rw [asks, ← clock]
  constructor
  · intro inTime
    rw [within_inTime inTime]
    cases result : ((a.framed .get).awaitToken c.requestTimeout).2 with
    | ok token =>
      simp only [result, Except.ok.injEq] at brings
      cases token with
      | some token => exact ⟨some token, rfl, brings⟩
      | none => exact ⟨none, rfl, brings⟩
    | error halt =>
      have tokenless : ∀ t, none = some t ↔ (a.framed .get).Brings c.requestTimeout t := by
        simpa [result] using brings
      refine ⟨none, ?_, tokenless⟩
      cases halt with
      | failed e => rfl
      | expired =>
        exact if_neg fun come => Nat.not_le.mpr inTime (of_decide_eq_true come)
  · intro late
    rw [within_late late]
    exact if_pos (decide_eq_true (Nat.le_refl limit))

theorem attachCsrf_offering (headers : Headers) (mutating : r.method.isMutating = true)
    (untokened : w.csrfCookie c = none) (address : c.endpoint path = .ok base)
    (reached : w.backend.reaches base) (cookieless : a.SetsNoCookies) (begun : w.now ≤ limit) :
    (w.now + (a.framed .get).takes c.requestTimeout < limit →
      ∃ token, (w.offering a).attachCsrf c limit r.method headers =
          (.ok (withCsrf headers token), ((w.asked base).withNow
            (w.now + (a.framed .get).takes c.requestTimeout)).keepToken c token) ∧
        ∀ t, token = some t ↔ (a.framed .get).Brings c.requestTimeout t) ∧
    (limit ≤ w.now + (a.framed .get).takes c.requestTimeout →
      (w.offering a).attachCsrf c limit r.method headers =
        (.error .expired, (w.asked base).withNow limit)) := by
  have untokened' : (w.offering a).csrfCookie c = none := untokened
  obtain ⟨inTime, late⟩ := bootstrapToken_offering address reached cookieless begun
  unfold attachCsrf csrfToken
  rw [if_pos mutating, untokened']
  dsimp only
  refine ⟨fun early => ?_, fun missed => ?_⟩
  · obtain ⟨token, asked, brings⟩ := inTime early
    rw [asked]
    exact ⟨token, rfl, brings⟩
  · rw [late missed]

end World

end TenantLink
