import TenantLink.Proofs.Client.Isolation
import TenantLink.Proofs.Client.Unseen

/-!
# Worlds with a past

Requests that were sent before, waits that are over and toasts that were forgotten do not matter to
a call: behind them it comes to the same, in a world with the same past.
-/

namespace TenantLink

theorem Backend.receive_behind (b : Backend) (before : List SentRequest) (q : SentRequest) :
    { b with received := before ++ b.received }.receive q =
      ((b.receive q).1,
        { (b.receive q).2 with received := before ++ (b.receive q).2.received }) := by
  obtain ⟨origin, online, script, received⟩ := b
  rcases script with _ | ⟨_ | _ | _, rest⟩ <;> simp [receive, List.append_assoc]

namespace World

structure Past where
  requests : List SentRequest
  waits : List RetryWait
  /-- The number of toasts that were shown, and have been forgotten. -/
  toasts : Nat

def after (p : Past) (w : World) : World :=
  { w with
    backend := { w.backend with received := p.requests ++ w.backend.received }
    waits := p.waits ++ w.waits
    toasts := w.toasts.after p.toasts }

variable (p : Past) (w : World) (c : Config) (limit : Nat) (r : Request)

@[simp]
theorem after_now : (w.after p).now = w.now := rfl

@[simp]
theorem after_wall : (w.after p).wall = w.wall := rfl

@[simp]
theorem after_provider : (w.after p).provider = w.provider := rfl

@[simp]
theorem after_toasts : (w.after p).toasts = w.toasts.after p.toasts := rfl

theorem after_setProvider (provider : SessionProvider) :
    { w.after p with provider } = after p { w with provider } := rfl

theorem after_unseen : Unseen (after p) where
  now := fun _ => rfl
  wall := fun _ => rfl
  jar := fun _ => rfl
  setNow := fun _ _ => rfl
  setJar := fun _ _ => rfl
  transmit := by
    intro w u method headers body
    unfold transmit
    by_cases reached : w.backend.reaches u
    · rw [if_pos reached, if_pos (show (w.after p).backend.reaches u from reached)]
      have sent := w.backend.receive_behind p.requests
        { method, target := u.target, headers := w.withCookies u headers, body }
      have backend : (w.after p).backend.receive
          { method, target := u.target, headers := w.withCookies u headers, body } = _ := sent
      have cookies : (w.after p).withCookies u headers = w.withCookies u headers := rfl
      dsimp only
      rw [cookies, backend]
      rfl
    · rw [if_neg reached, if_neg (show ¬(w.after p).backend.reaches u from reached)]
      rfl

theorem awaitProvider_after :
    (w.after p).awaitProvider limit = carry (after p) (w.awaitProvider limit) := by
  unfold awaitProvider
  rw [after_provider]
  rcases w.provider.delays with _ | ⟨delay, delays⟩
  · rfl
  · dsimp only
    by_cases atOnce : delay = 0
    · rw [if_pos atOnce, if_pos atOnce]
      rfl
    · rw [if_neg atOnce, if_neg atOnce]
      rw [after_setProvider, (after_unseen p).pause]

theorem look_after : (w.after p).look limit = carry (after p) (w.look limit) := by
  unfold look
  rw [awaitProvider_after]
  rcases w.awaitProvider limit with ⟨_ | _, w₁⟩ <;> rfl

theorem refresh_after : (w.after p).refresh limit = carry (after p) (w.refresh limit) := by
  unfold refresh
  dsimp only
  rw [after_provider, after_setProvider, awaitProvider_after]
  rcases awaitProvider _ limit with ⟨_ | _, w₁⟩ <;> rfl

theorem exchange_after (u : Url) (headers : Headers) (session : Option Session) :
    (w.after p).exchange limit u r headers session =
      carry (after p) (w.exchange limit u r headers session) := by
  unfold exchange
  rw [(after_unseen p).dispatch]
  rcases w.dispatch limit u r.method headers r.body with ⟨_ | reply, w₁⟩
  · rfl
  · simp only [carry]
    by_cases expired : reply.status.isAuthExpired && !r.skipAuth
    · rw [if_pos expired, if_pos expired, refresh_after]
      rcases w₁.refresh limit with ⟨_ | outcome, w₂⟩
      · rfl
      · cases outcome with
        | renewed s =>
          simp only [carry]
          cases authorize headers (some s) with
          | error e => rfl
          | ok headers =>
            dsimp only
            rw [(after_unseen p).dispatch]
            rcases w₂.dispatch limit u r.method headers r.body with ⟨_ | _, w₃⟩ <;> rfl
        | _ => rfl
    · rw [if_neg expired, if_neg expired]

theorem deliver_after : (w.after p).deliver c limit r = carry (after p) (w.deliver c limit r) := by
  unfold deliver
  cases c.endpoint r.path with
  | error e => rfl
  | ok u =>
    dsimp only
    rw [look_after]
    rcases w.look limit with ⟨_ | session, w₁⟩
    · rfl
    · simp only [carry]
      cases authorize r.headers (if r.skipAuth then none else session) with
      | error e => rfl
      | ok headers =>
        dsimp only
        rw [(after_unseen p).attachCsrf]
        rcases w₁.attachCsrf c limit r.method headers with ⟨_ | headers, w₂⟩
        · rfl
        · exact exchange_after p w₂ limit r u headers session

theorem warnRateLimit_after (status : Status) :
    (w.after p).warnRateLimit status = (w.warnRateLimit status).after p := by
  unfold warnRateLimit
  split
  · rw [after_toasts, after_wall, ToastStore.warnRateLimit_after]
    rfl
  · rfl

theorem conclude_after (reply : Reply) (session : Option Session) :
    (w.after p).conclude c limit reply session =
      carry (after p) (w.conclude c limit reply session) := by
  unfold conclude
  rw [(after_unseen p).readBody]
  rcases w.readBody limit reply with ⟨_ | body, w₁⟩
  · rfl
  · simp only [carry]
    rw [warnRateLimit_after]
    cases release c session { status := reply.status, headers := reply.headers, body } <;> rfl

theorem send_after : (w.after p).send c r = carry (after p) (w.send c r) := by
  unfold send sendWithin
  rw [after_now, deliver_after]
  rcases w.deliver c (w.now + deadline c r) r with ⟨halt | ⟨reply, session⟩, w₁⟩
  · cases halt <;> rfl
  · simp only [carry]
    rw [conclude_after]
    rcases w₁.conclude c (w.now + deadline c r) reply session with ⟨halt | response, w₂⟩
    · cases halt <;> rfl
    · rfl

/-! ### Attempts -/

theorem backOff_after (attempt : Nat) (cause : RetryCause) :
    (w.after p).backOff c attempt cause = (w.backOff c attempt cause).after p := by
  simp only [backOff, after, List.append_assoc]

theorem reportForbidden_after (response : Response) :
    (w.after p).reportForbidden response = (w.reportForbidden response).after p := by
  unfold reportForbidden
  split
  · rw [after_toasts, after_wall, ToastStore.add_after]
    rfl
  · rfl

theorem sendFrom_after (attempt left : Nat) (last : Option ClientError) :
    (w.after p).sendFrom c r attempt last left =
      carry (after p) (w.sendFrom c r attempt last left) := by
  induction left generalizing w attempt last with
  | zero => rfl
  | succ left ih =>
    unfold sendFrom
    rw [send_after]
    rcases w.send c r with ⟨e | response, w₁⟩ <;> simp only [carry]
    · have waited : (if left = 0 then w₁.after p else (w₁.after p).backOff c attempt (.failed e)) =
          (if left = 0 then w₁ else w₁.backOff c attempt (.failed e)).after p := by
        rw [backOff_after]
        split <;> rfl
      rw [waited, ih]
      split <;> rfl
    · rw [backOff_after, ih, reportForbidden_after]
      split <;> rfl

theorem resolveToken_after : (w.after p).resolveToken c = carry (after p) (w.resolveToken c) := by
  unfold resolveToken
  rw [(after_unseen p).csrfToken]
  rcases w.csrfToken c none with ⟨_ | _, w₁⟩ <;> rfl

end World

/-- A call comes to the same whatever has happened before it. -/
theorem Call.run_after (call : Call) (p : World.Past) (w : World) (c : Config) :
    call.run (w.after p) c = World.carry (World.after p) (call.run w c) := by
  rcases call with r | ⟨r, maxAttempts⟩ | r | path | path | ⟨path, value⟩ | ⟨path, value⟩
  · exact World.send_after p w c r
  · exact World.sendFrom_after p w c r 0 _ none
  · exact World.sendFrom_after p w c r 0 _ none
  · exact World.sendFrom_after p w c _ 0 _ none
  · exact World.sendFrom_after p w c _ 0 _ none
  · exact World.sendFrom_after p w c _ 0 _ none
  · exact World.sendFrom_after p w c _ 0 _ none

end TenantLink
