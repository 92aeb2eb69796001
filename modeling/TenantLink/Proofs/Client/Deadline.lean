import TenantLink.Proofs.Client.Attempts

/-!
# How long a call takes

Every part of a call runs under the limit of the call: the clock never goes beyond it, and where the
part expires the clock stands at it. So one call takes at most its deadline, and a call with several
attempts as many deadlines and the waits between them: `calls_in_time`.
-/

namespace TenantLink

/-- An error that is no missed deadline. -/
def ClientError.IsUntimed (e : ClientError) : Prop := ∀ span, e ≠ timeout span

theorem Config.endpoint_untimed {c : Config} {path : String} {e : ClientError}
    (h : c.endpoint path = .error e) : e.IsUntimed := by
  unfold endpoint at h
  dsimp only at h
  generalize (if isAbsolute path then _ else _ : Except UrlError Url) = url at h
  cases url <;> cases h
  intro span same
  cases same

namespace World

variable {α β : Type} {w w₁ w' : World} {c : Config} {r : Request} {limit : Nat}

/-- A part of a call has led from `w` to `w'` under its limit. Where it expires, the limit has come.
No other failure is a missed deadline: those of single steps do not get out. -/
structure Timely (limit : Nat) (w : World) (result : Except Halt α) (w' : World) : Prop where
  forward : w.now ≤ w'.now
  within : w'.now ≤ limit
  expired : result = .error .expired → w'.now = limit
  untimed : ∀ e, result = .error (.failed e) → e.IsUntimed

theorem Timely.ok {a : α} (forward : w.now ≤ w'.now) (within : w'.now ≤ limit) :
    Timely limit w (.ok a) w' where
  forward := forward
  within := within
  expired := fun none => by cases none
  untimed := fun _ none => by cases none

theorem Timely.failed {e : ClientError} (forward : w.now ≤ w'.now) (within : w'.now ≤ limit)
    (untimed : e.IsUntimed) : Timely limit w (.error (.failed e) : Except Halt α) w' where
  forward := forward
  within := within
  expired := fun none => by cases none
  untimed := fun _ same => by
    cases same
    exact untimed

/-- What stops a part stops the whole. -/
theorem Timely.stop {halt : Halt} (h : Timely limit w (.error halt : Except Halt α) w') :
    Timely limit w (.error halt : Except Halt β) w' where
  forward := h.forward
  within := h.within
  expired := fun same => h.expired (by rw [Except.error.inj same])
  untimed := fun e same => h.untimed e (by rw [Except.error.inj same])

/-- One part behind another, for which nothing but the clock counts. -/
theorem Timely.after {result : Except Halt α} (h : Timely limit w₁ result w')
    (before : w.now ≤ w₁.now) : Timely limit w result w' where
  forward := Nat.le_trans before h.forward
  within := h.within
  expired := h.expired
  untimed := h.untimed

/-! ### Transport -/

theorem expire_timely (begun : w.now ≤ limit) :
    Timely limit w (.error .expired : Except Halt α) (w.expire limit) where
  forward := Nat.le_max_left _ _
  within := Nat.max_le.mpr ⟨begun, Nat.le_refl _⟩
  expired := fun _ => Nat.max_eq_right begun
  untimed := fun _ none => by cases none

theorem pause_timely {ms : Nat} {result : Except Halt Unit} (begun : w.now ≤ limit)
    (h : w.pause limit ms = (result, w')) : Timely limit w result w' := by
  unfold pause at h
  split at h
  next inside =>
    cases h
    exact .ok (Nat.le_add_right _ _) (Nat.le_of_lt inside)
  next =>
    cases h
    exact expire_timely begun

theorem transmit_now {u : Url} {method : Method} {headers : Headers} {body : Option Bytes}
    {reaction : Reaction} (h : w.transmit u method headers body = some (reaction, w')) :
    w'.now = w.now := by
  unfold transmit at h
  split at h <;> cases h
  rfl

theorem network_untimed : ClientError.network.IsUntimed := fun _ none => by cases none

theorem dispatch_timely {u : Url} {method : Method} {headers : Headers} {body : Option Bytes}
    {result : Except Halt Reply} (begun : w.now ≤ limit)
    (h : w.dispatch limit u method headers body = (result, w')) : Timely limit w result w' := by
  unfold dispatch at h
  split at h
  case h_1 =>
    cases h
    exact .failed (Nat.le_refl _) begun network_untimed
  case h_2 w₁ sent =>
    have same := transmit_now sent
    cases h
    exact (expire_timely (same ▸ begun)).after (Nat.le_of_eq same.symm)
  case h_3 w₁ delay sent =>
    have same := transmit_now sent
    split at h <;> rename_i waited <;>
      have timely := (pause_timely (same ▸ begun) waited).after (Nat.le_of_eq same.symm) <;> cases h
    · exact .failed timely.forward timely.within network_untimed
    · exact timely.stop
  case h_4 reply w₁ sent =>
    have same := transmit_now sent
    split at h <;> rename_i waited <;>
      have timely := (pause_timely (same ▸ begun) waited).after (Nat.le_of_eq same.symm) <;> cases h
    · exact .ok timely.forward timely.within
    · exact timely.stop

theorem readBody_timely {reply : Reply} {result : Except Halt Bytes} (begun : w.now ≤ limit)
    (h : w.readBody limit reply = (result, w')) : Timely limit w result w' := by
  unfold readBody at h
  split at h
  case h_1 waited =>
    have timely := pause_timely begun waited
    cases h
    exact timely.stop
  case h_2 waited =>
    have timely := pause_timely begun waited
    split at h <;> cases h
    · exact .ok timely.forward timely.within
    · exact .failed timely.forward timely.within network_untimed
    · exact (expire_timely timely.within).after timely.forward

/-! ### CSRF tokens -/

/-- Asking for a token has limits of its own, and keeps to the outer one. -/
theorem askForToken_within {result : Except Halt (Option String)} (begun : w.now ≤ limit)
    (h : w.askForToken c (some limit) = (result, w')) : w.now ≤ w'.now ∧ w'.now ≤ limit := by
  have sooner : ∀ own, Csrf.sooner (some limit) own ≤ limit := fun own => Nat.min_le_left _ _
  have later : ∀ w₁ : World, w₁.now ≤ limit →
      w₁.now ≤ Csrf.sooner (some limit) (w₁.now + c.requestTimeout) :=
    fun w₁ begun => Nat.le_min.mpr ⟨begun, Nat.le_add_right _ _⟩
  unfold askForToken at h
  split at h
  case h_1 =>
    cases h
    exact ⟨Nat.le_refl _, begun⟩
  case h_2 =>
    split at h
    case h_1 sent =>
      have timely := dispatch_timely (later w begun) sent
      cases h
      exact ⟨timely.forward, Nat.le_trans timely.within (sooner _)⟩
    case h_2 reply w₁ sent =>
      have timely := dispatch_timely (later w begun) sent
      have inside := Nat.le_trans timely.within (sooner _)
      split at h
      case isFalse =>
        cases h
        exact ⟨timely.forward, inside⟩
      case isTrue =>
        have read : ∀ {result : Except Halt Bytes} {w₂ : World},
            w₁.readBody (Csrf.sooner (some limit) (w₁.now + c.requestTimeout)) reply =
              (result, w₂) → w.now ≤ w₂.now ∧ w₂.now ≤ limit := fun read =>
          have body := readBody_timely (later w₁ inside) read
          ⟨Nat.le_trans timely.forward body.forward, Nat.le_trans body.within (sooner _)⟩
        split at h
        case h_1 ended =>
          have times := read ended
          cases h
          exact times
        case h_2 ended =>
          have times := read ended
          split at h <;> cases h <;> exact times

/-- A limit of its own that comes leaves the call without a token, and only the outer limit stops
it. -/
theorem csrfToken_timely {result : Except Halt (Option String)} (begun : w.now ≤ limit)
    (h : w.csrfToken c (some limit) = (result, w')) : Timely limit w result w' := by
  unfold csrfToken at h
  split at h
  · cases h
    exact .ok (Nat.le_refl _) begun
  · unfold bootstrapToken at h
    split at h
    case h_1 asked =>
      obtain ⟨forward, within⟩ := askForToken_within begun asked
      cases h
      exact .ok forward within
    case h_2 w₁ asked =>
      obtain ⟨forward, within⟩ := askForToken_within begun asked
      split at h
      next come =>
        have come : limit ≤ w₁.now := of_decide_eq_true come
        cases h
        exact {
          forward := forward
          within := within
          expired := fun _ => Nat.le_antisymm within come
          untimed := fun _ none => by cases none }
      next =>
        cases h
        exact .ok forward within
    case h_3 asked =>
      obtain ⟨forward, within⟩ := askForToken_within begun asked
      cases h
      exact .ok forward within

theorem attachCsrf_timely {method : Method} {headers : Headers} {result : Except Halt Headers}
    (begun : w.now ≤ limit) (h : w.attachCsrf c limit method headers = (result, w')) :
    Timely limit w result w' := by
  unfold attachCsrf at h
  split at h
  · split at h <;> rename_i token <;> have timely := csrfToken_timely begun token <;> cases h
    · exact .ok timely.forward timely.within
    · exact timely.stop
  · cases h
    exact .ok (Nat.le_refl _) begun

/-! ### The session provider -/

theorem awaitProvider_timely {result : Except Halt Unit} (begun : w.now ≤ limit)
    (h : w.awaitProvider limit = (result, w')) : Timely limit w result w' := by
  unfold awaitProvider at h
  split at h
  · cases h
    exact .ok (Nat.le_refl _) begun
  · dsimp only at h
    split at h
    · cases h
      exact .ok (Nat.le_refl _) begun
    · exact (pause_timely (by exact begun) h).after (Nat.le_refl _)

theorem look_timely {result : Except Halt (Option Session)} (begun : w.now ≤ limit)
    (h : w.look limit = (result, w')) : Timely limit w result w' := by
  unfold look at h
  split at h <;> rename_i waited <;> have timely := awaitProvider_timely begun waited <;> cases h
  · exact timely.stop
  · exact .ok timely.forward timely.within

theorem refresh_timely {result : Except Halt RefreshOutcome} (begun : w.now ≤ limit)
    (h : w.refresh limit = (result, w')) : Timely limit w result w' := by
  unfold refresh at h
  dsimp only at h
  split at h <;> rename_i waited <;>
    have timely := awaitProvider_timely (by exact begun) waited <;> cases h
  · exact timely.stop.after (Nat.le_refl _)
  · exact .ok timely.forward timely.within

theorem authorize_untimed {headers : Headers} {session : Option Session} {e : ClientError}
    (h : authorize headers session = .error e) : e.IsUntimed := by
  unfold authorize at h
  split at h
  · cases h
  · split at h <;> cases h
    intro span none
    cases none

/-! ### A whole call -/

theorem exchange_timely {u : Url} {headers : Headers} {session : Option Session}
    {result : Except Halt (Reply × Option Session)} (begun : w.now ≤ limit)
    (h : w.exchange limit u r headers session = (result, w')) : Timely limit w result w' := by
  unfold exchange at h
  split at h
  case h_1 sent =>
    have timely := dispatch_timely begun sent
    cases h
    exact timely.stop
  case h_2 sent =>
    have first := dispatch_timely begun sent
    split at h
    case isFalse =>
      cases h
      exact .ok first.forward first.within
    case isTrue =>
      split at h
      case h_1 refreshed =>
        have timely := (refresh_timely first.within refreshed).after first.forward
        cases h
        exact timely.stop
      case h_2 refreshed =>
        have renewed := (refresh_timely first.within refreshed).after first.forward
        split at h
        case h_1 refused =>
          cases h
          exact .failed renewed.forward renewed.within (authorize_untimed refused)
        case h_2 =>
          split at h <;> rename_i replayed <;>
            have second := (dispatch_timely renewed.within replayed).after renewed.forward <;>
            cases h
          · exact second.stop
          · exact .ok second.forward second.within
      case h_3 refreshed =>
        have timely := (refresh_timely first.within refreshed).after first.forward
        cases h
        exact .ok timely.forward timely.within

theorem deliver_timely {result : Except Halt (Reply × Option Session)} (begun : w.now ≤ limit)
    (h : w.deliver c limit r = (result, w')) : Timely limit w result w' := by
  unfold deliver at h
  split at h
  case h_1 refused =>
    cases h
    exact .failed (Nat.le_refl _) begun (Config.endpoint_untimed refused)
  case h_2 =>
    split at h
    case h_1 looked =>
      have timely := look_timely begun looked
      cases h
      exact timely.stop
    case h_2 looked =>
      have found := look_timely begun looked
      split at h
      case h_1 refused =>
        cases h
        exact .failed found.forward found.within (authorize_untimed refused)
      case h_2 =>
        split at h
        case h_1 attached =>
          have timely := (attachCsrf_timely found.within attached).after found.forward
          cases h
          exact timely.stop
        case h_2 attached =>
          have ready := (attachCsrf_timely found.within attached).after found.forward
          exact (exchange_timely ready.within h).after ready.forward

theorem receive_timely {result : Except Halt Response} (h : w.receive c r = (result, w')) :
    Timely (w.now + deadline c r) w result w' := by
  have begun : w.now ≤ w.now + deadline c r := Nat.le_add_right _ _
  unfold receive at h
  dsimp only at h
  split at h
  case h_1 delivered =>
    have timely := deliver_timely begun delivered
    cases h
    exact timely.stop
  case h_2 delivered =>
    have given := deliver_timely begun delivered
    split at h <;> rename_i read <;>
      have timely := (readBody_timely given.within read).after given.forward <;> cases h
    · exact timely.stop
    · exact .ok timely.forward timely.within

theorem release_untimed {session : Option Session} {raw : Response} {e : ClientError}
    (h : release c session raw = .error e) : e.IsUntimed := by
  unfold release at h
  split at h
  · split at h <;> cases h
    intro span none
    cases none
  · cases h

theorem warnRateLimit_now (w : World) (status : Status) : (w.warnRateLimit status).now = w.now := by
  unfold warnRateLimit
  split <;> rfl

/-- A call ends within its deadline. When the deadline is what it fails with, it has just come. -/
theorem send_timely (w : World) (c : Config) (r : Request) :
    w.now ≤ (w.send c r).2.now ∧ (w.send c r).2.now ≤ w.now + deadline c r ∧
      ∀ span, (w.send c r).1 = .error (.timeout span) →
        span = timeLimit c r ∧ (w.send c r).2.now = w.now + deadline c r := by
  cases received : w.receive c r with
  | mk result w₁ =>
    have timely := receive_timely received
    cases result with
    | error halt =>
      rw [send_of_halt received]
      refine ⟨timely.forward, timely.within, fun span missed => ?_⟩
      cases halt with
      | expired =>
        cases missed
        exact ⟨rfl, timely.expired rfl⟩
      | failed e => exact (timely.untimed e rfl span (Except.error.inj missed)).elim
    | ok raw =>
      rw [send_of_receive received]
      dsimp only
      rw [warnRateLimit_now]
      exact ⟨timely.forward, timely.within,
        fun span missed => (release_untimed missed span rfl).elim⟩

/-! ### Several attempts -/

/-- The waits behind the first `n` attempts. -/
def waitTimes (c : Config) : Nat → Nat
  | 0 => 0
  | n + 1 => waitTimes c n + waitTime c n

theorem waitTimes_mono (c : Config) {m n : Nat} (le : m ≤ n) : waitTimes c m ≤ waitTimes c n := by
  induction le with
  | refl => exact Nat.le_refl _
  | step _ ih =>
    rw [waitTimes]
    exact Nat.le_add_right_of_le ih

theorem attemptStart_now_le (w : World) (c : Config) (r : Request) (i : Nat) :
    (w.attemptStart c r i).now ≤ w.now + i * deadline c r + waitTimes c i := by
  induction i with
  | zero => exact Nat.le_add_right _ _
  | succ i ih =>
    have sent := (send_timely (w.attemptStart c r i) c r).2.1
    rw [waitTimes, Nat.succ_mul, attemptStart]
    dsimp only
    omega

/-- One call takes no longer than its deadline; if it fails because a deadline was missed, it names
its own and has taken just as long. Several attempts take no longer than as many deadlines and the
waits between them. The deadline is the time that the call has, up to a whole millisecond. -/
theorem calls_in_time (w : World) (c : Config) (r : Request) (maxAttempts : Nat) :
    (∀ d, timeLimit c r = .ofMillis d → deadline c r = d) ∧
    (w.send c r).2.now ≤ w.now + deadline c r ∧
    (∀ span, (w.send c r).1 = .error (.timeout span) →
      span = timeLimit c r ∧ (w.send c r).2.now = w.now + deadline c r) ∧
    (w.sendWithRetry c r maxAttempts).2.now ≤
      w.now + max maxAttempts 1 * deadline c r + waitTimes c (max maxAttempts 1 - 1) := by
  obtain ⟨-, within, missed⟩ := send_timely w c r
  refine ⟨fun d whole => by rw [deadline, whole, Span.ceilMillis_ofMillis], within, missed, ?_⟩
  obtain ⟨k, makes⟩ := sendWithRetry_makes w c r maxAttempts
  have started := attemptStart_now_le w c r (k - 1)
  have ended := (send_timely (w.attemptStart c r (k - 1)) c r).2.1
  have last : (w.sendWithRetry c r maxAttempts).2.now = (w.attempt c r (k - 1)).2.now := by
    rw [makes.world]
  have waits := waitTimes_mono c (Nat.sub_le_sub_right makes.le_limit 1)
  have calls : k * deadline c r ≤ max maxAttempts 1 * deadline c r :=
    Nat.mul_le_mul_right _ makes.le_limit
  have split : k * deadline c r = (k - 1) * deadline c r + deadline c r := by
    rw [← Nat.succ_mul, Nat.succ_eq_add_one, Nat.sub_add_cancel makes.one_le]
  calc (w.sendWithRetry c r maxAttempts).2.now
      = (w.attempt c r (k - 1)).2.now := last
    _ ≤ (w.attemptStart c r (k - 1)).now + deadline c r := ended
    _ ≤ w.now + k * deadline c r + waitTimes c (k - 1) := by omega
    _ ≤ w.now + max maxAttempts 1 * deadline c r + waitTimes c (max maxAttempts 1 - 1) := by omega

end World

end TenantLink
