import TenantLink.Proofs.Client.Frame

/-!
# Receiving and releasing

A call first receives an answer with its whole body and then decides what is shown of it.
`send_of_receive` takes a call apart into these two, and says which session the decision goes by.
-/

namespace TenantLink

/-- The session that a call goes by, told from the session provider in front of it and behind it:
the one that was renewed on the way, if one was, and otherwise the one that the call found. -/
def SessionProvider.governing (before after : SessionProvider) : Option Session :=
  if after.asked = before.asked then before.look.1
  else
    match before.look.2.refresh.1 with
    | .renewed s => some s
    | _ => before.look.1

namespace SessionProvider

theorem look_asked (p : SessionProvider) : p.look.2.asked = p.asked := by
  unfold look
  split <;> rfl

theorem look_outcomes (p : SessionProvider) : p.look.2.outcomes = p.outcomes := by
  unfold look
  split <;> rfl

theorem refresh_asked (p : SessionProvider) : p.refresh.2.asked = p.asked := by
  unfold refresh
  split <;> rfl

theorem look_delays (p : SessionProvider) (delays : List Nat) :
    ({ p with delays } : SessionProvider).look.1 = p.look.1 := by
  cases p with
  | mk current changes => cases changes <;> rfl

/-- What a refresh comes to hangs on the outcomes alone. -/
theorem refresh_eq_of_outcomes {p q : SessionProvider} (same : p.outcomes = q.outcomes) :
    p.refresh.1 = q.refresh.1 := by
  unfold refresh
  rw [same]
  split <;> rfl

end SessionProvider

namespace World

variable {w w' : World} {c : Config} {r : Request}

theorem look_spec {limit : Nat} {session : Option Session}
    (h : w.look limit = (.ok session, w')) :
    session = w.provider.look.1 ∧ w'.provider.asked = w.provider.asked ∧
      w'.provider.outcomes = w.provider.outcomes := by
  unfold look at h
  split at h
  · cases h
  · rename_i w₁ waited
    obtain ⟨-, delays, provider⟩ := awaitProvider_frame waited
    cases h
    rw [SessionProvider.look_asked, SessionProvider.look_outcomes, provider]
    exact ⟨SessionProvider.look_delays _ _, rfl, rfl⟩

theorem refresh_spec {limit : Nat} {outcome : RefreshOutcome}
    (h : w.refresh limit = (.ok outcome, w')) :
    outcome = w.provider.refresh.1 ∧ w'.provider.asked = w.provider.asked + 1 := by
  unfold refresh at h
  dsimp only at h
  split at h
  · cases h
  · rename_i w₁ waited
    obtain ⟨-, delays, provider⟩ := awaitProvider_frame waited
    cases h
    rw [SessionProvider.refresh_asked, provider]
    exact ⟨SessionProvider.refresh_eq_of_outcomes rfl, rfl⟩

/-- An exchange comes with the session it was given, unless it was sent once more with a new
one. -/
theorem exchange_session {limit : Nat} {u : Url} {headers : Headers} {session s : Option Session}
    {reply : Reply} (h : w.exchange limit u r headers session = (.ok (reply, s), w')) :
    (w'.provider.asked = w.provider.asked ∧ s = session) ∨
      (w'.provider.asked = w.provider.asked + 1 ∧
        s = match w.provider.refresh.1 with
          | .renewed new => some new
          | _ => session) := by
  unfold exchange at h
  split at h
  case h_1 => cases h
  case h_2 sent =>
    have same := (dispatch_quiet sent).provider
    split at h
    case isFalse =>
      cases h
      exact .inl ⟨by rw [same], rfl⟩
    case isTrue =>
      split at h
      case h_1 => cases h
      case h_2 refreshed =>
        obtain ⟨outcome, asked⟩ := refresh_spec refreshed
        rw [same] at outcome asked
        split at h
        · cases h
        · split at h
          · cases h
          · rename_i replayed
            cases h
            rw [(dispatch_quiet replayed).provider, ← outcome]
            exact .inr ⟨asked, rfl⟩
      case h_3 other refreshed =>
        obtain ⟨outcome, asked⟩ := refresh_spec refreshed
        rw [same] at outcome asked
        cases h
        rw [← outcome]
        refine .inr ⟨asked, ?_⟩
        split
        · exact (other _ rfl).elim
        · rfl

/-- The session that an answer comes with is the one that governs it. -/
theorem deliver_session {limit : Nat} {s : Option Session} {reply : Reply}
    (h : w.deliver c limit r = (.ok (reply, s), w')) :
    s = w.provider.governing w'.provider := by
  unfold deliver at h
  split at h
  · cases h
  · split at h
    · cases h
    · rename_i looked
      obtain ⟨session, asked, outcomes⟩ := look_spec looked
      split at h
      · cases h
      · split at h
        · cases h
        · rename_i attached
          have same := (attachCsrf_quiet attached).provider
          have refreshed := SessionProvider.refresh_eq_of_outcomes
            (outcomes.trans w.provider.look_outcomes.symm)
          unfold SessionProvider.governing
          rcases exchange_session h with ⟨unasked, rfl⟩ | ⟨once, rfl⟩
          · rw [if_pos (by rw [unasked, same, asked]), session]
          · rw [if_neg (by rw [once, same, asked]; omega), same, refreshed, session]

/-! ### Receiving -/

/-- The answer to a call with its whole body, before anything is decided about it. -/
def receive (w : World) (c : Config) (r : Request) : Except Halt Response × World :=
  let limit := w.now + deadline c r
  match w.deliver c limit r with
  | (.error halt, w) => (.error halt, w)
  | (.ok (reply, _), w) =>
    match w.readBody limit reply with
    | (.error halt, w) => (.error halt, w)
    | (.ok body, w) => (.ok { status := reply.status, headers := reply.headers, body }, w)

/-- The error that a call ends with when it is stopped. -/
def stopped (c : Config) (r : Request) : Halt → ClientError
  | .expired => .timeout (timeLimit c r)
  | .failed e => e

theorem receive_keeps {result : Except Halt Response} (h : w.receive c r = (result, w')) :
    Keeps w w' := by
  unfold receive at h
  dsimp only at h
  split at h
  case h_1 delivered =>
    cases h
    exact deliver_keeps delivered
  case h_2 delivered =>
    split at h <;> rename_i read <;> cases h <;>
      exact (deliver_keeps delivered).trans (readBody_quiet read).toKeeps

/-- A call that receives nothing fails for what stopped it. -/
theorem send_of_halt {halt : Halt} (h : w.receive c r = (.error halt, w')) :
    w.send c r = (.error (stopped c r halt), w') := by
  unfold receive at h
  dsimp only at h
  unfold send sendWithin
  cases delivered : w.deliver c (w.now + deadline c r) r with
  | mk result w₁ =>
    rw [delivered] at h
    cases result with
    | error stop =>
      cases h
      cases halt <;> rfl
    | ok answer =>
      dsimp only at h ⊢
      unfold conclude
      cases read : w₁.readBody (w.now + deadline c r) answer.1 with
      | mk result w₂ =>
        rw [read] at h
        cases result with
        | error stop =>
          cases h
          cases halt <;> rfl
        | ok body => cases h

/-- A call that receives an answer releases it by the session that governs it. -/
theorem send_of_receive {raw : Response} (h : w.receive c r = (.ok raw, w')) :
    w.send c r =
      (release c (w.provider.governing w'.provider) raw, w'.warnRateLimit raw.status) := by
  unfold receive at h
  dsimp only at h
  split at h
  case h_1 => cases h
  case h_2 delivered =>
    split at h <;> rename_i read <;> cases h
    rw [(readBody_quiet read).provider, ← deliver_session delivered]
    unfold send sendWithin
    rw [delivered]
    dsimp only
    unfold conclude
    rw [read]
    dsimp only
    cases release c _ _ <;> rfl

end World

end TenantLink
