import TenantLink.Proofs.Client.Transmission
import TenantLink.Proofs.Client.Unseen

/-!
# Calls without authorization

A call without authorization sends the same whatever sessions there are: `deliver_anonymous`. It
looks for the session all the same, since that decides about the answer, so only the time that the
provider takes can be told from what is sent.
-/

namespace TenantLink.World

/-- The same world with another session provider. -/
def withProvider (w : World) (p : SessionProvider) : World := { w with provider := p }

variable {r : Request} (w : World) (p : SessionProvider) (c : Config) (limit : Nat)

theorem withProvider_unseen : Unseen (·.withProvider p) where
  now := fun _ => rfl
  wall := fun _ => rfl
  jar := fun _ => rfl
  setNow := fun _ _ => rfl
  setJar := fun _ _ => rfl
  transmit := by
    intro w u method headers body
    unfold transmit
    by_cases reached : w.backend.reaches u
    · rw [if_pos reached, if_pos (show (w.withProvider p).backend.reaches u from reached)]
      rfl
    · rw [if_neg reached, if_neg (show ¬(w.withProvider p).backend.reaches u from reached)]
      rfl

/-- A look comes to an end when it would with other sessions, and then changes only the provider. -/
theorem look_withProvider (delays : p.delays = w.provider.delays) :
    (∃ w₁ q, w.look limit = (.error .expired, w₁) ∧
        (w.withProvider p).look limit = (.error .expired, w₁.withProvider q)) ∨
      ∃ session other w₁ q, w.look limit = (.ok session, w₁) ∧
        (w.withProvider p).look limit = (.ok other, w₁.withProvider q) := by
  unfold look awaitProvider
  -- How long the provider takes is all that decides whether the look comes to an end.
  rw [show (w.withProvider p).provider.delays = w.provider.delays from delays]
  rcases w.provider.delays with _ | ⟨delay, rest⟩
  · exact .inr ⟨_, _, _, _, rfl, rfl⟩
  · dsimp only
    by_cases atOnce : delay = 0
    · rw [if_pos atOnce, if_pos atOnce]
      exact .inr ⟨_, _, _, _, rfl, rfl⟩
    · rw [if_neg atOnce, if_neg atOnce]
      unfold pause
      by_cases early : w.now + delay < limit
      · rw [if_pos early, if_pos (show (w.withProvider p).now + delay < limit from early)]
        exact .inr ⟨_, _, _, _, rfl, rfl⟩
      · rw [if_neg early, if_neg (show ¬(w.withProvider p).now + delay < limit from early)]
        exact .inl ⟨_, _, rfl, rfl⟩

theorem exchange_anonymous (skipped : r.skipAuth) (u : Url) (headers : Headers)
    (session other : Option Session) :
    ((w.withProvider p).exchange limit u r headers other).2.backend =
      (w.exchange limit u r headers session).2.backend := by
  unfold exchange
  rw [(withProvider_unseen p).dispatch]
  rcases w.dispatch limit u r.method headers r.body with ⟨_ | reply, w₁⟩
  · rfl
  · -- Nothing is sent behind the first answer: without authorization there is no replay.
    simp [carry, skipped, withProvider]

theorem deliver_anonymous (skipped : r.skipAuth) (delays : p.delays = w.provider.delays) :
    ((w.withProvider p).deliver c limit r).2.backend = (w.deliver c limit r).2.backend := by
  unfold deliver
  cases c.endpoint r.path with
  | error e => rfl
  | ok u =>
    dsimp only
    rcases look_withProvider w p limit delays with
      ⟨w₁, q, look, look'⟩ | ⟨session, other, w₁, q, look, look'⟩
    · rw [look, look']
      rfl
    · rw [look, look']
      simp only [if_pos skipped, authorize]
      rw [(withProvider_unseen q).attachCsrf]
      rcases w₁.attachCsrf c limit r.method r.headers with ⟨_ | headers, w₂⟩
      · rfl
      · exact exchange_anonymous w₂ q limit skipped u headers session other

end TenantLink.World
