import TenantLink.Client.Send

/-!
# Changes that requests do not notice

Some parts of a world do not matter to a request and to its answer: what was received before, the
toasts, the session provider. A change to such parts alone is carried through a request.
-/

namespace TenantLink.World

structure Unseen (f : World → World) : Prop where
  now : ∀ w, (f w).now = w.now
  wall : ∀ w, (f w).wall = w.wall
  jar : ∀ w, (f w).jar = w.jar
  setNow : ∀ w now, f { w with now } = { f w with now }
  setJar : ∀ w jar, f { w with jar } = { f w with jar }
  transmit : ∀ w u method headers body,
    (f w).transmit u method headers body =
      (w.transmit u method headers body).map fun sent => (sent.1, f sent.2)

def carry {α : Type} (f : World → World) (outcome : α × World) : α × World :=
  (outcome.1, f outcome.2)

namespace Unseen

variable {f : World → World} (h : Unseen f) (w : World) (c : Config) (limit : Nat)

include h

theorem expire : (f w).expire limit = f (w.expire limit) := by
  rw [World.expire, h.now]
  exact (h.setNow w _).symm

theorem pause (ms : Nat) : (f w).pause limit ms = carry f (w.pause limit ms) := by
  unfold World.pause
  rw [h.now, h.expire]
  by_cases early : w.now + ms < limit
  · rw [if_pos early, if_pos early, carry, ← h.setNow]
  · rw [if_neg early, if_neg early]
    rfl

theorem storeCookies (u : Url) (reply : Reply) :
    (f w).storeCookies u reply = f (w.storeCookies u reply) := by
  have jar : (f w).jar.setAll (f w).wall u reply.headers =
      w.jar.setAll w.wall u reply.headers := by rw [h.jar, h.wall]
  rw [World.storeCookies, jar]
  exact (h.setJar w _).symm

theorem dispatch (u : Url) (method : Method) (headers : Headers) (body : Option Bytes) :
    (f w).dispatch limit u method headers body =
      carry f (w.dispatch limit u method headers body) := by
  unfold World.dispatch
  rw [h.transmit]
  rcases w.transmit u method headers body with _ | ⟨reaction, w₁⟩
  · rfl
  · cases reaction with
    | silence =>
      simp only [Option.map_some, h.expire]
      rfl
    | hangUp delay =>
      simp only [Option.map_some, h.pause]
      rcases w₁.pause limit delay with ⟨_ | _, w₂⟩ <;> rfl
    | answer reply =>
      simp only [Option.map_some, h.pause]
      rcases w₁.pause limit reply.headDelay with ⟨_ | _, w₂⟩
      · rfl
      · simp only [carry, h.storeCookies]

theorem readBody (reply : Reply) :
    (f w).readBody limit reply = carry f (w.readBody limit reply) := by
  unfold World.readBody
  rw [h.pause]
  rcases w.pause limit reply.bodyDelay with ⟨_ | _, w₁⟩
  · rfl
  · simp only [carry]
    cases reply.ending with
    | stalled => rw [h.expire]
    | _ => rfl

theorem askForToken (outer : Option Nat) :
    (f w).askForToken c outer = carry f (w.askForToken c outer) := by
  unfold World.askForToken
  cases c.endpoint Csrf.path with
  | error e => rfl
  | ok u =>
    dsimp only
    rw [h.dispatch, h.now]
    rcases w.dispatch _ u .get [] none with ⟨_ | reply, w₁⟩
    · rfl
    · simp only [carry]
      cases reply.status.isSuccess with
      | false => rfl
      | true =>
        simp only [if_true]
        rw [h.readBody, h.now]
        rcases w₁.readBody _ reply with ⟨_ | body, w₂⟩
        · rfl
        · simp only [carry]
          cases Json.read? body <;> rfl

theorem csrfCookie : (f w).csrfCookie c = w.csrfCookie c := by
  rw [World.csrfCookie, World.csrfCookie, h.jar, h.wall]

theorem storeToken (token : String) : (f w).storeToken c token = f (w.storeToken c token) := by
  have jar (text : String) : (f w).jar.set (f w).wall c.apiBase text =
      w.jar.set w.wall c.apiBase text := by rw [h.jar, h.wall]
  rw [World.storeToken, jar]
  exact (h.setJar w _).symm

theorem csrfToken (outer : Option Nat) :
    (f w).csrfToken c outer = carry f (w.csrfToken c outer) := by
  unfold World.csrfToken
  rw [h.csrfCookie]
  cases w.csrfCookie c with
  | some token => rfl
  | none =>
    dsimp only
    unfold World.bootstrapToken
    rw [h.askForToken]
    rcases w.askForToken c outer with ⟨halt | token, w₁⟩
    · cases halt with
      | failed e => rfl
      | expired =>
        simp only [carry]
        rw [h.now]
        split <;> rfl
    · cases token with
      | none => rfl
      | some token => simp only [carry, h.storeToken]

theorem attachCsrf (method : Method) (headers : Headers) :
    (f w).attachCsrf c limit method headers = carry f (w.attachCsrf c limit method headers) := by
  unfold World.attachCsrf
  split
  · rw [h.csrfToken]
    rcases w.csrfToken c (some limit) with ⟨_ | _, w₁⟩ <;> rfl
  · rfl

end Unseen

end TenantLink.World
