import TenantLink.Client.Send

/-!
# Calls at another time

The clock decides when a part of a call expires, and nothing else. From two worlds that differ in
their clocks alone, each part expires in one of them, or comes to the same in both, and so does a
whole call: `exchange_agrees`, `send_agrees`.
-/

namespace TenantLink.World

variable {α : Type}

/-- The same world at another time. -/
def withNow (w : World) (now : Nat) : World := { w with now }

/-- One of two outcomes is that the limit came, or they are the same but for the clock. -/
inductive Agree : Except Halt α × World → Except Halt α × World → Prop
  | missed (w : World) (y : Except Halt α × World) : Agree (.error .expired, w) y
  | missed' (x : Except Halt α × World) (w : World) : Agree x (.error .expired, w)
  | same (result : Except Halt α) (w : World) (now : Nat) :
    Agree (result, w) (result, w.withNow now)

theorem Agree.of_expired {x y : Except Halt α × World}
    (expired : x.1 = .error .expired ∨ y.1 = .error .expired) : Agree x y := by
  obtain ⟨result, w⟩ := x
  obtain ⟨result', w'⟩ := y
  rcases expired with rfl | rfl
  · exact .missed w _
  · exact .missed' _ w'

variable (w : World) (now limit : Nat)

/-! ### Transport -/

theorem pause_agrees (ms : Nat) : Agree (w.pause limit ms) ((w.withNow now).pause limit ms) := by
  unfold pause
  split
  · split
    · exact .same _ _ _
    · exact .missed' _ _
  · exact .missed _ _

theorem transmit_withNow (u : Url) (method : Method) (headers : Headers) (body : Option Bytes) :
    (w.withNow now).transmit u method headers body =
      (w.transmit u method headers body).map fun sent => (sent.1, sent.2.withNow now) := by
  unfold transmit
  by_cases reached : w.backend.reaches u
  · rw [if_pos reached, if_pos (show (w.withNow now).backend.reaches u from reached)]
    rfl
  · rw [if_neg reached, if_neg (show ¬(w.withNow now).backend.reaches u from reached)]
    rfl

theorem dispatch_agrees (u : Url) (method : Method) (headers : Headers) (body : Option Bytes) :
    Agree (w.dispatch limit u method headers body)
      ((w.withNow now).dispatch limit u method headers body) := by
  unfold dispatch
  rw [transmit_withNow]
  rcases w.transmit u method headers body with _ | ⟨reaction, w₁⟩
  · exact .same _ w now
  · rw [Option.map_some]
    cases reaction with
    | silence => exact .missed _ _
    | hangUp delay =>
      have waited := pause_agrees w₁ now limit delay
      dsimp only
      -- Both worlds take the part at once. Behind it only their clocks are known to differ.
      generalize w₁.pause limit delay = x, (w₁.withNow now).pause limit delay = y at waited ⊢
      cases waited with
      | missed => exact .missed _ _
      | missed' => exact .missed' _ _
      | same result w₂ now => cases result <;> exact .same _ w₂ now
    | answer reply =>
      have waited := pause_agrees w₁ now limit reply.headDelay
      dsimp only
      generalize w₁.pause limit reply.headDelay = x,
        (w₁.withNow now).pause limit reply.headDelay = y at waited ⊢
      cases waited with
      | missed => exact .missed _ _
      | missed' => exact .missed' _ _
      | same result w₂ now => cases result <;> exact .same _ _ now

theorem readBody_agrees (reply : Reply) :
    Agree (w.readBody limit reply) ((w.withNow now).readBody limit reply) := by
  unfold readBody
  have waited := pause_agrees w now limit reply.bodyDelay
  generalize w.pause limit reply.bodyDelay = x,
    (w.withNow now).pause limit reply.bodyDelay = y at waited ⊢
  cases waited with
  | missed => exact .missed _ _
  | missed' => exact .missed' _ _
  | same result w₁ now =>
    cases result with
    | error halt => exact .same _ w₁ now
    | ok =>
      dsimp only
      cases reply.ending with
      | complete => exact .same _ w₁ now
      | broken => exact .same _ w₁ now
      | stalled => exact .missed _ _

/-! ### The session provider -/

theorem awaitProvider_agrees :
    Agree (w.awaitProvider limit) ((w.withNow now).awaitProvider limit) := by
  unfold awaitProvider
  rw [show (w.withNow now).provider.delays = w.provider.delays from rfl]
  rcases w.provider.delays with _ | ⟨delay, delays⟩
  · exact .same _ w now
  · dsimp only
    split
    · exact .same _ { w with provider := { w.provider with delays } } now
    · exact pause_agrees { w with provider := { w.provider with delays } } now limit delay

/-- The same world when a session has been asked for. -/
def refreshing (w : World) : World :=
  { w with provider := { w.provider with asked := w.provider.asked + 1 } }

theorem refresh_eq : w.refresh limit =
    match w.refreshing.awaitProvider limit with
    | (.error halt, w) => (.error halt, w)
    | (.ok (), w) =>
      (.ok w.provider.refresh.1, { w with provider := w.provider.refresh.2 }) := rfl

theorem refresh_agrees : Agree (w.refresh limit) ((w.withNow now).refresh limit) := by
  have waited : Agree (w.refreshing.awaitProvider limit)
      ((w.withNow now).refreshing.awaitProvider limit) := awaitProvider_agrees w.refreshing now limit
  rw [refresh_eq, refresh_eq]
  generalize w.refreshing.awaitProvider limit = x,
    (w.withNow now).refreshing.awaitProvider limit = y at waited ⊢
  cases waited with
  | missed => exact .missed _ _
  | missed' => exact .missed' _ _
  | same result w₁ now => cases result <;> exact .same _ _ now

/-! ### Behind the CSRF token -/

variable (c : Config) (r : Request)

theorem exchange_agrees (u : Url) (headers : Headers) (session : Option Session) :
    Agree (w.exchange limit u r headers session)
      ((w.withNow now).exchange limit u r headers session) := by
  unfold exchange
  have sent := dispatch_agrees w now limit u r.method headers r.body
  generalize w.dispatch limit u r.method headers r.body = x,
    (w.withNow now).dispatch limit u r.method headers r.body = y at sent ⊢
  cases sent with
  | missed => exact .missed _ _
  | missed' => exact .missed' _ _
  | same result w₁ now =>
    cases result with
    | error halt => exact .same _ w₁ now
    | ok reply =>
      dsimp only
      split
      next =>
        have renewed := refresh_agrees w₁ now limit
        generalize w₁.refresh limit = x, (w₁.withNow now).refresh limit = y at renewed ⊢
        cases renewed with
        | missed => exact .missed _ _
        | missed' => exact .missed' _ _
        | same result w₂ now =>
          rcases result with halt | outcome
          · exact .same _ w₂ now
          · cases outcome with
            | nothing => exact .same _ w₂ now
            | failed => exact .same _ w₂ now
            | renewed s =>
              dsimp only
              cases authorize headers (some s) with
              | error e => exact .same _ w₂ now
              | ok headers =>
                dsimp only
                have again := dispatch_agrees w₂ now limit u r.method headers r.body
                generalize w₂.dispatch limit u r.method headers r.body = x,
                  (w₂.withNow now).dispatch limit u r.method headers r.body = y at again ⊢
                cases again with
                | missed => exact .missed _ _
                | missed' => exact .missed' _ _
                | same result w₃ now => cases result <;> exact .same _ w₃ now
      next => exact .same _ w₁ now

theorem warnRateLimit_withNow (status : Status) :
    (w.withNow now).warnRateLimit status = (w.warnRateLimit status).withNow now := by
  unfold warnRateLimit
  split <;> rfl

theorem conclude_agrees (reply : Reply) (session : Option Session) :
    Agree (w.conclude c limit reply session) ((w.withNow now).conclude c limit reply session) := by
  unfold conclude
  have read := readBody_agrees w now limit reply
  generalize w.readBody limit reply = x, (w.withNow now).readBody limit reply = y at read ⊢
  cases read with
  | missed => exact .missed _ _
  | missed' => exact .missed' _ _
  | same result w₁ now =>
    cases result with
    | error halt => exact .same _ w₁ now
    | ok body =>
      dsimp only
      rw [warnRateLimit_withNow]
      cases release c session { status := reply.status, headers := reply.headers, body } <;>
        exact .same _ _ now

/-! ### A whole call -/

variable {c r limit} {w₁ w₂ : World}

theorem sendWithin_agrees (delivered : Agree (w₁.deliver c limit r) (w₂.deliver c limit r)) :
    Agree (w₁.sendWithin c limit r) (w₂.sendWithin c limit r) := by
  unfold sendWithin
  generalize w₁.deliver c limit r = x, w₂.deliver c limit r = y at delivered ⊢
  cases delivered with
  | missed => exact .missed _ _
  | missed' => exact .missed' _ _
  | same result w now =>
    rcases result with halt | ⟨reply, session⟩
    · exact .same _ w now
    · exact conclude_agrees w now limit c reply session

/-- Two calls whose answers are delivered alike end alike, unless the deadline of one of them
comes. -/
theorem send_agrees (start : w₁.now = w₂.now)
    (delivered : Agree (w₁.deliver c (w₁.now + deadline c r) r)
      (w₂.deliver c (w₁.now + deadline c r) r))
    (kept : ∀ span, (w₁.send c r).1 ≠ .error (.timeout span))
    (kept' : ∀ span, (w₂.send c r).1 ≠ .error (.timeout span)) :
    (w₁.send c r).1 = (w₂.send c r).1 ∧ ∃ now, (w₂.send c r).2 = (w₁.send c r).2.withNow now := by
  have sent := sendWithin_agrees delivered
  unfold send at kept kept' ⊢
  rw [← start] at kept' ⊢
  generalize w₁.sendWithin c (w₁.now + deadline c r) r = x,
    w₂.sendWithin c (w₁.now + deadline c r) r = y at sent kept kept' ⊢
  cases sent with
  | missed => exact (kept _ rfl).elim
  | missed' => exact (kept' _ rfl).elim
  | same result w now =>
    rcases result with halt | response
    · cases halt with
      | expired => exact (kept _ rfl).elim
      | failed e => exact ⟨rfl, now, rfl⟩
    · exact ⟨rfl, now, rfl⟩

end TenantLink.World
