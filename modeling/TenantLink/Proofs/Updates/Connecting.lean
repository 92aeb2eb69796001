import Mathlib
import TenantLink.Proofs.Client.Deadline
import TenantLink.Proofs.Client.Transmission
import TenantLink.Proofs.Updates.Interleaving

/-!
# Connecting

What comes of a connect when the session answers at once, of the request of an attempt, and of what
the attempt reports: `fireDue_of_errored`, `sendAttempt_effect`, `next_plans`.
-/

namespace TenantLink

namespace Supervisor

variable {s t : Supervisor} {now : Nat}

/-! ### What attempts report -/

/-- What comes of the attempts themselves, at the time `now`. -/
def IsReport (now : Nat) : StreamEvent → Prop
  | .head _ _ time | .closed _ time | .lateEnd _ time => time = now
  | .chunk _ _ | .lateHead _ | .lateId _ _ => True
  | _ => False

/-- The number of attempts whose request is still to be sent. -/
def unsent (s : Supervisor) : Nat := s.attempts.countP (·.phase = .unsent)

/-- What attempts cannot change. -/
structure Keeps (s t : Supervisor) : Prop where
  delay : t.delay = s.delay
  lookups : t.lookups = s.lookups
  begun : t.begun = s.begun
  unsent : t.unsent ≤ s.unsent

/-- What is planned: nothing new, or another attempt for a connection lost at the time `now`. -/
inductive Plans (now : Nat) (s t : Supervisor) : Prop
  | same : (t.conn.state = .errored ↔ s.conn.state = .errored) → t.timers = s.timers →
    Plans now s t
  | lost {n : Nat} : s.conn.state ≠ .errored → t.conn.state = .errored →
    t.timers = s.timers ++ [⟨n, now + s.delay⟩] → Plans now s t

theorem unsent_advance_le (s : Supervisor) (g : Nat) {phase : AttemptPhase}
    (sent : phase ≠ .unsent) : (s.advance g phase).unsent ≤ s.unsent := by
  unfold unsent advance
  dsimp only
  rw [List.countP_map]
  refine List.countP_mono_left fun a _ later => ?_
  simp only [Function.comp_apply, decide_eq_true_eq] at later ⊢
  split at later
  · exact (sent later).elim
  · exact later

theorem lose_plans (s : Supervisor) (g now : Nat) :
    s.Keeps (s.lose g now) ∧ s.Plans now (s.lose g now) := by
  unfold lose
  split
  next held =>
    have lost : (s.conn.lost g s.nextTimer).state = .errored := by
      rw [Connection.lost, if_pos held]
    simp only [Connection.isHeldBy, Bool.and_eq_true, decide_eq_true_eq] at held
    exact ⟨⟨rfl, rfl, rfl, Nat.le_refl _⟩, .lost held.2 lost rfl⟩
  next => exact ⟨⟨rfl, rfl, rfl, Nat.le_refl _⟩, .same Iff.rfl rfl⟩

theorem close_plans (s : Supervisor) (g now : Nat) :
    s.Keeps (s.close g now) ∧ s.Plans now (s.close g now) := by
  obtain ⟨keeps, plans⟩ :=
    lose_plans { s with attempts := s.attempts.filter (·.generation ≠ g) } g now
  refine ⟨⟨keeps.delay, keeps.lookups, keeps.begun, ?_⟩, ?_⟩
  · exact Nat.le_trans keeps.unsent (List.filter_sublist.countP_le)
  · cases plans with
    | same state timers => exact .same state timers
    | lost free errored timers => exact .lost free errored timers

theorem established_state (c : Connection) (g : Nat) :
    (c.established g).state = .errored ↔ c.state = .errored := by
  unfold Connection.established Connection.isAwaiting
  split
  next awaiting =>
    simp only [Bool.and_eq_true, decide_eq_true_eq] at awaiting
    simp [awaiting.2]
  next => exact Iff.rfl

theorem next_plans {e : StreamEvent} (report : IsReport now e) :
    s.Keeps (s.next e) ∧ s.Plans now (s.next e) := by
  cases e with
  | head g accepted time =>
    obtain rfl : time = now := report
    rw [next, head]
    split
    · exact ⟨⟨rfl, rfl, rfl, unsent_advance_le _ g (by simp)⟩,
        .same (established_state s.conn g) rfl⟩
    · exact s.close_plans g time
  | chunk g bytes =>
    rw [next, take]
    split
    next parser _ =>
      have state := (s.conn.recordId_frame g (parser.feed bytes).2.lastEventId).2
      exact ⟨⟨rfl, rfl, rfl, unsent_advance_le _ g (by simp)⟩,
        .same (iff_of_eq (congrArg (· = StreamState.errored) state)) rfl⟩
    next => exact ⟨⟨rfl, rfl, rfl, Nat.le_refl _⟩, .same Iff.rfl rfl⟩
  | closed g time =>
    obtain rfl : time = now := report
    exact s.close_plans g time
  | lateHead g => exact ⟨⟨rfl, rfl, rfl, Nat.le_refl _⟩, .same (established_state s.conn g) rfl⟩
  | lateId g id =>
    have state := (s.conn.recordId_frame g (some id)).2
    exact ⟨⟨rfl, rfl, rfl, Nat.le_refl _⟩,
      .same (iff_of_eq (congrArg (· = StreamState.errored) state)) rfl⟩
  | lateEnd g time =>
    obtain rfl : time = now := report
    exact s.lose_plans g time
  | _ => exact report.elim

/-! ### Connecting with a session that comes at once -/

theorem forget_init (free : s.lookups = []) (idle : s.conn.state = .disconnected) :
    s.init.forget 0 = s := by
  cases s
  simp_all [init, canInit, forget]

theorem found_init (free : s.lookups = []) (idle : s.conn.state = .disconnected) (valid : Bool) :
    s.init.found 0 valid = if valid then s.start else s := by
  have left := forget_init free idle
  have there : s.init.lookups[0]? = some ⟨.disconnected, none⟩ := by
    simp [init, canInit, idle, free]
  unfold found
  rw [there]
  dsimp only
  rw [left, if_neg (by simp [idle]), if_neg (by simp : ¬StreamState.disconnected = .errored)]

theorem found_fire {timer : ReconnectTimer} (free : s.lookups = [])
    (errored : s.conn.state = .errored) (timers : s.timers = [timer]) (valid : Bool) :
    (s.fire timer.number).found 0 valid =
      if valid then { s with timers := [] }.start
      else { s with timers := [], conn := s.conn.abandoned } := by
  cases s
  simp_all [fire, found, forget, endTimer]

end Supervisor

namespace Context

open Supervisor

variable {x : Context}

/-- Whether the session that is looked up next is valid. -/
def hasSession (x : Context) : Bool :=
  x.world.provider.look.1.any (·.isValid x.world.wall)

/-! ### Opening and firing -/

theorem openStream_of_active (active : x.state ≠ .disconnected) : x.openStream = (false, x) := by
  have refused : x.stream.init = x.stream := if_neg (by simpa [canInit, state] using active)
  have same : x.step .init = x := congrArg (fun stream => { x with stream }) refused
  unfold openStream answerNew
  rw [same, if_neg (Nat.lt_irrefl _)]
  simp

theorem answerLookup_effect (x : Context) (lookup : Nat) :
    (x.answerLookup lookup).stream =
        (if x.hasSession then
          if x.hasStream then x.stream.found lookup true else x.stream.forget lookup
        else x.stream.found lookup false) ∧
      (x.answerLookup lookup).world.now = x.world.now ∧
      (x.answerLookup lookup).world.backend = x.world.backend := by
  unfold answerLookup hasSession hasStream
  dsimp only
  split
  · cases x.config.endpoint streamPath <;> exact ⟨rfl, rfl, rfl⟩
  · exact ⟨rfl, rfl, rfl⟩

theorem answerNew_of_lookup {e : StreamEvent} {l : Lookup} (free : x.stream.lookups = [])
    (begins : (x.stream.next e).lookups = [l]) : x.answerNew e = (x.step e).answerLookup 0 := by
  unfold answerNew
  dsimp only
  rw [step_stream, free, begins]
  rfl

theorem answerNew_config (x : Context) (e : StreamEvent) : (x.answerNew e).config = x.config := by
  unfold answerNew
  dsimp only
  split
  · exact (answerLookup_config _ _).trans (step_config x e)
  · exact step_config x e

theorem Steady.answerNew {gs : List Nat} (h : x.Steady gs) {e : StreamEvent}
    (enabled : x.stream.Enabled e) (admitted : x.Admits e) : ∃ gs, (x.answerNew e).Steady gs := by
  have begun := h.move (.event enabled admitted)
  unfold Context.answerNew
  dsimp only
  split
  next grown => exact ⟨_, begun.move (.answer grown)⟩
  next => exact ⟨_, begun⟩

theorem step_now (x : Context) (e : StreamEvent) : (x.step e).world.now = x.world.now := by
  cases e <;> rfl

theorem step_backend (x : Context) (e : StreamEvent) :
    (x.step e).world.backend = x.world.backend := by
  cases e <;> rfl

theorem answerNew_backend (x : Context) (e : StreamEvent) :
    (x.answerNew e).world.backend = x.world.backend := by
  unfold answerNew
  dsimp only
  split
  · exact (answerLookup_effect _ _).2.2.trans (step_backend x e)
  · exact step_backend x e

/-- Opening begins an attempt if there is a valid session and the address can be built. -/
theorem openStream_of_idle (free : x.stream.lookups = []) (idle : x.state = .disconnected) :
    x.openStream.1 = (x.hasSession && x.hasStream) ∧
      x.openStream.2.stream =
        (if x.hasSession && x.hasStream then x.stream.start else x.stream) ∧
      x.openStream.2.world.now = x.world.now := by
  have idle' : x.stream.conn.state = .disconnected := idle
  have begins : (x.stream.next .init).lookups = [⟨.disconnected, none⟩] := by
    simp [next, init, canInit, idle', free]
  obtain ⟨stream, now, -⟩ := (x.step .init).answerLookup_effect 0
  have session : (x.step .init).hasSession = x.hasSession := rfl
  have address : (x.step .init).hasStream = x.hasStream := rfl
  rw [session, address, step_stream, next, found_init free idle', found_init free idle',
    forget_init free idle'] at stream
  have leads : x.openStream.2.stream =
      (if x.hasSession && x.hasStream then x.stream.start else x.stream) := by
    rw [openStream, answerNew_of_lookup free begins, stream]
    cases x.hasSession <;> cases x.hasStream <;> rfl
  refine ⟨?_, leads, ?_⟩
  · have told : x.openStream.1 = decide (x.stream.begun < x.openStream.2.stream.begun) := rfl
    rw [told, leads]
    cases x.hasSession <;> cases x.hasStream <;> simp [start]
  · rw [openStream, answerNew_of_lookup free begins]
    exact now

theorem fireDue_eq {t : ReconnectTimer} (timers : x.stream.timers = [t])
    (due : t.due ≤ x.world.now) : x.fireDue = x.answerNew (.fire t.number x.world.now) := by
  unfold fireDue
  rw [timers, List.find?_cons_of_pos (by simpa using due)]

/-- A timer that is due begins an attempt if there is a valid session, and otherwise gives the
connection up. -/
theorem fireDue_of_errored {t : ReconnectTimer} (free : x.stream.lookups = [])
    (errored : x.state = .errored) (timers : x.stream.timers = [t]) (due : t.due ≤ x.world.now)
    (address : x.hasStream = true) :
    x.fireDue.stream =
        (if x.hasSession then { x.stream with timers := [] }.start
        else { x.stream with timers := [], conn := x.stream.conn.abandoned }) ∧
      x.fireDue.world.now = x.world.now ∧ x.fireDue.world.backend = x.world.backend := by
  have errored' : x.stream.conn.state = .errored := errored
  have begins : (x.stream.next (.fire t.number x.world.now)).lookups =
      [⟨.errored, some t.number⟩] := by
    simp [next, fire, errored', free]
  have fires : x.fireDue = (x.step (.fire t.number x.world.now)).answerLookup 0 :=
    (fireDue_eq timers due).trans (answerNew_of_lookup free begins)
  obtain ⟨stream, now, backend⟩ := (x.step (.fire t.number x.world.now)).answerLookup_effect 0
  have session : (x.step (.fire t.number x.world.now)).hasSession = x.hasSession := rfl
  have address' : (x.step (.fire t.number x.world.now)).hasStream = true := address
  rw [fires]
  refine ⟨?_, now, backend⟩
  rw [stream, session, address', if_pos rfl, step_stream, next, found_fire free errored' timers,
    found_fire free errored' timers, if_pos rfl, if_neg (by simp : ¬false = true)]

/-! ### Sending -/

theorem transmitAttempt_receives {a : Attempt} {reaction : Reaction} {world : World}
    (h : x.transmitAttempt a = some (reaction, world)) :
    world.now = x.world.now ∧
      ∃ u headers, attemptHeaders? a.resumeId = some headers ∧
        world.backend =
          (x.world.backend.receive (x.world.requestFor u .get headers none)).2 := by
  unfold transmitAttempt at h
  split at h
  next u headers address fields =>
    split at h
    next sent =>
      have now := World.transmit_now sent
      have backend := congrArg Prod.snd (World.transmit_some sent).2
      cases h
      exact ⟨now, u, headers, fields, backend⟩
    next =>
      have backend := congrArg Prod.snd (World.transmit_some h).2
      exact ⟨World.transmit_now h, u, headers, fields, backend⟩
  next => cases h

theorem transmitAttempt_effect {a : Attempt} {reaction : Reaction} {world : World}
    (h : x.transmitAttempt a = some (reaction, world)) :
    world.now = x.world.now ∧
      ∃ u headers, attemptHeaders? a.resumeId = some headers ∧
        world.backend.received =
          x.world.backend.received ++ [x.world.requestFor u .get headers none] := by
  obtain ⟨now, u, headers, fields, backend⟩ := transmitAttempt_receives h
  refine ⟨now, u, headers, fields, ?_⟩
  rw [backend, (Backend.receive_frame _ _).1]

theorem sendAttempt_effect (x : Context) (a : Attempt) :
    (x.sendAttempt a).2.stream = x.stream.advance a.generation .awaiting ∧
      (x.sendAttempt a).2.config = x.config ∧ (x.sendAttempt a).2.world.now = x.world.now ∧
      ∃ requests : List SentRequest, (requests = [] ∨ ∃ request, requests = [request]) ∧
        (x.sendAttempt a).2.world.backend.received = x.world.backend.received ++ requests := by
  unfold sendAttempt
  dsimp only
  split
  · exact ⟨rfl, rfl, rfl, [], .inl rfl, (List.append_nil _).symm⟩
  next sent =>
    obtain ⟨now, _, _, -, received⟩ := transmitAttempt_effect sent
    exact ⟨rfl, rfl, now, [_], .inr ⟨_, rfl⟩, received⟩

theorem sendAttempt_direct (direct : x.world.backend.IsDirect) (a : Attempt) :
    (x.sendAttempt a).2.world.backend.IsDirect := by
  unfold sendAttempt
  dsimp only
  split
  · exact direct
  next reaction world sent =>
    obtain ⟨-, u, headers, -, backend⟩ := transmitAttempt_receives sent
    have left : world.backend.IsDirect := backend ▸ direct.receive _
    exact left

end Context

end TenantLink
