import TenantLink.Proofs.Application.Proceeding

/-!
# A stream that is closed

As long as nobody opens it again, nothing comes of a closed stream: whatever happens to it lets time
pass, and nothing else. So it is when no handle is left, too.
-/

namespace TenantLink.Context

open Supervisor

variable {x y : Context}

/-- The stream is closed, and nothing is under way. -/
structure Still (x : Context) : Prop where
  state : x.stream.conn.state = .disconnected
  attempts : x.stream.attempts = []
  timers : x.stream.timers = []
  lookups : x.stream.lookups = []

theorem Still.of_same (h : x.Still) (stream : y.stream = x.stream) : y.Still where
  state := stream ▸ h.state
  attempts := stream ▸ h.attempts
  timers := stream ▸ h.timers
  lookups := stream ▸ h.lookups

/-- Without an `init` under way, closing the stream ends all there is. -/
theorem Wired.still_disconnect (h : x.Wired) (free : x.awaitsInit = false) :
    x.disconnect.Still := by
  have sound := disconnect_sound h.sound
  obtain ⟨attempts, timers⟩ := sound.phase.disconnected_iff.mp rfl
  refine ⟨rfl, attempts, timers, List.filter_eq_nil_iff.mpr fun l member => ?_⟩
  -- A lookup that is left belongs to the timer that closing the stream stops.
  have bound : l.timer ≠ none := by
    simpa using List.any_eq_false.mp free l member
  rcases h.sound.lookups l member with ⟨-, unbound⟩ | ⟨-, -, same⟩
  · exact (bound unbound).elim
  · rw [same] at bound
    simp [same, bound]

theorem Still.disconnect (h : x.Still) : x.disconnect.Still := by
  refine ⟨rfl, ?_, ?_, ?_⟩
  · exact List.filter_eq_nil_iff.mpr (by simp [h.attempts])
  · exact List.filter_eq_nil_iff.mpr (by simp [h.timers])
  · exact List.filter_eq_nil_iff.mpr (by simp [h.lookups])

theorem atTime_self (x : Context) (ms : Nat) : x.atTime (x.world.now - ms) = x := by
  unfold atTime
  rw [Nat.max_eq_left (Nat.sub_le _ _)]

theorem atTime_atTime (x : Context) (time later : Nat) :
    (x.atTime time).atTime later = x.atTime (max time later) := by
  simp only [atTime, Nat.max_assoc]

theorem Still.attempt_none (h : x.Still) (g : Nat) : x.stream.attempt? g = none := by
  rw [attempt?, h.attempts]
  rfl

/-- What an attempt reports late that is no longer there. -/
def IsLate : StreamEvent → Prop
  | .lateHead _ | .lateId _ _ | .lateEnd _ _ => True
  | _ => False

theorem happen_late {e : StreamEvent} (late : IsLate e) : x.happen e = x := by
  have unchanged (enabled : x.stream.Enabled e) : x.stream.next e = x.stream := by
    cases e with
    | lateHead g =>
      have same := (Connection.superseded (superseded_lt enabled) none 0).1
      rw [next, same]
    | lateId g id =>
      have same := (Connection.superseded (superseded_lt enabled) (some id) 0).2.1
      rw [next, same]
    | lateEnd g time => exact lose_superseded (superseded_lt enabled) time
    | _ => exact late.elim
  unfold happen
  split
  next enabled =>
    have steps : x.step e = { x with stream := x.stream.next e } := by
      cases e with
      | chunk => exact late.elim
      | _ => rfl
    rw [steps, unchanged enabled]
  next => rfl

theorem Still.happen (h : x.Still) {e : StreamEvent} (answer : IsAnswer e) : x.happen e = x := by
  have absent := h.attempt_none
  refine if_neg fun enabled => ?_
  cases e with
  | head g accepted time => simp [Enabled, attemptIs, absent] at enabled
  | chunk g bytes => simp [Enabled, attemptIs, absent] at enabled
  | closed g time => simp [Enabled, absent] at enabled
  | _ => exact answer.elim

theorem Still.fireDue (h : x.Still) : x.fireDue = x := by
  unfold Context.fireDue
  rw [h.timers]
  rfl

theorem Still.settle (h : x.Still) (done : Context → Bool) : x.settle done = (false, x) := by
  unfold Context.settle
  rw [h.attempts]
  rfl

theorem Still.reconnect (h : x.Still) (done : Context → Bool) : (x.reconnect done).2 = x := by
  unfold Context.reconnect
  dsimp only
  rw [h.fireDue, h.settle]

theorem Still.waitUntil (h : x.Still) (done : Context → Bool) (limit attempts : Nat) :
    x.waitUntil done limit attempts = (false, x.atTime limit) := by
  cases attempts with
  | zero => rfl
  | succ attempts =>
    unfold Context.waitUntil nextDue?
    rw [h.timers]
    rfl

/-- What comes from the stream lets time pass, and nothing else. -/
theorem Still.passes (h : x.Still) {a : Act} (ofStream : a.ofStream = true) :
    ∃ time, (x.perform a).2 = x.atTime time := by
  have stays : ∃ time, x = x.atTime time := ⟨_, (x.atTime_self 0).symm⟩
  have same {y : Context} (leads : y = x) : ∃ time, y = x.atTime time := leads ▸ stays
  cases a with
  | answer lookup => exact same (by rw [perform, h.lookups]; rfl)
  | fire =>
    refine same ?_
    rw [perform, Context.fire, h.timers]
    rfl
  | send =>
    refine same ?_
    rw [perform, Context.send, h.attempts]
    rfl
  | head accepted => exact same (h.happen trivial)
  | chunk bytes => exact same (h.happen trivial)
  | close => exact same (h.happen trivial)
  | lateHead g => exact same (happen_late trivial)
  | lateId g id => exact same (happen_late trivial)
  | lateEnd g => exact same (happen_late trivial)
  | wait time => exact ⟨time, rfl⟩
  | fireDue =>
    rw [perform]
    split
    · exact same h.fireDue
    · exact stays
  | settle =>
    rw [perform]
    split
    · exact same (by rw [h.settle])
    · exact stays
  | elapse ms =>
    rw [perform]
    split
    · have later : (x.atTime (x.world.now + ms)).Still := h.of_same rfl
      exact ⟨_, later.reconnect _⟩
    · exact stays
  | awaitState state patience =>
    rw [perform]
    split
    · rw [awaitState, watch]
      split
      · exact stays
      · rw [h.settle]
        exact ⟨_, congrArg Prod.snd (h.waitUntil _ _ _)⟩
    · exact stays
  | elapseUntil ms state patience =>
    rw [perform]
    split
    · have later : (x.atTime (x.world.now + ms)).Still := h.of_same rfl
      have left := later.reconnect (isIn state)
      rw [elapseUntil]
      split
      next connected =>
        rw [connected] at left
        exact ⟨_, left⟩
      next connected =>
        rw [connected] at left
        subst left
        rw [later.waitUntil]
        exact ⟨_, atTime_atTime x _ _⟩
    · exact stays
  | _ => cases ofStream

theorem Still.closeUnheld (h : x.Still) : x.closeUnheld.Still := by
  unfold Context.closeUnheld
  split
  · exact h.disconnect
  · exact h

theorem closeUnheld_frame (x : Context) :
    x.closeUnheld.isShut = x.isShut ∧ x.closeUnheld.channel = x.channel := by
  unfold Context.closeUnheld
  split <;> exact ⟨rfl, rfl⟩

theorem release_cases (x rest : Context) : x.release rest = x ∨ x.release rest = rest := by
  unfold release
  split
  · exact .inl rfl
  · exact .inr rfl

/-- Only opening it ends the stillness of a stream, and that takes a handle. -/
theorem Still.perform (h : x.Still) {a : Act} (shut : a.opens = true → x.isShut = true) :
    (x.perform a).2.Still ∧ (x.perform a).2.channel = x.channel := by
  by_cases ofStream : a.ofStream = true
  · obtain ⟨time, leads⟩ := h.passes ofStream
    rw [leads]
    exact ⟨h.of_same rfl, rfl⟩
  · cases a with
    | init =>
      rw [Context.perform, if_pos (shut rfl)]
      exact ⟨h, rfl⟩
    | openStream =>
      rw [Context.perform, if_pos (shut rfl)]
      exact ⟨h, rfl⟩
    | disconnect => exact ⟨h.disconnect, rfl⟩
    | teardown => exact ⟨h.disconnect.of_same rfl, rfl⟩
    | clone =>
      rw [Context.perform]
      split
      · exact ⟨h, rfl⟩
      · exact ⟨h.of_same rfl, rfl⟩
    | dropClone =>
      have fewer : Still { x with clones := x.clones - 1 } := h.of_same rfl
      rw [Context.perform]
      rcases x.release_cases x.dropClone with kept | gone
      · rw [kept]
        exact ⟨h, rfl⟩
      · rw [gone]
        exact ⟨fewer.closeUnheld, (closeUnheld_frame _).2⟩
    | drop =>
      have left : Still { x with held := false } := h.of_same rfl
      rw [Context.perform]
      rcases x.release_cases x.drop with kept | gone
      · rw [kept]
        exact ⟨h, rfl⟩
      · rw [gone]
        exact ⟨left.closeUnheld, (closeUnheld_frame _).2⟩
    | dismiss id => cases id <;> exact ⟨h.of_same rfl, rfl⟩
    | answer | fire | send | head | chunk | close | lateHead | lateId | lateEnd | wait | fireDue
    | settle | elapse | awaitState | elapseUntil => exact (ofStream rfl).elim
    | _ => exact ⟨h.of_same rfl, rfl⟩

/-! ### When no handle is left -/

/-- Giving a handle away closes the stream for good, or leaves a handle. -/
theorem Wired.release (h : x.Wired) (open' : x.isShut = false) {rest : Context}
    (stream : rest.stream = x.stream) (shut : (x.release rest.closeUnheld).isShut = true) :
    (x.release rest.closeUnheld).Still := by
  unfold Context.release at shut ⊢
  split at shut
  next => simp [open'] at shut
  next needless =>
    rw [if_neg needless]
    have free : x.awaitsInit = false := by
      simpa [shut] using needless
    rw [(closeUnheld_frame rest).1] at shut
    rw [Context.closeUnheld, if_pos shut]
    exact (h.still_disconnect free).of_same (by rw [disconnect, step_stream, stream]; rfl)

theorem perform_still (wired : x.Wired) (still : x.isShut = true → x.Still) (a : Act)
    (shut : (x.perform a).2.isShut = true) : (x.perform a).2.Still := by
  by_cases before : x.isShut = true
  · exact ((still before).perform fun _ => before).1
  · rw [Bool.not_eq_true] at before
    cases a with
    | clone =>
      rw [Context.perform, if_neg (by simp [before])] at shut
      simp [isShut, clone] at shut
    | dropClone => exact wired.release before rfl shut
    | drop => exact wired.release before rfl shut
    | _ =>
      rw [(x.perform_goes rfl).isShut, before] at shut
      cases shut

theorem perform_isShut (a : Act) (shut : x.isShut = true) : (x.perform a).2.isShut = true := by
  cases a with
  | clone =>
    rw [Context.perform, if_pos shut]
    exact shut
  | dropClone =>
    have fewer : isShut { x with clones := x.clones - 1 } = true := by
      simp only [isShut, Bool.and_eq_true, decide_eq_true_eq] at shut ⊢
      exact ⟨shut.1, by omega⟩
    rw [Context.perform]
    rcases x.release_cases x.dropClone with kept | gone
    · rw [kept]
      exact shut
    · rw [gone]
      exact (closeUnheld_frame _).1.trans fewer
  | drop =>
    have left : isShut { x with held := false } = true := by
      simp only [isShut, Bool.and_eq_true, decide_eq_true_eq] at shut ⊢
      exact ⟨rfl, shut.2⟩
    rw [Context.perform]
    rcases x.release_cases x.drop with kept | gone
    · rw [kept]
      exact shut
    · rw [gone]
      exact (closeUnheld_frame _).1.trans left
  | _ => rw [(x.perform_goes rfl).isShut, shut]

end TenantLink.Context
