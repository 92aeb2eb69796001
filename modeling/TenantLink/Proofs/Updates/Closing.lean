import Mathlib
import TenantLink.Proofs.Updates.Connecting

/-!
# Closing the stream

Closing the stream stops its attempt and its timer, with the lookup of that timer. An `init` that
waits for the session is not stopped: when the session comes, it finds the stream as disconnected as
it was, and begins an attempt. So nothing comes of what began before if no `init` waits, and never
more than one attempt of each that does: `History.closes_for_good`.
-/

namespace TenantLink

/-- What has come of the lookups that had begun before the stream was closed. -/
structure Holdover where
  /-- How many of them still wait. -/
  waiting : Nat
  /-- The attempts that they have begun. -/
  begun : Nat := 0
  /-- How often the stream has been opened since. -/
  inits : Nat := 0
  deriving DecidableEq, Repr

/-- Behind an event that leads from `s` to `t`. The lookups from before are the first ones. -/
def Holdover.after (o : Holdover) (s t : Supervisor) : StreamEvent → Holdover
  | .init => { o with inits := o.inits + 1 }
  | .found lookup _ =>
    if lookup < o.waiting then
      { o with waiting := o.waiting - 1, begun := o.begun + (t.begun - s.begun) }
    else o
  | _ => o

namespace Supervisor

variable {s t : Supervisor} {o : Holdover} {n b : Nat}

/-- How many `init`s wait for the session. -/
def awaitingInits (s : Supervisor) : Nat := s.lookups.countP (·.timer = none)

/-- The lookups from before, of which there were `n`, are those of `init`s. Until one of them begins
an attempt or the stream is opened, no more than `b` attempts have begun. -/
structure Outlasts (n b : Nat) (o : Holdover) (s : Supervisor) : Prop where
  parts : ∃ old new, s.lookups = old ++ new ∧ old.length = o.waiting ∧
    (∀ l ∈ old, l.timer = none) ∧ (o.begun = 0 → o.inits = 0 → new = [])
  bounded : o.begun + o.waiting ≤ n
  idle : o.begun = 0 → o.inits = 0 → s.conn.state = .disconnected ∧ s.begun = b

theorem lose_lookups (s : Supervisor) (g time : Nat) : (s.lose g time).lookups = s.lookups := by
  unfold lose
  split <;> rfl

theorem close_lookups (s : Supervisor) (g time : Nat) : (s.close g time).lookups = s.lookups :=
  lose_lookups _ g time

/-- Only connects and closing the stream concern the lookups. -/
def Connects : StreamEvent → Prop
  | .init | .fire _ _ | .found _ _ | .disconnect => True
  | _ => False

theorem next_lookups {e : StreamEvent} (other : ¬Connects e) :
    (s.next e).lookups = s.lookups := by
  cases e with
  | init | fire | found | disconnect => exact (other trivial).elim
  | sent g => rfl
  | head g accepted time =>
    rw [next, head]
    split
    · rfl
    · exact s.close_lookups g time
  | chunk g bytes =>
    rw [next, take]
    split <;> rfl
  | closed g time => exact s.close_lookups g time
  | lateHead g => rfl
  | lateId g id => rfl
  | lateEnd g time => exact s.lose_lookups g time

theorem Outlasts.frame (h : s.Outlasts n b o) (lookups : t.lookups = s.lookups)
    (drifts : s.Drifts t) : t.Outlasts n b o where
  parts := lookups ▸ h.parts
  bounded := h.bounded
  idle := by
    intro unbegun unopened
    obtain ⟨state, begun⟩ := h.idle unbegun unopened
    exact ⟨drifts.conn.disconnected state, drifts.begun.trans begun⟩

theorem Outlasts.init (h : s.Outlasts n b o) : s.init.Outlasts n b (o.after s s.init .init) where
  parts := by
    obtain ⟨old, new, whole, waiting, inits, -⟩ := h.parts
    unfold Supervisor.init
    split
    · refine ⟨old, new ++ [⟨.disconnected, none⟩], ?_, waiting, inits, fun _ opened => ?_⟩
      · simp [whole]
      · simp [Holdover.after] at opened
    · exact ⟨old, new, whole, waiting, inits, fun _ opened => by simp [Holdover.after] at opened⟩
  bounded := h.bounded
  idle := fun _ opened => by simp [Holdover.after] at opened

theorem Outlasts.fire (h : s.Outlasts n b o) (timer : Nat) : (s.fire timer).Outlasts n b o := by
  unfold Supervisor.fire
  split
  next errored =>
    -- A timer needs an attempt that has failed, and none has begun while nothing has happened.
    have busy : o.begun = 0 → o.inits ≠ 0 := by
      intro unbegun unopened
      have idle := (h.idle unbegun unopened).1
      rw [errored] at idle
      cases idle
    obtain ⟨old, new, whole, waiting, inits, -⟩ := h.parts
    exact {
      parts := by
        refine ⟨old, new ++ [⟨.errored, some timer⟩], ?_, waiting, inits,
          fun unbegun unopened => ?_⟩
        · simp [whole]
        · exact (busy unbegun unopened).elim
      bounded := h.bounded
      idle := fun unbegun unopened => (busy unbegun unopened).elim }
  next => exact h.frame rfl (.of_conn .still rfl (.refl _))

theorem Outlasts.disconnect (h : s.Outlasts n b o) : s.disconnect.Outlasts n b o where
  parts := by
    obtain ⟨old, new, whole, waiting, inits, unopened⟩ := h.parts
    refine ⟨old, new.filter fun l => l.timer = none ∨ l.timer ≠ s.conn.reconnect, ?_, waiting,
      inits, fun begun opened => by rw [unopened begun opened, List.filter_nil]⟩
    have kept : (old.filter fun l => l.timer = none ∨ l.timer ≠ s.conn.reconnect) = old :=
      List.filter_eq_self.mpr fun l member => by simp [inits l member]
    rw [Supervisor.disconnect, whole, List.filter_append, kept]
  bounded := h.bounded
  idle := fun begun opened => ⟨rfl, (h.idle begun opened).2⟩

theorem Outlasts.answered (h : s.Outlasts n b o) {lookup : Nat} {valid : Bool}
    (waits : lookup < s.lookups.length) (lookups : t.lookups = s.lookups.eraseIdx lookup)
    (leads : s.Drifts t ∨ t.begun = s.begun + 1) :
    t.Outlasts n b (o.after s t (.found lookup valid)) := by
  obtain ⟨old, new, whole, waiting, inits, unopened⟩ := h.parts
  have once : t.begun ≤ s.begun + 1 := by
    rcases leads with drifts | begun
    · exact drifts.begun.trans_le (Nat.le_succ _)
    · exact begun.le
  simp only [Holdover.after]
  split
  next before =>
    rw [← waiting] at before
    refine ⟨⟨old.eraseIdx lookup, new, ?_, ?_, ?_, ?_⟩, ?_, ?_⟩
    · rw [lookups, whole, List.eraseIdx_append_of_lt_length before]
    · rw [List.length_eraseIdx_of_lt before, waiting]
    · exact fun l member => inits l (List.mem_of_mem_eraseIdx member)
    · intro unbegun opened
      exact unopened (Nat.eq_zero_of_add_eq_zero_right unbegun) opened
    · have bounded := h.bounded
      dsimp only
      omega
    · intro unbegun opened
      obtain ⟨none, begins⟩ : o.begun = 0 ∧ t.begun - s.begun = 0 := Nat.add_eq_zero_iff.mp unbegun
      obtain ⟨idle, begun⟩ := h.idle none opened
      rcases leads with drifts | starts
      · exact ⟨drifts.conn.disconnected idle, drifts.begun.trans begun⟩
      · omega
  next behind =>
    rw [← waiting, Nat.not_lt] at behind
    -- A lookup behind the old ones can only be there if the stream has not stayed closed.
    have busy : o.begun = 0 → o.inits ≠ 0 := by
      intro unbegun opened
      rw [whole, unopened unbegun opened, List.append_nil] at waits
      omega
    refine ⟨⟨old, new.eraseIdx (lookup - old.length), ?_, waiting, inits, ?_⟩, h.bounded, ?_⟩
    · rw [lookups, whole, List.eraseIdx_append_of_length_le behind]
    · exact fun unbegun opened => (busy unbegun opened).elim
    · exact fun unbegun opened => (busy unbegun opened).elim

theorem Outlasts.found (h : s.Outlasts n b o) {lookup : Nat} (waits : lookup < s.lookups.length)
    (valid recorded : Bool) :
    (s.found lookup valid).Outlasts n b
      (o.after s (s.found lookup valid) (.found lookup recorded)) := by
  refine h.answered waits (s.found_lookups lookup valid) ?_
  rcases s.found_drifts lookup valid with drifts | ⟨-, begins⟩
  · exact .inl drifts
  · rw [begins, start, (s.forget_frame lookup).2.2]
    exact .inr rfl

theorem Outlasts.next (h : s.Outlasts n b o) {e : StreamEvent} (enabled : s.Enabled e) :
    (s.next e).Outlasts n b (o.after s (s.next e) e) := by
  by_cases other : Connects e
  · cases e with
    | init => exact h.init
    | fire timer time => exact h.fire timer
    | found lookup valid => exact h.found enabled valid valid
    | disconnect => exact h.disconnect
    | _ => exact other.elim
  · have drifts : s.Drifts (s.next e) := by
      rcases s.next_drifts e with drifts | ⟨lookup, rfl, -⟩
      · exact drifts
      · exact (other trivial).elim
    have same : o.after s (s.next e) e = o := by
      cases e with
      | init | found => exact (other trivial).elim
      | _ => rfl
    rw [same]
    exact h.frame (next_lookups other) drifts

theorem disconnect_lookups (sound : s.Sound) :
    s.disconnect.lookups = s.lookups.filter (·.timer = none) := by
  refine List.filter_congr fun l member => ?_
  rcases sound.lookups l member with ⟨-, init⟩ | ⟨-, -, timer⟩
  · simp [init]
  · simp [timer]

theorem disconnect_outlasts (sound : s.Sound) :
    s.disconnect.Outlasts s.awaitingInits s.begun ⟨s.disconnect.lookups.length, 0, 0⟩ where
  parts := by
    refine ⟨s.disconnect.lookups, [], (List.append_nil _).symm, rfl, ?_, fun _ _ => rfl⟩
    intro l member
    rw [disconnect_lookups sound] at member
    simpa using (List.mem_filter.mp member).2
  bounded := by
    rw [disconnect_lookups sound, awaitingInits, List.countP_eq_length_filter, Nat.zero_add]
  idle := fun _ _ => ⟨rfl, rfl⟩

end Supervisor

namespace Context

open Supervisor

variable {x y z : Context} {o : Holdover}

/-- `y` comes of `x`, and `o` has come of the lookups that waited in `x`. -/
inductive Sequel (x : Context) : Holdover → Context → Prop
  | refl : Sequel x ⟨x.stream.lookups.length, 0, 0⟩ x
  | event {o : Holdover} {y : Context} {e : StreamEvent} :
    Sequel x o y → y.stream.Enabled e → y.Admits e →
    Sequel x (o.after y.stream (y.step e).stream e) (y.step e)
  | answer {o : Holdover} {y : Context} {lookup : Nat} :
    Sequel x o y → lookup < y.stream.lookups.length →
    Sequel x (o.after y.stream (y.answerLookup lookup).stream (.found lookup y.hasSession))
      (y.answerLookup lookup)
  | teardown {o : Holdover} {y : Context} : Sequel x o y → Sequel x o y.teardown
  /-- The rest of the application goes on. -/
  | elsewhere {o : Holdover} {y z : Context} :
    Sequel x o y → z.stream = y.stream → z.config = y.config → Sequel x o z

theorem Sequel.outlasts {n b : Nat} (h : Sequel x o y)
    (closed : x.stream.Outlasts n b ⟨x.stream.lookups.length, 0, 0⟩) :
    y.stream.Outlasts n b o := by
  induction h with
  | refl => exact closed
  | event _ enabled _ ih =>
    rw [step_stream]
    exact ih.next enabled
  | @answer o y lookup _ waits ih =>
    rcases y.answerLookup_stream lookup with ⟨valid, leads, -⟩ | ⟨-, leads⟩
    · rw [leads]
      exact ih.found waits valid _
    · rw [leads]
      exact ih.answered waits (y.stream.forget_lookups lookup)
        (.inl (y.stream.forget_drifts lookup))
  | teardown _ ih => exact ih.disconnect
  | elsewhere _ stream _ ih => rwa [stream]

/-- Once the stream has been closed, each `init` that waits for its session begins one attempt at
most, and nothing else that began before begins any. Unless one of them does or the stream is opened
again, it stays disconnected and begins no attempt. -/
theorem History.closes_for_good {config : Config} {world : World} {gs : List Nat}
    (h : History (ofConfig config world) gs y) (closed : x = y.disconnect ∨ x = y.teardown) :
    x.stream.timers = [] ∧ x.stream.lookups.length = y.stream.awaitingInits ∧
    ∀ o z, Sequel x o z →
      o.begun + o.waiting ≤ y.stream.awaitingInits ∧
      (o.begun = 0 → o.inits = 0 →
        z.state = .disconnected ∧ z.stream.begun = y.stream.begun) := by
  have stream : x.stream = y.stream.disconnect := by
    rcases closed with rfl | rfl <;> rfl
  have sound := h.steady.sound
  refine ⟨?_, ?_, ?_⟩
  · rw [stream]
    exact ((disconnect_sound sound).phase.disconnected_iff.mp rfl).2
  · rw [stream, disconnect_lookups sound, awaitingInits, List.countP_eq_length_filter]
  · intro o z sequel
    have outlasts := sequel.outlasts (stream ▸ disconnect_outlasts sound)
    exact ⟨outlasts.bounded, outlasts.idle⟩

/-- An `init` and a timer wait for the session. -/
def lookingTwice : Context :=
  (((((idle.step .init).step .init).step (.found 1 true)).step (.sent 1)).step
    (.closed 1 0)).step (.fire 0 5000)

/-- Closing the stream leaves the `init`, which finds no session and begins nothing. -/
theorem lookingTwice_closed :
    lookingTwice.stream.lookups.length = 2 ∧ lookingTwice.disconnect.stream.lookups.length = 1 ∧
    (lookingTwice.disconnect.step (.found 0 false)).state = .disconnected ∧
    (lookingTwice.disconnect.step (.found 0 false)).stream.begun = 1 := by
  have reachable : idle.hasStream = true := by cbv
  have history := History.refl (x := idle) |>.tail (.event (e := .init) trivial trivial)
    |>.tail (.event (e := .init) trivial trivial)
    |>.tail (.event (e := .found 1 true) (Nat.le_refl 2) reachable)
    |>.tail (.event (e := .sent 1) rfl trivial)
    |>.tail (.event (e := .closed 1 0) rfl trivial)
    |>.tail (.event (e := .fire 0 5000) (by
      refine ⟨⟨⟨0, 5000⟩, List.mem_singleton_self _, rfl, Nat.le_refl _⟩, fun l member => ?_⟩
      obtain rfl := List.mem_singleton.mp member
      simp) trivial)
  obtain ⟨-, one, sequel⟩ := History.closes_for_good (y := lookingTwice) history (.inl rfl)
  have found := Sequel.refl (x := lookingTwice.disconnect)
    |>.event (e := .found 0 false) (Nat.le_refl 1) trivial
  obtain ⟨-, idle⟩ := sequel _ _ found
  exact ⟨rfl, one, idle rfl rfl⟩

/-- The session of an `init` comes when the stream has been closed already. -/
def overtaken : Context := (idle.step .init).disconnect

/-- The stream is opened all the same, though nobody has asked for it since. -/
theorem overtaken_init_opens :
    History idle [] (idle.step .init) ∧ overtaken.state = .disconnected ∧
    Sequel overtaken ⟨0, 1, 0⟩ (overtaken.step (.found 0 true)) ∧
    (overtaken.step (.found 0 true)).state = .connecting ∧
    (overtaken.step (.found 0 true)).stream.attempts = [⟨2, none, .unsent⟩] := by
  have reachable : idle.hasStream = true := by cbv
  refine ⟨?_, rfl, ?_, rfl, rfl⟩
  · exact History.refl.tail (.event (e := .init) trivial trivial)
  · exact Sequel.refl.event (e := .found 0 true) (Nat.le_refl 1) reachable

end Context

end TenantLink
