import Mathlib
import TenantLink.Context
import TenantLink.Proofs.Updates.Generations
import TenantLink.Proofs.Updates.Supervision

/-!
# The connection under every interleaving

A `History` of a context is any order of what its stream, its application and the session do. It
holds the generation of every attempt on the way.
-/

namespace TenantLink.Context

open Supervisor

/-- Whether the address of the stream can be built. -/
def hasStream (x : Context) : Bool := (x.config.endpoint streamPath).isOk

/-- Without the address of the stream no attempt is begun. -/
def Admits (x : Context) : StreamEvent → Prop
  | .found _ true => x.hasStream
  | _ => True

inductive Move (x : Context) : Context → Prop
  | event {e : StreamEvent} (enabled : x.stream.Enabled e) (admitted : x.Admits e) :
    Move x (x.step e)
  /-- A lookup goes on with the session that is there now. -/
  | answer {lookup : Nat} (waits : lookup < x.stream.lookups.length) :
    Move x (x.answerLookup lookup)
  | teardown : Move x x.teardown
  /-- An attempt goes on with its last chunk although it is superseded. -/
  | late {g : Nat} {e : ServerEvent} (superseded : x.stream.isSuperseded g) : Move x (x.takeLate e)
  /-- Everything but the stream may change, the session first of all. -/
  | elsewhere {y : Context} (stream : y.stream = x.stream) (config : y.config = x.config) :
    Move x y

/-- `z` comes of `x`, and the attempts begun on the way have the generations `gs`. -/
inductive History (x : Context) : List Nat → Context → Prop
  | refl : History x [] x
  | tail {gs : List Nat} {y z : Context} : History x gs y → Move y z →
    History x (gs ++ y.stream.launched z.stream) z

variable {x y : Context}

/-! ### What a move does to the stream -/

@[simp] theorem step_stream (x : Context) (e : StreamEvent) :
    (x.step e).stream = x.stream.next e := by
  cases e <;> rfl

@[simp] theorem step_config (x : Context) (e : StreamEvent) : (x.step e).config = x.config := by
  cases e <;> rfl

/-- Where a lookup leads. Without an address the connect ends without a trace. -/
theorem answerLookup_stream (x : Context) (lookup : Nat) :
    (∃ valid, (x.answerLookup lookup).stream = x.stream.found lookup valid ∧
        x.Admits (.found lookup valid)) ∨
      x.hasStream = false ∧ (x.answerLookup lookup).stream = x.stream.forget lookup := by
  unfold answerLookup hasStream
  dsimp only
  split
  · cases address : x.config.endpoint streamPath with
    | ok url =>
      refine .inl ⟨true, step_stream _ _, ?_⟩
      simp [Admits, hasStream, address, Except.isOk, Except.toBool]
    | error e => exact .inr ⟨rfl, rfl⟩
  · exact .inl ⟨false, step_stream _ _, trivial⟩

theorem answerLookup_config (x : Context) (lookup : Nat) :
    (x.answerLookup lookup).config = x.config := by
  unfold answerLookup
  dsimp only
  split
  · split
    · exact step_config _ _
    · rfl
  · exact step_config _ _

theorem Move.config (h : Move x y) : y.config = x.config := by
  cases h with
  | event => exact step_config _ _
  | answer => exact answerLookup_config _ _
  | teardown => rfl
  | late => rfl
  | elsewhere _ config => exact config

/-- What a move comes to: an event that can happen, a connect given up for want of an address, or
nothing. -/
theorem Move.stream (h : Move x y) :
    (∃ e, x.stream.Enabled e ∧ x.Admits e ∧ y.stream = x.stream.next e) ∨
      (∃ lookup, x.hasStream = false ∧ y.stream = x.stream.forget lookup) ∨
      y.stream = x.stream := by
  cases h with
  | event enabled admitted => exact .inl ⟨_, enabled, admitted, step_stream _ _⟩
  | @answer lookup waits =>
    rcases x.answerLookup_stream lookup with ⟨valid, leads, admitted⟩ | ⟨absent, leads⟩
    · exact .inl ⟨.found lookup valid, waits, admitted, leads⟩
    · exact .inr (.inl ⟨lookup, absent, leads⟩)
  | teardown => exact .inl ⟨.disconnect, trivial, trivial, rfl⟩
  | late => exact .inr (.inr rfl)
  | elsewhere stream => exact .inr (.inr stream)

theorem Move.generation_le (h : Move x y) :
    x.stream.conn.generation ≤ y.stream.conn.generation := by
  rcases h.stream with ⟨e, -, -, leads⟩ | ⟨lookup, -, leads⟩ | same
  · rw [leads]
    exact generation_le_next _ e
  · rw [leads]
    exact (x.stream.forget_drifts lookup).conn.generation_le
  · exact Nat.le_of_eq (by rw [same])

/-! ### What every move keeps -/

structure Steady (x : Context) (gs : List Nat) : Prop where
  sound : x.stream.Sound
  numbered : x.stream.Numbered gs
  grounded : x.hasStream = false → x.stream.conn.state = .disconnected

theorem ofConfig_steady (config : Config) (world : World) : (ofConfig config world).Steady [] where
  sound := initial_sound _
  numbered := initial_numbered _
  grounded := fun _ => rfl

theorem Steady.drift {gs : List Nat} (h : x.Steady gs) (config : y.config = x.config)
    (sound : y.stream.Sound) (drifts : x.stream.Drifts y.stream) :
    y.Steady (gs ++ x.stream.launched y.stream) where
  sound := sound
  numbered := h.numbered.drift drifts
  grounded := by
    intro absent
    have absent' : x.hasStream = false := by rwa [hasStream, ← config]
    exact drifts.conn.disconnected (h.grounded absent')

theorem Steady.move {gs : List Nat} (h : x.Steady gs) (m : Move x y) :
    y.Steady (gs ++ x.stream.launched y.stream) := by
  rcases m.stream with ⟨e, enabled, admitted, leads⟩ | ⟨lookup, absent, leads⟩ | same
  · have sound : y.stream.Sound := leads ▸ next_sound h.sound enabled
    rcases x.stream.next_drifts e with drifts | ⟨lookup, rfl, -⟩
    · exact h.drift m.config sound (leads ▸ drifts)
    · exact {
        sound := sound
        numbered := leads ▸ h.numbered.next _
        grounded := by
          intro absent
          have present : y.hasStream = true := by
            rw [hasStream, m.config]
            exact admitted
          rw [absent] at present
          cases present }
  · -- The connection was never anything but disconnected, so no timer waits for this lookup.
    have sound := h.sound.forget_idle (h.grounded absent) lookup
    exact h.drift m.config (leads ▸ sound) (leads ▸ x.stream.forget_drifts lookup)
  · exact h.drift m.config (same ▸ h.sound) (same ▸ .of_conn .still rfl (.refl _))

theorem History.steady {config : Config} {world : World} {gs : List Nat}
    (h : History (ofConfig config world) gs x) : x.Steady gs := by
  induction h with
  | refl => exact ofConfig_steady config world
  | tail _ m ih => exact ih.move m

/-- In every state there is what the connection says, and nothing else: one attempt of the current
generation, one timer, or neither. No two attempts share a generation. -/
theorem History.connection {config : Config} {world : World} {gs : List Nat}
    (h : History (ofConfig config world) gs x) :
    (x.state = .connecting ∨ x.state = .connected ↔
      ∃ a, x.stream.attempts = [a] ∧ x.stream.conn.task = some a.generation ∧
        a.generation = x.stream.conn.generation) ∧
    (x.state = .errored ↔
      (∃ t, x.stream.timers = [t] ∧ x.stream.conn.reconnect = some t.number) ∧
        x.stream.attempts = []) ∧
    (x.state = .disconnected ↔ x.stream.attempts = [] ∧ x.stream.timers = []) ∧
    (x.stream.conn.task = none ↔ x.stream.attempts = []) ∧
    (x.stream.conn.reconnect = none ↔ x.stream.timers = []) ∧
    gs.Pairwise (· < ·) ∧ gs.length = x.stream.begun ∧
    (∀ a ∈ x.stream.attempts, a.generation ∈ gs) ∧
    (∀ y, Move x y → x.stream.conn.generation ≤ y.stream.conn.generation) ∧
    ∀ g < x.stream.conn.generation, ∀ id time event,
      (x.step (.lateHead g)).stream.conn = x.stream.conn ∧
      (x.step (.lateId g id)).stream.conn = x.stream.conn ∧
      (x.step (.lateEnd g time)).stream.conn = x.stream.conn ∧
      (x.takeLate event).stream.conn = x.stream.conn := by
  obtain ⟨sound, numbered, -⟩ := h.steady
  obtain ⟨task, reconnect⟩ := sound.phase.handles
  refine ⟨sound.phase.live_iff, sound.phase.errored_iff, sound.phase.disconnected_iff, task,
    reconnect, numbered.increasing, numbered.counted, numbered.known, ?_, ?_⟩
  · intro y m
    exact m.generation_le
  · intro g old id time event
    obtain ⟨head, recorded, -⟩ := Connection.superseded old (some id) 0
    refine ⟨head, recorded, ?_, rfl⟩
    rw [step_stream, next, lose_superseded old]

/-- A context of the default base, with a backend that never answers. -/
def idle : Context :=
  ofConfig { apiBase := Config.defaultBase }
    { wall := ⟨0⟩, backend := { origin := Config.defaultBase }, provider := {} }

/-- The stream is opened, closed and opened again, with a late end of the first attempt. -/
theorem reopened_connection :
    ∃ gs x, History idle gs x ∧ gs = [1, 3] ∧ x.state = .connecting ∧
      ∃ a, x.stream.attempts = [a] ∧ x.stream.conn.task = some a.generation ∧
        a.generation = x.stream.conn.generation := by
  have reachable : idle.hasStream = true := by cbv
  have open1 : Move idle (idle.step .init) := .event trivial trivial
  have begin1 := Move.event (x := idle.step .init) (e := .found 0 true) (Nat.le_refl 1) reachable
  have close1 := Move.teardown (x := (idle.step .init).step (.found 0 true))
  have late1 := Move.event (x := ((idle.step .init).step (.found 0 true)).teardown)
    (e := .lateEnd 1 0) rfl trivial
  have open2 := Move.event (x := ((idle.step .init).step (.found 0 true)).teardown.step
    (.lateEnd 1 0)) (e := .init) trivial trivial
  have begin2 := Move.event (x := (((idle.step .init).step (.found 0 true)).teardown.step
    (.lateEnd 1 0)).step .init) (e := .found 0 true) (Nat.le_refl 1) reachable
  have history := History.refl.tail open1 |>.tail begin1 |>.tail close1 |>.tail late1
    |>.tail open2 |>.tail begin2
  exact ⟨_, _, history, rfl, rfl, history.connection.1.mp (.inl rfl)⟩

end TenantLink.Context
