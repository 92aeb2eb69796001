import TenantLink.Proofs.Application.Acts
import TenantLink.Proofs.Updates.Connecting
import TenantLink.Proofs.Updates.Intake

/-!
# Whatever an application does

Each act leaves the configuration as it is, adds to what is published, and keeps the stream
`Wired`: `perform_proceeds`.
-/

namespace TenantLink

namespace Supervisor

theorem forget_delay (s : Supervisor) (lookup : Nat) : (s.forget lookup).delay = s.delay := by
  unfold forget
  split <;> rfl

theorem found_delay (s : Supervisor) (lookup : Nat) (valid : Bool) :
    (s.found lookup valid).delay = s.delay := by
  rcases s.found_cases lookup valid with same | ended | ⟨-, begins⟩ | abandoned
  · rw [same]
  · rw [ended, forget_delay]
  · rw [begins]
    exact s.forget_delay lookup
  · rw [abandoned]
    exact s.forget_delay lookup

theorem close_delay (s : Supervisor) (g time : Nat) : (s.close g time).delay = s.delay := by
  unfold close lose
  split <;> rfl

theorem next_delay (s : Supervisor) (e : StreamEvent) : (s.next e).delay = s.delay := by
  cases e with
  | init =>
    rw [next, init]
    split <;> rfl
  | fire timer time =>
    rw [next, fire]
    split <;> rfl
  | found lookup valid => exact s.found_delay lookup valid
  | head g accepted time =>
    rw [next, head]
    split
    · rfl
    · exact s.close_delay g time
  | chunk g bytes =>
    rw [next, take]
    split <;> rfl
  | closed g time => exact s.close_delay g time
  | lateEnd g time =>
    rw [next, lose]
    split <;> rfl
  | _ => rfl

end Supervisor

namespace Context

open Supervisor

variable {x y z : Context}

/-- The stream is sound, and goes by the configuration. -/
structure Wired (x : Context) : Prop where
  sound : x.stream.Sound
  delay : x.stream.delay = x.config.reconnectDelay
  grounded : x.hasStream = false → x.stream.conn.state = .disconnected

theorem ofConfig_wired (config : Config) (world : World) : (ofConfig config world).Wired where
  sound := initial_sound _
  delay := rfl
  grounded := fun _ => rfl

/-- What every act keeps. -/
structure Proceeds (x y : Context) : Prop where
  config : y.config = x.config
  channel : x.channel.Grows y.channel
  wired : x.Wired → y.Wired

theorem Proceeds.refl (x : Context) : x.Proceeds x := ⟨rfl, .refl _, id⟩

theorem Proceeds.trans (h : x.Proceeds y) (h' : y.Proceeds z) : x.Proceeds z where
  config := h'.config.trans h.config
  channel := h.channel.trans h'.channel
  wired := h'.wired ∘ h.wired

theorem Proceeds.of_same (stream : y.stream = x.stream) (config : y.config = x.config)
    (channel : y.channel = x.channel) : x.Proceeds y where
  config := config
  channel := channel ▸ .refl _
  wired := fun h => {
    sound := stream ▸ h.sound
    delay := by rw [stream, config, h.delay]
    grounded := by
      intro absent
      rw [hasStream, config] at absent
      rw [stream]
      exact h.grounded absent }

/-- What every act keeps that is not about handles. -/
structure Goes (x y : Context) : Prop extends Proceeds x y where
  held : y.held = x.held
  clones : y.clones = x.clones

theorem Goes.refl (x : Context) : x.Goes x := ⟨.refl x, rfl, rfl⟩

theorem Goes.trans (h : x.Goes y) (h' : y.Goes z) : x.Goes z where
  toProceeds := h.toProceeds.trans h'.toProceeds
  held := h'.held.trans h.held
  clones := h'.clones.trans h.clones

/-- The world, the jobs and the toasts may become anything. -/
theorem Goes.elsewhere (stream : y.stream = x.stream) (config : y.config = x.config)
    (channel : y.channel = x.channel) (held : y.held = x.held) (clones : y.clones = x.clones) :
    x.Goes y := ⟨.of_same stream config channel, held, clones⟩

theorem Goes.isShut (h : x.Goes y) : y.isShut = x.isShut := by
  rw [Context.isShut, Context.isShut, h.held, h.clones]

/-! ### Single events -/

/-- What may happen to a sound stream without a question. -/
def IsHarmless (x : Context) : StreamEvent → Prop
  | .found _ _ => False
  | .fire timer time => x.stream.Enabled (.fire timer time)
  | .lateEnd g _ => g < x.stream.conn.generation
  | _ => True

theorem next_sound_of_harmless {e : StreamEvent} (harmless : x.IsHarmless e)
    (sound : x.stream.Sound) : (x.stream.next e).Sound := by
  cases e with
  | init => exact init_sound sound
  | fire timer time => exact fire_sound sound harmless
  | found => exact harmless.elim
  | disconnect => exact disconnect_sound sound
  | sent g => exact advance_sound sound g _
  | head g accepted time =>
    rw [next, head]
    split
    · exact advance_sound (established_sound sound g) g _
    · exact sound.close g time
  | chunk g bytes => exact take_sound sound g bytes
  | closed g time => exact sound.close g time
  | lateHead g => exact established_sound sound g
  | lateId g id => exact recordId_sound sound g _
  | lateEnd g time =>
    rw [next, lose_superseded harmless]
    exact sound

theorem step_grows (x : Context) (e : StreamEvent) : x.channel.Grows (x.step e).channel := by
  by_cases chunk : ∃ g bytes, e = .chunk g bytes
  · obtain ⟨g, bytes, rfl⟩ := chunk
    have fed := congrArg Feed.channel (x.step_chunk g bytes)
    rw [(Feed.foldl_applyBatch _ _ _).2] at fed
    have channel : (x.step (.chunk g bytes)).channel = _ := fed
    rw [channel]
    exact ⟨rfl, List.prefix_append _ _⟩
  · have other : ∀ g bytes, e ≠ .chunk g bytes := fun g bytes same => chunk ⟨g, bytes, same⟩
    have same : (x.step e).channel = x.channel := congrArg Feed.channel (step_feed other)
    exact same ▸ .refl _

theorem step_handles (x : Context) (e : StreamEvent) :
    (x.step e).held = x.held ∧ (x.step e).clones = x.clones := by
  cases e <;> exact ⟨rfl, rfl⟩

theorem step_goes {e : StreamEvent} (harmless : x.IsHarmless e) : x.Goes (x.step e) where
  held := (x.step_handles e).1
  clones := (x.step_handles e).2
  config := x.step_config e
  channel := x.step_grows e
  wired := fun h => {
    sound := by
      rw [step_stream]
      exact next_sound_of_harmless harmless h.sound
    delay := by rw [step_stream, next_delay, step_config, h.delay]
    grounded := by
      intro absent
      rw [hasStream, step_config] at absent
      rw [step_stream]
      rcases x.stream.next_drifts e with drifts | ⟨lookup, rfl, -⟩
      · exact drifts.conn.disconnected (h.grounded absent)
      · exact harmless.elim }

theorem answerLookup_handles (x : Context) (lookup : Nat) :
    (x.answerLookup lookup).held = x.held ∧ (x.answerLookup lookup).clones = x.clones := by
  unfold answerLookup
  dsimp only
  split
  · split <;> exact ⟨rfl, rfl⟩
  · exact ⟨rfl, rfl⟩

theorem answerLookup_goes (x : Context) (lookup : Nat) : x.Goes (x.answerLookup lookup) := by
  have config := x.answerLookup_config lookup
  have channel : (x.answerLookup lookup).channel = x.channel :=
    congrArg Feed.channel (x.answerLookup_feed lookup)
  obtain ⟨held, clones⟩ := x.answerLookup_handles lookup
  refine ⟨⟨config, channel ▸ .refl _, fun h => ?_⟩, held, clones⟩
  rcases x.answerLookup_stream lookup with ⟨valid, leads, admitted⟩ | ⟨absent, leads⟩
  · refine ⟨leads ▸ found_sound h.sound lookup valid, ?_, fun absent => ?_⟩
    · rw [leads, found_delay, config, h.delay]
    · rw [hasStream, config] at absent
      rw [leads]
      rcases x.stream.found_drifts lookup valid with drifts | ⟨rfl, -⟩
      · exact drifts.conn.disconnected (h.grounded absent)
      · exact (Bool.eq_false_iff.mp absent admitted).elim
  · have idle := h.grounded absent
    refine ⟨leads ▸ h.sound.forget_idle idle lookup, ?_, fun _ => ?_⟩
    · rw [leads, forget_delay, config, h.delay]
    · rw [leads, (x.stream.forget_frame lookup).1]
      exact idle

theorem answerNew_goes {e : StreamEvent} (harmless : x.IsHarmless e) :
    x.Goes (x.answerNew e) := by
  unfold answerNew
  dsimp only
  split
  · exact (step_goes harmless).trans (answerLookup_goes _ _)
  · exact step_goes harmless

/-! ### As far as it goes -/

theorem answerLookup_lookups (x : Context) (lookup : Nat) :
    (x.answerLookup lookup).stream.lookups = x.stream.lookups.eraseIdx lookup := by
  rcases x.answerLookup_stream lookup with ⟨valid, leads, -⟩ | ⟨-, leads⟩
  · rw [leads, found_lookups]
  · rw [leads, forget_lookups]

/-- Where the session comes at once, the connect of a timer leaves no lookup behind. -/
theorem answerNew_fire_lookups (x : Context) (timer time : Nat) :
    (x.answerNew (.fire timer time)).stream.lookups = x.stream.lookups := by
  unfold answerNew
  dsimp only
  by_cases errored : x.stream.conn.state = .errored
  · have begins : (x.step (.fire timer time)).stream.lookups =
        x.stream.lookups ++ [⟨.errored, some timer⟩] := by
      rw [step_stream, next, Supervisor.fire, if_pos errored]
    rw [begins, if_pos (by simp), answerLookup_lookups, begins,
      List.eraseIdx_append_of_length_le (Nat.le_refl _), Nat.sub_self]
    exact List.append_nil _
  · have same : (x.step (.fire timer time)).stream.lookups = x.stream.lookups := by
      rw [step_stream, next, Supervisor.fire, if_neg errored]
      rfl
    rw [same, if_neg (Nat.lt_irrefl _), same]

/-- A calm context proceeds, and stays calm. -/
def Flows (x y : Context) : Prop := x.isCalm → x.Goes y ∧ y.isCalm

theorem Flows.refl (x : Context) : x.Flows x := fun calm => ⟨.refl x, calm⟩

theorem Flows.trans (h : x.Flows y) (h' : y.Flows z) : x.Flows z := by
  intro calm
  obtain ⟨first, calm⟩ := h calm
  obtain ⟨second, calm⟩ := h' calm
  exact ⟨first.trans second, calm⟩

theorem Goes.flows (h : x.Goes y) (lookups : y.stream.lookups = x.stream.lookups) :
    x.Flows y := by
  intro calm
  refine ⟨h, ?_⟩
  rw [isCalm, lookups]
  exact calm

theorem atTime_flows (x : Context) (time : Nat) : x.Flows (x.atTime time) :=
  Goes.flows (y := x.atTime time) (.elsewhere rfl rfl rfl rfl rfl) rfl

theorem fireDue_flows (x : Context) : x.Flows x.fireDue := by
  intro calm
  unfold fireDue
  cases found : x.stream.timers.find? (·.due ≤ x.world.now) with
  | none => exact Flows.refl x calm
  | some t =>
    have harmless : x.IsHarmless (.fire t.number x.world.now) := by
      refine ⟨⟨t, List.mem_of_find?_eq_some found, rfl, by simpa using List.find?_some found⟩, ?_⟩
      intro l member same
      have free := List.all_eq_true.mp calm l member
      rw [same] at free
      simp at free
    exact (answerNew_goes harmless).flows (x.answerNew_fire_lookups _ _) calm

/-- What the backend answers. -/
def IsAnswer : StreamEvent → Prop
  | .head _ _ _ | .chunk _ _ | .closed _ _ => True
  | _ => False

theorem step_flows {e : StreamEvent} (answer : IsAnswer e) : x.Flows (x.step e) := by
  have harmless : x.IsHarmless e := by
    cases e with
    | head | chunk | closed => trivial
    | _ => exact answer.elim
  refine (step_goes harmless).flows ?_
  rw [step_stream]
  cases e with
  | head g accepted time =>
    have report : IsReport time (.head g accepted time) := rfl
    exact (next_plans report).1.lookups
  | chunk g bytes =>
    have report : IsReport 0 (.chunk g bytes) := trivial
    exact (next_plans report).1.lookups
  | closed g time =>
    have report : IsReport time (.closed g time) := rfl
    exact (next_plans report).1.lookups
  | _ => exact answer.elim

theorem reports_answer {g time : Nat} {reaction : Reaction} {e : StreamEvent}
    (member : e ∈ reports g time reaction) : IsAnswer e := by
  cases reaction with
  | silence => cases member
  | hangUp delay =>
    rw [List.mem_singleton.mp member]
    trivial
  | answer reply =>
    rcases List.mem_cons.mp member with rfl | rest
    · trivial
    · split at rest
      · rcases List.mem_append.mp rest with body | last
        · obtain ⟨bytes, -, rfl⟩ := List.mem_map.mp body
          trivial
        · split at last
          · cases last
          · rw [List.mem_singleton.mp last]
            trivial
      · cases rest

theorem sendAttempt_goes (x : Context) (a : Attempt) : x.Goes (x.sendAttempt a).2 := by
  unfold sendAttempt
  dsimp only
  split
  · exact step_goes (e := .sent a.generation) trivial
  next reaction world _ =>
    have same : x.Goes { x with world } := .elsewhere rfl rfl rfl rfl rfl
    exact same.trans (step_goes (e := .sent a.generation) trivial)

theorem play_flows (done : Context → Bool) {events : List StreamEvent}
    (answers : ∀ e ∈ events, IsAnswer e) : x.Flows (play done x events).2 := by
  induction events generalizing x with
  | nil => exact .refl x
  | cons e rest ih =>
    have first := step_flows (x := x) (answers e List.mem_cons_self)
    exact first.trans (ih fun e member => answers e (List.mem_cons_of_mem _ member))

theorem settle_flows (x : Context) (done : Context → Bool) : x.Flows (x.settle done).2 := by
  unfold settle
  split
  · exact .refl x
  next a _ =>
    have answers : ∀ e ∈ (x.sendAttempt a).1, IsAnswer e := by
      unfold sendAttempt
      dsimp only
      split
      · intro e member
        rw [List.mem_singleton.mp member]
        trivial
      · exact fun e => reports_answer
    have sends : x.Flows (x.sendAttempt a).2 := by
      refine (x.sendAttempt_goes a).flows ?_
      rw [(x.sendAttempt_effect a).1]
      rfl
    exact sends.trans (play_flows done answers)

/-- What waiting keeps, and each thing that a watcher waits for. -/
structure Watched (R : Context → Context → Prop) : Prop where
  refl : ∀ x, R x x
  trans : ∀ {x y z}, R x y → R y z → R x z
  atTime : ∀ (x : Context) time, R x (x.atTime time)
  fireDue : ∀ x : Context, R x x.fireDue
  settle : ∀ (x : Context) done, R x (x.settle done).2

section

variable {R : Context → Context → Prop} (h : Watched R) (done : Context → Bool)

include h

theorem Watched.reconnect (x : Context) : R x (x.reconnect done).2 :=
  h.trans (h.fireDue x) (h.settle _ done)

theorem Watched.waitUntil (limit attempts : Nat) (x : Context) :
    R x (x.waitUntil done limit attempts).2 := by
  induction attempts generalizing x with
  | zero => exact h.atTime x limit
  | succ attempts ih =>
    unfold Context.waitUntil
    split
    · exact h.atTime x limit
    next due _ =>
      have begins := h.trans (h.atTime x due) (h.reconnect done _)
      split
      next later => exact later ▸ begins
      next later =>
        rw [later] at begins
        exact h.trans begins (ih _)

theorem Watched.watch (x : Context) (patience : Nat) : R x (x.watch done patience).2 := by
  unfold Context.watch
  split
  · exact h.refl x
  · have begins := h.settle x done
    split
    next later => exact later ▸ begins
    next later =>
      rw [later] at begins
      exact h.trans begins (h.waitUntil done _ _ _)

theorem Watched.elapse (x : Context) (ms : Nat) : R x (x.elapse ms) :=
  h.trans (h.atTime x _) (h.reconnect _ _)

theorem Watched.elapseUntil (x : Context) (ms : Nat) (state : StreamState) (patience : Nat) :
    R x (x.elapseUntil ms state patience).2 := by
  have begins := h.trans (h.atTime x (x.world.now + ms)) (h.reconnect (isIn state) _)
  unfold Context.elapseUntil
  split
  next later => exact later ▸ begins
  next later =>
    rw [later] at begins
    exact h.trans begins (h.waitUntil _ _ _ _)

end

theorem flows_watched : Watched Flows where
  refl := .refl
  trans := .trans
  atTime := atTime_flows
  fireDue := fireDue_flows
  settle := settle_flows

/-! ### Any act -/

theorem happen_goes {e : StreamEvent} (harmless : x.stream.Enabled e → x.IsHarmless e) :
    x.Goes (x.happen e) := by
  unfold happen
  split
  next enabled => exact step_goes (harmless enabled)
  next => exact .refl x

theorem fire_goes (x : Context) : x.Goes x.fire := by
  unfold fire
  split
  · exact happen_goes fun enabled => enabled
  · exact .refl x

theorem send_goes (x : Context) : x.Goes x.send.2 := by
  unfold send
  split
  · exact x.sendAttempt_goes _
  · exact .refl x

theorem disconnect_goes (x : Context) : x.Goes x.disconnect := step_goes (e := .disconnect) trivial

theorem calm_goes (h : x.Flows y) {result : Result} :
    x.Goes (if x.isCalm then (result, y) else (.done, x)).2 := by
  split
  next calm => exact (h calm).1
  next => exact .refl x

theorem perform_goes (x : Context) {a : Act} (other : a.ofHandles = false) :
    x.Goes (x.perform a).2 := by
  cases a with
  | clone | dropClone | drop => cases other
  | init =>
    rw [perform]
    split
    · exact .refl x
    · exact step_goes (e := .init) trivial
  | answer lookup =>
    rw [perform]
    split
    · exact x.answerLookup_goes lookup
    · exact .refl x
  | fire => exact x.fire_goes
  | send => exact x.send_goes
  | head accepted => exact happen_goes fun _ => trivial
  | chunk bytes => exact happen_goes fun _ => trivial
  | close => exact happen_goes fun _ => trivial
  | lateHead g => exact happen_goes fun _ => trivial
  | lateId g id => exact happen_goes fun _ => trivial
  | lateEnd g => exact happen_goes superseded_lt
  | openStream =>
    rw [perform]
    split
    · exact .refl x
    · exact answerNew_goes (e := .init) trivial
  | fireDue => exact calm_goes x.fireDue_flows
  | settle => exact calm_goes (x.settle_flows _)
  | elapse ms => exact calm_goes (flows_watched.elapse x ms)
  | awaitState state patience => exact calm_goes (flows_watched.watch _ x patience)
  | elapseUntil ms state patience => exact calm_goes (flows_watched.elapseUntil x ms state patience)
  | disconnect => exact x.disconnect_goes
  | teardown =>
    have forgets : x.disconnect.Goes x.teardown := .elsewhere rfl rfl rfl rfl rfl
    exact x.disconnect_goes.trans forgets
  | dismiss id => cases id <;> exact .elsewhere rfl rfl rfl rfl rfl
  | _ => exact .elsewhere rfl rfl rfl rfl rfl

theorem closeUnheld_proceeds (x : Context) : x.Proceeds x.closeUnheld := by
  unfold closeUnheld
  split
  · exact x.disconnect_goes.toProceeds
  · exact .refl x

theorem release_proceeds {rest : Context} (h : x.Proceeds rest) : x.Proceeds (x.release rest) := by
  unfold release
  split
  · exact .refl x
  · exact h

theorem perform_proceeds (x : Context) (a : Act) : x.Proceeds (x.perform a).2 := by
  cases a with
  | clone =>
    rw [perform]
    split
    · exact .refl x
    · exact .of_same rfl rfl rfl
  | dropClone =>
    have fewer : x.Proceeds { x with clones := x.clones - 1 } := .of_same rfl rfl rfl
    exact release_proceeds (fewer.trans (closeUnheld_proceeds _))
  | drop =>
    have left : x.Proceeds { x with held := false } := .of_same rfl rfl rfl
    exact release_proceeds (left.trans (closeUnheld_proceeds _))
  | _ => exact (x.perform_goes rfl).toProceeds

end Context

namespace Scene

theorem take_proceeds (s : Scene) (t : Turn) : s.context.Proceeds (s.take t).2.context := by
  rcases s.take_context t with ⟨a, -, performs⟩ | same
  · rw [performs]
    exact s.context.perform_proceeds a
  · rw [same]
    exact .refl _

theorem run_proceeds (s : Scene) (turns : List Turn) :
    s.context.Proceeds (s.run turns).2.context := by
  refine run_keeps (P := fun s' => s.context.Proceeds s'.context) (fun s' t _ h => ?_) (.refl _)
  exact h.trans (s'.take_proceeds t)

end Scene

end TenantLink
