import Mathlib
import TenantLink.Proofs.Application.Audience
import TenantLink.Proofs.Client.Past
import TenantLink.Proofs.Updates.Past

/-!
# Contexts with a past

A context whose stream was open before does what a context without a past does, step by step; only
the numbers of attempts, timers and toasts go on from where they were: `Scene.run_after`.
-/

namespace TenantLink

namespace Context

structure Past where
  world : World.Past
  stream : Supervisor.Past
  batches : List (List Job)

def after (p : Past) (x : Context) : Context :=
  { x with
    world := x.world.after p.world
    channel := x.channel.after p.batches
    stream := x.stream.after p.stream }

def carry {α : Type} (p : Past) (outcome : α × Context) : α × Context :=
  (outcome.1, outcome.2.after p)

variable (p : Past) (x : Context)

@[simp]
theorem after_config : (x.after p).config = x.config := rfl

@[simp]
theorem after_world : (x.after p).world = x.world.after p.world := rfl

@[simp]
theorem after_channel : (x.after p).channel = x.channel.after p.batches := rfl

@[simp]
theorem after_stream : (x.after p).stream = x.stream.after p.stream := rfl

@[simp]
theorem after_isShut : (x.after p).isShut = x.isShut := rfl

theorem begun_after (y : Context) :
    (x.after p).stream.begun < (y.after p).stream.begun ↔ x.stream.begun < y.stream.begun :=
  Nat.add_lt_add_iff_right

/-! ### Single events -/

theorem step_after (e : StreamEvent) : (x.after p).step (e.after p.stream) = (x.step e).after p := by
  cases e with
  | chunk g bytes =>
    have taken := x.stream.take_after p.stream g bytes
    have fed := x.feed.applyEvents_after p.world.toasts p.batches x.world.wall
      (x.stream.take g bytes).1
    show withFeed { x.after p with
        stream := ((x.stream.after p.stream).take (g + p.stream.generations) bytes).2 }
      (((x.stream.after p.stream).take (g + p.stream.generations) bytes).1.foldl
        (Feed.applyEvent x.world.wall) (x.feed.after p.world.toasts p.batches)) = _
    rw [taken, fed]
    rfl
  | _ =>
    exact congrArg (fun stream => { x.after p with stream }) (x.stream.next_after p.stream _)

theorem answerLookup_after (lookup : Nat) :
    (x.after p).answerLookup lookup = (x.answerLookup lookup).after p := by
  let y : Context := { x with world := { x.world with provider := x.world.provider.look.2 } }
  unfold answerLookup
  dsimp only
  rw [after_config, after_world, World.after_provider, World.after_wall]
  split
  · cases x.config.endpoint streamPath with
    | ok u => exact y.step_after p (.found lookup true)
    | error e =>
      dsimp only
      rw [after_stream, Supervisor.forget_after]
      rfl
  · exact y.step_after p (.found lookup false)

theorem answerNew_after (e : StreamEvent) :
    (x.after p).answerNew (e.after p.stream) = (x.answerNew e).after p := by
  have count (y : Context) : (y.after p).stream.lookups.length = y.stream.lookups.length :=
    List.length_map _
  unfold answerNew
  dsimp only
  rw [step_after, count, count, answerLookup_after]
  split <;> rfl

theorem openStream_after : (x.after p).openStream = carry p x.openStream := by
  have opens : (x.after p).answerNew .init = (x.answerNew .init).after p :=
    answerNew_after p x .init
  unfold openStream
  simp only [opens, begun_after, carry]

theorem due_after (time : Nat) :
    (x.after p).stream.timers.find? (·.due ≤ time) =
      (x.stream.timers.find? (·.due ≤ time)).map (ReconnectTimer.after p.stream) :=
  List.find?_map

theorem fireDue_after : (x.after p).fireDue = x.fireDue.after p := by
  unfold fireDue
  rw [after_world, World.after_now, due_after]
  cases x.stream.timers.find? (·.due ≤ x.world.now) with
  | none => rfl
  | some t => exact answerNew_after p x (.fire t.number x.world.now)

/-! ### Attempts -/

theorem transmitAttempt_after (a : Attempt) :
    (x.after p).transmitAttempt (a.after p.stream) =
      (x.transmitAttempt a).map fun sent => (sent.1, sent.2.after p.world) := by
  have unseen := World.after_unseen p.world
  unfold transmitAttempt
  rw [after_config, after_world, show (a.after p.stream).resumeId = a.resumeId from rfl]
  rcases x.config.endpoint streamPath with _ | u
  · rfl
  · cases attemptHeaders? a.resumeId with
    | none => rfl
    | some headers =>
      dsimp only
      rw [unseen.transmit]
      rcases x.world.transmit u .get headers none with _ | ⟨reaction, w⟩
      · rfl
      · cases reaction with
        | answer reply => simp only [Option.map_some, unseen.storeCookies]
        | _ => rfl

theorem reports_after (g time : Nat) (reaction : Reaction) :
    reports (g + p.stream.generations) time reaction =
      (reports g time reaction).map (StreamEvent.after p.stream) := by
  cases reaction with
  | silence => rfl
  | hangUp delay => rfl
  | answer reply =>
    simp only [reports, List.map_cons]
    refine congrArg₂ List.cons rfl ?_
    split
    · rw [List.map_append, List.map_map]
      refine congrArg₂ (· ++ ·) rfl ?_
      cases reply.ending <;> rfl
    · rfl

theorem sendAttempt_after (a : Attempt) :
    (x.after p).sendAttempt (a.after p.stream) =
      ((x.sendAttempt a).1.map (StreamEvent.after p.stream), (x.sendAttempt a).2.after p) := by
  unfold sendAttempt
  dsimp only
  rw [transmitAttempt_after]
  rcases x.transmitAttempt a with _ | ⟨reaction, world⟩
  · exact congrArg (Prod.mk _) (step_after p x (.sent a.generation))
  · have sent := step_after p { x with world } (.sent a.generation)
    exact congrArg₂ Prod.mk (reports_after p a.generation x.world.now reaction) sent

theorem unsent_after :
    (x.after p).stream.attempts.find? (·.phase = .unsent) =
      (x.stream.attempts.find? (·.phase = .unsent)).map (Attempt.after p.stream) :=
  List.find?_map

/-! ### As far as it goes -/

section

variable {done done' : Context → Bool} (same : ∀ x : Context, done' (x.after p) = done x)

include same

theorem play_after (events : List StreamEvent) :
    play done' (x.after p) (events.map (StreamEvent.after p.stream)) =
      carry p (play done x events) := by
  induction events generalizing x with
  | nil => rfl
  | cons e rest ih =>
    rw [List.map_cons]
    unfold play
    dsimp only
    rw [step_after, ih, same]
    rfl

theorem settle_after : (x.after p).settle done' = carry p (x.settle done) := by
  unfold settle
  rw [unsent_after]
  cases x.stream.attempts.find? (·.phase = .unsent) with
  | none => rfl
  | some a =>
    simp only [Option.map_some]
    rw [sendAttempt_after]
    exact play_after p _ same _

theorem reconnect_after : (x.after p).reconnect done' = carry p (x.reconnect done) := by
  unfold reconnect
  dsimp only
  rw [fireDue_after, settle_after p _ same, same]
  rfl

theorem waitUntil_after (limit attempts : Nat) :
    (x.after p).waitUntil done' limit attempts = carry p (x.waitUntil done limit attempts) := by
  -- Each round waits for one timer, which falls due at the same time on both sides.
  induction attempts generalizing x with
  | zero => rfl
  | succ attempts ih =>
    have due : (x.after p).nextDue? limit = x.nextDue? limit := by
      unfold nextDue?
      rw [due_after, Option.map_map]
      rfl
    unfold waitUntil
    rw [due]
    cases x.nextDue? limit with
    | none => rfl
    | some due =>
      have later : (x.after p).atTime due = (x.atTime due).after p := rfl
      dsimp only
      rw [later, reconnect_after p _ same]
      rcases (x.atTime due).reconnect done with ⟨_ | _, y⟩
      · exact ih y
      · rfl

theorem watch_after (patience : Nat) :
    (x.after p).watch done' patience = carry p (x.watch done patience) := by
  unfold watch
  rw [same, settle_after p x same]
  split
  · rfl
  · rcases x.settle done with ⟨_ | _, y⟩
    · exact waitUntil_after p y same _ _
    · rfl

end

theorem elapse_after (ms : Nat) : (x.after p).elapse ms = (x.elapse ms).after p := by
  have reconnects : ((x.after p).atTime ((x.after p).world.now + ms)).reconnect (fun _ => false) =
      carry p ((x.atTime (x.world.now + ms)).reconnect fun _ => false) :=
    reconnect_after p (x.atTime (x.world.now + ms)) fun _ => rfl
  exact congrArg Prod.snd reconnects

theorem elapseUntil_after (ms : Nat) (state : StreamState) (patience : Nat) :
    (x.after p).elapseUntil ms state patience = carry p (x.elapseUntil ms state patience) := by
  have same (y : Context) : isIn state (y.after p) = isIn state y := rfl
  have later : (x.after p).atTime ((x.after p).world.now + ms) =
    (x.atTime (x.world.now + ms)).after p := rfl
  unfold elapseUntil
  rw [later, reconnect_after p _ same]
  rcases (x.atTime (x.world.now + ms)).reconnect (isIn state) with ⟨_ | _, y⟩
  · exact waitUntil_after p y same _ _
  · rfl

/-! ### Any act -/

theorem enabled_after (e : StreamEvent) :
    (x.after p).stream.Enabled (e.after p.stream) ↔ x.stream.Enabled e := by
  have attempt (g : Nat) :
      (x.after p).stream.attempt? (g + p.stream.generations) =
        (x.stream.attempt? g).map (Attempt.after p.stream) := x.stream.attempt?_after p.stream g
  have attemptIs (g : Nat) (phase : AttemptPhase → Bool) :
      (x.after p).stream.attemptIs (g + p.stream.generations) phase =
        x.stream.attemptIs g phase := by
    unfold Supervisor.attemptIs
    rw [attempt, Option.any_map]
    rfl
  have superseded (g : Nat) :
      (x.after p).stream.isSuperseded (g + p.stream.generations) = x.stream.isSuperseded g := by
    unfold Supervisor.isSuperseded
    rw [attempt, Option.isNone_map]
    exact congrArg (· && _) (decide_eq_decide.mpr Nat.add_lt_add_iff_right)
  cases e with
  | init => exact Iff.rfl
  | disconnect => exact Iff.rfl
  | fire timer time =>
    simp [Supervisor.Enabled, StreamEvent.after, after, Supervisor.after, ReconnectTimer.after,
      Lookup.after]
  | found lookup valid => exact iff_of_eq (congrArg (lookup < ·) (List.length_map _))
  | sent g => exact iff_of_eq (congrArg (· = true) (attemptIs g _))
  | head g accepted time => exact iff_of_eq (congrArg (· = true) (attemptIs g _))
  | chunk g bytes => exact iff_of_eq (congrArg (· = true) (attemptIs g _))
  | closed g time =>
    have isSome : ((x.after p).stream.attempt? (g + p.stream.generations)).isSome =
        (x.stream.attempt? g).isSome := by rw [attempt, Option.isSome_map]
    exact iff_of_eq (congrArg (· = true) isSome)
  | lateHead g => exact iff_of_eq (congrArg (· = true) (superseded g))
  | lateId g id => exact iff_of_eq (congrArg (· = true) (superseded g))
  | lateEnd g time => exact iff_of_eq (congrArg (· = true) (superseded g))

theorem happen_after (e : StreamEvent) :
    (x.after p).happen (e.after p.stream) = (x.happen e).after p := by
  have enabled := enabled_after p x e
  unfold happen
  by_cases can : x.stream.Enabled e
  · rw [if_pos can, if_pos (enabled.mpr can), step_after]
  · rw [if_neg can, if_neg (mt enabled.mp can)]

/-- The numbers of late reports need no change: none of them does anything. -/
theorem happen_late_after {e : StreamEvent} (late : IsLate e) :
    (x.after p).happen e = (x.happen e).after p := by
  rw [happen_late late, happen_late late]

theorem isCalm_after : (x.after p).isCalm = x.isCalm := by
  rw [isCalm, after_stream, Supervisor.after_lookups, List.all_map]
  simp [Function.comp_def, Lookup.after, isCalm]

theorem awaitsInit_after : (x.after p).awaitsInit = x.awaitsInit := by
  rw [awaitsInit, after_stream, Supervisor.after_lookups, List.any_map]
  simp [Function.comp_def, Lookup.after, awaitsInit]

theorem fire_after : (x.after p).fire = x.fire.after p := by
  unfold fire
  rw [after_world, World.after_now, due_after]
  cases x.stream.timers.find? (·.due ≤ x.world.now) with
  | none => rfl
  | some t => exact happen_after p x (.fire t.number x.world.now)

theorem send_after : (x.after p).send = carry p x.send := by
  unfold send
  rw [unsent_after]
  cases x.stream.attempts.find? (·.phase = .unsent) with
  | none => rfl
  | some a =>
    simp only [Option.map_some]
    rw [transmitAttempt_after, sendAttempt_after, Option.map_map]
    rfl

theorem disconnect_after : (x.after p).disconnect = x.disconnect.after p :=
  step_after p x .disconnect

theorem teardown_after : (x.after p).teardown = x.teardown.after p := by
  unfold teardown
  rw [disconnect_after]
  rfl

theorem closeUnheld_after : (x.after p).closeUnheld = x.closeUnheld.after p := by
  unfold closeUnheld
  rw [after_isShut, disconnect_after]
  split <;> rfl

theorem release_after (rest : Context) :
    (x.after p).release (rest.after p) = (x.release rest).after p := by
  unfold release
  rw [awaitsInit_after, after_isShut]
  split <;> rfl

end Context

/-- The same act where `k` toasts fewer have been shown. -/
def Act.before (k : Nat) : Act → Act
  | .dismiss (some id) => .dismiss (if id < k then none else some (id - k))
  | a => a

theorem Act.before_of_other (k : Nat) {a : Act} (other : ∀ id, a ≠ .dismiss (some id)) :
    a.before k = a := by
  unfold before
  split
  next id => exact (other id rfl).elim
  next => rfl

def Result.after (k : Nat) : Result → Result
  | .toast id => .toast (id + k)
  | result => result

namespace Context

variable (p : Past) (x : Context)

theorem perform_dismiss_after (id : Nat) :
    (x.after p).perform (.dismiss (some id)) =
      (.done, (x.perform (Act.before p.world.toasts (.dismiss (some id)))).2.after p) := by
  rw [Act.before]
  by_cases earlier : id < p.world.toasts
  · rw [perform, if_pos earlier, after_world, World.after_toasts,
      ToastStore.dismiss_earlier _ _ earlier]
    rfl
  · have dismissed := x.world.toasts.dismiss_after p.world.toasts (id - p.world.toasts)
    rw [Nat.sub_add_cancel (Nat.not_lt.mp earlier)] at dismissed
    rw [perform, if_neg earlier, after_world, World.after_toasts, dismissed]
    rfl

/-- Whatever is done in a context with a past comes to what it comes to in one without. -/
theorem perform_after (a : Act) :
    (x.after p).perform a =
      ((x.perform (a.before p.world.toasts)).1.after p.world.toasts,
        (x.perform (a.before p.world.toasts)).2.after p) := by
  by_cases dismisses : ∃ id, a = .dismiss (some id)
  · obtain ⟨id, rfl⟩ := dismisses
    exact (perform_dismiss_after p x id).trans (by rw [Act.before]; split <;> rfl)
  have other : ∀ id, a ≠ .dismiss (some id) := fun id same => dismisses ⟨id, same⟩
  rw [Act.before_of_other p.world.toasts other]
  cases a with
  | call c =>
    rw [perform, perform, after_config, after_world, Call.run_after]
    rfl
  | csrfCookie =>
    have token := (World.after_unseen p.world).csrfCookie x.world x.config
    exact congrArg (fun token => (Result.token token, x.after p)) token
  | resolveToken =>
    rw [perform, perform, after_config, after_world, World.resolveToken_after]
    rfl
  | init =>
    rw [perform, perform, after_isShut]
    split
    · rfl
    · exact congrArg (Prod.mk _) (step_after p x .init)
  | answer lookup =>
    rw [perform, perform, answerLookup_after, after_stream, Supervisor.after_lookups,
      List.length_map]
    split
    · simp only [← after_stream, begun_after]
      rfl
    · rfl
  | fire => exact congrArg (Prod.mk _) (fire_after p x)
  | send =>
    rw [perform, perform, send_after]
    rfl
  | head accepted =>
    exact congrArg (Prod.mk _)
      (happen_after p x (.head x.stream.conn.generation accepted x.world.now))
  | chunk bytes =>
    exact congrArg (Prod.mk _) (happen_after p x (.chunk x.stream.conn.generation bytes))
  | close =>
    exact congrArg (Prod.mk _) (happen_after p x (.closed x.stream.conn.generation x.world.now))
  | lateHead g => exact congrArg (Prod.mk _) (happen_late_after p x (e := .lateHead g) trivial)
  | lateId g id => exact congrArg (Prod.mk _) (happen_late_after p x (e := .lateId g id) trivial)
  | lateEnd g =>
    exact congrArg (Prod.mk _) (happen_late_after p x (e := .lateEnd g x.world.now) trivial)
  | openStream =>
    rw [perform, perform, after_isShut, openStream_after]
    split <;> rfl
  | fireDue =>
    rw [perform, perform, isCalm_after, fireDue_after]
    split <;> rfl
  | settle =>
    rw [perform, perform, isCalm_after, settle_after p x fun _ => rfl]
    split <;> rfl
  | elapse ms =>
    rw [perform, perform, isCalm_after, elapse_after]
    split <;> rfl
  | awaitState state patience =>
    rw [perform, perform, isCalm_after, awaitState, watch_after p x fun _ => rfl]
    split <;> rfl
  | elapseUntil ms state patience =>
    rw [perform, perform, isCalm_after, elapseUntil_after]
    split <;> rfl
  | disconnect => exact congrArg (Prod.mk _) (disconnect_after p x)
  | teardown => exact congrArg (Prod.mk _) (teardown_after p x)
  | clone =>
    rw [perform, perform, after_isShut]
    split <;> rfl
  | dropClone =>
    have drops : (x.after p).dropClone = x.dropClone.after p :=
      closeUnheld_after p { x with clones := x.clones - 1 }
    rw [perform, perform, drops, release_after]
    rfl
  | drop =>
    have drops : (x.after p).drop = x.drop.after p := closeUnheld_after p { x with held := false }
    rw [perform, perform, drops, release_after]
    rfl
  | addToast message severity time =>
    rw [perform, perform, after_world, World.after_toasts, World.after_wall, ToastStore.add_after]
    rfl
  | warnRateLimit =>
    rw [perform, perform, after_world, World.after_toasts, World.after_wall,
      ToastStore.warnRateLimit_after]
    rfl
  | dismiss id =>
    cases id with
    | none => rfl
    | some id => exact (other id rfl).elim
  | _ => rfl

theorem poll_after (s : Subscription) :
    (x.after p).poll (s.after p.batches) = (x.poll s).after p.world.toasts := by
  unfold poll
  rw [after_channel, Channel.receive?_after, after_isShut]
  cases x.channel.receive? s with
  | none =>
    dsimp only [Option.map_none]
    split <;> rfl
  | some _ => rfl

end Context

namespace Turn

def before (k : Nat) : Turn → Turn
  | .act a => .act (a.before k)
  | .subscribe => .subscribe
  | .receive i => .receive i

end Turn

namespace Scene

variable (p : Context.Past) (s : Scene)

def after : Scene where
  context := s.context.after p
  readers := s.readers.map (Reader.after p.batches)

@[simp]
theorem after_context : (s.after p).context = s.context.after p := rfl

@[simp]
theorem after_readers : (s.after p).readers = s.readers.map (Reader.after p.batches) := rfl

theorem take_after (t : Turn) :
    (s.after p).take t =
      ((s.take (t.before p.world.toasts)).1.after p.world.toasts,
        (s.take (t.before p.world.toasts)).2.after p) := by
  cases t with
  | act a =>
    rw [Turn.before, take, take, after_context, Context.perform_after]
    rfl
  | subscribe =>
    rw [Turn.before, take, take, after_context, Context.after_isShut, Context.after_channel,
      Channel.reader_after]
    split
    · rfl
    · simp only [after, List.map_append, List.map_cons, List.map_nil]
      rfl
  | receive i =>
    rw [Turn.before, take, take, after_readers, List.getElem?_map, after_context,
      Context.after_channel]
    cases s.readers[i]? with
    | none => rfl
    | some r =>
      simp only [Option.map_some]
      rw [Reader.after_place, Context.poll_after, Channel.read_after, ← List.map_set]
      rfl

/-- A run with a past comes to what it comes to without. -/
theorem run_after (turns : List Turn) :
    (s.after p).run turns =
      ((s.run (turns.map (Turn.before p.world.toasts))).1.map (Result.after p.world.toasts),
        (s.run (turns.map (Turn.before p.world.toasts))).2.after p) := by
  induction turns generalizing s with
  | nil => rfl
  | cons t rest ih =>
    have taken := s.take_after p t
    rw [List.map_cons]
    unfold run
    rw [taken]
    dsimp only
    rw [ih]
    rfl

end Scene

end TenantLink
