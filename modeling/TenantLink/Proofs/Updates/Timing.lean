import Mathlib
import TenantLink.Proofs.Updates.Connecting
import TenantLink.Proofs.Updates.Journal
import TenantLink.Updates.Watch

/-!
# Connecting again in time

A `Timeline` of a context is a run by the clock, with the journal of its stream. The session answers
at once, and the clock stops where a timer is due. A lost connection is taken up once, when its
timer fires, and by nothing else: `Timeline.reconnects`.
-/

namespace TenantLink

namespace Supervisor

variable {s t : Supervisor}

/-! ### Counting -/

/-- The journal tells how many attempts were begun, and of no more requests than were sent. -/
structure Tally (s : Supervisor) (journal : Journal) : Prop where
  begun : s.begun = journal.count (· = .opened true) + journal.count (· = .fired true)
  asked : journal.count (· = .asked) + s.unsent ≤ s.begun

variable {journal : Journal} {time : Nat}

/-- Signs of neither a new attempt nor a request. -/
def IsSilent (sign : Sign) : Prop :=
  sign ≠ .asked ∧ sign ≠ .opened true ∧ sign ≠ .fired true

theorem Tally.silent (h : s.Tally journal) (begun : t.begun = s.begun)
    (unsent : t.unsent ≤ s.unsent) {entries : Journal}
    (silent : ∀ entry ∈ entries, IsSilent entry.2) : t.Tally (journal ++ entries) := by
  have asked : entries.count (· = .asked) = 0 :=
    Journal.count_eq_zero fun entry member => by simpa using (silent entry member).1
  have opened : entries.count (· = .opened true) = 0 :=
    Journal.count_eq_zero fun entry member => by simpa using (silent entry member).2.1
  have fired : entries.count (· = .fired true) = 0 :=
    Journal.count_eq_zero fun entry member => by simpa using (silent entry member).2.2
  refine ⟨?_, ?_⟩
  · rw [Journal.count_append, Journal.count_append, opened, fired, begun, h.begun]
    omega
  · rw [Journal.count_append, asked, begun, Nat.add_zero]
    exact Nat.le_trans (Nat.add_le_add_left unsent _) h.asked

theorem Tally.begins (h : s.Tally journal) (begun : t.begun = s.begun + 1)
    (unsent : t.unsent ≤ s.unsent + 1) {sign : Sign}
    (shown : sign = .opened true ∨ sign = .fired true) : t.Tally (journal ++ [(time, sign)]) := by
  obtain ⟨known, sent⟩ := h
  rcases shown with rfl | rfl <;>
    refine ⟨?_, ?_⟩ <;> simp only [Journal.count_append, Journal.count_single] <;> simp <;> omega

theorem Tally.asks (h : s.Tally journal) (begun : t.begun = s.begun)
    (unsent : t.unsent + 1 ≤ s.unsent) : t.Tally (journal ++ [(time, .asked)]) := by
  obtain ⟨known, sent⟩ := h
  refine ⟨?_, ?_⟩ <;> simp only [Journal.count_append, Journal.count_single] <;> simp <;> omega

end Supervisor

namespace Context

open Supervisor Journal

/-- `z` comes of `x` in time, and the journal tells what the stream shows on the way. -/
inductive Timeline (x : Context) : Journal → Context → Prop
  | refl : Timeline x [] x
  | opens {journal : Journal} {y : Context} : Timeline x journal y →
    Timeline x (journal ++ [(y.world.now, .opened y.openStream.1)]) y.openStream.2
  | disconnects {journal : Journal} {y : Context} : Timeline x journal y →
    Timeline x (journal ++ [(y.world.now, .closed)]) y.disconnect
  | tearsDown {journal : Journal} {y : Context} : Timeline x journal y →
    Timeline x (journal ++ [(y.world.now, .closed)]) y.teardown
  /-- The request of an attempt goes out, if the backend can be reached. -/
  | sends {journal : Journal} {y : Context} {a : Attempt} {requests : List SentRequest} :
    Timeline x journal y → a ∈ y.stream.attempts → a.phase = .unsent →
    (y.sendAttempt a).2.world.backend.received = y.world.backend.received ++ requests →
    Timeline x (journal ++ requests.map fun _ => (y.world.now, .asked)) (y.sendAttempt a).2
  | reports {journal : Journal} {y : Context} {e : StreamEvent} : Timeline x journal y →
    y.stream.Enabled e → IsReport y.world.now e →
    Timeline x
      (journal ++
        if y.state ≠ .errored ∧ (y.step e).state = .errored then [(y.world.now, .lost)] else [])
      (y.step e)
  /-- A timer that is due connects again. -/
  | fires {journal : Journal} {y : Context} {t : ReconnectTimer} : Timeline x journal y →
    t ∈ y.stream.timers → t.due ≤ y.world.now →
    Timeline x
      (journal ++ [(y.world.now, .fired (decide (y.stream.begun < y.fireDue.stream.begun)))])
      y.fireDue
  /-- The clock goes on, but stops where a timer is due. -/
  | waits {journal : Journal} {y : Context} {time : Nat} : Timeline x journal y →
    (∀ t ∈ y.stream.timers, time ≤ t.due) → Timeline x journal (y.atTime time)
  /-- Everything but the stream may change, the session first of all. No redirects come up. -/
  | elsewhere {journal : Journal} {y z : Context} : Timeline x journal y →
    z.stream = y.stream → z.config = y.config → z.world.now = y.world.now →
    (y.world.backend.IsDirect → z.world.backend.IsDirect) → Timeline x journal z

variable {x y : Context}

/-! ### What a run keeps -/

/-- The loss that is pending has a timer, which is all that is planned, and the journal so far is as
it must be. -/
structure Punctual (x : Context) (journal : Journal) (pending : Option Nat) : Prop where
  steady : ∃ gs, x.Steady gs
  free : x.stream.lookups = []
  delay : x.stream.delay = x.config.reconnectDelay
  paced : Paced x.config.reconnectDelay journal pending
  planned : x.stream.timers.map ReconnectTimer.due =
    pending.toList.map (· + x.config.reconnectDelay)
  awaits : Awaits x.config.reconnectDelay pending x.world.now
  tally : x.stream.Tally journal

variable {journal : Journal} {pending : Option Nat}

theorem ofConfig_punctual (config : Config) (world : World) :
    (ofConfig config world).Punctual [] none where
  steady := ⟨[], ofConfig_steady config world⟩
  free := rfl
  delay := rfl
  paced := .nil
  planned := rfl
  awaits := fun _ none => by cases none
  tally := ⟨rfl, Nat.le_refl 0⟩

theorem Punctual.sound (h : x.Punctual journal pending) : x.stream.Sound :=
  h.steady.elim fun _ steady => steady.sound

/-- Nothing is planned unless a loss is pending. -/
theorem Punctual.settled (h : x.Punctual journal none) :
    x.state ≠ .errored ∧ x.stream.timers = [] := by
  have timers : x.stream.timers = [] := List.map_eq_nil_iff.mp h.planned
  refine ⟨fun errored => ?_, timers⟩
  obtain ⟨⟨t, planned, -⟩, -⟩ := h.sound.phase.errored_iff.mp errored
  rw [timers] at planned
  cases planned

theorem Punctual.waiting {T : Nat} (h : x.Punctual journal (some T)) :
    x.state = .errored ∧ x.stream.attempts = [] ∧
      ∃ t, x.stream.timers = [t] ∧ t.due = T + x.config.reconnectDelay := by
  obtain ⟨t, timers, due⟩ := List.map_eq_singleton_iff.mp h.planned
  have errored := (h.sound.phase.of_timer (timers ▸ List.mem_singleton_self t)).1
  exact ⟨errored, (h.sound.phase.errored_iff.mp errored).2, t, timers, due⟩

theorem Punctual.errored_iff (h : x.Punctual journal pending) :
    x.state = .errored ↔ pending.isSome := by
  cases pending with
  | none => exact ⟨fun errored => (h.settled.1 errored).elim, fun none => by cases none⟩
  | some T => exact ⟨fun _ => rfl, fun _ => h.waiting.1⟩

theorem Punctual.of_same (h : x.Punctual journal pending) (stream : y.stream = x.stream)
    (config : y.config = x.config)
    (awaits : Awaits x.config.reconnectDelay pending y.world.now) : y.Punctual journal pending where
  steady := h.steady.elim fun _ steady => ⟨_, steady.move (.elsewhere stream config)⟩
  free := stream ▸ h.free
  delay := by rw [stream, config, h.delay]
  paced := config ▸ h.paced
  planned := by rw [stream, config, h.planned]
  awaits := config ▸ awaits
  tally := stream ▸ h.tally

theorem Punctual.refuses (h : x.Punctual journal pending) :
    x.Punctual (journal ++ [(x.world.now, .opened false)]) pending where
  steady := h.steady
  free := h.free
  delay := h.delay
  paced := by
    cases pending with
    | none => exact h.paced.opened
    | some T =>
      obtain ⟨least, most⟩ := h.awaits T rfl
      exact h.paced.refused least most
  planned := h.planned
  awaits := h.awaits
  tally := h.tally.silent rfl (Nat.le_refl _) (by simp [IsSilent])

theorem Punctual.opens (h : x.Punctual journal pending) :
    x.openStream.2.Punctual (journal ++ [(x.world.now, .opened x.openStream.1)]) pending := by
  by_cases idle : x.state = .disconnected
  · obtain ⟨told, stream, now⟩ := openStream_of_idle h.free idle
    obtain ⟨gs, steady⟩ := h.steady
    have config : x.openStream.2.config = x.config := x.answerNew_config .init
    have none : pending = none := by
      cases pending with
      | none => rfl
      | some T =>
        have errored := h.waiting.1
        rw [idle] at errored
        cases errored
    subst none
    cases begins : x.hasSession && x.hasStream with
    | false =>
      rw [begins] at told stream
      rw [told]
      refine Punctual.of_same h.refuses stream config ?_
      exact fun _ none => by cases none
    | true =>
      rw [begins, if_pos rfl] at stream
      rw [begins] at told
      have unsent : x.stream.start.unsent = x.stream.unsent + 1 := by
        simp [unsent, start]
      rw [told]
      exact {
        steady := steady.answerNew (e := .init) trivial trivial
        free := stream ▸ h.free
        delay := by rw [stream, config]; exact h.delay
        paced := config ▸ h.paced.opened
        planned := by rw [stream, config]; exact h.planned
        awaits := fun _ none => by cases none
        tally := by
          rw [stream]
          exact h.tally.begins rfl (Nat.le_of_eq unsent) (.inl rfl) }
  · rw [openStream_of_active idle]
    exact h.refuses

theorem Punctual.closes (h : x.Punctual journal pending) (move : Move x y)
    (stream : y.stream = x.stream.disconnect) :
    y.Punctual (journal ++ [(x.world.now, .closed)]) none := by
  obtain ⟨gs, steady⟩ := h.steady
  have sound : y.stream.Sound := stream ▸ disconnect_sound h.sound
  have idle : y.stream.conn.state = .disconnected := stream ▸ rfl
  have timers := (sound.phase.disconnected_iff.mp idle).2
  have fewer : x.stream.disconnect.unsent ≤ x.stream.unsent := List.filter_sublist.countP_le
  have silent : ∀ entry ∈ [(x.world.now, Sign.closed)], IsSilent entry.2 := by
    simp [IsSilent]
  exact {
    steady := ⟨_, steady.move move⟩
    free := by rw [stream, Supervisor.disconnect, h.free]; rfl
    delay := by rw [stream, Supervisor.disconnect, move.config, h.delay]
    paced := move.config ▸ h.paced.closed h.awaits
    planned := by rw [timers]; rfl
    awaits := fun _ none => by cases none
    tally := by
      rw [stream]
      exact h.tally.silent (t := x.stream.disconnect) rfl fewer silent }

theorem Punctual.reports (h : x.Punctual journal pending) {e : StreamEvent}
    (enabled : x.stream.Enabled e) (report : IsReport x.world.now e) :
    ∃ pending', (x.step e).Punctual
      (journal ++
        if x.state ≠ .errored ∧ (x.step e).state = .errored then [(x.world.now, .lost)] else [])
      pending' := by
  obtain ⟨gs, steady⟩ := h.steady
  obtain ⟨keeps, plans⟩ := next_plans (s := x.stream) report
  have admitted : x.Admits e := by
    cases e with
    | found => exact report.elim
    | _ => trivial
  have steady' := steady.move (.event enabled admitted)
  have free : (x.step e).stream.lookups = [] := by rw [step_stream, keeps.lookups, h.free]
  have delay : (x.step e).stream.delay = (x.step e).config.reconnectDelay := by
    rw [step_stream, keeps.delay, step_config, h.delay]
  cases plans with
  | same state timers =>
    have stays : ¬(x.state ≠ .errored ∧ (x.step e).state = .errored) := by
      rintro ⟨before, after⟩
      rw [Context.state, step_stream] at after
      exact before (state.mp after)
    rw [if_neg stays]
    refine ⟨pending, {
      steady := ⟨_, steady'⟩, free, delay
      paced := ?_, planned := ?_, awaits := ?_, tally := ?_ }⟩
    · rw [List.append_nil, step_config]
      exact h.paced
    · rw [step_stream, timers, step_config]
      exact h.planned
    · rw [step_config, step_now]
      exact h.awaits
    · rw [step_stream]
      exact h.tally.silent keeps.begun keeps.unsent (by simp)
  | lost open' errored timers =>
    have changes : x.state ≠ .errored ∧ (x.step e).state = .errored := by
      refine ⟨open', ?_⟩
      rw [Context.state, step_stream]
      exact errored
    have none : pending = none := by
      cases pending with
      | none => rfl
      | some T => exact (open' h.waiting.1).elim
    subst none
    rw [if_pos changes]
    refine ⟨some x.world.now, {
      steady := ⟨_, steady'⟩, free, delay
      paced := ?_, planned := ?_, awaits := ?_, tally := ?_ }⟩
    · rw [step_config]
      exact h.paced.lost
    · rw [step_stream, timers, h.settled.2, step_config, h.delay]
      rfl
    · rw [step_config, step_now]
      rintro _ ⟨⟩
      exact ⟨Nat.le_refl _, Nat.le_add_right _ _⟩
    · rw [step_stream]
      exact h.tally.silent keeps.begun keeps.unsent (by simp [IsSilent])

theorem Punctual.attempts (h : x.Punctual journal pending) {a : Attempt}
    (present : a ∈ x.stream.attempts) : x.stream.attempts = [a] ∧ pending = none := by
  cases pending with
  | some T =>
    rw [h.waiting.2.1] at present
    cases present
  | none =>
    cases h.sound.phase with
    | idle _ _ _ attempts | waiting _ _ _ _ attempts =>
      rw [attempts] at present
      cases present
    | live b _ _ _ _ attempts =>
      rw [attempts] at present
      exact ⟨List.mem_singleton.mp present ▸ attempts, rfl⟩

theorem Punctual.sends (h : x.Punctual journal pending) {a : Attempt}
    (present : a ∈ x.stream.attempts) (unsent : a.phase = .unsent) {requests : List SentRequest}
    (received : (x.sendAttempt a).2.world.backend.received =
      x.world.backend.received ++ requests) :
    (x.sendAttempt a).2.Punctual (journal ++ requests.map fun _ => (x.world.now, .asked)) none := by
  obtain ⟨attempts, rfl⟩ := h.attempts present
  obtain ⟨stream, config, now, requests', single, received'⟩ := x.sendAttempt_effect a
  obtain rfl : requests = requests' := List.append_cancel_left (received.symm.trans received')
  obtain ⟨gs, steady⟩ := h.steady
  have enabled : x.stream.Enabled (.sent a.generation) := by
    simp [Enabled, attemptIs, attempt?, attempts, unsent]
  have before : x.stream.unsent = 1 := by
    simp [Supervisor.unsent, attempts, unsent]
  have after : (x.stream.advance a.generation .awaiting).unsent = 0 := by
    simp [Supervisor.unsent, advance, attempts]
  refine {
    steady := ?_, free := ?_, delay := ?_, paced := ?_, planned := ?_, awaits := ?_, tally := ?_ }
  · have moved := steady.move (.event enabled trivial)
    exact ⟨_, moved.move (.elsewhere stream config)⟩
  · exact stream ▸ h.free
  · rw [stream, config]
    exact h.delay
  · rw [config]
    rcases single with rfl | ⟨request, rfl⟩
    · exact (List.append_nil journal).symm ▸ h.paced
    · exact h.paced.asked
  · rw [stream, config]
    exact h.planned
  · exact fun _ none => by cases none
  · rw [stream]
    rcases single with rfl | ⟨request, rfl⟩
    · exact h.tally.silent (t := x.stream.advance a.generation .awaiting) rfl (by omega) (by simp)
    · exact h.tally.asks (t := x.stream.advance a.generation .awaiting) rfl (by omega)

/-- A timer that is due is that of the loss that is pending, and it falls due just now. -/
theorem Punctual.due (h : x.Punctual journal pending) {t : ReconnectTimer}
    (present : t ∈ x.stream.timers) (due : t.due ≤ x.world.now) :
    ∃ T, pending = some T ∧ x.world.now = T + x.config.reconnectDelay ∧ x.state = .errored ∧
      x.stream.attempts = [] ∧ x.stream.timers = [t] ∧ x.hasStream = true := by
  cases pending with
  | none =>
    rw [h.settled.2] at present
    cases present
  | some T =>
    obtain ⟨errored, attempts, u, timers, time⟩ := h.waiting
    rw [timers] at present
    obtain rfl := List.mem_singleton.mp present
    obtain ⟨least, most⟩ := h.awaits T rfl
    refine ⟨T, rfl, by omega, errored, attempts, timers, ?_⟩
    obtain ⟨gs, steady⟩ := h.steady
    cases address : x.hasStream with
    | true => rfl
    | false =>
      have idle : x.state = .disconnected := steady.grounded address
      rw [errored] at idle
      cases idle

theorem Punctual.fires (h : x.Punctual journal pending) {t : ReconnectTimer}
    (present : t ∈ x.stream.timers) (due : t.due ≤ x.world.now) :
    x.fireDue.Punctual
      (journal ++ [(x.world.now, .fired (decide (x.stream.begun < x.fireDue.stream.begun)))])
      none := by
  obtain ⟨T, rfl, time, errored, attempts, timers, address⟩ := h.due present due
  obtain ⟨stream, now, -⟩ := fireDue_of_errored h.free errored timers due address
  have config : x.fireDue.config = x.config := by
    rw [fireDue_eq timers due]
    exact x.answerNew_config _
  have steady : ∃ gs, x.fireDue.Steady gs := by
    obtain ⟨gs, steady⟩ := h.steady
    rw [fireDue_eq timers due]
    exact steady.answerNew (e := .fire t.number x.world.now)
      ⟨⟨t, present, rfl, due⟩, by simp [h.free]⟩ trivial
  refine {
    steady, free := ?_, delay := ?_, paced := ?_, planned := ?_, awaits := ?_, tally := ?_ }
  · rw [stream]
    split <;> exact h.free
  · rw [stream, config]
    split <;> exact h.delay
  · rw [config, time]
    exact h.paced.fired
  · rw [stream]
    split <;> rfl
  · exact fun _ none => by cases none
  · rw [stream]
    split
    next session =>
      have unsent : ({ x.stream with timers := [] }.start).unsent = x.stream.unsent + 1 := by
        simp [Supervisor.unsent, start]
      refine h.tally.begins rfl (Nat.le_of_eq unsent) (.inr ?_)
      simp [start]
    next =>
      exact h.tally.silent (t := { x.stream with timers := [], conn := x.stream.conn.abandoned })
        rfl (Nat.le_refl _) (by simp [IsSilent])

theorem Punctual.waits (h : x.Punctual journal pending) {time : Nat}
    (stops : ∀ t ∈ x.stream.timers, time ≤ t.due) : (x.atTime time).Punctual journal pending := by
  refine h.of_same rfl rfl ?_
  rintro T rfl
  obtain ⟨-, -, t, timers, due⟩ := h.waiting
  obtain ⟨least, most⟩ := h.awaits T rfl
  have stop := stops t (timers ▸ List.mem_singleton_self t)
  simp only [atTime]
  omega

theorem Timeline.punctual {config : Config} {world : World}
    (h : Timeline (ofConfig config world) journal x) : ∃ pending, x.Punctual journal pending := by
  induction h with
  | refl => exact ⟨none, ofConfig_punctual config world⟩
  | opens _ ih => exact ih.imp fun _ h => h.opens
  | disconnects _ ih => exact ih.elim fun _ h => ⟨none, h.closes (.event trivial trivial) rfl⟩
  | tearsDown _ ih => exact ih.elim fun _ h => ⟨none, h.closes .teardown rfl⟩
  | sends _ present unsent received ih =>
    exact ih.elim fun _ h => ⟨none, h.sends present unsent received⟩
  | reports _ enabled report ih => exact ih.elim fun _ h => h.reports enabled report
  | fires _ present due ih => exact ih.elim fun _ h => ⟨none, h.fires present due⟩
  | waits _ stops ih => exact ih.imp fun _ h => h.waits stops
  | elsewhere _ stream config now _ ih =>
    exact ih.imp fun _ h => h.of_same stream config (now ▸ h.awaits)

theorem Timeline.config (h : Timeline x journal y) : y.config = x.config := by
  induction h with
  | refl => rfl
  | opens _ ih => exact (answerNew_config _ _).trans ih
  | disconnects _ ih | tearsDown _ ih | waits _ _ ih => exact ih
  | sends _ _ _ _ ih => exact (sendAttempt_effect _ _).2.1.trans ih
  | reports _ _ _ ih => exact (step_config _ _).trans ih
  | fires _ _ _ ih =>
    refine Eq.trans ?_ ih
    unfold fireDue
    split
    · exact answerNew_config _ _
    · rfl
  | elsewhere _ _ config _ _ ih => exact config.trans ih

/-- The requests of attempts are answered by no redirects, if none are there to begin with. -/
theorem Timeline.direct (h : Timeline x journal y) (direct : x.world.backend.IsDirect) :
    y.world.backend.IsDirect := by
  induction h with
  | refl => exact direct
  | opens _ ih => exact (answerNew_backend _ _).symm ▸ ih
  | disconnects _ ih | tearsDown _ ih | waits _ _ ih => exact ih
  | sends _ _ _ _ ih => exact sendAttempt_direct ih _
  | reports _ _ _ ih => exact (step_backend _ _).symm ▸ ih
  | fires _ _ _ ih =>
    unfold fireDue
    split
    · exact (answerNew_backend _ _).symm ▸ ih
    · exact ih
  | elsewhere _ _ _ _ keeps ih => exact keeps ih

/-- What a timer does that fires: it begins one attempt if there is a valid session, and otherwise
gives the connection up. -/
structure Reconnects (x y : Context) : Prop where
  begins : x.hasSession = true →
    y.state = .connecting ∧ y.stream.conn.generation = x.stream.conn.generation + 1 ∧
      y.stream.begun = x.stream.begun + 1 ∧
      ∃ a, y.stream.attempts = [a] ∧ a.generation = y.stream.conn.generation ∧ a.phase = .unsent
  abandons : x.hasSession = false →
    y.state = .disconnected ∧ y.stream.begun = x.stream.begun ∧ y.stream.attempts = []
  unplanned : y.stream.conn.reconnect = none ∧ y.stream.timers = []
  silent : y.world.backend = x.world.backend

theorem Punctual.due_reconnects (h : x.Punctual journal pending) {t : ReconnectTimer}
    (present : t ∈ x.stream.timers) (due : t.due ≤ x.world.now) : x.Reconnects x.fireDue := by
  obtain ⟨T, -, -, errored, attempts, timers, address⟩ := h.due present due
  obtain ⟨stream, -, backend⟩ := fireDue_of_errored h.free errored timers due address
  refine ⟨fun session => ?_, fun absent => ?_, ?_, backend⟩
  · rw [Context.state, stream, session]
    refine ⟨rfl, rfl, rfl, ⟨_, x.stream.conn.lastEventId, .unsent⟩, ?_, rfl, rfl⟩
    simp [start, attempts, Connection.opened]
  · rw [Context.state, stream, absent]
    exact ⟨rfl, rfl, attempts⟩
  · rw [stream]
    split <;> exact ⟨rfl, rfl⟩

/-- Each loss of the connection is followed by one firing of a timer at most, after the delay and
not before; a timer that fires does so for a loss of its own. Until then opening is refused. So no
more requests go out than openings and losses allow, as no reply is a redirect, by which the
transport would send more. -/
theorem Timeline.reconnects {config : Config} {world : World}
    (h : Timeline (ofConfig config world) journal x) (direct : world.backend.IsDirect) :
    ∃ pending : Option Nat,
      (x.state = .errored ↔ pending.isSome) ∧
      (∀ T ∈ pending, T ≤ x.world.now ∧ x.world.now ≤ T + config.reconnectDelay) ∧
      (∀ before T after, journal = before ++ (T, .lost) :: after →
        Aftermath config.reconnectDelay T after pending) ∧
      (∀ before time begun after, journal = before ++ (time, .fired begun) :: after →
        ∃ earlier T quiet, before = earlier ++ (T, .lost) :: quiet ∧
          Quiet config.reconnectDelay T quiet ∧ time = T + config.reconnectDelay) ∧
      (∀ t ∈ x.stream.timers, t.due ≤ x.world.now → x.Reconnects x.fireDue) ∧
      (x.state = .errored → x.openStream = (false, x) ∧ x.startSession = (false, x)) ∧
      (∀ i, (x.world.backend.reactionAt i).isRedirect = false) ∧
      journal.count (· = .asked) ≤
        journal.count (· = .opened true) + journal.count (· = .lost) := by
  obtain ⟨pending, punctual⟩ := h.punctual
  have same : x.config = config := h.config
  have paced := same ▸ punctual.paced
  refine ⟨pending, punctual.errored_iff, same ▸ punctual.awaits, ?_, ?_, ?_, ?_,
    (h.direct direct).reactionAt, ?_⟩
  · exact fun before T after place => paced.aftermath place
  · exact fun before time begun after place => paced.cause place
  · exact fun t present due => punctual.due_reconnects present due
  · intro errored
    have refused : x.openStream = (false, x) :=
      openStream_of_active fun idle => by rw [errored] at idle; cases idle
    exact ⟨refused, refused⟩
  · have asked := punctual.tally.asked
    have begun := punctual.tally.begun
    have lost := paced.fired_le
    have fired : journal.count (· = .fired true) ≤ journal.count Sign.isFired := by
      refine count_le_count fun sign true => ?_
      rw [of_decide_eq_true true]
      rfl
    omega

/-- A context of the default base with a session that stays valid. -/
def signedIn : Context :=
  ofConfig { apiBase := Config.defaultBase }
    { wall := ⟨0⟩, backend := { origin := Config.defaultBase }
      provider := { current := some { token := "t" } } }

def firstOpened : Context := signedIn.openStream.2

theorem firstOpened_timeline : Timeline signedIn [(0, .opened true)] firstOpened := by
  have told : signedIn.openStream.1 = true := by cbv
  exact told ▸ Timeline.opens .refl

def firstSent : Context := (firstOpened.sendAttempt ⟨1, none, .unsent⟩).2

theorem firstSent_timeline : Timeline signedIn [(0, .opened true), (0, .asked)] firstSent := by
  have begun : firstOpened.stream.attempts = [⟨1, none, .unsent⟩] := by cbv
  have now : firstOpened.world.now = 0 := by cbv
  have one : firstSent.world.backend.received.length =
      firstOpened.world.backend.received.length + 1 := by
    cbv
  obtain ⟨-, -, -, requests, -, received⟩ := firstOpened.sendAttempt_effect ⟨1, none, .unsent⟩
  rw [firstSent, received, List.length_append, Nat.add_left_cancel_iff] at one
  obtain ⟨request, rfl⟩ := List.length_eq_one_iff.mp one
  have sent := firstOpened_timeline.sends (begun ▸ List.mem_singleton_self _) rfl received
  rw [now] at sent
  exact sent

/-- The backend has turned the first attempt down, and the delay is over. -/
def turnedDown : Context := (firstSent.step (.head 1 false 0)).atTime 5000

theorem turnedDown_timeline :
    Timeline signedIn [(0, .opened true), (0, .asked), (0, .lost)] turnedDown := by
  have now : firstSent.world.now = 0 := by cbv
  have enabled : firstSent.stream.Enabled (.head 1 false 0) := by
    have awaits : firstSent.stream.attemptIs 1 (· = .awaiting) = true := by cbv
    exact awaits
  have loses :
      firstSent.state ≠ .errored ∧ (firstSent.step (.head 1 false 0)).state = .errored := by
    have before : firstSent.state = .connecting := by cbv
    have after : (firstSent.step (.head 1 false 0)).state = .errored := by cbv
    exact ⟨by simp [before], after⟩
  have planned : (firstSent.step (.head 1 false 0)).stream.timers = [⟨0, 5000⟩] := by cbv
  have lost := firstSent_timeline.reports enabled now.symm
  rw [if_pos loses, now] at lost
  refine lost.waits fun t present => ?_
  rw [planned] at present
  rw [List.mem_singleton.mp present]

/-- The next attempt begins when the timer fires, and not when someone asks for it. -/
theorem turnedDown_reconnects :
    ∃ x, Timeline signedIn
        [(0, .opened true), (0, .asked), (0, .lost), (5000, .opened false), (5000, .fired true)] x ∧
      x.state = .connecting ∧
      Aftermath 5000 0 [(5000, .opened false), (5000, .fired true)] none := by
  have refused : turnedDown.openStream = (false, turnedDown) := by
    refine openStream_of_active ?_
    have state : turnedDown.state = .errored := by cbv
    simp [state]
  have now : turnedDown.world.now = 5000 := by cbv
  have planned : turnedDown.stream.timers = [⟨0, 5000⟩] := by cbv
  have begins : decide (turnedDown.stream.begun < turnedDown.fireDue.stream.begun) = true := by cbv
  have connecting : turnedDown.fireDue.state = .connecting := by cbv
  have asked := turnedDown_timeline.opens
  rw [refused, now] at asked
  have run := asked.fires (planned ▸ List.mem_singleton_self _) (Nat.le_of_eq now.symm)
  rw [begins, now] at run
  obtain ⟨pending, errored, -, aftermath, -⟩ := run.reconnects (by decide)
  have none : pending = none := by
    cases pending with
    | none => rfl
    | some T =>
      rw [connecting] at errored
      cases errored.mpr rfl
  exact ⟨_, run, connecting, none ▸ aftermath [(0, .opened true), (0, .asked)] 0 _ rfl⟩

end Context

end TenantLink
