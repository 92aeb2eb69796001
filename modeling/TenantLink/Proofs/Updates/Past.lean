import Mathlib.Data.List.InsertIdx
import TenantLink.Proofs.Toasts
import TenantLink.Proofs.Updates.Broadcast
import TenantLink.Updates.Feed
import TenantLink.Updates.Supervisor

/-!
# Streams with a past

A stream that was opened and closed before counts its attempts and its timers on. Apart from the
numbers it does the same as one without a past: `Supervisor.next_after`. So it is with a channel
behind what was published before, for those who subscribe from now on.
-/

namespace TenantLink

/-- How many generations, timers and attempts a stream has behind it. -/
structure Supervisor.Past where
  generations : Nat
  timers : Nat
  begun : Nat

variable (p : Supervisor.Past)

namespace Connection

def after (c : Connection) : Connection :=
  { c with
    generation := c.generation + p.generations
    task := c.task.map (· + p.generations)
    reconnect := c.reconnect.map (· + p.timers) }

variable (c : Connection) (g : Nat)

@[simp]
theorem after_state : (c.after p).state = c.state := rfl

theorem shutdown_after : (c.after p).shutdown = c.shutdown.after p := by
  simp only [shutdown, after, Option.map_none, Nat.add_right_comm]

theorem opened_after : (c.after p).opened = c.opened.after p := by
  simp only [opened, after, Option.map_some, Option.map_none, Nat.add_right_comm]

theorem current_after : (c.after p).generation = g + p.generations ↔ c.generation = g :=
  Nat.add_right_cancel_iff

theorem isAwaiting_after : (c.after p).isAwaiting (g + p.generations) = c.isAwaiting g := by
  simp only [isAwaiting, current_after]
  rfl

theorem established_after :
    (c.after p).established (g + p.generations) = (c.established g).after p := by
  unfold established
  rw [isAwaiting_after]
  split <;> rfl

theorem recordId_after (id : Option String) :
    (c.after p).recordId (g + p.generations) id = (c.recordId g id).after p := by
  cases id with
  | none => rfl
  | some id =>
    simp only [recordId, current_after]
    split <;> rfl

theorem isHeldBy_after : (c.after p).isHeldBy (g + p.generations) = c.isHeldBy g := by
  simp only [isHeldBy, current_after]
  rfl

theorem lost_after (timer : Nat) :
    (c.after p).lost (g + p.generations) (timer + p.timers) = (c.lost g timer).after p := by
  unfold lost
  rw [isHeldBy_after]
  split <;> rfl

end Connection

def Attempt.after (a : Attempt) : Attempt := { a with generation := a.generation + p.generations }

def ReconnectTimer.after (t : ReconnectTimer) : ReconnectTimer :=
  { t with number := t.number + p.timers }

def Lookup.after (l : Lookup) : Lookup := { l with timer := l.timer.map (· + p.timers) }

def StreamEvent.after : StreamEvent → StreamEvent
  | .fire timer time => .fire (timer + p.timers) time
  | .sent g => .sent (g + p.generations)
  | .head g accepted time => .head (g + p.generations) accepted time
  | .chunk g bytes => .chunk (g + p.generations) bytes
  | .closed g time => .closed (g + p.generations) time
  | .lateHead g => .lateHead (g + p.generations)
  | .lateId g id => .lateId (g + p.generations) id
  | .lateEnd g time => .lateEnd (g + p.generations) time
  | e => e

namespace Supervisor

def after (s : Supervisor) : Supervisor :=
  { s with
    conn := s.conn.after p
    attempts := s.attempts.map (Attempt.after p)
    timers := s.timers.map (ReconnectTimer.after p)
    lookups := s.lookups.map (Lookup.after p)
    nextTimer := s.nextTimer + p.timers
    begun := s.begun + p.begun }

variable (s : Supervisor) (g time : Nat)

@[simp]
theorem after_conn : (s.after p).conn = s.conn.after p := rfl

@[simp]
theorem after_lookups : (s.after p).lookups = s.lookups.map (Lookup.after p) := rfl

@[simp]
theorem after_timers : (s.after p).timers = s.timers.map (ReconnectTimer.after p) := rfl

@[simp]
theorem after_attempts : (s.after p).attempts = s.attempts.map (Attempt.after p) := rfl

theorem after_setConn (conn : Connection) :
    { s.after p with conn := conn.after p } = after p { s with conn } := rfl

theorem attempt?_after :
    (s.after p).attempt? (g + p.generations) = (s.attempt? g).map (Attempt.after p) := by
  simp only [attempt?, after, List.find?_map]
  congr 2
  funext a
  simp [Attempt.after]

theorem advance_after (phase : AttemptPhase) :
    (s.after p).advance (g + p.generations) phase = (s.advance g phase).after p := by
  simp only [advance, after, List.map_map]
  congr 2
  funext a
  by_cases same : a.generation = g <;> simp [Attempt.after, same]

theorem shifted_iff (k : Nat) (number other : Option Nat) :
    number.map (· + k) = other.map (· + k) ↔ number = other := by
  refine ⟨fun same => ?_, fun same => same ▸ rfl⟩
  exact Option.map_injective (fun a b h => Nat.add_right_cancel h) same

theorem endTimer_after (timer : Option Nat) :
    (s.after p).endTimer (timer.map (· + p.timers)) = (s.endTimer timer).after p := by
  have same (t : ReconnectTimer) :
      some (t.after p).number = timer.map (· + p.timers) ↔ some t.number = timer :=
    shifted_iff p.timers (some t.number) timer
  simp only [endTimer, after, List.filter_map, Function.comp_def, ne_eq, same]

theorem init_after : (s.after p).init = s.init.after p := by
  unfold init
  rw [show (s.after p).canInit = s.canInit from rfl]
  split
  · simp [after, Lookup.after]
  · rfl

theorem fire_after (timer : Nat) :
    (s.after p).fire (timer + p.timers) = (s.fire timer).after p := by
  unfold fire
  rw [after_conn, Connection.after_state]
  split
  · simp [after, Lookup.after]
  · exact endTimer_after p s (some timer)

theorem forget_after (lookup : Nat) : (s.after p).forget lookup = (s.forget lookup).after p := by
  unfold forget
  rw [after_lookups, List.getElem?_map]
  cases s.lookups[lookup]? with
  | none => rfl
  | some l =>
    simp only [Option.map_some]
    rw [List.eraseIdx_map]
    exact endTimer_after p { s with lookups := s.lookups.eraseIdx lookup } l.timer

theorem start_after : (s.after p).start = s.start.after p := by
  unfold start
  rw [after_conn, Connection.opened_after]
  simp [after, Attempt.after, Connection.after, Nat.add_right_comm]

theorem found_after (lookup : Nat) (valid : Bool) :
    (s.after p).found lookup valid = (s.found lookup valid).after p := by
  unfold found
  rw [after_lookups, List.getElem?_map]
  cases s.lookups[lookup]? with
  | none => rfl
  | some l =>
    simp only [Option.map_some]
    rw [forget_after, after_conn, Connection.after_state, show (l.after p).origin = l.origin from rfl]
    split
    · rfl
    · split
      · exact (s.forget lookup).start_after p
      · split <;> rfl

theorem disconnect_after : (s.after p).disconnect = s.disconnect.after p := by
  have attempts (a : Attempt) :
      some (a.after p).generation = (s.conn.after p).task ↔ some a.generation = s.conn.task :=
    shifted_iff p.generations (some a.generation) s.conn.task
  have timers (t : ReconnectTimer) :
      some (t.after p).number = (s.conn.after p).reconnect ↔ some t.number = s.conn.reconnect :=
    shifted_iff p.timers (some t.number) s.conn.reconnect
  have lookups (l : Lookup) : (l.after p).timer = (s.conn.after p).reconnect ↔
      l.timer = s.conn.reconnect := shifted_iff p.timers l.timer s.conn.reconnect
  have free (l : Lookup) : (l.after p).timer = none ↔ l.timer = none := Option.map_eq_none_iff
  unfold disconnect
  simp only [after, List.filter_map, Function.comp_def, ne_eq, attempts, timers, lookups, free,
    Connection.shutdown_after]

theorem lose_after :
    (s.after p).lose (g + p.generations) time = (s.lose g time).after p := by
  unfold lose
  rw [after_conn, Connection.isHeldBy_after]
  split
  · simp only [after, Connection.lost_after, List.map_append, List.map_cons, List.map_nil,
      ReconnectTimer.after, Nat.add_right_comm]
  · rfl

theorem close_after :
    (s.after p).close (g + p.generations) time = (s.close g time).after p := by
  have rest : { s.after p with
      attempts := (s.after p).attempts.filter (·.generation ≠ g + p.generations) } =
        after p { s with attempts := s.attempts.filter (·.generation ≠ g) } := by
    simp [after, List.filter_map, Function.comp_def, Attempt.after]
  unfold close
  rw [rest]
  exact lose_after p _ g time

theorem head_after (accepted : Bool) :
    (s.after p).head (g + p.generations) accepted time = (s.head g accepted time).after p := by
  unfold head
  rw [after_conn, Connection.isAwaiting_after, close_after]
  split
  · rw [Connection.established_after, after_setConn, advance_after]
  · rfl

theorem take_after (bytes : Bytes) :
    (s.after p).take (g + p.generations) bytes =
      ((s.take g bytes).1, (s.take g bytes).2.after p) := by
  unfold take
  rw [attempt?_after]
  rcases s.attempt? g with _ | ⟨generation, resumeId, phase⟩
  · rfl
  · cases phase with
    | reading parser =>
      simp only [Option.map_some, Attempt.after]
      rw [after_conn, Connection.recordId_after, after_setConn, advance_after]
    | _ => rfl

/-- What happens to a stream with a past is what happens to it without. -/
theorem next_after (e : StreamEvent) : (s.after p).next (e.after p) = (s.next e).after p := by
  cases e with
  | init => exact s.init_after p
  | fire timer time => exact s.fire_after p timer
  | found lookup valid => exact s.found_after p lookup valid
  | disconnect => exact s.disconnect_after p
  | sent g => exact s.advance_after p g _
  | head g accepted time => exact s.head_after p g time accepted
  | chunk g bytes => exact congrArg Prod.snd (s.take_after p g bytes)
  | closed g time => exact s.close_after p g time
  | lateHead g =>
    rw [StreamEvent.after, next, after_conn, Connection.established_after]
    rfl
  | lateId g id =>
    rw [StreamEvent.after, next, after_conn, Connection.recordId_after]
    rfl
  | lateEnd g time => exact s.lose_after p g time

end Supervisor

/-! ## Channels -/

section

variable {α : Type} (before : List α)

def Channel.after (c : Channel α) : Channel α := { c with published := before ++ c.published }

def Subscription.after (s : Subscription) : Subscription := ⟨s.next + before.length⟩

def Receipt.after (e : Receipt α) : Receipt α :=
  { e with
    wanted := e.wanted + before.length
    place := e.place + before.length
    extent := e.extent + before.length }

def Reader.after (r : Reader α) : Reader α where
  since := r.since + before.length
  place := r.place.after before
  receipts := r.receipts.map (Receipt.after before)

@[simp]
theorem Reader.after_place (r : Reader α) : (r.after before).place = r.place.after before := rfl

namespace Channel

variable (c : Channel α) (s : Subscription) (r : Reader α)

theorem publish_after (a : α) : (c.after before).publish a = (c.publish a).after before := by
  simp only [publish, after, List.append_assoc]

theorem length_after : (c.after before).published.length =
    c.published.length + before.length := by
  rw [after, List.length_append, Nat.add_comm]

theorem reader_after : (c.after before).reader = c.reader.after before := by
  simp only [reader, subscribe, Reader.after, Subscription.after, length_after, List.map_nil]

theorem nextFor_after :
    (c.after before).nextFor (s.after before) = c.nextFor s + before.length := by
  have length := c.length_after before
  simp only [nextFor, oldest, Subscription.after, length]
  -- A place from before is never the oldest one that is wanted.
  rw [show (c.after before).capacity = c.capacity from rfl]
  omega

theorem receive?_after : (c.after before).receive? (s.after before) =
    (c.receive? s).map fun received => (received.1, received.2.after before) := by
  have there : (c.after before).published[c.nextFor s + before.length]? =
      c.published[c.nextFor s]? := by
    rw [after, List.getElem?_append_right (Nat.le_add_left _ _), Nat.add_sub_cancel]
  unfold receive?
  rw [nextFor_after, there, Option.map_map]
  congr 1
  funext a
  simp only [Function.comp_apply, Subscription.after, Nat.add_right_comm]

theorem read_after : (c.after before).read (r.after before) =
    ((c.read r).1, (c.read r).2.after before) := by
  unfold read
  rw [Reader.after_place, receive?_after]
  rcases c.receive? r.place with _ | ⟨item, place⟩
  · rfl
  · simp only [Option.map_some, nextFor_after, length_after, Reader.after, List.map_append,
      List.map_cons, List.map_nil]
    rfl

end Channel

end

/-! ## Feeds -/

namespace Feed

variable (k : Nat) (before : List (List Job)) (now : Span) (f : Feed)

def after : Feed :=
  { f with toasts := f.toasts.after k, channel := f.channel.after before }

@[simp]
theorem after_jobs : (f.after k before).jobs = f.jobs := rfl

@[simp]
theorem after_toasts : (f.after k before).toasts = f.toasts.after k := rfl

@[simp]
theorem after_channel : (f.after k before).channel = f.channel.after before := rfl

theorem report_after (toasts : ToastStore) (job : Job) :
    report (toasts.after k) now job = (report toasts now job).after k := by
  unfold report
  split
  · rw [ToastStore.add_after]
  · dsimp only
    rw [ToastStore.add_after]
  · rfl

theorem applyJob_after (job : Job) :
    (f.after k before).applyJob now job = (f.applyJob now job).after k before := by
  unfold applyJob
  rw [after_jobs, after_toasts, report_after]
  dsimp only
  split <;> rfl

theorem applyBatch_after (batch : List Job) :
    (f.after k before).applyBatch now batch = (f.applyBatch now batch).after k before := by
  have jobs : batch.foldl (applyJob now) (f.after k before) =
      (batch.foldl (applyJob now) f).after k before := by
    induction batch generalizing f with
    | nil => rfl
    | cons job rest ih => rw [List.foldl_cons, applyJob_after, ih, List.foldl_cons]
  unfold applyBatch
  rw [jobs]
  dsimp only
  rw [after_channel, Channel.publish_after]
  rfl

theorem applyEvents_after (events : List ServerEvent) :
    events.foldl (applyEvent now) (f.after k before) =
      (events.foldl (applyEvent now) f).after k before := by
  induction events generalizing f with
  | nil => rfl
  | cons e rest ih =>
    have first : (f.after k before).applyEvent now e = (f.applyEvent now e).after k before := by
      unfold applyEvent
      split
      · exact applyBatch_after ..
      · rfl
    rw [List.foldl_cons, first, ih, List.foldl_cons]

end Feed

end TenantLink
