import Mathlib
import TenantLink.Proofs.Updates.Connecting
import TenantLink.Proofs.Updates.Delivery
import TenantLink.Proofs.Updates.Intake

/-!
# Resuming the stream

A `Stint` is a run from where the stream was closed last, with what each connection has brought
since. The next attempt asks for what stands behind the last id that any line brought:
`Stint.resumes`. So a block is left out whose connection ended behind its id line:
`cut_block_skipped`.
-/

namespace TenantLink

open ServerEvent StreamBlock LogEntry Delivery

namespace Context

open Supervisor

variable {s x y : Context} {d : List Delivery}

/-- `y` comes of `s`. The stream was new or was closed last in `x`, and the connections since have
brought `d`, the last one first. -/
inductive Stint (s : Context) : Context → List Delivery → Context → Prop
  | refl : Stint s s [] s
  | event {x y : Context} {d : List Delivery} {e : StreamEvent} : Stint s x d y →
    e ≠ .disconnect → y.stream.Enabled e → y.Admits e →
    Stint s x (y.stream.deliver d e) (y.step e)
  | answer {x y : Context} {d : List Delivery} {lookup : Nat} : Stint s x d y →
    lookup < y.stream.lookups.length → Stint s x d (y.answerLookup lookup)
  | disconnect {x y : Context} {d : List Delivery} : Stint s x d y →
    Stint s y.disconnect [] y.disconnect
  | teardown {x y : Context} {d : List Delivery} : Stint s x d y → Stint s y.teardown [] y.teardown
  /-- The rest of the application goes on. -/
  | elsewhere {x y z : Context} {d : List Delivery} : Stint s x d y → z.stream = y.stream →
    z.config = y.config → z.channel = y.channel → Stint s x d z

theorem Stint.history (h : Stint s x d y) : ∃ gs, History s gs y := by
  induction h with
  | refl => exact ⟨_, .refl⟩
  | event _ _ enabled admitted ih => exact ih.imp' _ fun _ h => h.tail (.event enabled admitted)
  | answer _ waits ih => exact ih.imp' _ fun _ h => h.tail (.answer waits)
  | disconnect _ ih =>
    exact ih.imp' _ fun _ h => h.tail (.event (e := .disconnect) trivial trivial)
  | teardown _ ih => exact ih.imp' _ fun _ h => h.tail .teardown
  | elsewhere _ stream config _ ih => exact ih.imp' _ fun _ h => h.tail (.elsewhere stream config)

/-- What a stint keeps. -/
structure Resumable (x : Context) (d : List Delivery) (y : Context) : Prop where
  remembers : y.stream.Remembers d
  published : y.channel.published = x.channel.published ++ told d

theorem resumable_of_closed (lastId : y.stream.conn.lastEventId = none)
    (attempts : y.stream.attempts = []) : Resumable y [] y where
  remembers := {
    lastId := lastId
    chained := trivial
    waiting := by simp [attempts]
    reading := by simp [attempts] }
  published := (List.append_nil _).symm

theorem Resumable.event (h : Resumable x d y) (sound : y.stream.Sound) {e : StreamEvent}
    (kept : e ≠ .disconnect) (enabled : y.stream.Enabled e) :
    Resumable x (y.stream.deliver d e) (y.step e) where
  remembers := by
    rw [step_stream]
    exact h.remembers.next sound kept enabled
  published := by
    by_cases chunk : ∃ g bytes, e = .chunk g bytes
    · obtain ⟨g, bytes, rfl⟩ := chunk
      have fed := congrArg Feed.channel (y.step_chunk g bytes)
      rw [(Feed.foldl_applyBatch _ _ _).2] at fed
      rw [(h.remembers.chunk sound enabled).2, ← List.append_assoc, ← h.published]
      exact congrArg Channel.published fed
    · have other : ∀ g bytes, e ≠ .chunk g bytes := fun g bytes same => chunk ⟨g, bytes, same⟩
      rw [deliver_told other, ← h.published]
      exact congrArg (fun f => f.channel.published) (step_feed other)

theorem Stint.resumable {config : Config} {world : World}
    (h : Stint (ofConfig config world) x d y) : Resumable x d y := by
  induction h with
  | refl => exact resumable_of_closed rfl rfl
  | event h kept enabled _ ih =>
    obtain ⟨gs, history⟩ := h.history
    exact ih.event history.steady.sound kept enabled
  | @answer x y d lookup h waits ih =>
    refine ⟨?_, ?_⟩
    · rcases y.answerLookup_stream lookup with ⟨valid, leads, -⟩ | ⟨-, leads⟩
      · exact leads ▸ ih.remembers.found lookup valid
      · exact leads ▸ ih.remembers.forget lookup
    · rw [← ih.published]
      exact congrArg (fun f => f.channel.published) (y.answerLookup_feed lookup)
  | disconnect h _ =>
    obtain ⟨gs, history⟩ := h.history
    exact resumable_of_closed rfl
      ((disconnect_sound history.steady.sound).phase.disconnected_iff.mp rfl).1
  | teardown h _ =>
    obtain ⟨gs, history⟩ := h.history
    exact resumable_of_closed rfl
      ((disconnect_sound history.steady.sound).phase.disconnected_iff.mp rfl).1
  | elsewhere _ stream config channel ih =>
    exact ⟨stream ▸ ih.remembers, by rw [channel, ih.published]⟩

theorem getAll_attemptHeaders {resumeId : Option String} {headers : Headers}
    (legal : attemptHeaders? resumeId = some headers) :
    (headers.getAll .lastEventId).map HeaderValue.bytes = resumeId.toList.map Utf8.encode := by
  unfold attemptHeaders? at legal
  cases resumeId with
  | none =>
    cases legal
    rfl
  | some id =>
    obtain ⟨value, spelled, rfl⟩ := Option.map_eq_some_iff.mp legal
    unfold HeaderValue.ofText? HeaderValue.ofBytes? at spelled
    split at spelled
    · cases spelled
      rw [Headers.getAll_append, if_pos rfl]
      rfl
    · cases spelled

theorem transmitAttempt_carries {a : Attempt} {reaction : Reaction} {w : World}
    (sent : x.transmitAttempt a = some (reaction, w)) :
    ∃ request, w.backend.received = x.world.backend.received ++ [request] ∧
      (request.headers.getAll .lastEventId).map HeaderValue.bytes =
        a.resumeId.toList.map Utf8.encode := by
  obtain ⟨-, u, headers, legal, received⟩ := transmitAttempt_effect sent
  refine ⟨_, received, ?_⟩
  rw [World.requestFor, World.getAll_withCookies_of_ne (by decide)]
  exact getAll_attemptHeaders legal

/-! ### A connection that ends -/

/-- A connection has brought some bytes and has ended. -/
def cut (bytes : Bytes) : Context :=
  [.init, .found 0 true, .sent 1, .head 1 true 0, .chunk 1 bytes, .closed 1 0].foldl step idle

theorem cut_stream (bytes : Bytes) :
    (cut bytes).stream = {
      delay := 5000, begun := 1, timers := [⟨0, 5000⟩], nextTimer := 1
      conn := {
        state := .errored, generation := 1, reconnect := some 0
        lastEventId := (EventParser.feed {} bytes).2.lastEventId } } := by
  have lost : (cut bytes).stream = Supervisor.lose {
      delay := 5000, begun := 1
      conn := Connection.recordId { state := .connected, generation := 1, task := some 1 } 1
        (EventParser.feed {} bytes).2.lastEventId } 1 0 := rfl
  rw [lost]
  -- What becomes of the connection hangs on whether the bytes have an id.
  cases (EventParser.feed {} bytes).2.lastEventId <;> rfl

theorem cut_stint (bytes : Bytes) : Stint idle idle [⟨1, none, [bytes]⟩] (cut bytes) := by
  have reachable : idle.hasStream = true := by cbv
  have opens := Stint.refl (s := idle) |>.event (e := .init) (by simp) trivial trivial
    |>.event (e := .found 0 true) (by simp) (Nat.le_refl 1) reachable
    |>.event (e := .sent 1) (by simp) rfl trivial
    |>.event (e := .head 1 true 0) (by simp) rfl trivial
  exact opens.event (e := .chunk 1 bytes) (by simp) rfl trivial
    |>.event (e := .closed 1 0) (by simp) rfl trivial

/-- The next attempt has begun. -/
def resumed (bytes : Bytes) : Context := [.fire 0 5000, .found 0 true].foldl step (cut bytes)

theorem resumed_stint (bytes : Bytes) :
    Stint idle idle [⟨1, none, [bytes]⟩] (resumed bytes) ∧
      (resumed bytes).stream.attempts =
        [⟨2, (EventParser.feed {} bytes).2.lastEventId, .unsent⟩] := by
  have reachable : idle.hasStream = true := by cbv
  have due : (cut bytes).stream.Enabled (.fire 0 5000) := by
    rw [cut_stream]
    exact ⟨⟨_, List.mem_singleton_self _, rfl, Nat.le_refl _⟩, by simp⟩
  have looks : ((cut bytes).step (.fire 0 5000)).stream =
      { (cut bytes).stream with lookups := [⟨.errored, some 0⟩] } := by
    rw [step_stream, cut_stream]
    rfl
  have waits : ((cut bytes).step (.fire 0 5000)).stream.Enabled (.found 0 true) := by
    rw [looks]
    exact Nat.le_refl 1
  have begun : (resumed bytes).stream =
      ((cut bytes).step (.fire 0 5000)).stream.found 0 true := rfl
  refine ⟨((cut_stint bytes).event (by simp) due trivial).event (by simp) waits reachable, ?_⟩
  rw [begun, looks, cut_stream]
  rfl

/-- An attempt asks for what stands behind the last id that any line brought since the stream was
closed. If no connection ended between an id and the blank line of its block, this is the id that
was in force at the last blank line, and a backend that keeps a log and answers each attempt
with what stands strictly behind its id leaves out nothing but batches that have been published. -/
theorem Stint.resumes {config : Config} {world : World} {a : Attempt}
    (h : Stint (ofConfig config world) x d y) (present : a ∈ y.stream.attempts)
    (unsent : a.phase = .unsent) :
    a.resumeId = lastSeen d ∧
    (∀ reaction w, y.transmitAttempt a = some (reaction, w) →
      ∃ request, w.backend.received = y.world.backend.received ++ [request] ∧
        (request.headers.getAll .lastEventId).map HeaderValue.bytes =
          a.resumeId.toList.map Utf8.encode) ∧
    y.channel.published = x.channel.published ++ told d ∧
    (Settled d → a.resumeId = inForce d ∧
      ∀ log, (∀ c ∈ d, c.Serves log) → ∃ n, behind log a.resumeId = log.drop n ∧
        ((log.take n).filterMap LogEntry.batch).Sublist (told d)) := by
  obtain ⟨remembers, published⟩ := h.resumable
  have asks := remembers.waiting a present (by simp [unsent])
  refine ⟨asks, fun reaction w sent => ?_, published, fun settled => ⟨?_, fun log serves => ?_⟩⟩
  · obtain ⟨-, u, headers, legal, received⟩ := transmitAttempt_effect sent
    refine ⟨_, received, ?_⟩
    rw [World.requestFor, World.getAll_withCookies_of_ne (by decide)]
    exact getAll_attemptHeaders legal
  · rw [asks, settled.lastSeen]
  · rw [asks]
    exact served_safely serves remembers.chained settled

/-- Two updates without jobs. -/
def updates : List LogEntry := [⟨some "1", some []⟩, ⟨some "2", some []⟩]

def updateBlock (id : String) : StreamBlock where
  lines := [("id: " ++ id).toList, "event: job_update".toList, "data: []".toList]
  unbroken := by simp

def comment : StreamBlock where
  lines := [":".toList]
  unbroken := by decide

def upToSecond : Bytes := Utf8.encode "id: 1\nevent: job_update\ndata: []\n\n:\n\nid:"

def restOfSecond : Bytes := Utf8.encode " 2\nevent: job_update\ndata: []\n\n"

/-- A connection that ends within an id line leaves the id before in force. -/
theorem resumes_behind_first :
    ∃ a ∈ (resumed upToSecond).stream.attempts, a.resumeId = some "1" ∧
      inForce [⟨1, none, [upToSecond]⟩] = some "1" ∧
      (resumed upToSecond).channel.published = [[]] ∧
      ∃ n, [⟨some "2", some []⟩] = updates.drop n ∧
        ((updates.take n).filterMap LogEntry.batch).Sublist [[]] := by
  obtain ⟨stint, attempts⟩ := resumed_stint upToSecond
  obtain ⟨-, -, published, safe⟩ := stint.resumes (attempts ▸ List.mem_singleton_self _) rfl
  have settled : Settled [⟨1, none, [upToSecond]⟩] := by
    intro c member
    obtain rfl := List.mem_singleton.mp member
    cbv
  have serves : ∀ c ∈ ([⟨1, none, [upToSecond]⟩] : List Delivery), c.Serves updates := by
    intro c member
    obtain rfl := List.mem_singleton.mp member
    have fits : decide (Fits (upToSecond ++ restOfSecond)) = true := by cbv
    exact ⟨_, [updateBlock "1", comment, updateBlock "2"], of_decide_eq_true fits, by cbv, by cbv,
      by simp⟩
  have told : told [⟨1, none, [upToSecond]⟩] = [[]] := by cbv
  have force : inForce [⟨1, none, [upToSecond]⟩] = some "1" := by cbv
  have behind : behind updates (some "1") = [⟨some "2", some []⟩] := by cbv
  obtain ⟨asks, leaves⟩ := safe settled
  obtain ⟨n, left, dispatched⟩ := leaves _ serves
  rw [told] at published dispatched
  rw [asks, force, behind] at left
  exact ⟨_, attempts ▸ List.mem_singleton_self _, asks.trans force, force, published, n, left,
    dispatched⟩

def cutUpdate : Bytes := Utf8.encode "id: 2\nevent: job_update\ndata: []"

/-- An id counts before its block is whole. The update is then left out, and has not been
published. -/
theorem cut_block_skipped :
    Stint idle idle [⟨1, none, [cutUpdate]⟩] (resumed cutUpdate) ∧
    Serves [⟨some "2", some []⟩] ⟨1, none, [cutUpdate]⟩ ∧
    (resumed cutUpdate).stream.attempts = [⟨2, some "2", .unsent⟩] ∧
    inForce [⟨1, none, [cutUpdate]⟩] = none ∧
    behind [⟨some "2", some []⟩] (some "2") = [] ∧
    (resumed cutUpdate).channel.published = [] := by
  obtain ⟨stint, attempts⟩ := resumed_stint cutUpdate
  have last : (EventParser.feed {} cutUpdate).2.lastEventId = some "2" := by cbv
  have fits : decide (Fits (cutUpdate ++ [lineFeed, lineFeed])) = true := by cbv
  have serves : Serves [⟨some "2", some []⟩] ⟨1, none, [cutUpdate]⟩ :=
    ⟨_, [updateBlock "2"], of_decide_eq_true fits, by cbv, by cbv, List.prefix_append _ _⟩
  exact ⟨stint, serves, last ▸ attempts, by cbv, by cbv, by cbv⟩

end Context

end TenantLink
