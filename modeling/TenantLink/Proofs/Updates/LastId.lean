import Mathlib
import TenantLink.Proofs.Updates.Resumption

/-!
# The last id of all connections

An attempt is begun with the last id that was received since the stream was closed, whatever became
of the attempts in between: `Stint.carries_last`.
-/

namespace TenantLink

open ServerEvent Delivery

namespace Delivery

variable {d : List Delivery}

/-- The last id without a NUL on a connection. -/
def received? (c : Delivery) : Option String := idOf c.chunks.flatten

/-- The last id of all connections, of which the last one comes first. -/
def lastReceived (d : List Delivery) : Option String := (d.filterMap received?).head?

theorem lastSeen_of_fits (fits : ∀ c ∈ d, Fits c.chunks.flatten) : lastSeen d = lastReceived d := by
  induction d with
  | nil => rfl
  | cons c earlier ih =>
    have before := ih fun e member => fits e (List.mem_cons_of_mem c member)
    rw [lastSeen, lines_of_fits (fits c List.mem_cons_self), ← idOf, ← received?, before,
      lastReceived, lastReceived]
    cases received : c.received? with
    | none => rw [List.filterMap_cons_none received, Option.none_or]
    | some id => rw [List.filterMap_cons_some received, List.head?_cons, Option.some_or]

end Delivery

namespace Context

open Supervisor

variable {x y : Context} {d : List Delivery}

/-- Sending an attempt brings the backend its one request, if any. -/
theorem sendAttempt_carries (x : Context) (a : Attempt) :
    ∃ requests : List SentRequest, requests.length ≤ 1 ∧
      (x.sendAttempt a).2.world.backend.received = x.world.backend.received ++ requests ∧
      ∀ q ∈ requests, (q.headers.getAll .lastEventId).map HeaderValue.bytes =
        a.resumeId.toList.map Utf8.encode := by
  unfold sendAttempt
  dsimp only
  split
  · exact ⟨[], Nat.zero_le 1, (List.append_nil _).symm, by simp⟩
  next sent =>
    obtain ⟨q, received, carries⟩ := transmitAttempt_carries sent
    refine ⟨[q], Nat.le_refl 1, received, fun q' member => ?_⟩
    obtain rfl := List.mem_singleton.mp member
    exact carries

/-- What comes late from an attempt that is over changes nothing. -/
theorem step_superseded (sound : x.stream.Sound) {g : Nat} (old : g < x.stream.conn.generation)
    (bytes : Bytes) (id : String) : x.step (.chunk g bytes) = x ∧ x.step (.lateId g id) = x := by
  have gone : x.stream.attempt? g = none := by
    by_contra present
    obtain ⟨-, -, current, -⟩ := sound.phase.of_attempt (Option.isSome_iff_ne_none.mpr present)
    exact Nat.ne_of_lt old current
  have untaken : x.stream.take g bytes = ([], x.stream) := by
    unfold take
    rw [gone]
  constructor
  · unfold step
    dsimp only
    rw [untaken]
    rfl
  · have recorded := (Connection.superseded old (some id) 0).2.1
    have leads : x.step (.lateId g id) = { x with stream := x.stream.next (.lateId g id) } := rfl
    rw [leads, next, recorded]

/-- Between two closings of the stream, each attempt is begun with the last id that any connection
before has received, and its request hands over that id, and no other. Attempts that came to
nothing and connections without an id do not count, nor does what comes late. -/
theorem Stint.carries_last {config : Config} {world : World}
    (h : Stint (ofConfig config world) x d y) (fits : ∀ c ∈ d, Fits c.chunks.flatten) :
    y.stream.conn.lastEventId = lastReceived d ∧
    (∀ a ∈ y.stream.attempts, a.phase = .unsent →
      a.resumeId = lastReceived d ∧
      ∃ requests : List SentRequest, requests.length ≤ 1 ∧
        (y.sendAttempt a).2.world.backend.received = y.world.backend.received ++ requests ∧
        ∀ q ∈ requests, (q.headers.getAll .lastEventId).map HeaderValue.bytes =
          (lastReceived d).toList.map Utf8.encode) ∧
    ∀ g < y.stream.conn.generation, ∀ bytes id,
      y.step (.chunk g bytes) = y ∧ y.step (.lateId g id) = y := by
  obtain ⟨remembers, -⟩ := h.resumable
  obtain ⟨gs, history⟩ := h.history
  have last := lastSeen_of_fits fits
  refine ⟨remembers.lastId.trans last, fun a present unsent => ?_, fun g old bytes id => ?_⟩
  · have asks : a.resumeId = lastReceived d :=
      (remembers.waiting a present (by simp [unsent])).trans last
    obtain ⟨requests, single, received, carry⟩ := y.sendAttempt_carries a
    exact ⟨asks, requests, single, received, asks ▸ carry⟩
  · exact step_superseded history.steady.sound old bytes id

/-- The second attempt is refused. -/
def refused (bytes : Bytes) : Context := [.sent 2, .head 2 false 5000].foldl step (resumed bytes)

/-- A third attempt has begun. -/
def resumedAgain (bytes : Bytes) : Context :=
  [.fire 1 10000, .found 0 true].foldl step (refused bytes)

theorem resumed_stream (bytes : Bytes) :
    (resumed bytes).stream = {
      delay := 5000, begun := 2, nextTimer := 1
      attempts := [⟨2, (EventParser.feed {} bytes).2.lastEventId, .unsent⟩]
      conn := {
        state := .connecting, generation := 2, task := some 2
        lastEventId := (EventParser.feed {} bytes).2.lastEventId } } := by
  have begun : (resumed bytes).stream = ((cut bytes).stream.fire 0).found 0 true := by
    simp only [resumed, List.foldl_cons, List.foldl_nil, step_stream, next]
  rw [begun, cut_stream]
  rfl

theorem refused_stream (bytes : Bytes) :
    (refused bytes).stream = {
      delay := 5000, begun := 2, nextTimer := 2, timers := [⟨1, 10000⟩]
      conn := {
        state := .errored, generation := 2, reconnect := some 1
        lastEventId := (EventParser.feed {} bytes).2.lastEventId } } := by
  have lost : (refused bytes).stream =
      ((resumed bytes).stream.advance 2 .awaiting).head 2 false 5000 := by
    simp only [refused, List.foldl_cons, List.foldl_nil, step_stream, next]
  rw [lost, resumed_stream]
  rfl

theorem refused_stint (bytes : Bytes) :
    Stint idle idle [⟨1, none, [bytes]⟩] (refused bytes) := by
  have sends : (resumed bytes).stream.Enabled (.sent 2) := by
    rw [resumed_stream]
    rfl
  have answers : ((resumed bytes).step (.sent 2)).stream.Enabled (.head 2 false 5000) := by
    rw [step_stream, resumed_stream]
    rfl
  exact (resumed_stint bytes).1.event (by simp) sends trivial |>.event (by simp) answers trivial

theorem resumedAgain_stint (bytes : Bytes) :
    Stint idle idle [⟨1, none, [bytes]⟩] (resumedAgain bytes) ∧
      (resumedAgain bytes).stream.attempts =
        [⟨3, (EventParser.feed {} bytes).2.lastEventId, .unsent⟩] := by
  have due : (refused bytes).stream.Enabled (.fire 1 10000) := by
    rw [refused_stream]
    exact ⟨⟨_, List.mem_singleton_self _, rfl, Nat.le_refl _⟩, by simp⟩
  have waits : ((refused bytes).step (.fire 1 10000)).stream.Enabled (.found 0 true) := by
    rw [step_stream, refused_stream]
    exact Nat.le_refl 1
  have reachable : ((refused bytes).step (.fire 1 10000)).hasStream = true := by
    have address : idle.hasStream = true := by cbv
    exact address
  have begun : (resumedAgain bytes).stream = ((refused bytes).stream.fire 1).found 0 true := by
    simp only [resumedAgain, List.foldl_cons, List.foldl_nil, step_stream, next]
  refine ⟨((refused_stint bytes).event (by simp) due trivial).event (by simp) waits reachable, ?_⟩
  rw [begun, refused_stream]
  rfl

def twoIds : Bytes := Utf8.encode "id: 7\ndata: a\n\nid: \u0000\n\n"

/-- An id with a NUL does not count, and the attempt that was refused does not matter. -/
theorem refusal_carries_last :
    ∃ request, ((resumedAgain twoIds).sendAttempt ⟨3, some "7", .unsent⟩).2.world.backend.received =
        [request] ∧
      (request.headers.getAll .lastEventId).map HeaderValue.bytes = [Utf8.encode "7"] := by
  obtain ⟨stint, attempts⟩ := resumedAgain_stint twoIds
  have id : (EventParser.feed {} twoIds).2.lastEventId = some "7" := by cbv
  rw [id] at attempts
  have fits : ∀ c ∈ ([⟨1, none, [twoIds]⟩] : List Delivery), Fits c.chunks.flatten := by
    intro c member
    obtain rfl := List.mem_singleton.mp member
    have short : decide (Fits twoIds) = true := by cbv
    exact of_decide_eq_true short
  have last : lastReceived [⟨1, none, [twoIds]⟩] = some "7" := by cbv
  obtain ⟨-, carries, -⟩ := stint.carries_last fits
  rw [last] at carries
  obtain ⟨-, requests, -, received, carry⟩ := carries _ (attempts ▸ List.mem_singleton_self _) rfl
  have unsent : (resumedAgain twoIds).world.backend.received = [] := by cbv
  have one : ((resumedAgain twoIds).sendAttempt
      ⟨3, some "7", .unsent⟩).2.world.backend.received.length = 1 := by cbv
  rw [received, unsent, List.nil_append] at one
  obtain ⟨request, rfl⟩ := List.length_eq_one_iff.mp one
  rw [received, unsent]
  exact ⟨request, rfl, carry request (List.mem_singleton_self request)⟩

end Context

end TenantLink
