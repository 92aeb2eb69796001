import Mathlib
import TenantLink.Proofs.Updates.Resumption
import TenantLink.Updates.Watch

/-!
# Opening the stream anew

A stream that has been closed remembers no id, and opening it asks for none. But a connect that
finds no valid session gives the connection up without closing it: the stream is disconnected then,
too, and opening it asks for what stands behind the last id from before: `Tenure.opens_afresh`.
-/

namespace TenantLink

open ServerEvent Delivery

namespace Connection

variable {c : Connection}

theorem established_active (active : c.state ≠ .disconnected) (g : Nat) :
    (c.established g).state ≠ .disconnected := by
  unfold established
  split
  · simp
  · exact active

theorem lost_active (active : c.state ≠ .disconnected) (g timer : Nat) :
    (c.lost g timer).state ≠ .disconnected := by
  unfold lost
  split
  · simp
  · exact active

end Connection

namespace Supervisor

variable {s : Supervisor}

/-- Whether a lookup is that of a timer, and finds no valid session. -/
def Abandons (s : Supervisor) (lookup : Nat) (valid : Bool) : Prop :=
  s.conn.state = .errored ∧ s.lookups[lookup]?.any (·.origin = .errored) ∧ valid = false

instance (s : Supervisor) (lookup : Nat) (valid : Bool) : Decidable (s.Abandons lookup valid) :=
  inferInstanceAs (Decidable (_ ∧ _ ∧ _))

theorem found_active (active : s.conn.state ≠ .disconnected) {lookup : Nat} {valid : Bool}
    (kept : ¬s.Abandons lookup valid) : (s.found lookup valid).conn.state ≠ .disconnected := by
  unfold found
  have conn := (s.forget_frame lookup).1
  cases there : s.lookups[lookup]? with
  | none => exact active
  | some l =>
    dsimp only
    split
    next => rwa [conn]
    next same =>
      split
      next => simp [start, Connection.opened]
      next invalid =>
        split
        next errored =>
          rw [Decidable.not_not, conn] at same
          exact (kept ⟨same.trans errored, by simp [there, errored], by simpa using invalid⟩).elim
        next => rwa [conn]

theorem lose_active (active : s.conn.state ≠ .disconnected) (g time : Nat) :
    (s.lose g time).conn.state ≠ .disconnected := by
  unfold lose
  split
  · exact Connection.lost_active active g _
  · exact active

theorem close_active (active : s.conn.state ≠ .disconnected) (g time : Nat) :
    (s.close g time).conn.state ≠ .disconnected :=
  lose_active (s := { s with attempts := s.attempts.filter (·.generation ≠ g) }) active g time

end Supervisor

/-- How a stream came to be disconnected last. -/
inductive Ending
  | unopened
  | closed
  /-- A connect for a timer found no valid session. -/
  | abandoned
  deriving DecidableEq, Repr

/-- How a stream has ended, behind an event that does not close it. -/
def Ending.after (ending : Ending) (s : Supervisor) : StreamEvent → Ending
  | .found lookup valid => if s.Abandons lookup valid then .abandoned else ending
  | _ => ending

theorem Supervisor.next_active {s : Supervisor} {ending : Ending} {e : StreamEvent}
    (active : s.conn.state ≠ .disconnected) (kept : e ≠ .disconnect)
    (other : ending.after s e ≠ .abandoned) : (s.next e).conn.state ≠ .disconnected := by
  cases e with
  | init =>
    rw [next, init]
    split <;> exact active
  | fire timer time =>
    rw [next, fire]
    split <;> exact active
  | found lookup valid =>
    refine found_active active fun abandons => other ?_
    exact if_pos abandons
  | disconnect => exact (kept rfl).elim
  | sent g => exact active
  | head g accepted time =>
    rw [next, head]
    split
    · exact Connection.established_active active g
    · exact close_active active g time
  | chunk g bytes =>
    rw [next, take]
    split
    next parser _ =>
      have state := (s.conn.recordId_frame g (parser.feed bytes).2.lastEventId).2
      exact fun idle => active (state.symm.trans idle)
    next => exact active
  | closed g time => exact close_active active g time
  | lateHead g => exact Connection.established_active active g
  | lateId g id => rwa [next, (s.conn.recordId_frame g _).2]
  | lateEnd g time => exact lose_active active g time

namespace Context

open Supervisor

variable {s x y z : Context} {d : List Delivery} {ending : Ending}

/-- `y` comes of `s`. The stream came to be disconnected last by `ending`, and the connections since
it was new or was closed last have brought `d`. -/
inductive Tenure (s : Context) : Ending → List Delivery → Context → Prop
  | refl : Tenure s .unopened [] s
  | event {ending : Ending} {d : List Delivery} {y : Context} {e : StreamEvent} :
    Tenure s ending d y → e ≠ .disconnect → y.stream.Enabled e → y.Admits e →
    Tenure s (ending.after y.stream e) (y.stream.deliver d e) (y.step e)
  | answer {ending : Ending} {d : List Delivery} {y : Context} {lookup : Nat} :
    Tenure s ending d y → lookup < y.stream.lookups.length →
    Tenure s (ending.after y.stream (.found lookup y.hasSession)) d (y.answerLookup lookup)
  | disconnect {ending : Ending} {d : List Delivery} {y : Context} : Tenure s ending d y →
    Tenure s .closed [] y.disconnect
  | teardown {ending : Ending} {d : List Delivery} {y : Context} : Tenure s ending d y →
    Tenure s .closed [] y.teardown
  /-- The rest of the application goes on. -/
  | elsewhere {ending : Ending} {d : List Delivery} {y z : Context} : Tenure s ending d y →
    z.stream = y.stream → z.config = y.config → z.channel = y.channel → Tenure s ending d z

theorem Tenure.stint (h : Tenure s ending d y) : ∃ x, Stint s x d y := by
  induction h with
  | refl => exact ⟨_, .refl⟩
  | event _ kept enabled admitted ih => exact ih.imp fun _ h => h.event kept enabled admitted
  | answer _ waits ih => exact ih.imp fun _ h => h.answer waits
  | disconnect _ ih => exact ih.elim fun _ h => ⟨_, h.disconnect⟩
  | teardown _ ih => exact ih.elim fun _ h => ⟨_, h.teardown⟩
  | elsewhere _ stream config channel ih =>
    exact ih.imp fun _ h => h.elsewhere stream config channel

theorem deliver_idle (sound : x.stream.Sound) (idle : x.state = .disconnected) {e : StreamEvent}
    (enabled : x.stream.Enabled e) : x.stream.deliver d e = d := by
  have attempts := (sound.phase.disconnected_iff.mp idle).1
  cases e with
  | head g accepted time => simp [Enabled, attemptIs, attempt?, attempts] at enabled
  | chunk g bytes => simp [Enabled, attemptIs, attempt?, attempts] at enabled
  | _ => rfl

theorem after_abandoned {s : Supervisor} {e : StreamEvent}
    (other : ending.after s e ≠ .abandoned) : ending ≠ .abandoned := by
  rintro rfl
  cases e with
  | found lookup valid => exact other (ite_self _)
  | _ => exact other rfl

theorem answerLookup_active (active : x.state ≠ .disconnected) {lookup : Nat}
    (other : ending.after x.stream (.found lookup x.hasSession) ≠ .abandoned) :
    (x.answerLookup lookup).state ≠ .disconnected := by
  have leads := (x.answerLookup_effect lookup).1
  have next := next_active (e := .found lookup x.hasSession) active (by simp) other
  unfold state
  cases session : x.hasSession with
  | true =>
    rw [session] at leads next
    rw [leads, if_pos rfl]
    split
    · exact next
    · rw [(x.stream.forget_frame lookup).1]
      exact active
  | false =>
    rw [session] at leads next
    rw [leads, if_neg (by simp)]
    exact next

/-- Unless the connection was given up, a disconnected stream has brought nothing since it was new
or was closed. -/
theorem Tenure.untouched {config : Config} {world : World}
    (h : Tenure (ofConfig config world) ending d y) (other : ending ≠ .abandoned)
    (idle : y.state = .disconnected) : d = [] := by
  induction h with
  | refl => rfl
  | @event ending d y e h kept enabled _ ih =>
    -- An active stream would still be active, so it was disconnected before, and took up no bytes.
    have before : y.state = .disconnected := by
      by_contra active
      refine next_active active kept other ?_
      rwa [← step_stream]
    obtain ⟨x, stint⟩ := h.stint
    obtain ⟨gs, history⟩ := stint.history
    rw [deliver_idle history.steady.sound before enabled]
    exact ih (after_abandoned other) before
  | @answer ending d y lookup _ _ ih =>
    refine ih (after_abandoned other) ?_
    by_contra active
    exact answerLookup_active active other idle
  | disconnect _ _ => rfl
  | teardown _ _ => rfl
  | elsewhere _ stream _ _ ih =>
    refine ih other ?_
    rwa [state, ← stream]

/-! ### What a new attempt asks for -/

theorem Move.begins (m : Move y z) (sound : y.stream.Sound) (idle : y.state = .disconnected) :
    ∀ a ∈ z.stream.attempts, a.resumeId = y.stream.conn.lastEventId := by
  have none := (sound.phase.disconnected_iff.mp idle).1
  intro a member
  -- A disconnected stream has no attempts, so that `a` is one that the step has begun.
  rcases m.stream with ⟨e, -, -, leads⟩ | ⟨lookup, -, leads⟩ | same
  · rcases y.stream.next_drifts e with drifts | ⟨lookup, -, begins⟩
    · obtain ⟨b, present, -⟩ := drifts.attempts a (leads ▸ member)
      rw [none] at present
      cases present
    · obtain ⟨conn, attempts, -⟩ := y.stream.forget_frame lookup
      rw [leads, begins, start, attempts, none, conn] at member
      rw [List.mem_singleton.mp member]
      rfl
  · rw [leads, (y.stream.forget_frame lookup).2.1, none] at member
    cases member
  · rw [same, none] at member
    cases member

theorem startSession_begins (sound : y.stream.Sound) (idle : y.state = .disconnected) :
    ∀ a ∈ y.startSession.2.stream.attempts, a.resumeId = y.stream.conn.lastEventId := by
  have looks : y.stream.next .init =
      { y.stream with lookups := y.stream.lookups ++ [⟨.disconnected, none⟩] } :=
    if_pos (decide_eq_true idle)
  have answered : y.startSession.2 = (y.step .init).answerLookup y.stream.lookups.length := by
    unfold startSession openStream answerNew
    dsimp only
    rw [step_stream, looks]
    exact if_pos (by simp)
  have stream := y.step_stream .init
  have sound' : (y.step .init).stream.Sound := stream ▸ next_sound sound trivial
  rw [looks] at stream
  have idle' : (y.step .init).state = .disconnected := by rw [state, stream]; exact idle
  have m : Move (y.step .init) y.startSession.2 :=
    answered ▸ .answer (by rw [stream]; simp)
  have begins := m.begins sound' idle'
  rwa [stream] at begins

/-- Wherever an attempt is sent, its one request carries an id, or none. -/
def Carries (a : Attempt) (id : Option String) : Prop :=
  ∀ (x : Context) (reaction : Reaction) (w : World), x.transmitAttempt a = some (reaction, w) →
    ∃ request, w.backend.received = x.world.backend.received ++ [request] ∧
      (request.headers.getAll .lastEventId).map HeaderValue.bytes = id.toList.map Utf8.encode

theorem carries_resumeId (a : Attempt) : Carries a a.resumeId := by
  intro x reaction w sent
  exact transmitAttempt_carries sent

/-- `z` comes of a step in `y`, or of opening the stream there. -/
def Opens (y z : Context) : Prop := Move y z ∨ z = y.startSession.2

/-- A stream that is disconnected since it was new or was closed remembers no id, and opening it
asks for none. After a connect that found no valid session it remembers the last id that was seen
since, and opening it asks for that. -/
theorem Tenure.opens_afresh {config : Config} {world : World}
    (h : Tenure (ofConfig config world) ending d y) (idle : y.state = .disconnected) :
    (ending ≠ .abandoned → y.stream.conn.lastEventId = none ∧
      ∀ z, Opens y z → ∀ a ∈ z.stream.attempts, Carries a none) ∧
    y.stream.conn.lastEventId = lastSeen d ∧
    ∀ z, Opens y z → ∀ a ∈ z.stream.attempts, Carries a (lastSeen d) := by
  obtain ⟨x, stint⟩ := h.stint
  obtain ⟨gs, history⟩ := stint.history
  have lastId := stint.resumable.remembers.lastId
  have asks : ∀ z, Opens y z → ∀ a ∈ z.stream.attempts, Carries a (lastSeen d) := by
    intro z opens a member
    have begins : a.resumeId = y.stream.conn.lastEventId := by
      rcases opens with m | rfl
      · exact m.begins history.steady.sound idle a member
      · exact startSession_begins history.steady.sound idle a member
    rw [← lastId, ← begins]
    exact carries_resumeId a
  refine ⟨fun other => ?_, lastId, asks⟩
  obtain rfl := h.untouched other idle
  exact ⟨lastId, asks⟩

def oneId : Bytes := Utf8.encode "id: 7\n\n"

theorem cut_tenure (bytes : Bytes) : ∃ ending d, Tenure idle ending d (cut bytes) := by
  have reachable : idle.hasStream = true := by cbv
  have opens := Tenure.refl (s := idle) |>.event (e := .init) (by simp) trivial trivial
    |>.event (e := .found 0 true) (by simp) (Nat.le_refl 1) reachable
    |>.event (e := .sent 1) (by simp) rfl trivial
    |>.event (e := .head 1 true 0) (by simp) rfl trivial
  exact ⟨_, _, opens.event (e := .chunk 1 bytes) (by simp) rfl trivial
    |>.event (e := .closed 1 0) (by simp) rfl trivial⟩

/-- Once the stream has been closed, the id is forgotten. -/
theorem closed_id_forgotten :
    (cut oneId).stream.conn.lastEventId = some "7" ∧
    ∃ a ∈ (((cut oneId).disconnect.step .init).step (.found 0 true)).stream.attempts,
      Carries a none := by
  have reachable : idle.hasStream = true := by cbv
  have last : (EventParser.feed {} oneId).2.lastEventId = some "7" := by cbv
  obtain ⟨_, _, tenure⟩ := cut_tenure oneId
  have closed := tenure.disconnect.event (e := .init) (by simp) trivial trivial
  have looks : ((cut oneId).disconnect.step .init).stream =
      { delay := 5000, begun := 1, nextTimer := 1, lookups := [⟨.disconnected, none⟩],
        conn := { generation := 2 } } := by
    have stream : (cut oneId).disconnect.stream = (cut oneId).stream.disconnect := rfl
    rw [step_stream, stream, cut_stream]
    rfl
  have begins : Move ((cut oneId).disconnect.step .init) _ :=
    .event (e := .found 0 true) (by rw [looks]; exact Nat.le_refl 1) reachable
  obtain ⟨fresh, -⟩ := closed.opens_afresh (by rw [state, looks])
  obtain ⟨-, asks⟩ := fresh (by simp [Ending.after])
  have begun : (((cut oneId).disconnect.step .init).step (.found 0 true)).stream.attempts =
      [⟨3, none, .unsent⟩] := by
    rw [step_stream, looks]
    rfl
  refine ⟨by rw [cut_stream, last], _, begun ▸ List.mem_singleton_self _, ?_⟩
  exact asks _ (.inl begins) _ (begun ▸ List.mem_singleton_self _)

/-- A backend whose connection ends behind an id, and a session. -/
def subscribed : Context :=
  ofConfig { apiBase := Config.defaultBase }
    { wall := ⟨0⟩
      backend := {
        origin := Config.defaultBase
        script := [.answer { status := .ok, chunks := [oneId] }] }
      provider := { current := some { token := "a" } } }

/-- The connection has come and gone, and the session as well, when the timer falls due. -/
def signedOut : Context :=
  ((subscribed.startSession.2.settle fun _ => false).2.replaceSession none).elapse 5000

/-- Somebody else has signed in, and the stream has been opened for them. -/
def signedInAgain : Context :=
  ((signedOut.replaceSession (some { token := "b" })).startSession.2.settle fun _ => false).2

/-- Without a session the stream is disconnected, and the next session asks for what stands behind
the id that came under the one before. -/
theorem abandoned_id_returns :
    signedOut.state = .disconnected ∧ signedOut.stream.conn.lastEventId = some "7" ∧
    signedInAgain.world.backend.received.map
        (fun q => (q.headers.getAll .lastEventId).map HeaderValue.ascii?) =
      [[], [some "7"]] := by
  refine ⟨?_, ?_, ?_⟩ <;> cbv

end Context

end TenantLink
