import Mathlib
import TenantLink.Proofs.Updates.Resumption

/-!
# Ids that strand the stream

An id is taken as it comes, but only a text without control characters can be handed over in a
header. With another id no attempt reaches the backend until the stream is closed:
`Stint.strands`.
-/

namespace TenantLink

open ServerEvent Delivery

/-- Whether an attempt can ask with an id, or without one. -/
def canAsk (id : Option String) : Bool := id.all fun text => (Utf8.encode text).all isHeaderByte

/-- The connections have brought no id with a character that a header must not have. -/
def Delivery.BringsLegal (d : List Delivery) : Prop :=
  ∀ c ∈ d, ∀ value ∈ values "id" c.lines, Char.ofNat 0 ∉ value → value.all isHeaderChar

theorem canAsk_lastIdOf {lines : List (List Char)}
    (legal : ∀ value ∈ values "id" lines, Char.ofNat 0 ∉ value → value.all isHeaderChar) :
    canAsk (lastIdOf lines) := by
  unfold lastIdOf
  cases last : ((values "id" lines).filter (Char.ofNat 0 ∉ ·)).getLast? with
  | none => rfl
  | some value =>
    obtain ⟨brought, whole⟩ := List.mem_filter.mp (List.mem_of_getLast? last)
    have fine := legal value brought (of_decide_eq_true whole)
    rw [Option.map_some, canAsk, Option.all_some, all_encode, String.toList_ofList]
    exact fine

theorem Delivery.BringsLegal.canAsk {d : List Delivery} (h : BringsLegal d) :
    canAsk (lastSeen d) := by
  induction d with
  | nil => rfl
  | cons c earlier ih =>
    have before := ih fun e member => h e (List.mem_cons_of_mem c member)
    have here := canAsk_lastIdOf (h c List.mem_cons_self)
    rw [lastSeen]
    cases last : lastIdOf c.lines with
    | none => exact before
    | some id =>
      rw [last] at here
      exact here

namespace Context

open Supervisor

variable {x y z : Context} {d : List Delivery} {id : Option String}

theorem attemptHeaders?_isSome (id : Option String) : (attemptHeaders? id).isSome = canAsk id := by
  cases id with
  | none => rfl
  | some text =>
    unfold attemptHeaders?
    rw [Option.isSome_map, HeaderValue.ofText?_isSome]
    rfl

/-- An attempt reaches the backend with an id that can stand in a header. -/
theorem transmitAttempt_isSome {a : Attempt} {u : Url}
    (address : x.config.endpoint streamPath = .ok u) :
    (x.transmitAttempt a).isSome = (x.world.backend.reaches u && canAsk a.resumeId) := by
  unfold transmitAttempt
  rw [← attemptHeaders?_isSome, address]
  cases attemptHeaders? a.resumeId with
  | none => exact (Bool.and_false _).symm
  | some headers =>
    dsimp only
    unfold World.transmit
    split
    next sent =>
      split at sent
      next reached => rw [reached]; rfl
      next => cases sent
    next other =>
      split
      next reached => rw [reached]; rfl
      next unreached => rw [Bool.eq_false_iff.mpr unreached]; rfl

/-! ### Attempts in vain -/

/-- What connects, or comes late from an attempt that is over. -/
def Connects (y : Context) : StreamEvent → Prop
  | .init | .fire _ _ | .found _ _ => True
  | .lateHead g | .lateId g _ | .lateEnd g _ => g < y.stream.conn.generation
  | _ => False

/-- `z` comes of `x`: the stream was not closed, each attempt went as far as it went, and their
requests are `requests`. -/
inductive Strives (x : Context) : List SentRequest → Context → Prop
  | refl : Strives x [] x
  | connects {requests : List SentRequest} {y : Context} {e : StreamEvent} :
    Strives x requests y → y.Connects e → Strives x requests (y.step e)
  | answer {requests : List SentRequest} {y : Context} (lookup : Nat) :
    Strives x requests y → Strives x requests (y.answerLookup lookup)
  | settle {requests : List SentRequest} {y : Context} (done : Context → Bool) :
    Strives x requests y →
    Strives x (requests ++ (y.settle done).2.world.backend.received.drop
      y.world.backend.received.length) (y.settle done).2
  /-- The rest of the application goes on, the clock first of all. -/
  | elsewhere {requests : List SentRequest} {y z : Context} : Strives x requests y →
    z.stream = y.stream → Strives x requests z

/-- No attempt has been sent, and none can be. -/
structure Stranded (x : Context) (id : Option String) : Prop where
  illegal : canAsk id = false
  lastId : x.stream.conn.lastEventId = id
  attempts : ∀ a ∈ x.stream.attempts, a.phase = .unsent ∧ a.resumeId = id

theorem Stranded.frame (h : x.Stranded id)
    (lastId : y.stream.conn.lastEventId = x.stream.conn.lastEventId)
    (attempts : ∀ a ∈ y.stream.attempts, a ∈ x.stream.attempts) : y.Stranded id where
  illegal := h.illegal
  lastId := lastId.trans h.lastId
  attempts := fun a member => h.attempts a (attempts a member)

theorem Stranded.forget (h : x.Stranded id) {lookup : Nat}
    (leads : y.stream = x.stream.forget lookup) : y.Stranded id := by
  obtain ⟨conn, attempts, -⟩ := x.stream.forget_frame lookup
  exact h.frame (by rw [leads, conn]) fun a member => by rwa [leads, attempts] at member

theorem Stranded.found (h : x.Stranded id) {lookup : Nat} {valid : Bool}
    (leads : y.stream = x.stream.found lookup valid) : y.Stranded id := by
  obtain ⟨conn, attempts, -⟩ := x.stream.forget_frame lookup
  rcases x.stream.found_cases lookup valid with same | ended | ⟨-, begins⟩ | abandoned
  · exact h.frame (by rw [leads, same]) fun a member => by rwa [leads, same] at member
  · exact h.forget (leads.trans ended)
  · rw [begins] at leads
    refine ⟨h.illegal, ?_, fun a member => ?_⟩
    · rw [leads, ← h.lastId, ← conn]
      rfl
    · rw [leads] at member
      rcases List.mem_append.mp member with old | new
      · exact h.attempts a (attempts ▸ old)
      · rw [List.mem_singleton.mp new]
        refine ⟨rfl, ?_⟩
        rw [← h.lastId, ← conn]
        rfl
  · rw [abandoned] at leads
    refine h.frame ?_ fun a member => ?_
    · rw [leads, ← conn]
      rfl
    · rw [leads] at member
      exact attempts ▸ member

theorem Stranded.connects (h : x.Stranded id) {e : StreamEvent} (connects : x.Connects e) :
    (x.step e).Stranded id := by
  cases e with
  | init =>
    have conn : x.stream.init.conn = x.stream.conn ∧ x.stream.init.attempts = x.stream.attempts := by
      unfold init
      split <;> exact ⟨rfl, rfl⟩
    exact h.frame (congrArg Connection.lastEventId conn.1) fun a member => conn.2 ▸ member
  | fire timer time =>
    have conn : (x.stream.fire timer).conn = x.stream.conn ∧
        (x.stream.fire timer).attempts = x.stream.attempts := by
      unfold fire
      split <;> exact ⟨rfl, rfl⟩
    exact h.frame (congrArg Connection.lastEventId conn.1) fun a member => conn.2 ▸ member
  | found lookup valid => exact h.found (x.step_stream _)
  | lateHead g =>
    have same := (Connection.superseded connects none 0).1
    exact h.frame (congrArg Connection.lastEventId same) fun a member => member
  | lateId g late =>
    have same := (Connection.superseded connects (some late) 0).2.1
    exact h.frame (congrArg Connection.lastEventId same) fun a member => member
  | lateEnd g time =>
    have same : (x.step (.lateEnd g time)).stream = x.stream := lose_superseded connects time
    exact h.frame (by rw [same]) fun a member => same ▸ member
  | _ => exact connects.elim

/-- The attempt ends before its request is sent. -/
theorem Stranded.settle (h : x.Stranded id) (done : Context → Bool) :
    (x.settle done).2.world = x.world ∧ (x.settle done).2.Stranded id := by
  unfold Context.settle
  cases next : x.stream.attempts.find? (·.phase = .unsent) with
  | none => exact ⟨rfl, h⟩
  | some a =>
    have asks := (h.attempts a (List.mem_of_find?_eq_some next)).2
    have unsent : x.transmitAttempt a = none := by
      have headers := (attemptHeaders?_isSome a.resumeId).trans (asks ▸ h.illegal)
      rw [Option.isSome_eq_false_iff, Option.isNone_iff_eq_none] at headers
      unfold transmitAttempt
      rw [headers]
      cases x.config.endpoint streamPath <;> rfl
    have ends : x.sendAttempt a =
        ([.closed a.generation x.world.now], x.step (.sent a.generation)) := by
      unfold sendAttempt
      rw [unsent]
    dsimp only
    rw [ends]
    obtain ⟨lastId, attempts⟩ :=
      (x.stream.advance a.generation .awaiting).close_frame a.generation x.world.now
    refine ⟨rfl, h.frame lastId fun b member => ?_⟩
    obtain ⟨left, other⟩ := List.mem_filter.mp (attempts ▸ member)
    obtain ⟨b, present, rfl⟩ := List.mem_map.mp left
    -- What has been sent has the generation of the attempt that ends.
    by_cases same : b.generation = a.generation
    · simp [same] at other
    · rw [if_neg same]
      exact present

theorem Strives.stranded {requests : List SentRequest} (h : x.Strives requests z)
    (stranded : x.Stranded id) : requests = [] ∧ z.Stranded id := by
  induction h with
  | refl => exact ⟨rfl, stranded⟩
  | connects _ connects ih => exact ⟨ih.1, ih.2.connects connects⟩
  | @answer requests y lookup _ ih =>
    refine ⟨ih.1, ?_⟩
    rcases y.answerLookup_stream lookup with ⟨valid, leads, -⟩ | ⟨-, leads⟩
    · exact ih.2.found leads
    · exact ih.2.forget leads
  | settle done _ ih =>
    obtain ⟨world, stranded⟩ := ih.2.settle done
    rw [world, List.drop_length, List.append_nil]
    exact ⟨ih.1, stranded⟩
  | elsewhere _ stream ih =>
    exact ⟨ih.1, ih.2.frame (by rw [stream]) fun a member => stream ▸ member⟩

/-- The stream remembers the last id that any line brought, whatever its characters. With no id, or
one without control characters, each attempt hands its request to a backend that can be reached.
With any other id no attempt does, however often it is tried again, until the stream is closed. -/
theorem Stint.strands {config : Config} {world : World}
    (h : Stint (ofConfig config world) x d y) :
    y.stream.conn.lastEventId = lastSeen d ∧
    (BringsLegal d → canAsk (lastSeen d)) ∧
    (∀ a ∈ y.stream.attempts, a.phase = .unsent → ∀ u, y.config.endpoint streamPath = .ok u →
      (y.transmitAttempt a).isSome = (y.world.backend.reaches u && canAsk (lastSeen d))) ∧
    (canAsk (lastSeen d) = false → y.state = .errored → ∀ requests z, y.Strives requests z →
      requests = [] ∧ z.stream.conn.lastEventId = lastSeen d) := by
  obtain ⟨remembers, -⟩ := h.resumable
  obtain ⟨gs, history⟩ := h.history
  refine ⟨remembers.lastId, fun legal => legal.canAsk, fun a present unsent u address => ?_,
    fun illegal lost requests z strives => ?_⟩
  · rw [transmitAttempt_isSome address, remembers.waiting a present (by simp [unsent])]
  · have done := (history.steady.sound.phase.errored_iff.mp lost).2
    have stranded : y.Stranded (lastSeen d) := ⟨illegal, remembers.lastId, by simp [done]⟩
    obtain ⟨silent, still⟩ := strives.stranded stranded
    exact ⟨silent, still.lastId⟩

/-- The address of the stream below the default base. -/
def jobsStream : Url :=
  { Config.defaultBase with path := .segments ["api".toList, "jobs".toList, "stream".toList] }

def tabbedId : Bytes := Utf8.encode "id: \u00E4\t1\n\n"

/-- A tab and a character beyond ASCII may stand in a header. -/
theorem tabbed_id_asks :
    ∃ a ∈ (resumed tabbedId).stream.attempts, a.resumeId = some "\u00E4\t1" ∧
      ((resumed tabbedId).transmitAttempt a).isSome := by
  obtain ⟨stint, attempts⟩ := resumed_stint tabbedId
  obtain ⟨-, asks, reaches, -⟩ := stint.strands
  have last : (EventParser.feed {} tabbedId).2.lastEventId = some "\u00E4\t1" := by cbv
  have legal : BringsLegal [⟨1, none, [tabbedId]⟩] := by
    intro c member
    obtain rfl := List.mem_singleton.mp member
    have only : values "id" (Delivery.lines ⟨1, none, [tabbedId]⟩) = ["\u00E4\t1".toList] := by cbv
    rw [only]
    intro value member _
    rw [List.mem_singleton.mp member]
    decide
  have address : idle.config.endpoint streamPath = .ok jobsStream := by cbv
  have near : (resumed tabbedId).world.backend.reaches jobsStream = true := by cbv
  refine ⟨_, attempts ▸ List.mem_singleton_self _, last, ?_⟩
  rw [reaches _ (attempts ▸ List.mem_singleton_self _) rfl jobsStream address, near, asks legal]
  rfl

def controlId : Bytes := Utf8.encode "id: a\u0001\n\n"

/-- A control character strands the stream. -/
theorem control_strands :
    Stint idle idle [⟨1, none, [controlId]⟩] (cut controlId) ∧
    (cut controlId).stream.conn.lastEventId = some "a\u0001" ∧ canAsk (some "a\u0001") = false ∧
    ∀ requests z, (cut controlId).Strives requests z → requests = [] := by
  have last : (EventParser.feed {} controlId).2.lastEventId = some "a\u0001" := by cbv
  have conn := cut_stream controlId
  rw [last] at conn
  have illegal : canAsk (some "a\u0001") = false := by decide
  have stranded : (cut controlId).Stranded (some "a\u0001") :=
    ⟨illegal, by rw [conn], by simp [conn]⟩
  exact ⟨cut_stint controlId, by rw [conn], illegal,
    fun requests z strives => (strives.stranded stranded).1⟩

end Context

end TenantLink
