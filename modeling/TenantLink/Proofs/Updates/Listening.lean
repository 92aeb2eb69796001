import Mathlib
import TenantLink.Proofs.Events.Chunks
import TenantLink.Proofs.Updates.Generations
import TenantLink.Proofs.Updates.Supervision

/-!
# What is heard on each connection

A supervisor takes the bytes of a connection chunk by chunk. `listen` keeps them as the streams that
the connections have brought so far, and the parser that reads one has read it to its end:
`Tuned.next`.
-/

namespace TenantLink

open ServerEvent

/-! ### A stream and its start -/

theorem linesOf_append (stream more : Bytes) :
    linesOf (stream ++ more) =
      linesOf stream ++ ((LineScan.run {} stream).2.run more).1 := by
  rw [linesOf_eq_run, linesOf_eq_run, LineScan.run_append]

/-- No line of a stream is too long for a parser. An unfinished line may be. -/
def Fits (stream : Bytes) : Prop := ∀ l ∈ linesOf stream, l.bytes.length ≤ maxLineSize

instance (stream : Bytes) : Decidable (Fits stream) :=
  inferInstanceAs (Decidable (∀ l ∈ linesOf stream, l.bytes.length ≤ maxLineSize))

theorem Fits.of_append {stream more : Bytes} (h : Fits (stream ++ more)) : Fits stream := by
  intro l member
  rw [Fits, linesOf_append] at h
  exact h l (List.mem_append_left _ member)

namespace EventParser

/-- The parser has read a stream, and nothing else. -/
structure HasRead (p : EventParser) (stream : Bytes) : Prop where
  follows : p.Follows (LineScan.run {} stream).2 []
  block : p.block = (({} : EventBlock).readLines (linesOf stream)).2

theorem empty_hasRead : HasRead {} [] := ⟨empty_follows, rfl⟩

/-- A chunk brings the events by which the longer stream tells more. -/
theorem HasRead.feed {p : EventParser} {stream : Bytes} (h : p.HasRead stream) (chunk : Bytes)
    (fits : Fits (stream ++ chunk)) :
    (eventsOf (stream ++ chunk)).map PlacedEvent.event =
        (eventsOf stream).map PlacedEvent.event ++ (p.feed chunk).1 ∧
      (p.feed chunk).2.HasRead (stream ++ chunk) := by
  have short : ∀ l ∈ ((LineScan.run {} stream).2.run chunk).1, l.bytes.length ≤ maxLineSize := by
    intro l member
    rw [Fits, linesOf_append] at fits
    exact fits l (List.mem_append_right _ member)
  obtain ⟨told, block, follows⟩ := h.follows.feed chunk short
  rw [h.block] at told block
  refine ⟨?_, ?_, ?_⟩
  · rw [told, ← (EventBlock.readLines_linesOf stream).1,
      ← (EventBlock.readLines_linesOf (stream ++ chunk)).1, linesOf_append,
      EventBlock.readLines_append, List.map_append]
  · rw [LineScan.run_append]
    exact follows
  · rw [block, linesOf_append, EventBlock.readLines_append]

end EventParser

/-- Whoever waits for an answer without a new attempt has waited for it before. -/
theorem Connection.Drifts.connecting {c d : Connection} (h : c.Drifts d)
    (awaits : d.state = .connecting) : c.state = .connecting ∧ d.generation = c.generation := by
  cases h with
  | still => exact ⟨awaits, rfl⟩
  | shutdown => cases awaits
  | abandoned => cases awaits
  | established g =>
    refine ⟨?_, established_generation c g⟩
    unfold Connection.established at awaits
    split at awaits
    · cases awaits
    · exact awaits
  | recorded g id =>
    obtain ⟨generation, state⟩ := recordId_frame c g id
    exact ⟨state.symm.trans awaits, generation⟩
  | lost g timer =>
    refine ⟨?_, lost_generation c g timer⟩
    unfold Connection.lost at awaits
    split at awaits
    · cases awaits
    · exact awaits

namespace Supervisor

variable {s t : Supervisor}

/-! ### The streams of all connections -/

/-- The streams that the connections have brought, each under the generation of its attempt. -/
abbrev Heard := List (Nat × Bytes)

/-- What has been heard behind an event: an accepted head begins a stream, and a chunk goes on with
that of its attempt. -/
def listen (s : Supervisor) (heard : Heard) : StreamEvent → Heard
  | .head g accepted _ => if accepted && s.conn.isAwaiting g then heard ++ [(g, [])] else heard
  | .chunk g bytes => heard.map fun h => if h.1 = g then (g, h.2 ++ bytes) else h
  | _ => heard

theorem listen_fits {heard : Heard} {e : StreamEvent}
    (fits : ∀ h ∈ s.listen heard e, Fits h.2) : ∀ h ∈ heard, Fits h.2 := by
  intro h member
  cases e with
  | head g accepted time =>
    refine fits h ?_
    unfold listen
    dsimp only
    split
    · exact List.mem_append_left _ member
    · exact member
  | chunk g bytes =>
    have heard := fits _ (List.mem_map_of_mem member)
    split at heard
    · exact heard.of_append
    · exact heard
  | _ => exact fits h member

/-! ### What reads them -/

/-- Only the last stream is read, by the attempt that brings it, and to its end. -/
structure Tuned (s : Supervisor) (heard : Heard) : Prop where
  known : ∀ h ∈ heard, h.1 ≤ s.conn.generation
  /-- An attempt that awaits its answer has brought nothing. -/
  fresh : s.conn.state = .connecting → ∀ h ∈ heard, h.1 < s.conn.generation
  reading : ∀ a ∈ s.attempts, ∀ p, a.phase = .reading p →
    ∃ earlier stream, heard = earlier ++ [(a.generation, stream)] ∧
      (∀ h ∈ earlier, h.1 ≠ a.generation) ∧ p.HasRead stream

theorem initial_tuned (delay : Nat) : Tuned { delay } [] where
  known := by simp
  fresh := by simp
  reading := by simp

theorem Tuned.drift {heard : Heard} (h : s.Tuned heard) (conn : s.conn.Drifts t.conn)
    (attempts : ∀ a ∈ t.attempts, ∀ p, a.phase = .reading p → a ∈ s.attempts) : t.Tuned heard where
  known := fun heard member => Nat.le_trans (h.known heard member) conn.generation_le
  fresh := by
    intro awaits heard member
    obtain ⟨before, same⟩ := conn.connecting awaits
    rw [same]
    exact h.fresh before heard member
  reading := fun a member p reads => h.reading a (attempts a member p reads) p reads

theorem Tuned.start {heard : Heard} (h : s.Tuned heard) (lookup : Nat) :
    (s.forget lookup).start.Tuned heard := by
  obtain ⟨conn, attempts, -⟩ := s.forget_frame lookup
  have generation : (s.forget lookup).start.conn.generation = s.conn.generation + 1 := by
    simp [Supervisor.start, Connection.opened, conn]
  exact {
    known := fun heard member => by
      rw [generation]
      exact Nat.le_succ_of_le (h.known heard member)
    fresh := fun _ heard member => by
      rw [generation]
      exact Nat.lt_succ_of_le (h.known heard member)
    reading := by
      intro a member p reads
      rw [Supervisor.start, attempts] at member
      rcases List.mem_append.mp member with old | new
      · exact h.reading a old p reads
      · rw [List.mem_singleton.mp new] at reads
        cases reads }

theorem Tuned.forget {heard : Heard} (h : s.Tuned heard) (lookup : Nat) :
    (s.forget lookup).Tuned heard := by
  obtain ⟨conn, attempts, -⟩ := s.forget_frame lookup
  exact h.drift (conn ▸ .still) fun a member _ _ => attempts ▸ member

theorem Tuned.found {heard : Heard} (h : s.Tuned heard) (lookup : Nat) (valid : Bool) :
    (s.found lookup valid).Tuned heard := by
  rcases s.found_cases lookup valid with same | ended | ⟨-, begins⟩ | abandoned
  · rw [same]
    exact h
  · rw [ended]
    exact h.forget lookup
  · rw [begins]
    exact h.start lookup
  · rw [abandoned]
    exact (h.forget lookup).drift .abandoned fun a member _ _ => member

theorem Tuned.close {heard : Heard} (h : s.Tuned heard) (g time : Nat) :
    (s.close g time).Tuned heard := by
  unfold Supervisor.close lose
  dsimp only
  split
  · exact h.drift (.lost g _) fun a member _ _ => (List.mem_filter.mp member).1
  · exact h.drift .still fun a member _ _ => (List.mem_filter.mp member).1

/-- The attempt whose head opens the connection begins to read a new stream. -/
theorem Tuned.head {heard : Heard} (h : s.Tuned heard) (sound : s.Sound) {g : Nat}
    (present : (s.attempt? g).isSome) (accepted : Bool) (time : Nat) :
    (s.head g accepted time).Tuned (s.listen heard (.head g accepted time)) := by
  unfold Supervisor.head listen
  dsimp only
  split
  next opens =>
    obtain ⟨a, rfl, current, -, -, -, attempts, -⟩ := sound.phase.of_attempt present
    have awaits : s.conn.isAwaiting a.generation = true := (Bool.and_eq_true_iff.mp opens).2
    have established : s.conn.established a.generation = { s.conn with state := .connected } :=
      if_pos awaits
    have connecting : s.conn.state = .connecting := by
      simp only [Connection.isAwaiting, Bool.and_eq_true, decide_eq_true_eq] at awaits
      exact awaits.2
    have earlier := h.fresh connecting
    rw [established]
    exact {
      known := by
        intro heard member
        rcases List.mem_append.mp member with old | new
        · exact h.known heard old
        · rw [List.mem_singleton.mp new]
          exact Nat.le_of_eq current
      fresh := fun awaits => by cases awaits
      reading := by
        intro a' member p reads
        have reader : a' = { a with phase := .reading {} } := by
          simpa [advance, attempts] using member
        subst reader
        cases reads
        refine ⟨heard, [], rfl, ?_, EventParser.empty_hasRead⟩
        intro old member
        exact Nat.ne_of_lt (current ▸ earlier old member) }
  · exact h.close g time

theorem listen_last {earlier : Heard} {g : Nat} (apart : ∀ h ∈ earlier, h.1 ≠ g)
    (stream bytes : Bytes) :
    s.listen (earlier ++ [(g, stream)]) (.chunk g bytes) = earlier ++ [(g, stream ++ bytes)] := by
  have others : earlier.map (fun h => if h.1 = g then (g, h.2 ++ bytes) else h) = earlier := by
    refine (List.map_congr_left fun h member => ?_).trans (List.map_id earlier)
    exact if_neg (apart h member)
  simp only [listen, List.map_append, others, List.map_cons, List.map_nil, if_pos]

theorem take_reading (sound : s.Sound) {g : Nat} {bytes : Bytes}
    (reads : s.Enabled (.chunk g bytes)) :
    ∃ resumeId p, g = s.conn.generation ∧ s.attempts = [⟨g, resumeId, .reading p⟩] ∧
      s.take g bytes = ((p.feed bytes).1,
        { s with
          conn := s.conn.recordId g (p.feed bytes).2.lastEventId
          attempts := [⟨g, resumeId, .reading (p.feed bytes).2⟩] }) := by
  obtain ⟨a, rfl, current, -, -, -, attempts, -⟩ :=
    sound.phase.of_attempt (attempt_of_phase reads)
  have found : s.attempt? a.generation = some a := by simp [attempt?, attempts]
  obtain ⟨generation, resumeId, phase⟩ := a
  cases phase with
  | unsent => simp [Enabled, attemptIs, found] at reads
  | awaiting => simp [Enabled, attemptIs, found] at reads
  | reading p =>
    refine ⟨resumeId, p, current, attempts, ?_⟩
    unfold take
    rw [found]
    simp [advance, attempts]

/-- A chunk belongs to the last stream. It brings the events by which that stream tells more. -/
theorem Tuned.chunk {heard : Heard} (h : s.Tuned heard) (sound : s.Sound) {g : Nat}
    {bytes : Bytes} (reads : s.Enabled (.chunk g bytes))
    (fits : ∀ h ∈ s.listen heard (.chunk g bytes), Fits h.2) :
    (s.take g bytes).2.Tuned (s.listen heard (.chunk g bytes)) ∧
      ∃ earlier stream, heard = earlier ++ [(g, stream)] ∧
        s.listen heard (.chunk g bytes) = earlier ++ [(g, stream ++ bytes)] ∧
        (eventsOf (stream ++ bytes)).map PlacedEvent.event =
          (eventsOf stream).map PlacedEvent.event ++ (s.take g bytes).1 := by
  obtain ⟨resumeId, p, current, attempts, taken⟩ := take_reading sound reads
  obtain ⟨earlier, stream, rfl, apart, read⟩ :=
    h.reading _ (attempts ▸ List.mem_singleton_self _) p rfl
  have last := List.mem_append_right earlier (List.mem_singleton_self (g, stream ++ bytes))
  rw [listen_last apart] at fits ⊢
  obtain ⟨told, next⟩ := read.feed bytes (fits _ last)
  obtain ⟨number, keeps⟩ := s.conn.recordId_frame g (p.feed bytes).2.lastEventId
  rw [taken]
  refine ⟨?_, earlier, stream, rfl, rfl, told⟩
  exact {
    known := by
      intro heard member
      rw [number]
      rcases List.mem_append.mp member with old | new
      · exact h.known heard (List.mem_append_left _ old)
      · rw [List.mem_singleton.mp new]
        exact Nat.le_of_eq current
    fresh := by
      -- A stream of this generation has begun already.
      intro awaits
      have behind := h.fresh (keeps.symm.trans awaits) _
        (List.mem_append_right _ (List.mem_singleton_self _))
      exact (Nat.ne_of_lt behind current).elim
    reading := by
      intro a member p' reads'
      obtain rfl := List.mem_singleton.mp member
      cases reads'
      exact ⟨earlier, _, rfl, apart, next⟩ }

theorem Tuned.next {heard : Heard} (h : s.Tuned heard) (sound : s.Sound) {e : StreamEvent}
    (enabled : s.Enabled e) (fits : ∀ h ∈ s.listen heard e, Fits h.2) :
    (s.next e).Tuned (s.listen heard e) := by
  cases e with
  | init =>
    rw [Supervisor.next, init]
    split
    · exact h.drift .still fun a member _ _ => member
    · exact h
  | fire timer time =>
    rw [Supervisor.next, fire]
    split
    · exact h.drift .still fun a member _ _ => member
    · exact h.drift .still fun a member _ _ => member
  | found lookup valid => exact h.found lookup valid
  | disconnect => exact h.drift .shutdown fun a member _ _ => (List.mem_filter.mp member).1
  | sent g =>
    refine h.drift .still fun a member p reads => ?_
    obtain ⟨b, present, rfl⟩ := List.mem_map.mp member
    split at reads
    · cases reads
    next other =>
      rw [if_neg other]
      exact present
  | head g accepted time => exact h.head sound (attempt_of_phase enabled) accepted time
  | chunk g bytes => exact (h.chunk sound enabled fits).1
  | closed g time => exact h.close g time
  | lateHead g => exact h.drift (.established g) fun a member _ _ => member
  | lateId g id => exact h.drift (.recorded g (some id)) fun a member _ _ => member
  | lateEnd g time =>
    -- The attempt has been replaced, so its end loses nothing.
    rw [Supervisor.next, lose_superseded (superseded_lt enabled)]
    exact h

end Supervisor

end TenantLink
