import Mathlib
import TenantLink.Proofs.Events.Blocks
import TenantLink.Proofs.Updates.Listening

/-!
# What connections deliver

A `Delivery` is what one connection has brought, chunk by chunk, and the id that it was asked for
with. The supervisor remembers the last id of all lines: `Remembers.next`. A backend that answers by
those ids leaves out nothing that has not come, unless a connection ended between an id and the
blank line of its block: `served_safely`.
-/

namespace TenantLink

open ServerEvent StreamBlock LogEntry

/-- What a connection has brought so far. -/
structure Delivery where
  /-- The generation of the attempt that brought it. -/
  generation : Nat
  /-- The id that the attempt was begun with. -/
  resumeId : Option String
  chunks : List Bytes := []
  deriving DecidableEq, Repr

namespace Delivery

/-- The lines that have ended, but for those that were dropped. -/
def lines (c : Delivery) : List (List Char) :=
  (EventParser.linesTaken {} c.chunks).map StreamLine.text

/-! ### All connections, the last one first -/

/-- The last id of any line. -/
def lastSeen : List Delivery → Option String
  | [] => none
  | c :: earlier => (lastIdOf c.lines).or (lastSeen earlier)

/-- The id that was in force at the last blank line. -/
def inForce : List Delivery → Option String
  | [] => none
  | c :: earlier => (lastIdOf (settled c.lines)).or (inForce earlier)

/-- The batches that came, in order. -/
def told : List Delivery → List (List Job)
  | [] => []
  | c :: earlier => told earlier ++ batchesFrom [] c.lines

/-- Each attempt was begun with the last id that was seen before. -/
def Chained : List Delivery → Prop
  | [] => True
  | c :: earlier => c.resumeId = lastSeen earlier ∧ Chained earlier

/-- No id line stands behind the last blank line of a connection. -/
def Settled (d : List Delivery) : Prop := ∀ c ∈ d, lastIdOf (unsettled c.lines) = none

/-- A backend with a log has answered with the start of a stream that tells the entries behind the
id it was asked with. -/
def Serves (log : List LogEntry) (c : Delivery) : Prop :=
  ∃ stream blocks, Fits stream ∧ (linesOf stream).map StreamLine.text = spell blocks ∧
    blocks.filterMap logged? = behind log c.resumeId ∧ c.chunks.flatten <+: stream

variable {c : Delivery} {d : List Delivery} {log : List LogEntry}

theorem Settled.lastSeen (h : Settled d) : lastSeen d = inForce d := by
  induction d with
  | nil => rfl
  | cons c earlier ih =>
    rw [Delivery.lastSeen, inForce, lastIdOf_settled (h c List.mem_cons_self),
      ih fun e member => h e (List.mem_cons_of_mem c member)]

/-- Where no line is too long, none is dropped. -/
theorem lines_of_fits (fits : Fits c.chunks.flatten) :
    c.lines = (linesOf c.chunks.flatten).map StreamLine.text := by
  rw [Fits, linesOf_eq_run] at fits
  rw [Delivery.lines,
    EventParser.empty_follows.linesTaken_short EventParser.empty_drops c.chunks fits,
    linesOf_eq_run]

/-! ### A backend with a log -/

/-- Whole blocks have come, and the start of another. -/
theorem Serves.lines (h : c.Serves log) :
    ∃ blocks rest, c.lines = spell blocks ++ rest ∧ [] ∉ rest ∧
      blocks.filterMap logged? <+: behind log c.resumeId := by
  obtain ⟨stream, blocks, fits, tells, entries, more, whole⟩ := h
  rw [← whole] at fits
  have start : c.lines <+: spell blocks := by
    rw [← tells, ← whole, linesOf_append, List.map_append, lines_of_fits fits.of_append]
    exact List.prefix_append _ _
  obtain ⟨k, rest, lines, unbroken⟩ := of_prefix_spell start
  refine ⟨blocks.take k, rest, lines, unbroken, ?_⟩
  rw [← entries]
  exact (List.take_prefix k blocks).filterMap logged?

/-- What a backend leaves out has been told. -/
theorem served_safely (serves : ∀ c ∈ d, c.Serves log) (chained : Chained d) (h : Settled d) :
    ∃ n, behind log (lastSeen d) = log.drop n ∧
      ((log.take n).filterMap LogEntry.batch).Sublist (told d) := by
  induction d with
  | nil => exact ⟨0, rfl, List.Sublist.refl []⟩
  | cons c earlier ih =>
    obtain ⟨resumed, chained⟩ := chained
    obtain ⟨n, left, before⟩ := ih (fun e member => serves e (List.mem_cons_of_mem c member))
      chained fun e member => h e (List.mem_cons_of_mem c member)
    obtain ⟨blocks, rest, lines, unbroken, start⟩ := (serves c List.mem_cons_self).lines
    have quiet : lastIdOf rest = none := by
      have settles := h c List.mem_cons_self
      rwa [lines, unsettled_spell _ unbroken] at settles
    rw [resumed, left] at start
    have entries := List.prefix_iff_eq_take.mp start
    generalize (blocks.filterMap logged?).length = k at entries
    have upTo : log.take n ++ blocks.filterMap logged? = log.take (n + k) := by
      rw [entries, List.take_add]
    have came : ((log.take (n + k)).filterMap LogEntry.batch).Sublist (told (c :: earlier)) := by
      rw [← upTo, List.filterMap_append, batches_of_entries, told, lines,
        batchesFrom_spell _ unbroken]
      exact before.append (List.Sublist.refl _)
    rw [lastSeen, lines, lastIdOf_append, quiet, Option.none_or]
    cases last : lastIdOf (spell blocks) with
    | none =>
      -- No block of this connection has an id, so the next one is asked for the same.
      refine ⟨n, left, List.Sublist.trans ?_ came⟩
      exact (List.take_sublist_take_left (Nat.le_add_right n k)).filterMap _
    | some id =>
      obtain ⟨b, member, same⟩ := lastIdOf_spell last
      have kept := List.mem_filterMap.mpr ⟨b, member, logged?_of_id same⟩
      have inside := upTo ▸ List.mem_append_right (log.take n) kept
      obtain ⟨m, bound, next⟩ := behind_of_mem_take inside rfl
      exact ⟨m, next, ((List.take_sublist_take_left bound).filterMap _).trans came⟩

end Delivery

open Delivery

namespace Supervisor

variable {s t : Supervisor} {d : List Delivery}

/-- What has been brought behind an event: an accepted head begins a connection, and a chunk goes on
with it. -/
def deliver (s : Supervisor) (d : List Delivery) : StreamEvent → List Delivery
  | .head g accepted _ =>
    if accepted && s.conn.isAwaiting g then
      { generation := g, resumeId := (s.attempt? g).bind Attempt.resumeId } :: d
    else d
  | .chunk g bytes =>
    match d with
    | [] => []
    | c :: earlier =>
      if c.generation = g then { c with chunks := c.chunks ++ [bytes] } :: earlier else d
  | _ => d

/-- The connection remembers the last id that was seen, and asks with it. -/
structure Remembers (s : Supervisor) (d : List Delivery) : Prop where
  lastId : s.conn.lastEventId = lastSeen d
  chained : Chained d
  /-- An attempt that has brought nothing was begun with the last id. -/
  waiting : ∀ a ∈ s.attempts, (∀ p, a.phase ≠ .reading p) → a.resumeId = lastSeen d
  reading : ∀ a ∈ s.attempts, ∀ p, a.phase = .reading p →
    ∃ c earlier, d = c :: earlier ∧ c.generation = a.generation ∧
      p = (EventParser.feedAll {} c.chunks).2

theorem Remembers.frame (h : s.Remembers d) (lastId : t.conn.lastEventId = s.conn.lastEventId)
    (attempts : ∀ a ∈ t.attempts, a ∈ s.attempts) : t.Remembers d where
  lastId := lastId.trans h.lastId
  chained := h.chained
  waiting := fun a member => h.waiting a (attempts a member)
  reading := fun a member => h.reading a (attempts a member)

theorem Sound.only_attempt (h : s.Sound) {g : Nat} {p : AttemptPhase → Bool}
    (there : s.attemptIs g p = true) :
    ∃ a, a.generation = g ∧ s.attempt? g = some a ∧ s.attempts = [a] ∧ p a.phase = true := by
  obtain ⟨a, rfl, -, -, -, -, attempts, -⟩ := h.phase.of_attempt (attempt_of_phase there)
  have found : s.attempt? a.generation = some a := by simp [attempt?, attempts]
  rw [attemptIs, found] at there
  exact ⟨a, rfl, found, attempts, there⟩

/-! ### One event -/

theorem Remembers.forget (h : s.Remembers d) (lookup : Nat) : (s.forget lookup).Remembers d := by
  obtain ⟨conn, attempts, -⟩ := s.forget_frame lookup
  exact h.frame (conn ▸ rfl) fun a member => attempts ▸ member

theorem Remembers.start (h : s.Remembers d) : s.start.Remembers d where
  lastId := h.lastId
  chained := h.chained
  waiting := by
    intro a member quiet
    rcases List.mem_append.mp member with old | new
    · exact h.waiting a old quiet
    · rw [List.mem_singleton.mp new]
      exact h.lastId
  reading := by
    intro a member p reads
    rcases List.mem_append.mp member with old | new
    · exact h.reading a old p reads
    · rw [List.mem_singleton.mp new] at reads
      cases reads

theorem Remembers.found (h : s.Remembers d) (lookup : Nat) (valid : Bool) :
    (s.found lookup valid).Remembers d := by
  rcases s.found_cases lookup valid with same | ended | ⟨-, begins⟩ | abandoned
  · rw [same]
    exact h
  · rw [ended]
    exact h.forget lookup
  · rw [begins]
    exact (h.forget lookup).start
  · rw [abandoned]
    exact (h.forget lookup).frame rfl fun a member => member

theorem Remembers.sent (h : s.Remembers d) (sound : s.Sound) {g : Nat}
    (unsent : s.Enabled (.sent g)) : (s.advance g .awaiting).Remembers d := by
  obtain ⟨a, rfl, -, attempts, phase⟩ := sound.only_attempt unsent
  have phase := of_decide_eq_true phase
  have asks := h.waiting a (attempts ▸ List.mem_singleton_self a) (by simp [phase])
  have only : (s.advance a.generation .awaiting).attempts = [{ a with phase := .awaiting }] := by
    simp [advance, attempts]
  exact {
    lastId := h.lastId
    chained := h.chained
    waiting := by
      intro b member _
      rw [only] at member
      rw [List.mem_singleton.mp member]
      exact asks
    reading := by
      intro b member p reads
      rw [only] at member
      rw [List.mem_singleton.mp member] at reads
      cases reads }

theorem close_frame (s : Supervisor) (g time : Nat) :
    (s.close g time).conn.lastEventId = s.conn.lastEventId ∧
      (s.close g time).attempts = s.attempts.filter (·.generation ≠ g) := by
  have kept : ∀ timer, (s.conn.lost g timer).lastEventId = s.conn.lastEventId := by
    intro timer
    unfold Connection.lost
    split <;> rfl
  unfold Supervisor.close lose
  split
  · exact ⟨kept _, rfl⟩
  · exact ⟨rfl, rfl⟩

theorem Remembers.close (h : s.Remembers d) (g time : Nat) : (s.close g time).Remembers d := by
  obtain ⟨lastId, attempts⟩ := s.close_frame g time
  refine h.frame lastId fun a member => ?_
  rw [attempts] at member
  exact (List.mem_filter.mp member).1

theorem established_lastEventId (c : Connection) (g : Nat) :
    (c.established g).lastEventId = c.lastEventId := by
  unfold Connection.established
  split <;> rfl

theorem Remembers.head (h : s.Remembers d) (sound : s.Sound) {g : Nat} {accepted : Bool}
    {time : Nat} (awaits : s.Enabled (.head g accepted time)) :
    (s.head g accepted time).Remembers (s.deliver d (.head g accepted time)) := by
  unfold Supervisor.head deliver
  dsimp only
  split
  · obtain ⟨a, rfl, found, attempts, phase⟩ := sound.only_attempt awaits
    have phase := of_decide_eq_true phase
    have asks := h.waiting a (attempts ▸ List.mem_singleton_self a) (by simp [phase])
    have nothing : lastIdOf (Delivery.lines ⟨a.generation, a.resumeId, []⟩) = none := rfl
    rw [found, Option.bind_some]
    have only : (advance { s with conn := s.conn.established a.generation } a.generation
        (.reading {})).attempts = [{ a with phase := .reading {} }] := by
      simp [advance, attempts]
    exact {
      lastId := by
        rw [lastSeen, nothing, Option.none_or, ← h.lastId]
        exact established_lastEventId _ _
      chained := ⟨asks, h.chained⟩
      waiting := by
        intro b member quiet
        rw [only] at member
        rw [List.mem_singleton.mp member] at quiet
        exact (quiet {} rfl).elim
      reading := by
        intro b member p reads
        rw [only] at member
        rw [List.mem_singleton.mp member] at reads ⊢
        cases reads
        exact ⟨_, d, rfl, rfl, rfl⟩ }
  · exact h.close g time

theorem recordId_current (c : Connection) (id : Option String) :
    (c.recordId c.generation id).lastEventId = id.or c.lastEventId := by
  cases id with
  | none => rfl
  | some id => simp [Connection.recordId]

theorem lastIdOf_chunks (c : Delivery) (bytes : Bytes) (id : Option String) :
    (lastIdOf { c with chunks := c.chunks ++ [bytes] }.lines).or ((lastIdOf c.lines).or id) =
      (lastIdOf { c with chunks := c.chunks ++ [bytes] }.lines).or id := by
  rw [Delivery.lines, EventParser.linesTaken_append, List.map_append, lastIdOf_append,
    ← Delivery.lines, Option.or_assoc, Option.or_assoc]
  cases lastIdOf c.lines <;> rfl

/-- A chunk goes on with the last connection, and tells the batches that it completes. -/
theorem Remembers.chunk (h : s.Remembers d) (sound : s.Sound) {g : Nat} {bytes : Bytes}
    (reads : s.Enabled (.chunk g bytes)) :
    (s.take g bytes).2.Remembers (s.deliver d (.chunk g bytes)) ∧
      told (s.deliver d (.chunk g bytes)) =
        told d ++ (s.take g bytes).1.filterMap Feed.batchOf? := by
  obtain ⟨resumeId, p, rfl, attempts, taken⟩ := take_reading sound reads
  obtain ⟨c, earlier, rfl, same, rfl⟩ :=
    h.reading _ (attempts ▸ List.mem_singleton_self _) p rfl
  dsimp only at same
  have longer : s.deliver (c :: earlier) (.chunk s.conn.generation bytes) =
      { c with chunks := c.chunks ++ [bytes] } :: earlier := if_pos same
  -- The parser has read the chunks from a new one on, so the longer list tells the rest.
  have fed := EventParser.feedAll_concat {} c.chunks bytes
  have id := (EventParser.feedAll_taken (c.chunks ++ [bytes])).2
  have events (chunks : List Bytes) : ((EventParser.feedAll {} chunks).1).filterMap Feed.batchOf? =
      batchesFrom [] ((EventParser.linesTaken {} chunks).map StreamLine.text) := by
    rw [(EventParser.feedAll_taken chunks).1, batches_of_events]
  rw [longer, taken]
  refine ⟨?_, ?_⟩
  · exact {
      lastId := by
        rw [fed] at id
        rw [recordId_current, h.lastId, id]
        exact lastIdOf_chunks c bytes _
      chained := h.chained
      waiting := by
        intro a member quiet
        rw [List.mem_singleton.mp member] at quiet
        exact (quiet _ rfl).elim
      reading := by
        intro a member p reads
        rw [List.mem_singleton.mp member] at reads ⊢
        cases reads
        exact ⟨_, earlier, rfl, same, (congrArg Prod.snd fed).symm⟩ }
  · have more := events (c.chunks ++ [bytes])
    rw [fed, List.filterMap_append, events] at more
    rw [told, told, List.append_assoc]
    exact congrArg _ more.symm

theorem deliver_told {e : StreamEvent} (other : ∀ g bytes, e ≠ .chunk g bytes) :
    told (s.deliver d e) = told d := by
  cases e with
  | chunk g bytes => exact (other g bytes rfl).elim
  | head g accepted time =>
    unfold deliver
    dsimp only
    split
    · exact List.append_nil _
    · rfl
  | _ => rfl

theorem Remembers.next (h : s.Remembers d) (sound : s.Sound) {e : StreamEvent}
    (kept : e ≠ .disconnect) (enabled : s.Enabled e) : (s.next e).Remembers (s.deliver d e) := by
  cases e with
  | init =>
    rw [Supervisor.next, init]
    split
    · exact h.frame rfl fun a member => member
    · exact h
  | fire timer time =>
    rw [Supervisor.next, fire]
    split
    · exact h.frame rfl fun a member => member
    · exact h.frame rfl fun a member => member
  | found lookup valid => exact h.found lookup valid
  | disconnect => exact (kept rfl).elim
  | sent g => exact h.sent sound enabled
  | head g accepted time => exact h.head sound enabled
  | chunk g bytes => exact (h.chunk sound enabled).1
  | closed g time => exact h.close g time
  | lateHead g => exact h.frame (established_lastEventId _ g) fun a member => member
  | lateId g id =>
    have old := superseded_lt enabled
    obtain ⟨-, recorded, -⟩ := Connection.superseded old (some id) 0
    exact h.frame (congrArg Connection.lastEventId recorded) fun a member => member
  | lateEnd g time =>
    rw [Supervisor.next, lose_superseded (superseded_lt enabled)]
    exact h

end Supervisor

end TenantLink
