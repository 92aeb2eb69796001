import TenantLink.Updates.Supervisor

/-!
# Generations

Only a valid session begins an attempt, under a generation of its own. Whatever else happens leaves
the attempts as they are numbered, and never brings an earlier generation back.
-/

namespace TenantLink

namespace Connection

variable {c d : Connection}

/-- What happens to a connection without a new attempt. -/
inductive Drifts (c : Connection) : Connection → Prop
  | still : Drifts c c
  | shutdown : Drifts c c.shutdown
  | abandoned : Drifts c c.abandoned
  | established (g : Nat) : Drifts c (c.established g)
  | recorded (g : Nat) (id : Option String) : Drifts c (c.recordId g id)
  | lost (g timer : Nat) : Drifts c (c.lost g timer)

theorem established_generation (c : Connection) (g : Nat) :
    (c.established g).generation = c.generation := by
  unfold established
  split <;> rfl

theorem recordId_frame (c : Connection) (g : Nat) (id : Option String) :
    (c.recordId g id).generation = c.generation ∧ (c.recordId g id).state = c.state := by
  cases id with
  | none => exact ⟨rfl, rfl⟩
  | some id =>
    unfold recordId
    dsimp only
    split <;> exact ⟨rfl, rfl⟩

theorem lost_generation (c : Connection) (g timer : Nat) :
    (c.lost g timer).generation = c.generation := by
  unfold lost
  split <;> rfl

theorem Drifts.generation_le (h : c.Drifts d) : c.generation ≤ d.generation := by
  cases h with
  | still => exact Nat.le_refl _
  | shutdown => exact Nat.le_succ _
  | abandoned => exact Nat.le_refl _
  | established g => exact Nat.le_of_eq (established_generation c g).symm
  | recorded g id => exact Nat.le_of_eq (recordId_frame c g id).1.symm
  | lost g timer => exact Nat.le_of_eq (lost_generation c g timer).symm

/-- Only a new attempt ends a disconnection. -/
theorem Drifts.disconnected (h : c.Drifts d) (idle : c.state = .disconnected) :
    d.state = .disconnected := by
  cases h with
  | still => exact idle
  | shutdown => rfl
  | abandoned => rfl
  | established g =>
    rw [Connection.established, if_neg (by simp [isAwaiting, idle])]
    exact idle
  | recorded g id => exact (recordId_frame c g id).2.trans idle
  | lost g timer =>
    rw [Connection.lost, if_neg (by simp [isHeldBy, idle])]
    exact idle

/-- What an attempt of an earlier generation reports changes nothing. -/
theorem superseded {g : Nat} (old : g < c.generation) (id : Option String) (timer : Nat) :
    c.established g = c ∧ c.recordId g id = c ∧ c.lost g timer = c := by
  have other : c.generation ≠ g := Nat.ne_of_gt old
  refine ⟨if_neg (by simp [isAwaiting, other]), ?_, if_neg (by simp [isHeldBy, other])⟩
  cases id with
  | none => rfl
  | some id => exact if_neg other

end Connection

namespace Supervisor

variable {s t u : Supervisor}

/-- What happens to a supervisor without a new attempt. -/
structure Drifts (s t : Supervisor) : Prop where
  conn : s.conn.Drifts t.conn
  begun : t.begun = s.begun
  attempts : ∀ a ∈ t.attempts, ∃ b ∈ s.attempts, b.generation = a.generation

theorem Drifts.of_conn (conn : s.conn.Drifts t.conn) (begun : t.begun = s.begun)
    (attempts : t.attempts.Sublist s.attempts) : s.Drifts t where
  conn := conn
  begun := begun
  attempts := fun a member => ⟨a, attempts.subset member, rfl⟩

theorem Drifts.advance (h : s.Drifts t) (g : Nat) (phase : AttemptPhase) :
    s.Drifts (t.advance g phase) where
  conn := h.conn
  begun := h.begun
  attempts := by
    intro a member
    obtain ⟨b, present, rfl⟩ := List.mem_map.mp member
    obtain ⟨origin, known, same⟩ := h.attempts b present
    refine ⟨origin, known, same.trans ?_⟩
    split <;> rfl

theorem forget_frame (s : Supervisor) (lookup : Nat) :
    (s.forget lookup).conn = s.conn ∧ (s.forget lookup).attempts = s.attempts ∧
      (s.forget lookup).begun = s.begun := by
  unfold forget
  split <;> exact ⟨rfl, rfl, rfl⟩

theorem forget_drifts (s : Supervisor) (lookup : Nat) : s.Drifts (s.forget lookup) := by
  obtain ⟨conn, attempts, begun⟩ := s.forget_frame lookup
  exact .of_conn (conn ▸ .still) begun (attempts ▸ List.Sublist.refl _)

theorem close_drifts (s : Supervisor) (g time : Nat) : s.Drifts (s.close g time) := by
  unfold close lose
  split
  · exact .of_conn (.lost g _) rfl List.filter_sublist
  · exact .of_conn .still rfl List.filter_sublist

theorem forget_lookups (s : Supervisor) (lookup : Nat) :
    (s.forget lookup).lookups = s.lookups.eraseIdx lookup := by
  unfold forget
  split
  next absent =>
    rw [List.eraseIdx_of_length_le (List.getElem?_eq_none_iff.mp absent)]
  next => rfl

theorem found_lookups (s : Supervisor) (lookup : Nat) (valid : Bool) :
    (s.found lookup valid).lookups = s.lookups.eraseIdx lookup := by
  have left := s.forget_lookups lookup
  unfold found
  split
  next absent =>
    rw [List.eraseIdx_of_length_le (List.getElem?_eq_none_iff.mp absent)]
  next =>
    dsimp only
    split
    · exact left
    · split
      · exact left
      · split <;> exact left

/-- What comes of a lookup: nothing, its end, an attempt, or the end of the connection. -/
theorem found_cases (s : Supervisor) (lookup : Nat) (valid : Bool) :
    s.found lookup valid = s ∨ s.found lookup valid = s.forget lookup ∨
      valid = true ∧ s.found lookup valid = (s.forget lookup).start ∨
      s.found lookup valid =
        { s.forget lookup with conn := (s.forget lookup).conn.abandoned } := by
  unfold found
  split
  · exact .inl rfl
  · dsimp only
    split
    · exact .inr (.inl rfl)
    · split
      · exact .inr (.inr (.inl ⟨‹_›, rfl⟩))
      · split
        · exact .inr (.inr (.inr rfl))
        · exact .inr (.inl rfl)

/-- A lookup whose session comes begins an attempt, or leaves it at that. -/
theorem found_drifts (s : Supervisor) (lookup : Nat) (valid : Bool) :
    s.Drifts (s.found lookup valid) ∨
      valid = true ∧ s.found lookup valid = (s.forget lookup).start := by
  obtain ⟨conn, attempts, begun⟩ := s.forget_frame lookup
  rcases s.found_cases lookup valid with same | ended | begins | abandoned
  · rw [same]
    exact .inl (.of_conn .still rfl (.refl _))
  · rw [ended]
    exact .inl (s.forget_drifts lookup)
  · exact .inr begins
  · rw [abandoned]
    exact .inl (.of_conn (conn ▸ .abandoned) begun (attempts ▸ List.Sublist.refl _))

theorem next_drifts (s : Supervisor) (e : StreamEvent) :
    s.Drifts (s.next e) ∨
      ∃ lookup, e = .found lookup true ∧ s.next e = (s.forget lookup).start := by
  cases e with
  | found lookup valid =>
    rcases s.found_drifts lookup valid with drifts | ⟨rfl, begins⟩
    · exact .inl drifts
    · exact .inr ⟨lookup, rfl, begins⟩
  | init =>
    left
    rw [next, init]
    split <;> exact .of_conn .still rfl (.refl _)
  | fire timer time =>
    left
    rw [next, fire]
    split <;> exact .of_conn .still rfl (.refl _)
  | disconnect => exact .inl (.of_conn .shutdown rfl List.filter_sublist)
  | sent g => exact .inl (Drifts.advance (.of_conn .still rfl (.refl _)) g _)
  | head g accepted time =>
    left
    rw [next, head]
    split
    · exact Drifts.advance (t := { s with conn := s.conn.established g })
        (.of_conn (.established g) rfl (.refl _)) g _
    · exact s.close_drifts g time
  | chunk g bytes =>
    left
    rw [next, take]
    split
    · next parser _ =>
      exact Drifts.advance
        (t := { s with conn := s.conn.recordId g (parser.feed bytes).2.lastEventId })
        (.of_conn (.recorded g _) rfl (.refl _)) g _
    · exact .of_conn .still rfl (.refl _)
  | closed g time => exact .inl (s.close_drifts g time)
  | lateHead g => exact .inl (.of_conn (.established g) rfl (.refl _))
  | lateId g id => exact .inl (.of_conn (.recorded g (some id)) rfl (.refl _))
  | lateEnd g time =>
    left
    rw [next, lose]
    split
    · exact .of_conn (.lost g _) rfl (.refl _)
    · exact .of_conn .still rfl (.refl _)

theorem generation_le_next (s : Supervisor) (e : StreamEvent) :
    s.conn.generation ≤ (s.next e).conn.generation := by
  rcases s.next_drifts e with drifts | ⟨lookup, -, begins⟩
  · exact drifts.conn.generation_le
  · rw [begins]
    have same := (s.forget_frame lookup).1
    exact Nat.le_succ_of_le (Nat.le_of_eq (congrArg Connection.generation same.symm))

/-! ### The attempts of a history -/

/-- The generation of the attempt that was begun from `s` to `t`, if one was. -/
def launched (s t : Supervisor) : List Nat :=
  if t.begun = s.begun then [] else (t.attempts.getLast?.map (·.generation)).toList

/-- `gs` are the generations of all attempts so far. -/
structure Numbered (s : Supervisor) (gs : List Nat) : Prop where
  increasing : gs.Pairwise (· < ·)
  bounded : ∀ g ∈ gs, g ≤ s.conn.generation
  counted : gs.length = s.begun
  known : ∀ a ∈ s.attempts, a.generation ∈ gs

theorem initial_numbered (delay : Nat) : Numbered { delay } [] where
  increasing := .nil
  bounded := by simp
  counted := rfl
  known := by simp

theorem Numbered.drift {gs : List Nat} (h : s.Numbered gs) (drifts : s.Drifts t) :
    t.Numbered (gs ++ s.launched t) := by
  have none : s.launched t = [] := if_pos drifts.begun
  rw [none, List.append_nil]
  exact {
    increasing := h.increasing
    bounded := fun g member => Nat.le_trans (h.bounded g member) drifts.conn.generation_le
    counted := h.counted.trans drifts.begun.symm
    known := by
      intro a member
      obtain ⟨b, present, same⟩ := drifts.attempts a member
      exact same ▸ h.known b present }

theorem Numbered.start {gs : List Nat} (h : s.Numbered gs) (lookup : Nat) :
    (s.forget lookup).start.Numbered (gs ++ s.launched (s.forget lookup).start) := by
  obtain ⟨conn, attempts, begun⟩ := s.forget_frame lookup
  have new : s.launched (s.forget lookup).start = [s.conn.generation + 1] := by
    simp [launched, Supervisor.start, Connection.opened, conn, begun]
  rw [new]
  exact {
    increasing := by
      refine List.pairwise_append.mpr ⟨h.increasing, List.pairwise_singleton _ _, ?_⟩
      intro g member g' single
      obtain rfl := List.mem_singleton.mp single
      exact Nat.lt_succ_of_le (h.bounded g member)
    bounded := by
      intro g member
      have current : (s.forget lookup).start.conn.generation = s.conn.generation + 1 := by
        simp [Supervisor.start, Connection.opened, conn]
      rw [current]
      rcases List.mem_append.mp member with old | single
      · exact Nat.le_succ_of_le (h.bounded g old)
      · exact Nat.le_of_eq (List.mem_singleton.mp single)
    counted := by simp [Supervisor.start, h.counted, begun]
    known := by
      intro a member
      rw [Supervisor.start, attempts] at member
      rcases List.mem_append.mp member with old | single
      · exact List.mem_append_left _ (h.known a old)
      · obtain rfl := List.mem_singleton.mp single
        simp [Connection.opened, conn] }

theorem Numbered.next {gs : List Nat} (h : s.Numbered gs) (e : StreamEvent) :
    (s.next e).Numbered (gs ++ s.launched (s.next e)) := by
  rcases s.next_drifts e with drifts | ⟨lookup, -, begins⟩
  · exact h.drift drifts
  · rw [begins]
    exact h.start lookup

end Supervisor

end TenantLink
