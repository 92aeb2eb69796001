import TenantLink.Updates.Supervisor

/-!
# One connection at a time

`Supervisor.Sound` ties the fields of the connection to the attempts, the timers and the lookups
that go on. Every event keeps it: `next_sound`.
-/

namespace TenantLink.Supervisor

/-- What goes on in each state of the connection: nothing, the attempt that holds it, or the timer
that is to connect again. -/
inductive Phase (s : Supervisor) : Prop
  | idle (state : s.conn.state = .disconnected) (task : s.conn.task = none)
    (reconnect : s.conn.reconnect = none) (attempts : s.attempts = []) (timers : s.timers = [])
  | live (a : Attempt) (state : s.conn.state = .connecting ∨ s.conn.state = .connected)
    (generation : a.generation = s.conn.generation) (task : s.conn.task = some a.generation)
    (reconnect : s.conn.reconnect = none) (attempts : s.attempts = [a]) (timers : s.timers = [])
  | waiting (t : ReconnectTimer) (state : s.conn.state = .errored) (task : s.conn.task = none)
    (reconnect : s.conn.reconnect = some t.number) (attempts : s.attempts = [])
    (timers : s.timers = [t])

/-- A lookup belongs to an `init`, or to the timer that the connection waits for. -/
def Lawful (s : Supervisor) (l : Lookup) : Prop :=
  l.origin = .disconnected ∧ l.timer = none ∨
    l.origin = .errored ∧ l.timer.isSome ∧ l.timer = s.conn.reconnect

structure Sound (s : Supervisor) : Prop where
  phase : s.Phase
  lookups : ∀ l ∈ s.lookups, s.Lawful l
  /-- A timer connects once. -/
  once : s.lookups.Pairwise fun l l' => l.timer = none ∨ l'.timer = none

variable {s : Supervisor}

theorem initial_sound (delay : Nat) : Sound { delay } where
  phase := .idle rfl rfl rfl rfl rfl
  lookups := by simp
  once := .nil

/-! ### What the phase tells -/

theorem Phase.withLookups (phase : s.Phase) (lookups : List Lookup) :
    Phase { s with lookups } := by
  cases phase with
  | idle state task reconnect attempts timers => exact .idle state task reconnect attempts timers
  | live a state generation task reconnect attempts timers =>
    exact .live a state generation task reconnect attempts timers
  | waiting t state task reconnect attempts timers =>
    exact .waiting t state task reconnect attempts timers

theorem Phase.of_attempt (phase : s.Phase) {g : Nat} (present : (s.attempt? g).isSome) :
    ∃ a, a.generation = g ∧ g = s.conn.generation ∧
      (s.conn.state = .connecting ∨ s.conn.state = .connected) ∧ s.conn.task = some g ∧
      s.conn.reconnect = none ∧ s.attempts = [a] ∧ s.timers = [] := by
  cases phase with
  | idle _ _ _ attempts => simp [attempt?, attempts] at present
  | waiting _ _ _ _ attempts => simp [attempt?, attempts] at present
  | live a state generation task reconnect attempts timers =>
    have same : a.generation = g := by simpa [attempt?, attempts] using present
    subst same
    exact ⟨a, rfl, generation, state, task, reconnect, attempts, timers⟩

theorem Phase.of_timer (phase : s.Phase) {t : ReconnectTimer} (present : t ∈ s.timers) :
    s.conn.state = .errored ∧ s.conn.reconnect = some t.number := by
  cases phase with
  | idle _ _ _ _ timers => simp [timers] at present
  | live _ _ _ _ _ _ timers => simp [timers] at present
  | waiting u state _ reconnect _ timers =>
    have same : t = u := by simpa [timers] using present
    rw [same]
    exact ⟨state, reconnect⟩

theorem Phase.live_iff (phase : s.Phase) :
    s.conn.state = .connecting ∨ s.conn.state = .connected ↔
      ∃ a, s.attempts = [a] ∧ s.conn.task = some a.generation ∧
        a.generation = s.conn.generation := by
  cases phase with
  | idle state _ _ attempts => simp [state, attempts]
  | waiting _ state _ _ attempts => simp [state, attempts]
  | live a state generation task _ attempts =>
    constructor
    · intro _
      exact ⟨a, attempts, task, generation⟩
    · intro _
      exact state

theorem Phase.errored_iff (phase : s.Phase) :
    s.conn.state = .errored ↔
      (∃ t, s.timers = [t] ∧ s.conn.reconnect = some t.number) ∧ s.attempts = [] := by
  cases phase with
  | idle state _ _ _ timers => simp [state, timers]
  | live a state _ _ _ attempts => rcases state with state | state <;> simp [state, attempts]
  | waiting t state _ reconnect attempts timers =>
    constructor
    · intro _
      exact ⟨⟨t, timers, reconnect⟩, attempts⟩
    · intro _
      exact state

theorem Phase.disconnected_iff (phase : s.Phase) :
    s.conn.state = .disconnected ↔ s.attempts = [] ∧ s.timers = [] := by
  cases phase with
  | idle state _ _ attempts timers => simp [state, attempts, timers]
  | live a state _ _ _ attempts => rcases state with state | state <;> simp [state, attempts]
  | waiting t state _ _ _ timers => simp [state, timers]

/-- The connection knows of what goes on. -/
theorem Phase.handles (phase : s.Phase) :
    (s.conn.task = none ↔ s.attempts = []) ∧ (s.conn.reconnect = none ↔ s.timers = []) := by
  cases phase with
  | idle _ task reconnect attempts timers => simp [task, reconnect, attempts, timers]
  | live a _ _ task reconnect attempts timers => simp [task, reconnect, attempts, timers]
  | waiting t _ task reconnect attempts timers => simp [task, reconnect, attempts, timers]

/-- Without a timer to wait for, only `init` looks for the session. -/
theorem Sound.lookups_of_no_timer (h : Sound s) (unplanned : s.conn.reconnect = none) :
    ∀ l ∈ s.lookups, l.origin = .disconnected ∧ l.timer = none := by
  intro l member
  rcases h.lookups l member with free | ⟨_, bound, same⟩
  · exact free
  · rw [same, unplanned] at bound
    cases bound

/-- What holds without a timer to wait for holds whatever the new connection is. -/
theorem sound_of_free_lookups (phase : s.Phase)
    (free : ∀ l ∈ s.lookups, l.origin = .disconnected ∧ l.timer = none) : Sound s where
  phase := phase
  lookups := fun l member => .inl (free l member)
  once := List.pairwise_of_forall_mem_list fun _ member _ _ => .inl (free _ member).2

/-! ### Connecting -/

/-- A lookup may begin beside those that go on, unless it makes two for timers. -/
theorem Sound.begin (h : Sound s) {l : Lookup} (lawful : s.Lawful l)
    (single : ∀ l' ∈ s.lookups, l'.timer = none ∨ l.timer = none) :
    Sound { s with lookups := s.lookups ++ [l] } where
  phase := h.phase.withLookups _
  lookups := by
    intro l' member
    rcases List.mem_append.mp member with old | new
    · exact h.lookups l' old
    · rw [List.mem_singleton.mp new]
      exact lawful
  once := by
    refine List.pairwise_append.mpr ⟨h.once, List.pairwise_singleton _ _, ?_⟩
    intro l' old l'' new
    rw [List.mem_singleton.mp new]
    exact single l' old

theorem init_sound (h : Sound s) : Sound s.init := by
  unfold init
  split
  · exact h.begin (.inl ⟨rfl, rfl⟩) fun _ _ => .inr rfl
  · exact h

theorem fire_sound (h : Sound s) {timer time : Nat} (due : s.Enabled (.fire timer time)) :
    Sound (s.fire timer) := by
  obtain ⟨⟨t, present, rfl, -⟩, unfired⟩ := due
  obtain ⟨errored, planned⟩ := h.phase.of_timer present
  unfold fire
  rw [if_pos errored]
  refine h.begin (.inr ⟨rfl, rfl, planned.symm⟩) fun l old => ?_
  rcases h.lookups l old with ⟨_, free⟩ | ⟨_, _, same⟩
  · exact .inl free
  · exact (unfired l old (same.trans planned)).elim

/-- Behind the lookup of a timer there is no other one. -/
theorem Sound.rest_free (h : Sound s) {i : Nat} {l : Lookup} (found : s.lookups[i]? = some l)
    (bound : l.timer.isSome) :
    ∀ l' ∈ s.lookups.eraseIdx i, l'.origin = .disconnected ∧ l'.timer = none := by
  intro l' member
  obtain ⟨j, inside, other, at_j⟩ := List.mem_eraseIdx_iff_getElem.mp member
  obtain ⟨inside', at_i⟩ := List.getElem?_eq_some_iff.mp found
  have pairs := List.pairwise_iff_getElem.mp h.once
  have free : l'.timer = none := by
    rcases Nat.lt_or_gt_of_ne other with before | behind
    · have pair := pairs j i inside inside' before
      rw [at_i, at_j] at pair
      exact pair.resolve_right fun none => by simp [none] at bound
    · have pair := pairs i j inside' inside behind
      rw [at_i, at_j] at pair
      exact pair.resolve_left fun none => by simp [none] at bound
  rcases h.lookups l' ((List.eraseIdx_sublist _ _).subset member) with lawful | ⟨_, bound', _⟩
  · exact lawful
  · rw [free] at bound'
    cases bound'

@[simp] theorem endTimer_none (s : Supervisor) : s.endTimer none = s := by
  unfold endTimer
  rw [List.filter_eq_self.mpr fun t _ => by simp]

/-- A lookup of an `init` leaves nothing behind. -/
theorem forget_sound (h : Sound s) {i : Nat} {l : Lookup} (found : s.lookups[i]? = some l)
    (free : l.timer = none) : Sound (s.forget i) := by
  unfold forget
  rw [found]
  dsimp only
  rw [free, endTimer_none]
  have kept := List.eraseIdx_sublist s.lookups i
  exact {
    phase := h.phase.withLookups _
    lookups := fun l member => h.lookups l (kept.subset member)
    once := h.once.sublist kept }

/-- Where no timer waits, any lookup may be forgotten. -/
theorem Sound.forget_idle (h : Sound s) (idle : s.conn.state = .disconnected) (lookup : Nat) :
    Sound (s.forget lookup) := by
  have unplanned := h.phase.handles.2.mpr (h.phase.disconnected_iff.mp idle).2
  have free := h.lookups_of_no_timer unplanned
  cases found : s.lookups[lookup]? with
  | none =>
    rw [forget, found]
    exact h
  | some l => exact forget_sound h found (free l (List.mem_of_getElem? found)).2

/-- The lookup of a timer ends with the timer, for which the connection waits. -/
theorem forget_timer (h : Sound s) {i : Nat} {l : Lookup} (found : s.lookups[i]? = some l)
    (bound : l.timer.isSome) (same : l.timer = s.conn.reconnect) :
    s.conn.state = .errored ∧ (s.forget i).conn = s.conn ∧ s.conn.task = none ∧
      (s.forget i).attempts = [] ∧ (s.forget i).timers = [] ∧
      ∀ l' ∈ (s.forget i).lookups, l'.origin = .disconnected ∧ l'.timer = none := by
  have rest := h.rest_free found bound
  unfold forget
  rw [found]
  cases h.phase with
  | idle _ _ reconnect => simp [same, reconnect] at bound
  | live _ _ _ _ reconnect => simp [same, reconnect] at bound
  | waiting t state task reconnect attempts timers =>
    refine ⟨state, rfl, task, attempts, ?_, rest⟩
    simp [endTimer, timers, same, reconnect]

theorem start_sound (attempts : s.attempts = []) (timers : s.timers = [])
    (free : ∀ l ∈ s.lookups, l.origin = .disconnected ∧ l.timer = none) : Sound s.start :=
  sound_of_free_lookups
    (.live ⟨s.conn.generation + 1, s.conn.lastEventId, .unsent⟩ (.inl rfl) rfl rfl rfl
      (by simp [start, attempts, Connection.opened]) timers)
    free

theorem found_sound (h : Sound s) (lookup : Nat) (valid : Bool) : Sound (s.found lookup valid) := by
  unfold found
  cases found : s.lookups[lookup]? with
  | none => exact h
  | some l =>
    dsimp only
    rcases h.lookups l (List.mem_of_getElem? found) with ⟨origin, free⟩ | ⟨origin, bound, same⟩
    · have left := forget_sound h found free
      rw [origin]
      split
      · exact left
      next state =>
        have idle : (s.forget lookup).conn.state = .disconnected := Decidable.not_not.mp state
        split
        · obtain ⟨attempts, timers⟩ := left.phase.disconnected_iff.mp idle
          have unplanned := left.phase.handles.2.mpr timers
          exact start_sound attempts timers (left.lookups_of_no_timer unplanned)
        · exact left
    · obtain ⟨state, conn, task, attempts, timers, free⟩ := forget_timer h found bound same
      rw [origin, if_neg (by rw [conn, state]; simp)]
      split
      · exact start_sound attempts timers free
      · exact sound_of_free_lookups (.idle rfl (conn ▸ task) rfl attempts timers) free

/-! ### Losing the connection -/

theorem disconnect_sound (h : Sound s) : Sound s.disconnect where
  phase := by
    cases h.phase with
    | idle _ task reconnect attempts timers =>
      exact .idle rfl rfl rfl (by simp [disconnect, attempts]) (by simp [disconnect, timers])
    | live a _ _ task _ attempts timers =>
      exact .idle rfl rfl rfl (by simp [disconnect, attempts, task]) (by simp [disconnect, timers])
    | waiting t _ _ reconnect attempts timers =>
      exact .idle rfl rfl rfl (by simp [disconnect, attempts])
        (by simp [disconnect, timers, reconnect])
  lookups := by
    intro l member
    obtain ⟨old, left⟩ := List.mem_filter.mp member
    rcases h.lookups l old with free | ⟨_, bound, same⟩
    · exact .inl free
    · rcases of_decide_eq_true left with none | other
      · simp [none] at bound
      · exact (other same).elim
  once := h.once.sublist List.filter_sublist

theorem advance_sound (h : Sound s) (g : Nat) (phase : AttemptPhase) : Sound (s.advance g phase)
    where
  phase := by
    cases h.phase with
    | idle state task reconnect attempts timers =>
      exact .idle state task reconnect (by simp [advance, attempts]) timers
    | live a state generation task reconnect attempts timers =>
      refine .live (if a.generation = g then { a with phase } else a) state ?_ ?_ reconnect
        (by simp [advance, attempts]) timers
      · split <;> exact generation
      · split <;> exact task
    | waiting t state task reconnect attempts timers =>
      exact .waiting t state task reconnect (by simp [advance, attempts]) timers
  lookups := h.lookups
  once := h.once

/-- The end of the attempt that holds the connection makes way for a timer. -/
theorem close_sound (h : Sound s) {g : Nat} (present : (s.attempt? g).isSome) (time : Nat) :
    Sound (s.close g time) := by
  obtain ⟨a, rfl, current, state, task, reconnect, attempts, timers⟩ := h.phase.of_attempt present
  have held : s.conn.isHeldBy a.generation = true := by
    rcases state with state | state <;> simp [Connection.isHeldBy, current, state]
  unfold close lose
  dsimp only
  rw [if_pos held]
  refine sound_of_free_lookups ?_ (h.lookups_of_no_timer reconnect)
  have lost : s.conn.lost a.generation s.nextTimer =
      { s.conn with state := .errored, task := none, reconnect := some s.nextTimer } :=
    if_pos held
  exact .waiting ⟨s.nextTimer, time + s.delay⟩ (by simp [lost]) (by simp [lost]) (by simp [lost])
    (by simp [attempts]) (by simp [timers])

/-- The end of an attempt that is not there changes nothing. -/
theorem Sound.close_absent (h : Sound s) {g : Nat} (absent : s.attempt? g = none) (time : Nat) :
    s.close g time = s := by
  have others : s.attempts.filter (·.generation ≠ g) = s.attempts :=
    List.filter_eq_self.mpr fun a present => by
      simpa using List.find?_eq_none.mp absent a present
  have free : s.conn.isHeldBy g = false := by
    cases h.phase with
    | idle state => simp [Connection.isHeldBy, state]
    | waiting _ state => simp [Connection.isHeldBy, state]
    | live a _ generation _ _ attempts =>
      have other : s.conn.generation ≠ g := by
        rw [← generation]
        simpa [attempt?, attempts] using absent
      simp [Connection.isHeldBy, other]
  unfold close lose
  rw [others, if_neg (by simp [free])]

theorem Sound.close (h : Sound s) (g time : Nat) : Sound (s.close g time) := by
  cases present : s.attempt? g with
  | none =>
    rw [h.close_absent present]
    exact h
  | some a => exact close_sound h (present ▸ rfl) time

/-! ### Coming further -/

/-- A connection may be opened, and may take up ids. -/
theorem conn_sound (h : Sound s) {c : Connection}
    (state : c.state = s.conn.state ∨ s.conn.state = .connecting ∧ c.state = .connected)
    (generation : c.generation = s.conn.generation) (task : c.task = s.conn.task)
    (reconnect : c.reconnect = s.conn.reconnect) : Sound { s with conn := c } where
  phase := by
    cases h.phase with
    | idle state' task' reconnect' attempts timers =>
      rw [state'] at state
      exact .idle (state.resolve_right (by simp)) (task.trans task') (reconnect.trans reconnect')
        attempts timers
    | live a state' generation' task' reconnect' attempts timers =>
      refine .live a ?_ (generation'.trans generation.symm) (task.trans task')
        (reconnect.trans reconnect') attempts timers
      rcases state with same | ⟨_, opened⟩
      · rw [same]
        exact state'
      · exact .inr opened
    | waiting t state' task' reconnect' attempts timers =>
      rw [state'] at state
      exact .waiting t (state.resolve_right (by simp)) (task.trans task')
        (reconnect.trans reconnect') attempts timers
  lookups := by
    intro l member
    rcases h.lookups l member with free | ⟨origin, bound, same⟩
    · exact .inl free
    · exact .inr ⟨origin, bound, same.trans reconnect.symm⟩
  once := h.once

theorem established_sound (h : Sound s) (g : Nat) :
    Sound { s with conn := s.conn.established g } := by
  unfold Connection.established
  split
  next awaiting =>
    have connecting : s.conn.state = .connecting := by
      simp only [Connection.isAwaiting, Bool.and_eq_true, decide_eq_true_eq] at awaiting
      exact awaiting.2
    exact conn_sound h (.inr ⟨connecting, rfl⟩) rfl rfl rfl
  · exact h

theorem recordId_sound (h : Sound s) (g : Nat) (id : Option String) :
    Sound { s with conn := s.conn.recordId g id } := by
  unfold Connection.recordId
  cases id with
  | none => exact h
  | some id =>
    dsimp only
    split
    · exact conn_sound h (.inl rfl) rfl rfl rfl
    · exact h

theorem head_sound (h : Sound s) {g : Nat} (present : (s.attempt? g).isSome) (accepted : Bool)
    (time : Nat) : Sound (s.head g accepted time) := by
  unfold head
  split
  · exact advance_sound (established_sound h g) g _
  · exact close_sound h present time

theorem take_sound (h : Sound s) (g : Nat) (bytes : Bytes) : Sound (s.take g bytes).2 := by
  unfold take
  split
  · exact advance_sound (recordId_sound h g _) g _
  · exact h

/-- The end of an attempt that is over loses nothing. -/
theorem lose_superseded {g : Nat} (old : g < s.conn.generation) (time : Nat) :
    s.lose g time = s := by
  unfold lose Connection.isHeldBy
  rw [if_neg]
  simp [Nat.ne_of_gt old]

/-- An attempt that reports late has been replaced. -/
theorem superseded_lt {g : Nat} (late : s.isSuperseded g = true) : g < s.conn.generation := by
  rw [isSuperseded, Bool.and_eq_true, decide_eq_true_eq] at late
  exact late.1

theorem attempt_of_phase {g : Nat} {p : AttemptPhase → Bool} (there : s.attemptIs g p = true) :
    (s.attempt? g).isSome := by
  cases present : s.attempt? g with
  | none =>
    rw [attemptIs, present] at there
    cases there
  | some _ => rfl

theorem next_sound (h : Sound s) {e : StreamEvent} (enabled : s.Enabled e) : Sound (s.next e) := by
  cases e with
  | init => exact init_sound h
  | fire timer time => exact fire_sound h enabled
  | found lookup valid => exact found_sound h lookup valid
  | disconnect => exact disconnect_sound h
  | sent g => exact advance_sound h g _
  | head g accepted time => exact head_sound h (attempt_of_phase enabled) accepted time
  | chunk g bytes => exact take_sound h g bytes
  | closed g time => exact close_sound h enabled time
  | lateHead g => exact established_sound h g
  | lateId g id => exact recordId_sound h g _
  | lateEnd g time =>
    rw [next, lose_superseded (superseded_lt enabled)]
    exact h

/-- Whatever happens to a supervisor, in whatever order. -/
theorem Reachable.sound (reached : s.Reachable) : Sound s := by
  obtain ⟨delay, run⟩ := reached
  generalize start : ({ delay } : Supervisor) = first at run
  induction run with
  | refl => exact start ▸ initial_sound delay
  | tail _ enabled ih => exact next_sound ih enabled

end TenantLink.Supervisor
