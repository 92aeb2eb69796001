import Mathlib
import TenantLink.Proofs.Application.Stillness

/-!
# What the readers of an application get

In every run a reader gets, in order, what is published after it subscribed, except where it has
fallen further behind than the channel keeps; nothing that other readers do changes that. It sees
the end once no handle on the stream is left and nothing waits for it any more.
-/

namespace TenantLink

namespace Context

variable {x y z : Context}

/-! ### Waiting for a batch -/

/-- From a calm context the stream itself can get to another one. -/
def Leads (x y : Context) : Prop :=
  x.isCalm → y.isCalm ∧ ∃ acts : List Act, (∀ a ∈ acts, a.ofStream = true) ∧
    acts.foldl (fun x a => (x.perform a).2) x = y

theorem Leads.refl (x : Context) : x.Leads x := fun calm => ⟨calm, [], by simp, rfl⟩

theorem Leads.trans (h : x.Leads y) (h' : y.Leads z) : x.Leads z := by
  intro calm
  obtain ⟨calm, acts, ofStream, rfl⟩ := h calm
  obtain ⟨calm, more, ofStream', rfl⟩ := h' calm
  refine ⟨calm, acts ++ more, fun a member => ?_, List.foldl_append⟩
  exact (List.mem_append.mp member).elim (ofStream a) (ofStream' a)

theorem Flows.leads (h : x.Flows y) {a : Act} (ofStream : a.ofStream = true)
    (performs : x.isCalm → (x.perform a).2 = y) : x.Leads y :=
  fun calm => ⟨(h calm).2, [a], by simpa using ofStream, performs calm⟩

theorem atTime_leads (x : Context) (time : Nat) : x.Leads (x.atTime time) :=
  (x.atTime_flows time).leads (a := .wait time) rfl fun _ => rfl

theorem play_end (done : Context → Bool) (x : Context) (events : List StreamEvent) :
    (play done x events).2 = events.foldl step x := by
  induction events generalizing x with
  | nil => rfl
  | cons e rest ih => exact ih (x.step e)

theorem settle_end (x : Context) (done done' : Context → Bool) :
    (x.settle done).2 = (x.settle done').2 := by
  unfold settle
  split
  · rfl
  · dsimp only
    rw [play_end, play_end]

theorem settle_leads (x : Context) (done : Context → Bool) : x.Leads (x.settle done).2 := by
  refine (x.settle_flows done).leads (a := .settle) rfl fun calm => ?_
  rw [perform, if_pos calm]
  exact settle_end _ _ _

theorem leads_watched : Watched Leads where
  refl := .refl
  trans := .trans
  atTime := atTime_leads
  fireDue := fun x => x.fireDue_flows.leads (a := .fireDue) rfl fun calm => by
    rw [perform, if_pos calm]
  settle := settle_leads

def Reception.result : Reception → Result
  | .batch jobs _ => .batch jobs
  | .ended => .ended
  | .nothing => .nothing

/-- Lets the stream go on until there is a batch for a subscriber. -/
def attend (x : Context) (s : Subscription) (patience : Nat) : Context :=
  if x.isShut then x else (x.watch (fun x => (x.channel.receive? s).isSome) patience).2

theorem attend_leads (x : Context) (s : Subscription) (patience : Nat) :
    x.Leads (x.attend s patience) := by
  unfold attend
  split
  · exact .refl x
  · exact leads_watched.watch _ x patience

/-- To wait for a batch is to let the stream go on, and then to see what is there. -/
theorem receive_attends (x : Context) (s : Subscription) (patience : Nat) :
    (x.receive s patience).2 = x.attend s patience ∧
      (x.receive s patience).1.result = (x.attend s patience).poll s := by
  unfold receive poll
  rw [← attend]
  dsimp only
  cases there : (x.attend s patience).channel.receive? s with
  | some received => exact ⟨rfl, rfl⟩
  | none =>
    refine ⟨rfl, ?_⟩
    dsimp only
    split <;> rfl

end Context

namespace Scene

open Context

variable {s : Scene} {r : Reader (List Job)} {i : Nat}

def start (config : Config) (world : World) : Scene := { context := .ofConfig config world }

/-! ### Every reader is served -/

def Served (s : Scene) : Prop := ∀ r ∈ s.readers, s.context.channel.Serves r

theorem Served.take (h : s.Served) (t : Turn) : (s.take t).2.Served := by
  cases t with
  | act a => exact fun r member => (h r member).grow (s.context.perform_proceeds a).channel
  | subscribe =>
    rw [Scene.take]
    split
    · exact h
    · intro r member
      rcases List.mem_append.mp member with old | new
      · exact h r old
      · rw [List.mem_singleton.mp new]
        exact s.context.channel.reader_served
  | receive i =>
    rw [Scene.take]
    split
    · exact h
    next r found =>
      intro r' member
      rcases List.mem_or_eq_of_mem_set member with old | rfl
      · exact h r' old
      · exact (h r (List.mem_of_getElem? found)).read

theorem Served.run (h : s.Served) (turns : List Turn) : (s.run turns).2.Served :=
  run_keeps (fun _ t _ h => Served.take h t) h

theorem take_subscribes {t : Turn} (there : (s.take t).2.readers[i]? = some r) :
    (∃ r₀, s.readers[i]? = some r₀ ∧ r₀.since = r.since) ∨
      t = .subscribe ∧ s.context.isShut = false ∧ s.readers.length = i ∧
        s.context.channel.published.length = r.since := by
  cases t with
  | act a => exact .inl ⟨r, there, rfl⟩
  | subscribe =>
    rw [take] at there
    split at there
    · exact .inl ⟨r, there, rfl⟩
    next available =>
      rw [Bool.not_eq_true] at available
      by_cases old : i < s.readers.length
      · rw [List.getElem?_append_left old] at there
        exact .inl ⟨r, there, rfl⟩
      · rw [List.getElem?_append_right (Nat.not_lt.mp old)] at there
        obtain ⟨inside, last⟩ := List.getElem?_eq_some_iff.mp there
        rw [List.length_singleton] at inside
        rw [List.getElem_singleton] at last
        exact .inr ⟨rfl, available, by omega, last ▸ rfl⟩
  | receive j =>
    rw [take] at there
    split at there
    · exact .inl ⟨r, there, rfl⟩
    next r₁ found =>
      dsimp only at there
      by_cases same : j = i
      · subst same
        rw [List.getElem?_set_self (List.getElem?_eq_some_iff.mp found).1, Option.some_inj] at there
        refine .inl ⟨r₁, found, ?_⟩
        rw [← there]
        rcases s.context.channel.read_cases r₁ with ⟨-, reads⟩ | ⟨_, -, reads⟩ <;> rw [reads]
      · rw [List.getElem?_set_ne same] at there
        exact .inl ⟨r, there, rfl⟩

/-- A reader has subscribed in some turn, to what was published from then on. -/
theorem run_subscribes {turns : List Turn} (there : (s.run turns).2.readers[i]? = some r) :
    (∃ r₀, s.readers[i]? = some r₀ ∧ r₀.since = r.since) ∨
      ∃ before after, turns = before ++ .subscribe :: after ∧
        (s.run before).2.context.isShut = false ∧ (s.run before).2.readers.length = i ∧
        (s.run before).2.context.channel.published.length = r.since := by
  induction turns generalizing s with
  | nil => exact .inl ⟨r, there, rfl⟩
  | cons t rest ih =>
    rcases ih there with ⟨r₁, found, since⟩ | ⟨before, after, rfl, subscribes⟩
    · rcases take_subscribes found with ⟨r₀, found, since₀⟩ | ⟨rfl, available, count, since₀⟩
      · exact .inl ⟨r₀, found, since₀.trans since⟩
      · exact .inr ⟨[], rest, rfl, available, count, since₀.trans since⟩
    · exact .inr ⟨t :: before, after, rfl, subscribes⟩

/-! ### What was seen of it -/

/-- The batch that reader `i` gets in a turn. -/
def heardIn? (i : Nat) : Turn × Result → Option (List Job)
  | (.receive j, .batch jobs) => if j = i then some jobs else none
  | _ => none

def heard (i : Nat) (turns : List Turn) (results : List Result) : List (List Job) :=
  (turns.zip results).filterMap (heardIn? i)

def itemsOf (s : Scene) (i : Nat) : List (List Job) := (s.readers[i]?).elim [] Reader.items

theorem take_heard (s : Scene) (t : Turn) (i : Nat) :
    (s.take t).2.itemsOf i = s.itemsOf i ++ (heardIn? i (t, (s.take t).1)).toList := by
  cases t with
  | act a => exact (List.append_nil _).symm
  | subscribe =>
    have silent (result : Result) : heardIn? i (.subscribe, result) = none := rfl
    rw [silent, Option.toList_none, List.append_nil, take]
    split
    · rfl
    · unfold itemsOf
      dsimp only
      rcases Nat.lt_trichotomy i s.readers.length with old | rfl | absent
      · rw [List.getElem?_append_left old]
      · rw [List.getElem?_concat_length, List.getElem?_eq_none (Nat.le_refl _)]
        rfl
      · rw [List.getElem?_eq_none (by simp; omega), List.getElem?_eq_none (by omega)]
  | receive j =>
    rw [take]
    split
    · exact (List.append_nil _).symm
    next r found =>
      dsimp only
      unfold itemsOf
      by_cases same : j = i
      · subst same
        rw [List.getElem?_set_self (List.getElem?_eq_some_iff.mp found).1, found]
        unfold poll Channel.read
        cases s.context.channel.receive? r.place with
        | none =>
          dsimp only
          split <;> exact (List.append_nil _).symm
        | some received => simp [heardIn?, Reader.items]
      · rw [List.getElem?_set_ne same]
        have deaf (result : Result) : heardIn? i (.receive j, result) = none := by
          cases result with
          | batch jobs => exact if_neg same
          | _ => rfl
        rw [deaf, Option.toList_none, List.append_nil]

theorem run_heard (s : Scene) (turns : List Turn) (i : Nat) :
    (s.run turns).2.itemsOf i = s.itemsOf i ++ heard i turns (s.run turns).1 := by
  induction turns generalizing s with
  | nil => exact (List.append_nil _).symm
  | cons t rest ih =>
    have leads := ih (s.take t).2
    rw [take_heard, List.append_assoc] at leads
    refine leads.trans (congrArg (s.itemsOf i ++ ·) ?_)
    rw [run_cons, heard, heard, List.zip_cons_cons, List.filterMap_cons]
    cases heardIn? i (t, (s.take t).1) <;> rfl

/-! ### Readers among others -/

/-- Whether a turn is more than a look of another reader. -/
def concerns (i : Nat) : Turn → Bool
  | .receive j => j = i
  | _ => true

/-- Alike, except for what other readers have got. -/
structure Alike (i : Nat) (s s' : Scene) : Prop where
  context : s'.context = s.context
  count : s'.readers.length = s.readers.length
  reader : s'.readers[i]? = s.readers[i]?

theorem Alike.refl (i : Nat) (s : Scene) : Alike i s s := ⟨rfl, rfl, rfl⟩

variable {s' : Scene}

theorem Alike.take (h : Alike i s s') {t : Turn} (concerned : concerns i t = true) :
    (s'.take t).1 = (s.take t).1 ∧ Alike i (s.take t).2 (s'.take t).2 := by
  obtain ⟨context, count, reader⟩ := h
  cases t with
  | act a =>
    rw [Scene.take, Scene.take, context]
    exact ⟨rfl, rfl, count, reader⟩
  | subscribe =>
    rw [Scene.take, Scene.take, context]
    split
    · exact ⟨rfl, context, count, reader⟩
    · refine ⟨rfl, rfl, by simp [count], ?_⟩
      dsimp only
      rw [List.getElem?_append, List.getElem?_append, count, reader]
  | receive j =>
    obtain rfl : j = i := by simpa [concerns] using concerned
    rw [Scene.take, Scene.take, context, reader]
    split
    · exact ⟨rfl, context, count, reader⟩
    next r found =>
      refine ⟨rfl, rfl, by simp [count], ?_⟩
      dsimp only
      rw [List.getElem?_set, List.getElem?_set, count, reader]

theorem Alike.other (h : Alike i s s') {t : Turn} (other : concerns i t = false) :
    Alike i (s.take t).2 s' := by
  cases t with
  | receive j =>
    have different : j ≠ i := by simpa [concerns] using other
    rw [Scene.take]
    split
    · exact h
    · refine ⟨h.context, by simp [h.count], ?_⟩
      rw [h.reader]
      exact (List.getElem?_set_ne different).symm
  | _ => cases other

/-- A run without the looks of other readers shows reader `i` the same. -/
theorem Alike.run (h : Alike i s s') (turns : List Turn) :
    Alike i (s.run turns).2 (s'.run (turns.filter (concerns i))).2 ∧
      (turns.filter (concerns i)).zip (s'.run (turns.filter (concerns i))).1 =
        (turns.zip (s.run turns).1).filter (concerns i ·.1) := by
  induction turns generalizing s s' with
  | nil => exact ⟨h, rfl⟩
  | cons t rest ih =>
    rw [run_cons, List.zip_cons_cons]
    by_cases concerned : concerns i t = true
    · -- The turn is in both runs, and does the same in both.
      obtain ⟨result, alike⟩ := h.take concerned
      obtain ⟨alike, results⟩ := ih alike
      simp only [List.filter_cons, concerned, if_true]
      rw [run_cons, List.zip_cons_cons, result, results]
      exact ⟨alike, rfl⟩
    · -- The turn is left out: it moves another reader only.
      rw [Bool.not_eq_true] at concerned
      obtain ⟨alike, results⟩ := ih (h.other concerned)
      simp only [List.filter_cons, concerned, Bool.false_eq_true, if_false]
      exact ⟨alike, results⟩

/-! ### The end -/

/-- Once no handle is left the stream is closed. -/
def Settled (s : Scene) : Prop := s.context.Wired ∧ (s.context.isShut = true → s.context.Still)

theorem Settled.take (h : s.Settled) (t : Turn) : (s.take t).2.Settled := by
  unfold Settled
  rcases s.take_context t with ⟨a, -, performs⟩ | same
  · rw [performs]
    exact ⟨(s.context.perform_proceeds a).wired h.1, perform_still h.1 h.2 a⟩
  · rw [same]
    exact h

theorem Settled.run (h : s.Settled) (turns : List Turn) : (s.run turns).2.Settled :=
  run_keeps (fun _ t _ h => Settled.take h t) h

theorem Settled.take_shut (h : s.Settled) (shut : s.context.isShut = true) (t : Turn) :
    (s.take t).2.context.isShut = true ∧ (s.take t).2.context.channel = s.context.channel := by
  rcases s.take_context t with ⟨a, -, performs⟩ | same
  · rw [performs]
    exact ⟨perform_isShut a shut, ((h.2 shut).perform fun _ => shut).2⟩
  · rw [same]
    exact ⟨shut, rfl⟩

/-- Nothing is published any more once no handle is left. -/
theorem Settled.run_shut (h : s.Settled) (shut : s.context.isShut = true) (turns : List Turn) :
    (s.run turns).2.context.isShut = true ∧ (s.run turns).2.context.channel = s.context.channel := by
  refine (run_keeps (P := fun s' => s'.Settled ∧ s'.context.isShut = true ∧
    s'.context.channel = s.context.channel) (fun s' t _ h => ?_) ⟨h, shut, rfl⟩).2
  obtain ⟨settled, shut, channel⟩ := h
  obtain ⟨still, same⟩ := settled.take_shut shut t
  exact ⟨settled.take t, still, same.trans channel⟩

theorem take_receive (there : s.readers[i]? = some r) :
    (s.take (.receive i)).1 = s.context.poll r.place := by
  rw [take, there]

theorem start_served (config : Config) (world : World) : (start config world).Served := by
  intro r member
  cases member

theorem start_settled (config : Config) (world : World) : (start config world).Settled := by
  refine ⟨ofConfig_wired config world, fun shut => ?_⟩
  cases shut

/-- What reader `i` gets, in any run: batches that were published after it subscribed, in order, and
all of them unless it falls behind. Whatever other readers do, it gets the same. It sees the end as
soon as no handle is left and nothing waits for it, and then nothing more is published. -/
theorem run_delivers (config : Config) (world : World) {turns : List Turn} {results : List Result}
    (ran : (start config world).run turns = (results, s)) (there : s.readers[i]? = some r) :
    r.items = heard i turns results ∧
    (∃ before after, turns = before ++ .subscribe :: after ∧
      ((start config world).run before).2.readers.length = i ∧
      ((start config world).run before).2.context.channel.published.length = r.since) ∧
    (∃ k, s.context.channel.capacity = Nat.pow 2 k ∧ max config.streamBuffer 1 ≤ Nat.pow 2 k ∧
      ∀ j, max config.streamBuffer 1 ≤ Nat.pow 2 j → k ≤ j) ∧
    s.context.channel.Delivers config.streamBuffer r ∧
    (∃ alone, (start config world).run (turns.filter (concerns i)) = alone ∧
      alone.2.context = s.context ∧ alone.2.readers[i]? = some r ∧
      (turns.filter (concerns i)).zip alone.1 = (turns.zip results).filter (concerns i ·.1)) ∧
    (∀ jobs, (s.take (.receive i)).1 = .batch jobs ↔
      (s.context.channel.waiting r.place).head? = some jobs) ∧
    ((s.take (.receive i)).1 = .ended ↔
      (s.context.held = false ∧ s.context.clones = 0) ∧ s.context.channel.waiting r.place = []) ∧
    (s.context.held = false ∧ s.context.clones = 0 → ∀ more,
      (s.run more).2.context.isShut = true ∧
        (s.run more).2.context.channel = s.context.channel) := by
  obtain ⟨rfl, rfl⟩ := Prod.mk.inj ran
  have grows := ((start config world).run_proceeds turns).channel
  have capacity : _ = (Channel.ofSize config.streamBuffer).capacity := grows.capacity
  have shut_iff : ((start config world).run turns).2.context.isShut = true ↔
      ((start config world).run turns).2.context.held = false ∧
        ((start config world).run turns).2.context.clones = 0 := by
    simp [isShut]
  refine ⟨?_, ?_, ?_, ?_, ?_, ?_, ?_, ?_⟩
  -- What it has got, since when, and out of which channel.
  · have items := (start config world).run_heard turns i
    rw [itemsOf, there] at items
    exact items
  · rcases run_subscribes there with ⟨r₀, found, -⟩ | ⟨before, after, turns, -, subscribes⟩
    · cases found
    · exact ⟨before, after, turns, subscribes⟩
  · rw [capacity]
    exact Channel.capacity_ofSize _
  · have served := (start_served config world).run turns r (List.mem_of_getElem? there)
    refine served.delivers ?_
    rw [capacity]
    exact Channel.size_le_capacity _
  -- The run without the looks of other readers.
  · obtain ⟨alike, same⟩ := (Alike.refl i (start config world)).run turns
    exact ⟨_, rfl, alike.context, alike.reader.trans there, same⟩
  -- What it sees next.
  · intro jobs
    rw [take_receive there, Channel.head?_waiting, poll]
    cases Channel.receive? _ r.place with
    | some received => simp
    | none =>
      dsimp only
      split <;> simp
  · rw [take_receive there, Channel.waiting_eq_nil, poll, ← shut_iff]
    cases Channel.receive? _ r.place with
    | some received => simp
    | none =>
      dsimp only
      split
      next shut => simp [shut]
      next available => simp [available]
  · intro shut more
    exact ((start_settled config world).run turns).run_shut (shut_iff.mpr shut) more

def oneSlot : Config := { apiBase := Config.defaultBase, streamBuffer := 0 }

def emptyBatch : Bytes := Utf8.encode "event:job_update\ndata:[]\n\n"

def threeBatches : World :=
  { wall := ⟨0⟩
    backend := {
      origin := Config.defaultBase
      script := [
        .answer { status := .ok, chunks := [emptyBatch, emptyBatch, emptyBatch] }] }
    provider := { current := some { token := "t" } } }

def overtaken : List Turn :=
  [.subscribe, .act .openStream, .act .settle, .act .drop, .receive 0]

/-- Three batches come before the reader looks: it misses two of them, and then sees the end. -/
theorem run_delivers_overtaken :
    ∃ s r, ((start oneSlot threeBatches).run overtaken).2 = s ∧ s.readers[0]? = some r ∧
      r = ⟨0, ⟨3⟩, [⟨0, 2, 3, []⟩]⟩ ∧ s.context.channel.Delivers 0 r ∧
      (s.take (.receive 0)).1 = .ended := by
  have there : ((start oneSlot threeBatches).run overtaken).2.readers[0]? =
      some ⟨0, ⟨3⟩, [⟨0, 2, 3, []⟩]⟩ := by cbv
  have handles : ((start oneSlot threeBatches).run overtaken).2.context.held = false ∧
      ((start oneSlot threeBatches).run overtaken).2.context.clones = 0 := by cbv
  have gone : ((start oneSlot threeBatches).run overtaken).2.context.channel.published.length =
      3 := by cbv
  obtain ⟨-, -, -, delivers, -, -, ended, -⟩ := run_delivers oneSlot threeBatches rfl there
  refine ⟨_, _, rfl, there, rfl, delivers, ended.mpr ⟨handles, ?_⟩⟩
  rw [Channel.waiting, List.drop_eq_nil_iff, gone]
  exact Nat.le_max_left 3 _

end Scene

end TenantLink
