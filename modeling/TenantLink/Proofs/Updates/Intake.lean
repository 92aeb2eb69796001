import Mathlib
import TenantLink.Proofs.Results
import TenantLink.Proofs.Updates.Interleaving
import TenantLink.Proofs.Updates.Listening

/-!
# What the feed takes in

The batches that the streams of all connections tell are published one by one, and the records of
those that came since the store was cleared last are in the store. Neither depends on how the
streams were cut: `Course.takes_in`.
-/

namespace TenantLink

open Json (Document)

namespace JobStore

def writeAll (s : JobStore) (jobs : List Job) : JobStore :=
  jobs.foldl (fun s job => (s.upsert job).2) s

theorem writeAll_append (s : JobStore) (jobs more : List Job) :
    s.writeAll (jobs ++ more) = (s.writeAll jobs).writeAll more := List.foldl_append

/-- The record that is written last counts. -/
theorem get?_writeAll (s : JobStore) (jobs : List Job) (id : String) :
    (s.writeAll jobs).get? id = (jobs.filter (·.id = id)).getLast?.or (s.get? id) := by
  induction jobs generalizing s with
  | nil => rfl
  | cons job rest ih =>
    rw [writeAll, List.foldl_cons, ← writeAll, ih, get?_upsert]
    by_cases same : id = job.id
    · subst same
      rw [if_pos rfl, List.filter_cons_of_pos (by simp), List.getLast?_cons]
      cases (rest.filter (·.id = job.id)).getLast? <;> rfl
    · rw [if_neg same, List.filter_cons_of_neg (by simpa using Ne.symm same)]

end JobStore

namespace Feed

variable {now : Span} {f : Feed}

/-! ### Batches -/

/-- A batch is an array of nothing but records. -/
theorem batchOf?_eq_some {e : ServerEvent} {batch : List Job} :
    batchOf? e = some batch ↔
      e.name = "job_update" ∧ ∃ items, Document.read? (Utf8.encode e.data) = some (.array items) ∧
        items.map Job.ofDocument? = batch.map some := by
  unfold batchOf? Job.batch?
  by_cases named : e.name = eventName
  · rw [if_pos named, Option.bind_eq_some_iff]
    constructor
    · rintro ⟨document, read, carried⟩
      cases document with
      | array items => exact ⟨named, items, read, mapM_eq_some.mp carried⟩
      | _ => cases carried
    · rintro ⟨-, items, read, carried⟩
      exact ⟨_, read, mapM_eq_some.mpr carried⟩
  · rw [if_neg named]
    constructor
    · intro none
      cases none
    · rintro ⟨same, -⟩
      exact (named same).elim

theorem foldl_applyJob (now : Span) (f : Feed) (batch : List Job) :
    (batch.foldl (applyJob now) f).jobs = f.jobs.writeAll batch ∧
      (batch.foldl (applyJob now) f).channel = f.channel := by
  induction batch generalizing f with
  | nil => exact ⟨rfl, rfl⟩
  | cons job rest ih => exact ih (f.applyJob now job)

theorem applyBatch_frame (now : Span) (f : Feed) (batch : List Job) :
    (f.applyBatch now batch).jobs = f.jobs.writeAll batch ∧
      (f.applyBatch now batch).channel = f.channel.publish batch := by
  obtain ⟨jobs, channel⟩ := foldl_applyJob now f batch
  refine ⟨jobs, ?_⟩
  rw [applyBatch, channel]

/-- Of some events only the batches are applied. -/
theorem foldl_applyEvent (now : Span) (f : Feed) (events : List ServerEvent) :
    events.foldl (applyEvent now) f = (events.filterMap batchOf?).foldl (applyBatch now) f := by
  induction events generalizing f with
  | nil => rfl
  | cons e rest ih =>
    rw [List.foldl_cons, ih, applyEvent]
    cases carried : batchOf? e with
    | none => rw [List.filterMap_cons_none carried]
    | some batch => rw [List.filterMap_cons_some carried, List.foldl_cons]

theorem foldl_applyBatch (now : Span) (f : Feed) (batches : List (List Job)) :
    (batches.foldl (applyBatch now) f).jobs = f.jobs.writeAll batches.flatten ∧
      (batches.foldl (applyBatch now) f).channel =
        { f.channel with published := f.channel.published ++ batches } := by
  induction batches generalizing f with
  | nil => exact ⟨rfl, by rw [List.foldl_nil, List.append_nil]⟩
  | cons batch rest ih =>
    obtain ⟨jobs, channel⟩ := ih (f.applyBatch now batch)
    obtain ⟨first, sent⟩ := applyBatch_frame now f batch
    rw [List.foldl_cons, jobs, channel, first, sent, List.flatten_cons, JobStore.writeAll_append,
      Channel.publish, List.append_assoc]
    exact ⟨rfl, rfl⟩

end Feed

/-- What some streams tell, one stream after another. -/
def eventsOfAll (streams : List Bytes) : List ServerEvent :=
  streams.flatMap fun stream => (eventsOf stream).map PlacedEvent.event

def batchesOf (streams : List Bytes) : List (List Job) :=
  (eventsOfAll streams).filterMap Feed.batchOf?

namespace Context

open Supervisor

variable {x y : Context}

abbrev streams (heard : Heard) : List Bytes := heard.map Prod.snd

/-- `y` comes of `x`. On the way the streams `now` were heard, of which `before` until the jobs were
cleared last. -/
inductive Course (x : Context) : Heard → Heard → Context → Prop
  | refl : Course x [] [] x
  | event {before now : Heard} {y : Context} {e : StreamEvent} : Course x before now y →
    y.stream.Enabled e → y.Admits e → Course x before (y.stream.listen now e) (y.step e)
  | answer {before now : Heard} {y : Context} {lookup : Nat} : Course x before now y →
    lookup < y.stream.lookups.length → Course x before now (y.answerLookup lookup)
  | teardown {before now : Heard} {y : Context} : Course x before now y →
    Course x now now y.teardown
  | clear {before now : Heard} {y : Context} : Course x before now y →
    Course x now now { y with jobs := .empty }
  /-- The rest of the application goes on. -/
  | elsewhere {before now : Heard} {y z : Context} : Course x before now y →
    z.stream = y.stream → z.config = y.config → z.jobs = y.jobs → z.channel = y.channel →
    Course x before now z

theorem Course.history {before now : Heard} (h : Course x before now y) : ∃ gs, History x gs y := by
  induction h with
  | refl => exact ⟨_, .refl⟩
  | event _ enabled admitted ih => exact ih.imp' _ fun _ h => h.tail (.event enabled admitted)
  | answer _ waits ih => exact ih.imp' _ fun _ h => h.tail (.answer waits)
  | teardown _ ih => exact ih.imp' _ fun _ h => h.tail .teardown
  | clear _ ih => exact ih.imp' _ fun _ h => h.tail (.elsewhere rfl rfl)
  | elsewhere _ stream config _ _ ih => exact ih.imp' _ fun _ h => h.tail (.elsewhere stream config)

/-! ### One step -/

theorem eventsOfAll_append (heard more : Heard) :
    eventsOfAll (streams (heard ++ more)) =
      eventsOfAll (streams heard) ++ eventsOfAll (streams more) := by
  rw [streams, List.map_append]
  exact List.flatMap_append

/-- A chunk tells what the streams tell more behind it. -/
theorem take_tells {now : Heard} (tuned : x.stream.Tuned now) (sound : x.stream.Sound) {g : Nat}
    {bytes : Bytes} (reads : x.stream.Enabled (.chunk g bytes))
    (fits : ∀ h ∈ x.stream.listen now (.chunk g bytes), Fits h.2) :
    eventsOfAll (streams (x.stream.listen now (.chunk g bytes))) =
      eventsOfAll (streams now) ++ (x.stream.take g bytes).1 := by
  obtain ⟨-, earlier, stream, heard, longer, told⟩ := tuned.chunk sound reads fits
  rw [longer, heard, eventsOfAll_append, eventsOfAll_append, List.append_assoc]
  simp only [eventsOfAll, List.map_cons, List.map_nil, List.flatMap_singleton, told]

theorem listen_tells {now : Heard} {e : StreamEvent} (other : ∀ g bytes, e ≠ .chunk g bytes) :
    eventsOfAll (streams (x.stream.listen now e)) = eventsOfAll (streams now) := by
  cases e with
  | chunk g bytes => exact (other g bytes rfl).elim
  | head g accepted time =>
    unfold Supervisor.listen
    dsimp only
    split
    · exact (eventsOfAll_append now [(g, [])]).trans (List.append_nil _)
    · rfl
  | _ => rfl

theorem step_chunk (x : Context) (g : Nat) (bytes : Bytes) :
    (x.step (.chunk g bytes)).feed =
      ((x.stream.take g bytes).1.filterMap Feed.batchOf?).foldl
        (Feed.applyBatch x.world.wall) x.feed :=
  Feed.foldl_applyEvent x.world.wall x.feed (x.stream.take g bytes).1

theorem step_feed {e : StreamEvent} (other : ∀ g bytes, e ≠ .chunk g bytes) :
    (x.step e).feed = x.feed := by
  cases e with
  | chunk g bytes => exact (other g bytes rfl).elim
  | _ => rfl

theorem answerLookup_feed (x : Context) (lookup : Nat) : (x.answerLookup lookup).feed = x.feed := by
  unfold answerLookup
  dsimp only
  split
  · split <;> rfl
  · rfl

/-! ### Every step -/

/-- What was heard has been published, and what was heard since the jobs were cleared is in the
store. -/
structure TakesIn (x : Context) (before now : Heard) : Prop where
  tuned : x.stream.Tuned now
  published : x.channel.published = batchesOf (streams now)
  jobs : ∃ since, batchesOf (streams now) = batchesOf (streams before) ++ since ∧
    x.jobs = JobStore.empty.writeAll since.flatten

variable {before now : Heard}

theorem ofConfig_takesIn (config : Config) (world : World) :
    (ofConfig config world).TakesIn [] [] where
  tuned := initial_tuned _
  published := rfl
  jobs := ⟨[], rfl, rfl⟩

theorem TakesIn.of_same (h : x.TakesIn before now) {later : Heard}
    (tuned : y.stream.Tuned later) (heard : eventsOfAll (streams later) = eventsOfAll (streams now))
    (jobs : y.jobs = x.jobs) (channel : y.channel = x.channel) : y.TakesIn before later where
  tuned := tuned
  published := by
    rw [channel, h.published, batchesOf, batchesOf, heard]
  jobs := by
    rw [jobs, batchesOf, heard]
    exact h.jobs

theorem TakesIn.clear (h : x.TakesIn before now) (tuned : y.stream.Tuned now)
    (jobs : y.jobs = .empty) (channel : y.channel = x.channel) : y.TakesIn now now where
  tuned := tuned
  published := channel ▸ h.published
  jobs := ⟨[], (List.append_nil _).symm, jobs⟩

theorem TakesIn.event (h : x.TakesIn before now) (sound : x.stream.Sound) {e : StreamEvent}
    (enabled : x.stream.Enabled e) (fits : ∀ h ∈ x.stream.listen now e, Fits h.2) :
    (x.step e).TakesIn before (x.stream.listen now e) := by
  have tuned : (x.step e).stream.Tuned (x.stream.listen now e) := by
    rw [step_stream]
    exact h.tuned.next sound enabled fits
  by_cases chunk : ∃ g bytes, e = .chunk g bytes
  · obtain ⟨g, bytes, rfl⟩ := chunk
    have told := take_tells h.tuned sound enabled fits
    have fed := x.step_chunk g bytes
    have more : batchesOf (streams (x.stream.listen now (.chunk g bytes))) =
        batchesOf (streams now) ++ (x.stream.take g bytes).1.filterMap Feed.batchOf? := by
      rw [batchesOf, told, List.filterMap_append]
      rfl
    obtain ⟨jobs, channel⟩ := Feed.foldl_applyBatch x.world.wall x.feed
      ((x.stream.take g bytes).1.filterMap Feed.batchOf?)
    have published := congrArg Channel.published channel
    obtain ⟨since, heard, stored⟩ := h.jobs
    rw [← fed] at jobs published
    exact {
      tuned := tuned
      published := by
        rw [more, ← h.published]
        exact published
      jobs := by
        refine ⟨since ++ (x.stream.take g bytes).1.filterMap Feed.batchOf?, ?_, ?_⟩
        · rw [more, heard, List.append_assoc]
        · rw [List.flatten_append, JobStore.writeAll_append, ← stored]
          exact jobs }
  · have other : ∀ g bytes, e ≠ .chunk g bytes := fun g bytes same => chunk ⟨g, bytes, same⟩
    have same := step_feed (x := x) other
    exact h.of_same tuned (listen_tells other) (congrArg Feed.jobs same)
      (congrArg Feed.channel same)

theorem Course.takesIn {config : Config} {world : World}
    (h : Course (ofConfig config world) before now x) (fits : ∀ h ∈ now, Fits h.2) :
    x.TakesIn before now := by
  -- Streams only grow, so that they were short enough before each step, too.
  induction h with
  | refl => exact ofConfig_takesIn config world
  | event h enabled admitted ih =>
    obtain ⟨gs, history⟩ := h.history
    exact (ih (listen_fits fits)).event history.steady.sound enabled fits
  | @answer before now y lookup h waits ih =>
    have same := y.answerLookup_feed lookup
    refine (ih fits).of_same ?_ rfl (congrArg Feed.jobs same) (congrArg Feed.channel same)
    rcases y.answerLookup_stream lookup with ⟨valid, leads, -⟩ | ⟨-, leads⟩
    · rw [leads]
      exact (ih fits).tuned.found lookup valid
    · rw [leads]
      exact (ih fits).tuned.forget lookup
  | @teardown before now y h ih =>
    have idle := (ih fits).tuned.drift (t := y.stream.disconnect) .shutdown
      fun a member _ _ => (List.mem_filter.mp member).1
    exact (ih fits).clear idle rfl rfl
  | clear h ih => exact (ih fits).clear (ih fits).tuned rfl rfl
  | elsewhere h stream config jobs channel ih =>
    exact (ih fits).of_same (stream ▸ (ih fits).tuned) rfl jobs channel

/-- On every course the feed takes in what the streams tell: all batches are published in order, and
the records of those since the jobs were last cleared are stored, the last of each id. A batch
counts as a whole or not at all; what is no batch leaves jobs, toasts and subscribers alone. How
the streams were cut into chunks does not matter. -/
theorem Course.takes_in {config : Config} {world : World}
    (h : Course (ofConfig config world) before now x) (fits : ∀ h ∈ now, Fits h.2) :
    x.channel.published = batchesOf (streams now) ∧
    (∃ since, batchesOf (streams now) = batchesOf (streams before) ++ since ∧
      x.jobs = JobStore.empty.writeAll since.flatten ∧
      ∀ id, x.jobs.get? id = (since.flatten.filter (·.id = id)).getLast?) ∧
    (∀ g bytes, x.stream.Enabled (.chunk g bytes) →
      (∀ h ∈ x.stream.listen now (.chunk g bytes), Fits h.2) →
      ∃ told, eventsOfAll (streams (x.stream.listen now (.chunk g bytes))) =
          eventsOfAll (streams now) ++ told ∧
        (x.step (.chunk g bytes)).feed =
          (told.filterMap Feed.batchOf?).foldl (Feed.applyBatch x.world.wall) x.feed) ∧
    (∀ e batch, Feed.batchOf? e = some batch ↔
      e.name = "job_update" ∧ ∃ items, Document.read? (Utf8.encode e.data) = some (.array items) ∧
        items.map Job.ofDocument? = batch.map some) ∧
    ∀ config' world' before' now' y, Course (ofConfig config' world') before' now' y →
      streams before' = streams before → streams now' = streams now →
      y.jobs = x.jobs ∧ y.channel.published = x.channel.published := by
  obtain ⟨tuned, published, since, heard, stored⟩ := h.takesIn fits
  refine ⟨published, ⟨since, heard, stored, fun id => ?_⟩, fun g bytes reads longer => ?_,
    fun e batch => Feed.batchOf?_eq_some, ?_⟩
  · rw [stored, JobStore.get?_writeAll, JobStore.get?_empty, Option.or_none]
  · obtain ⟨gs, history⟩ := h.history
    exact ⟨_, take_tells tuned history.steady.sound reads longer, x.step_chunk g bytes⟩
  · intro config' world' before' now' y other cleared same
    -- What is told depends on the streams alone, and not on the attempts that brought them.
    have fits' : ∀ h ∈ now', Fits h.2 := by
      intro h' member
      have known : h'.2 ∈ streams now := same ▸ List.mem_map_of_mem member
      obtain ⟨h, member, stream⟩ := List.mem_map.mp known
      exact stream ▸ fits h member
    obtain ⟨-, published', since', heard', stored'⟩ := other.takesIn fits'
    rw [same, cleared, heard] at heard'
    rw [stored, stored', published, published', same, List.append_cancel_left heard']
    exact ⟨rfl, rfl⟩

def chunked (first second : Bytes) : Context :=
  [.init, .found 0 true, .sent 1, .head 1 true 0, .chunk 1 first, .chunk 1 second].foldl step idle

theorem chunked_course (first second : Bytes) :
    Course idle [] [(1, first ++ second)] (chunked first second) := by
  have reachable : idle.hasStream = true := by cbv
  have begun := Course.refl (x := idle) |>.event (e := .init) trivial trivial
    |>.event (e := .found 0 true) (Nat.le_refl 1) reachable
  have opened := begun.event (e := .sent 1) rfl trivial |>.event (e := .head 1 true 0) rfl trivial
  exact opened.event (e := .chunk 1 first) rfl trivial |>.event (e := .chunk 1 second) rfl trivial

def updateHead : Bytes := Utf8.encode "event:job_update\ndata:[[\"7\",\"export\",\"running\",\"20"

def updateTail : Bytes :=
  Utf8.encode "24-05-01T10:00:00Z\"]]\n\nevent:job_update\ndata:[]\n\n"

/-- A batch of one job that is cut in two, and an empty one. -/
theorem Course.takes_in_split :
    (chunked updateHead updateTail).channel.published.map List.length = [1, 0] ∧
      ((chunked updateHead updateTail).jobs.get? "7").isSome := by
  have short : (linesOf (updateHead ++ updateTail)).all
      (fun l => l.bytes.length ≤ ServerEvent.maxLineSize) = true := by cbv
  have fits : ∀ h ∈ [(1, updateHead ++ updateTail)], Fits h.2 := by
    intro h member
    obtain rfl := List.mem_singleton.mp member
    exact fun l member => of_decide_eq_true (List.all_eq_true.mp short l member)
  obtain ⟨published, ⟨since, told, -, latest⟩, -⟩ :=
    Course.takes_in (chunked_course updateHead updateTail) fits
  have all : since = batchesOf [updateHead ++ updateTail] := told.symm
  rw [published, latest, all]
  constructor
  · cbv
  · cbv

end Context

end TenantLink
