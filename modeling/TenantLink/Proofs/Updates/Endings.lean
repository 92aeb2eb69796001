import Mathlib
import TenantLink.Proofs.Toasts.History
import TenantLink.Proofs.Updates.Intake

/-!
# Jobs that come to their end

A toast tells of each record with which a job comes to its end: one that says so when what was held
of the job before said something else. How the records were put together into batches does not
matter: `Feed.applyAll_tells`.
-/

namespace TenantLink

/-! ### The toasts of endings -/

namespace Job

def hasEnded (job : Job) : Bool := job.status = .completed ∨ job.status = .failed

def endMessage (job : Job) : String :=
  if job.status = .failed then
    job.jobType ++ " job failed: " ++ job.errorMessage.getD "unknown error"
  else job.jobType ++ " job completed"

def endSeverity (job : Job) : Severity := if job.status = .failed then .error else .success

/-- Failures are shown longer. -/
def endTime (job : Job) : Span :=
  if job.status = .failed then Toast.failureTime else Toast.defaultTime

end Job

/-- A record, and when it was taken in. -/
structure Arrival where
  now : Span
  job : Job
  deriving DecidableEq

namespace Arrival

/-- What is held of a job with the id: the last of the records `earlier`, or else the stored one. -/
def held? (stored : JobStore) (earlier : List Job) (id : String) : Option Job :=
  ((earlier.filter (·.id = id)).getLast?).or (stored.get? id)

def isEnding (stored : JobStore) (earlier : List Job) (a : Arrival) : Bool :=
  a.job.hasEnded && (held? stored earlier a.job.id).map Job.status ≠ some a.job.status

/-- The arrivals behind the records `earlier` with which jobs come to their end. -/
def endingsFrom (stored : JobStore) (earlier : List Job) : List Arrival → List Arrival
  | [] => []
  | a :: rest =>
    if isEnding stored earlier a then a :: endingsFrom stored (earlier ++ [a.job]) rest
    else endingsFrom stored (earlier ++ [a.job]) rest

def toast (id : Nat) (a : Arrival) : Toast :=
  ToastRecord.newToast id a.now a.job.endMessage a.job.endSeverity (some a.job.endTime)

end Arrival

/-- A batch, and when it was taken in. -/
structure TimedBatch where
  now : Span
  jobs : List Job
  deriving DecidableEq

def TimedBatch.arrivals (b : TimedBatch) : List Arrival := b.jobs.map (⟨b.now, ·⟩)

namespace Arrival

variable {stored : JobStore} {earlier : List Job}

theorem endingsFrom_append (stored : JobStore) (earlier : List Job) (arrivals more : List Arrival) :
    endingsFrom stored earlier (arrivals ++ more) =
      endingsFrom stored earlier arrivals ++
        endingsFrom stored (earlier ++ arrivals.map job) more := by
  induction arrivals generalizing earlier with
  | nil => simp [endingsFrom]
  | cons a rest ih =>
    simp only [List.cons_append, endingsFrom, ih, List.map_cons, List.append_assoc]
    split <;> rfl

theorem endingsFrom_sublist (stored : JobStore) (earlier : List Job) (arrivals : List Arrival) :
    (endingsFrom stored earlier arrivals).Sublist arrivals := by
  induction arrivals generalizing earlier with
  | nil => exact .slnil
  | cons a rest ih =>
    rw [endingsFrom]
    split
    · exact (ih _).cons_cons a
    · exact (ih _).cons a

end Arrival

/-! ### Telling -/

namespace ToastStore

def tell (s : ToastStore) (a : Arrival) : ToastStore :=
  (s.add a.now a.job.endMessage a.job.endSeverity (some a.job.endTime)).2

theorem visible_tell (s : ToastStore) {a : Arrival} {later : Span}
    (order : a.now.nanos ≤ later.nanos) :
    (s.tell a).visible later =
      s.visible later ++ [a.toast s.next].filter (·.isVisible later) := by
  have toasts : (s.tell a).toasts = (s.prune a.now).toasts ++ [a.toast s.next] := rfl
  rw [visible, toasts, List.filter_append, ← visible, visible_prune_later order]

theorem visible_foldl_tell (s : ToastStore) {endings : List Arrival} {later : Span}
    (order : ∀ a ∈ endings, a.now.nanos ≤ later.nanos) :
    (endings.foldl tell s).visible later =
      s.visible later ++
        (endings.mapIdx fun i a => a.toast (s.next + i)).filter (·.isVisible later) := by
  induction endings generalizing s with
  | nil => simp
  | cons a rest ih =>
    have next : (s.tell a).next = s.next + 1 := rfl
    rw [List.foldl_cons, ih (s.tell a) fun b member => order b (List.mem_cons_of_mem a member),
      visible_tell s (order a List.mem_cons_self), List.mapIdx_cons, next, List.append_assoc,
      ← List.filter_append]
    simp only [List.singleton_append, Nat.add_zero, Nat.add_assoc, Nat.add_comm 1]

end ToastStore

namespace Feed

open Arrival

variable {f : Feed} {stored : JobStore} {earlier : List Job}

theorem report_eq (toasts : ToastStore) (now : Span) (job : Job) :
    report toasts now job = if job.hasEnded then toasts.tell ⟨now, job⟩ else toasts := by
  cases status : job.status <;>
    simp [report, Job.hasEnded, ToastStore.tell, Job.endMessage, Job.endSeverity, Job.endTime,
      unknownFailure, status]

theorem isTransition_eq (previous : Option Job) (job : Job) :
    isTransition previous job = decide (previous.map Job.status ≠ some job.status) := by
  cases previous <;> simp [isTransition]

/-- A record that is written behind others is told if its job comes to its end with it. -/
theorem applyJob_toasts (h : f.jobs = stored.writeAll earlier) (now : Span) (job : Job) :
    (f.applyJob now job).toasts =
      if isEnding stored earlier ⟨now, job⟩ then f.toasts.tell ⟨now, job⟩ else f.toasts := by
  have previous : f.jobs.get? job.id = held? stored earlier job.id := by
    rw [h, JobStore.get?_writeAll, held?]
  have step : (f.applyJob now job).toasts =
      if isTransition (f.jobs.get? job.id) job then report f.toasts now job else f.toasts := rfl
  rw [step, report_eq, isTransition_eq, previous, isEnding]
  by_cases ended : job.hasEnded = true <;> simp [ended]

theorem foldl_applyJob_toasts (h : f.jobs = stored.writeAll earlier) (now : Span)
    (batch : List Job) :
    (batch.foldl (applyJob now) f).toasts =
      (endingsFrom stored earlier (batch.map (⟨now, ·⟩))).foldl ToastStore.tell f.toasts := by
  induction batch generalizing f earlier with
  | nil => rfl
  | cons job rest ih =>
    have next : (f.applyJob now job).jobs = stored.writeAll (earlier ++ [job]) := by
      rw [JobStore.writeAll_append, ← h]
      rfl
    rw [List.foldl_cons, ih next, applyJob_toasts h, List.map_cons, endingsFrom]
    split <;> rfl

def applyAll (f : Feed) (batches : List TimedBatch) : Feed :=
  batches.foldl (fun f b => f.applyBatch b.now b.jobs) f

theorem applyAll_eq (h : f.jobs = stored.writeAll earlier) (batches : List TimedBatch) :
    (f.applyAll batches).jobs =
        f.jobs.writeAll ((batches.flatMap TimedBatch.arrivals).map Arrival.job) ∧
      (f.applyAll batches).toasts =
        (endingsFrom stored earlier (batches.flatMap TimedBatch.arrivals)).foldl
          ToastStore.tell f.toasts := by
  induction batches generalizing f earlier with
  | nil => exact ⟨rfl, rfl⟩
  | cons b rest ih =>
    have jobs : b.arrivals.map Arrival.job = b.jobs := by
      simp [TimedBatch.arrivals, Function.comp_def]
    have written := (applyBatch_frame b.now f b.jobs).1
    have next : (f.applyBatch b.now b.jobs).jobs = stored.writeAll (earlier ++ b.jobs) := by
      rw [written, h, JobStore.writeAll_append]
    have shown : (f.applyBatch b.now b.jobs).toasts =
        (endingsFrom stored earlier b.arrivals).foldl ToastStore.tell f.toasts :=
      foldl_applyJob_toasts h b.now b.jobs
    obtain ⟨later, told⟩ := ih next
    rw [List.flatMap_cons, List.map_append, endingsFrom_append, List.foldl_append, jobs,
      JobStore.writeAll_append, ← written]
    refine ⟨later, ?_⟩
    rw [applyAll, List.foldl_cons, ← applyAll, told, shown]

/-- The toasts that some batches bring are those of the endings among their records, one of each
and in order: they come behind those that were shown before, for as long as their time lasts. The
records and the toasts depend on the records that came and their times, and not on the batches in
which they came. -/
theorem applyAll_tells (f : Feed) (batches : List TimedBatch) :
    (f.applyAll batches).toasts =
      (endingsFrom f.jobs [] (batches.flatMap TimedBatch.arrivals)).foldl ToastStore.tell
        f.toasts ∧
    (∀ later : Span, (∀ b ∈ batches, b.now.nanos ≤ later.nanos) →
      (f.applyAll batches).toasts.visible later =
        f.toasts.visible later ++
          ((endingsFrom f.jobs [] (batches.flatMap TimedBatch.arrivals)).mapIdx
            fun i a => a.toast (f.toasts.next + i)).filter (·.isVisible later)) ∧
    (∀ others : List TimedBatch,
      others.flatMap TimedBatch.arrivals = batches.flatMap TimedBatch.arrivals →
        (f.applyAll others).jobs = (f.applyAll batches).jobs ∧
        (f.applyAll others).toasts = (f.applyAll batches).toasts) ∧
    ∀ (now : Span) (events : List ServerEvent), events.foldl (applyEvent now) f =
      f.applyAll ((events.filterMap batchOf?).map (⟨now, ·⟩)) := by
  have unwritten : f.jobs = f.jobs.writeAll [] := rfl
  obtain ⟨jobs, told⟩ := applyAll_eq unwritten batches
  refine ⟨told, fun later order => ?_, fun others same => ?_, fun now events => ?_⟩
  · rw [told]
    refine ToastStore.visible_foldl_tell _ fun a ending => ?_
    have arrived := (endingsFrom_sublist _ _ _).subset ending
    obtain ⟨b, member, came⟩ := List.mem_flatMap.mp arrived
    obtain ⟨job, -, rfl⟩ := List.mem_map.mp came
    exact order b member
  · obtain ⟨jobs', told'⟩ := applyAll_eq unwritten others
    rw [jobs, told, jobs', told', same]
    exact ⟨rfl, rfl⟩
  · rw [foldl_applyEvent, applyAll, List.foldl_map]

end Feed

end TenantLink
