import TenantLink.Events.Parser
import TenantLink.Job.Store
import TenantLink.Job.Wire
import TenantLink.Toast
import TenantLink.Updates.Channel

/-!
# The feed of job updates

An event of the update stream carries a batch of jobs. Each is written into the store; one that has
come to its end is reported to the user, and the batch as a whole goes to the subscribers. A batch
with a bad record is dropped.
-/

namespace TenantLink

structure Feed where
  jobs : JobStore := .empty
  toasts : ToastStore := {}
  channel : Channel (List Job)
  deriving DecidableEq

namespace Feed

def eventName : String := "job_update"

/-- The failure of a job that does not tell its own. -/
def unknownFailure : String := "unknown error"

def report (toasts : ToastStore) (now : Span) (job : Job) : ToastStore :=
  match job.status with
  | .completed =>
    (toasts.add now (job.jobType ++ " job completed") .success (some Toast.defaultTime)).2
  | .failed =>
    let reason := job.errorMessage.getD unknownFailure
    (toasts.add now (job.jobType ++ " job failed: " ++ reason) .error (some Toast.failureTime)).2
  | _ => toasts

/-- Whether a job has another status than the record that it replaces. -/
def isTransition (previous : Option Job) (job : Job) : Bool :=
  previous.all fun p => p.status ≠ job.status

def applyJob (now : Span) (f : Feed) (job : Job) : Feed :=
  let (previous, jobs) := f.jobs.upsert job
  { f with
    jobs
    toasts := if isTransition previous job then report f.toasts now job else f.toasts }

/-- Takes up a batch and publishes it. -/
def applyBatch (now : Span) (f : Feed) (batch : List Job) : Feed :=
  let f := batch.foldl (applyJob now) f
  { f with channel := f.channel.publish batch }

def batchOf? (e : ServerEvent) : Option (List Job) :=
  if e.name = eventName then Job.batch? (Utf8.encode e.data) else none

def applyEvent (now : Span) (f : Feed) (e : ServerEvent) : Feed :=
  match batchOf? e with
  | some batch => f.applyBatch now batch
  | none => f

end Feed

end TenantLink
