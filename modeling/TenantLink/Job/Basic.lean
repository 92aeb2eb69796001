import TenantLink.Text.Padding
import TenantLink.Time.Timestamp

/-!
# Jobs

A job of the backend, in the last state that it reported.
-/

namespace TenantLink

inductive JobStatus
  | pending
  | running
  | completed
  | failed
  | unknown
  deriving DecidableEq, Repr

namespace JobStatus

def name : JobStatus → String
  | pending => "pending"
  | running => "running"
  | completed => "completed"
  | failed => "failed"
  | unknown => "unknown"

/-- The status with the given name; every other name is that of an unknown status. -/
def ofName (name : String) : JobStatus :=
  if name = "pending" then pending
  else if name = "running" then running
  else if name = "completed" then completed
  else if name = "failed" then failed
  else unknown

theorem ofName_name (s : JobStatus) : ofName s.name = s := by cases s <;> rfl

def isActive : JobStatus → Bool
  | pending | running => true
  | _ => false

def padded (s : JobStatus) (field : Text.Field) : String := field.fit s.name

end JobStatus

structure Job where
  id : String
  jobType : String
  status : JobStatus
  updatedAt : Timestamp
  errorMessage : Option String := none
  deriving DecidableEq, Repr

end TenantLink
