import TenantLink.Job.Basic

/-!
# The job store

The store keeps one record per id, the one written last. `JobStore.get?` is its view:
`get?_upsert` and `get?_empty` say what the operations do to it.
-/

namespace TenantLink

structure JobStore where
  jobs : List Job := []
  /-- There is one record per id. -/
  unique : (jobs.map Job.id).Nodup := by simp
  deriving DecidableEq

namespace JobStore

def empty : JobStore := {}

def get? (s : JobStore) (id : String) : Option Job := s.jobs.find? (·.id = id)

/-- `job` in the place of the record with its id, or behind all records. -/
def put (job : Job) : List Job → List Job
  | [] => [job]
  | j :: rest => if j.id = job.id then job :: rest else j :: put job rest

theorem mem_ids_put {job : Job} {jobs : List Job} {id : String} :
    id ∈ (put job jobs).map Job.id ↔ id = job.id ∨ id ∈ jobs.map Job.id := by
  induction jobs with
  | nil => simp [put]
  | cons j rest ih =>
    rw [put]
    split
    · rename_i same
      simp [same]
    · simp only [List.map_cons, List.mem_cons, ih]
      exact or_left_comm

theorem nodup_put {job : Job} {jobs : List Job} (unique : (jobs.map Job.id).Nodup) :
    ((put job jobs).map Job.id).Nodup := by
  induction jobs with
  | nil => simp [put]
  | cons j rest ih =>
    rw [List.map_cons, List.nodup_cons] at unique
    rw [put]
    split
    · rename_i same
      rw [List.map_cons, List.nodup_cons, ← same]
      exact unique
    · rename_i different
      rw [List.map_cons, List.nodup_cons, mem_ids_put]
      exact ⟨fun h => h.elim different unique.1, ih unique.2⟩

/-- Writes a record; gives back the one that it replaces. -/
def upsert (s : JobStore) (job : Job) : Option Job × JobStore :=
  (s.get? job.id, ⟨put job s.jobs, nodup_put s.unique⟩)

def size (s : JobStore) : Nat := s.jobs.length

def isEmpty (s : JobStore) : Bool := s.jobs.isEmpty

/-- Whether `a` comes no later than `b` in the order of recency: the job that was updated last
comes first, and of jobs updated at one time the one with the lesser id. -/
def noLater (a b : Job) : Bool :=
  b.updatedAt.before a.updatedAt || (a.updatedAt = b.updatedAt && a.id ≤ b.id)

def byRecency (s : JobStore) : List Job := s.jobs.mergeSort noLater

def activeCount (s : JobStore) : Nat := s.jobs.countP (·.status.isActive)

theorem find?_put (job : Job) (jobs : List Job) (id : String) :
    (put job jobs).find? (·.id = id) =
      if id = job.id then some job else jobs.find? (·.id = id) := by
  induction jobs with
  | nil =>
    by_cases h : job.id = id
    · simp [put, h]
    · simp [put, h, Ne.symm h]
  | cons j rest ih =>
    rw [put]
    split
    · rename_i same
      by_cases h : job.id = id
      · simp [h]
      · simp [h, Ne.symm h, same]
    · rename_i different
      by_cases h : j.id = id
      · have other : id ≠ job.id := fun e => different (h.trans e)
        simp [h, other]
      · simp [h, ih]

@[simp]
theorem get?_upsert (s : JobStore) (job : Job) (id : String) :
    (s.upsert job).2.get? id = if id = job.id then some job else s.get? id :=
  find?_put job s.jobs id

@[simp]
theorem get?_empty (id : String) : empty.get? id = none := rfl

end JobStore

end TenantLink
