import Mathlib.Data.List.Induction
import Mathlib.Data.List.Nodup
import TenantLink.Job.Store
import TenantLink.Proofs.Text.ByteOrder

/-!
# The records of a job store

However often a store was written to and cleared, it holds the record of each id that was written
last. Records of different ids have one order of recency, so the store may keep them in any order:
`JobStore.run_arranged`.
-/

namespace TenantLink

/-! ### Points in time -/

namespace Timestamp

variable {a b c : Timestamp}

theorem before_iff :
    a.before b = true ↔ a.seconds < b.seconds ∨ a.seconds = b.seconds ∧ a.nanos < b.nanos := by
  simp [before]

theorem before_trans (first : a.before b = true) (second : b.before c = true) :
    a.before c = true := by
  rw [before_iff] at *
  omega

theorem before_irrefl (a : Timestamp) : ¬a.before a = true := by
  rw [before_iff]
  omega

theorem before_trichotomy (a b : Timestamp) : a.before b = true ∨ a = b ∨ b.before a = true := by
  obtain ⟨seconds, nanos⟩ := a
  obtain ⟨seconds', nanos'⟩ := b
  simp only [before_iff, mk.injEq]
  omega

end Timestamp

/-! ### The order of recency -/

namespace Job

variable {a b c : Job}

/-- `a` was updated later than `b`, or at the same time and comes first by the bytes of its id. -/
def Precedes (a b : Job) : Prop :=
  b.updatedAt.before a.updatedAt = true ∨
    a.updatedAt = b.updatedAt ∧ Utf8.encode a.id < Utf8.encode b.id

theorem Precedes.irrefl (a : Job) : ¬a.Precedes a := by
  rintro (later | ⟨-, less⟩)
  · exact Timestamp.before_irrefl _ later
  · exact List.lt_irrefl _ less

theorem Precedes.trans (first : a.Precedes b) (second : b.Precedes c) : a.Precedes c := by
  rcases first with later | ⟨same, less⟩ <;> rcases second with later' | ⟨same', less'⟩
  · exact .inl (Timestamp.before_trans later' later)
  · exact .inl (same' ▸ later)
  · exact .inl (same ▸ later')
  · exact .inr ⟨same.trans same', List.lt_trans less less'⟩

theorem Precedes.asymm (first : a.Precedes b) : ¬b.Precedes a :=
  fun second => irrefl a (first.trans second)

/-- Jobs that stand nowhere before or behind one another agree in time and id. -/
theorem precedes_trichotomy (a b : Job) :
    a.Precedes b ∨ a.updatedAt = b.updatedAt ∧ a.id = b.id ∨ b.Precedes a := by
  unfold Precedes
  rcases Timestamp.before_trichotomy a.updatedAt b.updatedAt with earlier | same | later
  · exact .inr (.inr (.inl earlier))
  · rcases Std.lt_trichotomy a.id b.id with less | equal | greater
    · exact .inl (.inr ⟨same, (Utf8.encode_lt_iff _ _).mpr less⟩)
    · exact .inr (.inl ⟨same, equal⟩)
    · exact .inr (.inr (.inr ⟨same.symm, (Utf8.encode_lt_iff _ _).mpr greater⟩))
  · exact .inl (.inl later)

end Job

namespace JobStore

open Job (Precedes)

/-- The store compares by precedence; only jobs that agree in time and id come in either order. -/
theorem noLater_iff (a b : Job) :
    noLater a b = true ↔ a.Precedes b ∨ a.updatedAt = b.updatedAt ∧ a.id = b.id := by
  have ids : a.id ≤ b.id ↔ Utf8.encode a.id < Utf8.encode b.id ∨ a.id = b.id := by
    rw [Utf8.encode_lt_iff]
    exact Std.le_iff_lt_or_eq
  simp only [noLater, Precedes, Bool.or_eq_true, Bool.and_eq_true, decide_eq_true_eq, ids]
  tauto

theorem noLater_trans (a b c : Job) (first : noLater a b = true) (second : noLater b c = true) :
    noLater a c = true := by
  rw [noLater_iff] at *
  rcases first with first | ⟨time, id⟩ <;> rcases second with second | ⟨time', id'⟩
  · exact .inl (first.trans second)
  · left
    unfold Precedes at *
    rwa [← time', ← id']
  · left
    unfold Precedes at *
    rwa [time, id]
  · exact .inr ⟨time.trans time', id.trans id'⟩

theorem noLater_total (a b : Job) : (noLater a b || noLater b a) = true := by
  rw [Bool.or_eq_true, noLater_iff, noLater_iff]
  rcases Job.precedes_trichotomy a b with first | same | second
  · exact .inl (.inl first)
  · exact .inl (.inr same)
  · exact .inr (.inl second)

/-- Records of different ids, in whatever order they are kept, come out by precedence. -/
theorem mergeSort_precedes {records : List Job} (unique : (records.map Job.id).Nodup) :
    (records.mergeSort noLater).Pairwise Precedes := by
  have sorted := List.pairwise_mergeSort noLater_trans noLater_total records
  have unique : ((records.mergeSort noLater).map Job.id).Nodup :=
    ((List.mergeSort_perm records noLater).map Job.id).nodup_iff.mpr unique
  have apart : (records.mergeSort noLater).Pairwise (·.id ≠ ·.id) := List.pairwise_map.mp unique
  refine (sorted.and apart).imp fun {a b} both => ?_
  rcases (noLater_iff a b).mp both.1 with precedes | ⟨-, same⟩
  · exact precedes
  · exact (both.2 same).elim

/-- There is only one way to arrange some records by precedence. -/
theorem eq_of_precedes {records others : List Job} (sorted : records.Pairwise Precedes)
    (sorted' : others.Pairwise Precedes) (same : ∀ job, job ∈ records ↔ job ∈ others) :
    records = others := by
  have distinct : ∀ {records : List Job}, records.Pairwise Precedes → records.Nodup := by
    intro records sorted
    refine sorted.imp fun {a b} precedes same => ?_
    subst same
    exact Precedes.irrefl a precedes
  have perm : records.Perm others :=
    (List.perm_ext_iff_of_nodup (distinct sorted) (distinct sorted')).mpr same
  exact perm.eq_of_pairwise (fun a b _ _ first second => (first.asymm second).elim) sorted sorted'

theorem get?_eq_some {s : JobStore} {id : String} {job : Job} :
    s.get? id = some job ↔ job ∈ s.jobs ∧ job.id = id := by
  constructor
  · intro found
    exact ⟨List.mem_of_find?_eq_some found, by simpa using List.find?_some found⟩
  · rintro ⟨member, rfl⟩
    cases found : s.get? job.id with
    | none => simpa using List.find?_eq_none.mp found job member
    | some other =>
      have known := List.mem_of_find?_eq_some found
      have same : other.id = job.id := by simpa using List.find?_some found
      rw [List.inj_on_of_nodup_map s.unique known member same]

theorem mem_byRecency {s : JobStore} {job : Job} :
    job ∈ s.byRecency ↔ s.get? job.id = some job := by
  rw [byRecency, List.mem_mergeSort, get?_eq_some]
  simp

end JobStore

/-! ### Histories -/

inductive JobAct
  | upsert (job : Job)
  | clear
  deriving DecidableEq

namespace JobAct

def written? (id : String) : JobAct → Option Job
  | upsert job => if job.id = id then some job else none
  | clear => none

/-- The record that some acts leave for an id: the one that was written last since the store was
cleared last. -/
def record? (acts : List JobAct) (id : String) : Option Job :=
  (acts.reverse.takeWhile (· ≠ clear)).findSome? (written? id)

theorem record?_upsert (acts : List JobAct) (job : Job) (id : String) :
    record? (acts ++ [upsert job]) id = if job.id = id then some job else record? acts id := by
  by_cases same : job.id = id <;> simp [record?, written?, same]

theorem record?_clear (acts : List JobAct) (id : String) : record? (acts ++ [clear]) id = none := by
  simp [record?]

/-- The records that some acts leave, one of each id, in the order of recency. -/
structure Arranges (acts : List JobAct) (records : List Job) : Prop where
  mem : ∀ job, job ∈ records ↔ record? acts job.id = some job
  sorted : records.Pairwise Job.Precedes

theorem Arranges.unique {acts others : List JobAct} {records records' : List Job}
    (h : Arranges acts records) (h' : Arranges others records')
    (same : ∀ id, record? others id = record? acts id) : records' = records :=
  JobStore.eq_of_precedes h'.sorted h.sorted fun job => by rw [h.mem, h'.mem, same]

end JobAct

namespace JobStore

open JobAct

def perform (s : JobStore) : JobAct → JobStore
  | .upsert job => (s.upsert job).2
  | .clear => .empty

def run (acts : List JobAct) : JobStore := acts.foldl perform .empty

theorem run_concat (acts : List JobAct) (act : JobAct) :
    run (acts ++ [act]) = (run acts).perform act := by
  simp [run]

theorem get?_run (acts : List JobAct) (id : String) : (run acts).get? id = record? acts id := by
  induction acts using List.reverseRecOn with
  | nil => rfl
  | append_singleton acts act ih =>
    rw [run_concat]
    cases act with
    | upsert job =>
      rw [perform, get?_upsert, record?_upsert, ih]
      simp only [eq_comm]
    | clear => rw [perform, get?_empty, record?_clear]

theorem byRecency_arranges (acts : List JobAct) : Arranges acts (run acts).byRecency where
  mem job := by rw [mem_byRecency, get?_run]
  sorted := mergeSort_precedes (run acts).unique

/-- After any writes and clearings a store holds of each id the record that was written last, and
each write gave back the one before it. By recency these records come in the only order in which
each precedes those behind it, however they are kept and in whatever order the ids came. -/
theorem run_arranged (acts : List JobAct) :
    (∀ id, (run acts).get? id = record? acts id) ∧
    (∀ before job after, acts = before ++ .upsert job :: after →
      ((run before).upsert job).1 = record? before job.id) ∧
    Arranges acts (run acts).byRecency ∧
    (∀ records, Arranges acts records → records = (run acts).byRecency) ∧
    ((run acts).byRecency.map Job.id).Nodup ∧
    (run acts).size = (run acts).byRecency.length ∧
    (run acts).activeCount =
      (run acts).byRecency.countP (fun job => job.status = .pending ∨ job.status = .running) ∧
    (∀ kept : List Job, kept.Perm (run acts).jobs → kept.mergeSort noLater = (run acts).byRecency) ∧
    ∀ others, (∀ id, record? others id = record? acts id) →
      (run others).byRecency = (run acts).byRecency := by
  have arranged := byRecency_arranges acts
  have perm : (run acts).byRecency.Perm (run acts).jobs := List.mergeSort_perm _ _
  refine ⟨get?_run acts, ?_, arranged, ?_, ?_, ?_, ?_, ?_, ?_⟩
  · intro before job after _
    exact get?_run before job.id
  · intro records other
    exact arranged.unique other fun _ => rfl
  · exact (perm.map Job.id).nodup_iff.mpr (run acts).unique
  · exact perm.length_eq.symm
  · have same : (fun job : Job => job.status.isActive) =
        fun job => decide (job.status = .pending ∨ job.status = .running) := by
      funext job
      cases job.status <;> rfl
    rw [activeCount, same]
    exact (perm.countP_eq _).symm
  · intro kept other
    have ids : (kept.map Job.id).Nodup := (other.map Job.id).nodup_iff.mpr (run acts).unique
    refine eq_of_precedes (mergeSort_precedes ids) arranged.sorted fun job => ?_
    rw [List.mem_mergeSort, other.mem_iff, perm.mem_iff]
  · intro others same
    exact arranged.unique (byRecency_arranges others) same

end JobStore

end TenantLink
