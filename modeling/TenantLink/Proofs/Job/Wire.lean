import TenantLink.Job.Wire
import TenantLink.Proofs.Json.Printing
import TenantLink.Proofs.Json.Reading
import TenantLink.Proofs.Results
import TenantLink.Proofs.Time.Timestamp

/-!
# Batches that are read, written and read again

A batch is written as an array of objects of texts. Whatever a batch was read from, its points in
time are legal (`batch?_legal`). So each of its records is read back from what is written for it
(`ofDocument?_document`), and the batch as a whole is: `batch_round_trip`.
-/

namespace TenantLink

open Json (Document texts textMember stringPieces)

namespace JobStatus

def known : List String := ["pending", "running", "completed", "failed"]

/-- A status keeps the name it was read from, unless nothing is known by that name. -/
theorem name_ofName (name : String) :
    (ofName name).name = if name ∈ known then name else "unknown" := by
  by_cases there : name ∈ known
  · rw [if_pos there]
    simp only [known, List.mem_cons, List.not_mem_nil, or_false] at there
    rcases there with rfl | rfl | rfl | rfl <;> rfl
  · rw [if_neg there]
    simp only [known, List.mem_cons, List.not_mem_nil, or_false, not_or] at there
    obtain ⟨pending, running, completed, failed⟩ := there
    rw [ofName, if_neg pending, if_neg running, if_neg completed, if_neg failed]
    rfl

end JobStatus

namespace Job

/-! ### The document of a batch -/

def members (job : Job) : List (String × String) :=
  ("id", job.id) :: ("job_type", job.jobType) :: ("status", job.status.name) ::
    ("updated_at", job.updatedAt.text) :: (job.errorMessage.map ("error_message", ·)).toList

/-- What a job is written as. -/
def document (job : Job) : Document := .object (job.members.map textMember)

theorem chars_eq (job : Job) : job.chars = (texts job.members).chars := by
  obtain ⟨id, jobType, status, updatedAt, errorMessage⟩ := job
  cases errorMessage <;>
    simp [chars, members, texts, Json.chars, Json.restMembers, Json.memberChars, memberChars]

theorem spellsText_document (job : Job) :
    Json.SpellsText job.document (Utf8.encodeChars job.chars) := by
  rw [chars_eq]
  exact Json.spellsText_texts _ _

theorem spellsItems_documents (job : Job) (rest : List Job) :
    ∃ bytes, Json.SpellsItems ((job :: rest).map document) bytes ∧
      Utf8.encodeChars (job.chars ++ restChars rest) = bytes ++ [0x5D] := by
  induction rest generalizing job with
  | nil =>
    refine ⟨_, .last job.spellsText_document, ?_⟩
    rw [Utf8.encodeChars_append]
    rfl
  | cons next rest ih =>
    obtain ⟨bytes, spelled, printed⟩ := ih next
    have later : Utf8.encodeChars (restChars (next :: rest)) = 0x2C :: (bytes ++ [0x5D]) := by
      rw [← printed, restChars, List.flatMap_cons, List.append_assoc]
      rfl
    refine ⟨_, .more job.spellsText_document spelled, ?_⟩
    rw [Utf8.encodeChars_append, later, List.append_assoc, List.cons_append]

theorem read?_batchText (jobs : List Job) :
    Document.read? (Utf8.encode (batchText jobs)) = some (.array (jobs.map document)) := by
  refine Document.read?_of_text (Json.SpellsValue.text ?_)
  rw [batchText, Utf8.encode, String.toList_ofList]
  cases jobs with
  | nil => exact .emptyArray Json.isBlank_nil
  | cons job rest =>
    obtain ⟨bytes, spelled, printed⟩ := spellsItems_documents job rest
    have array : Utf8.encodeChars (batchChars (job :: rest)) = 0x5B :: (bytes ++ [0x5D]) := by
      rw [← printed]
      rfl
    rw [array]
    exact .array spelled

/-! ### Reading a record back -/

theorem keyed?_textMember (m : String × String) :
    keyed? (textMember m) = some (m.1, .string (stringPieces m.2)) :=
  congrArg (Option.map _) (Json.text?_stringPieces m.1)

theorem text?_string (s : String) : (Document.string (stringPieces s)).text? = some s :=
  Json.text?_stringPieces s

theorem ofFields?_texts {job : Job} (legal : job.updatedAt.IsLegal) :
    ofFields? (.string (stringPieces job.id)) (.string (stringPieces job.jobType))
      (.string (stringPieces job.status.name)) (.string (stringPieces job.updatedAt.text))
      (job.errorMessage.map fun message => .string (stringPieces message)) = some job := by
  have status :
      JobStatus.ofDocument? (.string (stringPieces job.status.name)) = some job.status := by
    rw [JobStatus.ofDocument?, Json.text?_stringPieces, Option.map_some, JobStatus.ofName_name]
  have error : errorOf? (job.errorMessage.map fun message => .string (stringPieces message)) =
      some job.errorMessage := by
    cases job.errorMessage with
    | none => rfl
    | some message => exact congrArg (Option.map some) (text?_string message)
  simp only [ofFields?, text?_string, status, error, Timestamp.parse?_text legal,
    Option.bind_eq_bind, Option.bind_some]

theorem ofDocument?_document {job : Job} (legal : job.updatedAt.IsLegal) :
    ofDocument? job.document = some job := by
  have keyed : (job.members.map textMember).mapM keyed? =
      some (job.members.map fun m => (m.1, .string (stringPieces m.2))) := by
    rw [mapM_eq_some, List.map_map, List.map_map]
    exact List.map_congr_left fun m _ => keyed?_textMember m
  have fields := ofFields?_texts legal
  rw [document, ofDocument?, keyed, Option.bind_some]
  obtain ⟨id, jobType, status, updatedAt, errorMessage⟩ := job
  cases errorMessage <;> simpa [members, ofMembers?, member?] using fields

/-! ### What is read -/

theorem ofFields?_legal {id jobType status updatedAt : Document} {errorMessage : Option Document}
    {job : Job} (h : ofFields? id jobType status updatedAt errorMessage = some job) :
    job.updatedAt.IsLegal := by
  simp only [ofFields?, Option.bind_eq_bind, Option.bind_eq_some_iff] at h
  obtain ⟨_, -, _, -, _, -, t, ⟨text, -, read⟩, _, -, made⟩ := h
  obtain rfl := Option.some.inj made
  exact Timestamp.parse?_legal read

theorem ofDocument?_legal {d : Document} {job : Job} (h : ofDocument? d = some job) :
    job.updatedAt.IsLegal := by
  unfold ofDocument? at h
  split at h
  · simp only [ofMembers?, Option.bind_eq_bind, Option.bind_eq_some_iff] at h
    obtain ⟨_, -, _, -, _, -, _, -, _, -, _, -, _, -, _, -, _, -, _, -, read⟩ := h
    exact ofFields?_legal read
  · exact ofFields?_legal h
  · exact ofFields?_legal h
  · cases h

theorem batch?_legal {bytes : Bytes} {jobs : List Job} (h : batch? bytes = some jobs) :
    ∀ job ∈ jobs, job.updatedAt.IsLegal := by
  intro job member
  obtain ⟨d, -, h⟩ := Option.bind_eq_some_iff.mp h
  unfold batchOfDocument? at h
  split at h
  · obtain ⟨item, -, read⟩ := exists_item (mapM_eq_some.mp h) member
    exact ofDocument?_legal read
  · cases h

/-- A batch that was read comes back from the text that is written for it, record by record, and is
written as the same text again. -/
theorem batch_round_trip {bytes : Bytes} {jobs : List Job} (h : batch? bytes = some jobs) :
    batch? (Utf8.encode (batchText jobs)) = some jobs ∧
      (batch? (Utf8.encode (batchText jobs))).map batchText = some (batchText jobs) ∧
      ∀ name, (JobStatus.ofName name).name =
        if name ∈ JobStatus.known then name else "unknown" := by
  have legal := batch?_legal h
  have again : batch? (Utf8.encode (batchText jobs)) = some jobs := by
    rw [batch?, read?_batchText, Option.bind_some, batchOfDocument?, mapM_eq_some, List.map_map]
    exact List.map_congr_left fun job member => ofDocument?_document (legal job member)
  refine ⟨again, ?_, JobStatus.name_ofName⟩
  rw [again, Option.map_some]

/-- A record in a leap second, of a status that nobody knows and with a null for its error, and the
bare values of another one, from a year of five digits. -/
def looseBatch : Bytes :=
  ["[\x7b\"status\": \"archived\", \"id\": \"\\u0061b\", \"extra\": [1],",
    "\"updated_at\": \"2016-12-31 23:59:60.25 +00:00\",",
    "\"job_type\": \"export\", \"error_message\": null\x7d,",
    "[\"c\", \"import\", \"failed\",",
    "\"+12345-6-7T8:9:10.0000005-03:30\", \"boom\"]]"].flatMap Utf8.encode

def looseJobs : List Job :=
  [{ id := "ab", jobType := "export", status := .unknown, updatedAt := ⟨1483228799, 1250000000⟩ },
    { id := "c", jobType := "import", status := .failed, updatedAt := ⟨327416989150, 500⟩,
      errorMessage := some "boom" }]

theorem loose_batch_read_again :
    batch? looseBatch = some looseJobs ∧
      batch? (Utf8.encode (batchText looseJobs)) = some looseJobs := by
  have read : batch? looseBatch = some looseJobs := by decide +kernel
  exact ⟨read, (batch_round_trip read).1⟩

end Job

end TenantLink
