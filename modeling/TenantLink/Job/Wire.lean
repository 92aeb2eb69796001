import TenantLink.Job.Basic
import TenantLink.Json.Printer

/-!
# Jobs on the wire

A batch of jobs is an array of records. A record is an object, whose other members are skipped
unread, or the array of its four or five values. `Job.batch?` reads a batch as a whole or not at
all, and `Job.batchText` writes one.
-/

namespace TenantLink

open Json (Document Piece)

def Json.Document.text? : Document → Option String
  | .string pieces => Json.text? pieces
  | _ => none

/-- A status: its name, or an object whose only member has that name and is null. -/
def JobStatus.ofDocument? : Document → Option JobStatus
  | .string pieces => (Json.text? pieces).map ofName
  | .object [(key, .null)] => (Json.text? key).map ofName
  | _ => none

def JobStatus.read? (bytes : Bytes) : Option JobStatus :=
  (Document.read? bytes).bind ofDocument?

def JobStatus.text (s : JobStatus) : String := (Json.string s.name).text

namespace Job

/-- The failure that a job reports: none when it is left out or null. -/
def errorOf? : Option Document → Option (Option String)
  | none => some none
  | some .null => some none
  | some d => d.text?.map some

def ofFields? (id jobType status updatedAt : Document) (errorMessage : Option Document) :
    Option Job := do
  let id ← id.text?
  let jobType ← jobType.text?
  let status ← JobStatus.ofDocument? status
  let updatedAt ← updatedAt.text?.bind Timestamp.parse?
  let errorMessage ← errorOf? errorMessage
  some { id, jobType, status, updatedAt, errorMessage }

/-- The value of a member that may be left out; it must not occur twice. -/
def member? (name : String) (members : List (String × Document)) : Option (Option Document) :=
  match members.filter (·.1 = name) with
  | [] => some none
  | [m] => some (some m.2)
  | _ => none

def ofMembers? (members : List (String × Document)) : Option Job := do
  let id ← member? "id" members
  let jobType ← member? "job_type" members
  let status ← member? "status" members
  let updatedAt ← member? "updated_at" members
  let errorMessage ← member? "error_message" members
  ofFields? (← id) (← jobType) (← status) (← updatedAt) errorMessage

def keyed? (m : List Piece × Document) : Option (String × Document) :=
  (Json.text? m.1).map (·, m.2)

def ofDocument? : Document → Option Job
  | .object members => (members.mapM keyed?).bind ofMembers?
  | .array [id, jobType, status, updatedAt] => ofFields? id jobType status updatedAt none
  | .array [id, jobType, status, updatedAt, errorMessage] =>
    ofFields? id jobType status updatedAt (some errorMessage)
  | _ => none

def batchOfDocument? : Document → Option (List Job)
  | .array items => items.mapM ofDocument?
  | _ => none

def batch? (bytes : Bytes) : Option (List Job) := (Document.read? bytes).bind batchOfDocument?

def read? (bytes : Bytes) : Option Job := (Document.read? bytes).bind ofDocument?

def memberChars (name value : String) : List Char :=
  Json.stringChars name ++ ':' :: Json.stringChars value

/-- The record of a job. A failure that is not there is left out. -/
def chars (job : Job) : List Char :=
  '{' :: memberChars "id" job.id ++ ',' :: memberChars "job_type" job.jobType ++
    ',' :: memberChars "status" job.status.name ++
    ',' :: memberChars "updated_at" job.updatedAt.text ++
    (match job.errorMessage with
      | some message => ',' :: memberChars "error_message" message
      | none => []) ++ ['}']

/-- The records of the jobs behind the first one, and the end of the batch. -/
def restChars (jobs : List Job) : List Char := jobs.flatMap (fun job => ',' :: job.chars) ++ [']']

def batchChars : List Job → List Char
  | [] => ['[', ']']
  | job :: rest => '[' :: job.chars ++ restChars rest

def batchText (jobs : List Job) : String := String.ofList (batchChars jobs)

end Job

end TenantLink
