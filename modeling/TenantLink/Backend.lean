import TenantLink.Http.Header
import TenantLink.Http.Method
import TenantLink.Http.Status
import TenantLink.Url.Basic

/-!
# The backend

A backend follows a script: each request that it receives takes the next reaction, and when the
script is used up it answers 404. It is reached by requests to its origin, as long as it is online.

The transport of a client hands over each reply but a redirect, which it follows by itself. The
requests on such a way are not described: what is said of the number of requests, or of what comes
of one, supposes a backend that `IsDirect`.
-/

namespace TenantLink

/-- What comes behind the last chunk of a body. -/
inductive BodyEnd
  | complete
  /-- The connection breaks before the body is complete. -/
  | broken
  /-- The body stays open, and nothing more comes. -/
  | stalled
  deriving DecidableEq, Repr

structure Reply where
  status : Status
  headers : Headers := []
  chunks : List Bytes := []
  ending : BodyEnd := .complete
  /-- The milliseconds before the head. -/
  headDelay : Nat := 0
  /-- The milliseconds between the head and the body. -/
  bodyDelay : Nat := 0
  deriving DecidableEq, Repr

namespace Reply

def body (r : Reply) : Bytes := r.chunks.flatten

def hasBody (r : Reply) (m : Method) : Bool :=
  m ≠ .head && r.status.code ≠ 204 && r.status.code ≠ 304

/-- Whether the transport goes on to another address instead of handing the reply over. -/
def isRedirect (r : Reply) : Bool :=
  [301, 302, 303, 307, 308].contains r.status.code && (r.headers.get? .location).isSome

def sizeValue (r : Reply) : Option HeaderValue := HeaderValue.ofText? (toString r.body.length)

/-- The reply as it is sent in answer to a method: with the size of its body, or without a
body. -/
def framed (r : Reply) (m : Method) : Reply :=
  if r.hasBody m then
    match r.headers.get? .contentLength, r.sizeValue with
    | none, some size => { r with headers := r.headers.append .contentLength size }
    | _, _ => r
  else { r with chunks := [], ending := .complete, bodyDelay := 0 }

end Reply

inductive Reaction
  | answer (reply : Reply)
  | hangUp (delay : Nat)
  /-- There is never an answer. -/
  | silence
  deriving DecidableEq, Repr

def Reaction.isRedirect : Reaction → Bool
  | answer reply => reply.isRedirect
  | _ => false

structure SentRequest where
  method : Method
  /-- Path and query. -/
  target : String
  headers : Headers
  body : Option Bytes := none
  deriving DecidableEq, Repr

structure Backend where
  /-- A URL with the origin of the backend. -/
  origin : Url
  online : Bool := true
  script : List Reaction := []
  received : List SentRequest := []
  deriving DecidableEq, Repr

namespace Backend

def reaches (b : Backend) (u : Url) : Bool := b.online && decide (u.SameOrigin b.origin)

/-- No reply of the script is a redirect with an address to go on to. -/
def IsDirect (b : Backend) : Prop := ∀ reaction ∈ b.script, reaction.isRedirect = false

instance (b : Backend) : Decidable b.IsDirect :=
  inferInstanceAs (Decidable (∀ reaction ∈ b.script, reaction.isRedirect = false))

/-- The answer when the script is used up. -/
def notFound : Reply := { status := .notFound }

def receive (b : Backend) (r : SentRequest) : Reaction × Backend :=
  let received := b.received ++ [r]
  match b.script with
  | [] => (.answer (notFound.framed r.method), { b with received })
  | .answer reply :: rest => (.answer (reply.framed r.method), { b with received, script := rest })
  | reaction :: rest => (reaction, { b with received, script := rest })

end Backend

end TenantLink
