import TenantLink.Http.Header
import TenantLink.Http.Method
import TenantLink.Json.Printer
import TenantLink.Time.Span

/-!
# Requests

A request is described before it is sent: its path is still relative to the API base, and tokens
are added later.
-/

namespace TenantLink

structure Request where
  method : Method
  /-- Relative to the API base, or a URL of its own. -/
  path : String
  headers : Headers := []
  body : Option Bytes := none
  /-- The time that this call has, in place of the configured one. -/
  timeLimit : Option Span := none
  skipAuth : Bool := false
  deriving DecidableEq, Repr

namespace Request

def get (path : String) : Request := { method := .get, path }
def post (path : String) : Request := { method := .post, path }
def put (path : String) : Request := { method := .put, path }
def delete (path : String) : Request := { method := .delete, path }

def withHeader (r : Request) (name : HeaderName) (value : HeaderValue) : Request :=
  { r with headers := r.headers.insert name value }

def withBody (r : Request) (body : Bytes) : Request := { r with body := some body }

/-- Sets a JSON body and its media type. -/
def withJson (r : Request) (value : Json) : Request :=
  (r.withBody value.bytes).withHeader .contentType .json

def withTimeLimit (r : Request) (limit : Span) : Request := { r with timeLimit := some limit }

def withTimeout (r : Request) (millis : Nat) : Request := r.withTimeLimit (.ofMillis millis)

/-- The time that this call has, in whole milliseconds. -/
def timeout (r : Request) : Option Nat := r.timeLimit.map Span.millis

def withoutAuth (r : Request) : Request := { r with skipAuth := true }

end Request

end TenantLink
