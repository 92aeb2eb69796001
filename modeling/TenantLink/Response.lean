import TenantLink.Disclosure.Envelope
import TenantLink.Http.Header
import TenantLink.Http.Status

/-!
# Responses

`Response.sanitize` puts the safe envelope in place of the body of a server error.
-/

namespace TenantLink

structure Response where
  status : Status
  headers : Headers
  body : Bytes
  sanitized : Bool := false
  deriving DecidableEq, Repr

namespace Response

def isSuccess (r : Response) : Bool := r.status.isSuccess

/-- The body as text. -/
def text (r : Response) : String := Utf8.decodeLossy r.body

/-- The body as JSON. -/
def json? (r : Response) : Option Json := Json.read? r.body

/-- The header fields that fit the envelope. -/
def envelopeHeaders (headers : Headers) : Headers :=
  ((headers.remove .contentLength).remove .contentEncoding).insert .contentType .json

/-- The response as it may be shown. Only server errors are changed. -/
def sanitize (r : Response) : Response :=
  if r.status.isServerError then
    { r with
      headers := envelopeHeaders r.headers
      body := Disclosure.errorBody (Disclosure.safeMessage r.body)
      sanitized := true }
  else r

end Response

end TenantLink
