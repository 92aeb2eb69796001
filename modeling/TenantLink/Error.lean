import TenantLink.Time.Span
import TenantLink.Url.Host

/-!
# Failures

A call fails for one of the causes of `ClientError`. Only a missed deadline and a broken transport
are worth another attempt; a violation of tenant isolation is never tried again.
-/

namespace TenantLink

/-- Why the body of a response is withheld. -/
inductive Violation
  /-- The tenant `found` at `path` is not the one of the session. -/
  | tenantMismatch (expected found path : String)
  /-- The body is nested deeper than the scan goes. -/
  | depthExceeded (limit : Nat)
  deriving DecidableEq, Repr

def Violation.message : Violation → String
  | .tenantMismatch expected found path =>
    "tenant isolation violation at " ++ path ++ ": expected tenant " ++ expected ++ ", found " ++
      found
  | .depthExceeded limit =>
    "tenant scan aborted: payload nests deeper than " ++ toString limit ++ " levels"

inductive HeaderFault
  | name
  | value
  | other (text : String)
  deriving DecidableEq, Repr

def HeaderFault.message : HeaderFault → String
  | .name => "invalid HTTP header name"
  | .value => "failed to parse header value"
  | .other text => text

inductive ConfigFault
  /-- No path can be put behind the base. -/
  | opaqueBase (base : String)
  | unset (name : String)
  | other (text : String)
  deriving DecidableEq, Repr

def ConfigFault.message : ConfigFault → String
  | .opaqueBase base => base ++ " cannot be used as an API base"
  | .unset name => name ++ " is not set"
  | .other text => text

inductive ClientError
  | timeout (limit : Span)
  | network
  /-- The body belongs to another tenant, or cannot be scanned. -/
  | security (violation : Violation)
  | invalidUrl (error : UrlError)
  | header (fault : HeaderFault)
  | json
  | streamStatus (code : Nat)
  | config (fault : ConfigFault)
  /-- No attempt was made. -/
  | retryExhausted
  deriving DecidableEq, Repr

namespace ClientError

/-- The text of an error. What lies behind a broken transport or a bad text is not told. -/
def message : ClientError → String
  | timeout limit => "request timed out after " ++ limit.text
  | network => "network error"
  | security violation => violation.message
  | invalidUrl error => "invalid url: " ++ error.message
  | header fault => "invalid header: " ++ fault.message
  | json => "json error"
  | streamStatus code => "update stream rejected with status " ++ toString code
  | config fault => "configuration error: " ++ fault.message
  | retryExhausted => "retry loop exhausted without capturing an error"

def isRetryable : ClientError → Bool
  | timeout _ | network => true
  | _ => false

def isSecurity : ClientError → Bool
  | security _ => true
  | _ => false

end ClientError

end TenantLink
