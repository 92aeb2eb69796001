/-!
# Status codes

A status is a code from 100 to 999. The client treats four of them apart: 401 asks for a new
token, 403 is shown to the user, 429 warns, and 503 is tried again.
-/

namespace TenantLink

structure Status where
  code : Nat
  valid : 100 ≤ code ∧ code ≤ 999
  deriving DecidableEq, Repr

namespace Status

def ofCode? (code : Nat) : Option Status :=
  if h : 100 ≤ code ∧ code ≤ 999 then some ⟨code, h⟩ else none

def ok : Status := ⟨200, by decide⟩
def notFound : Status := ⟨404, by decide⟩

def isSuccess (s : Status) : Bool := 200 ≤ s.code && s.code < 300

def isServerError (s : Status) : Bool := 500 ≤ s.code && s.code < 600

/-- The call is worth another attempt later. -/
def isUnavailable (s : Status) : Bool := s.code = 503

/-- The token is no longer accepted. -/
def isAuthExpired (s : Status) : Bool := s.code = 401

/-- The user is known and may not do this. -/
def isForbidden (s : Status) : Bool := s.code = 403

/-- The user is sending too much. -/
def isRateLimited (s : Status) : Bool := s.code = 429

end Status

end TenantLink
