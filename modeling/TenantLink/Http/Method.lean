import TenantLink.Http.Token

/-!
# Request methods

Only `GET`, `HEAD`, `OPTIONS` and `TRACE` are safe; every other method may change what the backend
holds.
-/

namespace TenantLink

structure Method where
  name : String
  deriving DecidableEq, Repr

namespace Method

def get : Method := ⟨"GET"⟩
def head : Method := ⟨"HEAD"⟩
def options : Method := ⟨"OPTIONS"⟩
def trace : Method := ⟨"TRACE"⟩
def post : Method := ⟨"POST"⟩
def put : Method := ⟨"PUT"⟩
def delete : Method := ⟨"DELETE"⟩

/-- The method with the given name; names are compared as they are. -/
def ofBytes? (bytes : Bytes) : Option Method := (Http.token? bytes).map (⟨·⟩)

/-- Whether a call with this method may change the state of the backend. -/
def isMutating (m : Method) : Bool :=
  m ≠ get && m ≠ head && m ≠ options && m ≠ trace

end Method

end TenantLink
