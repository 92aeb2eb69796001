import TenantLink.Error
import TenantLink.Url.Parser

/-!
# Configuration

`Config.ofBase` takes the base of all API paths from a text and closes its path with a slash, so
that `Config.endpoint` puts a relative path behind it. Times are in milliseconds.
-/

namespace TenantLink

structure Config where
  apiBase : Url
  requestTimeout : Nat := 30000
  maxAttempts : Nat := 3
  /-- The wait behind the first attempt; each further one is twice as long. -/
  retryDelay : Nat := 1000
  reconnectDelay : Nat := 5000
  csrfCookieName : String := "csrf_token"
  /-- The deepest nesting that the tenant scan goes into. -/
  maxScanDepth : Nat := 64
  streamBuffer : Nat := 100
  enableLogging : Bool := true
  deriving Repr

namespace Config

def baseVariable : String := "API_BASE_URL"

def defaultBase : Url :=
  { scheme := "http", host := some (.domain "localhost"), port := some 8000,
    path := .segments ["api".toList, []] }

/-- `u` with a slash at the end of its path. The path of a file is read once more with that slash,
because its start may have become a drive when empty segments in front of it were dropped. -/
def closePath (u : Url) : Url :=
  match u.path with
  | .text _ => u
  | .segments ss =>
    if ss.getLast? = some [] then u
    else if u.kind = .file then
      let chars := (Url.Path.segments (ss ++ [[]])).chars.drop 1
      { u with path := (Url.readPath .file [] chars).1.path .file }
    else { u with path := .segments (ss ++ [[]]) }

/-- The URL of a base. White space around it is dropped. -/
def readBase (base : String) : Except ClientError Url :=
  match Url.parse (Text.trimmed base) with
  | .error e => .error (.invalidUrl e)
  | .ok u => if u.isOpaque then .error (.config (.opaqueBase base)) else .ok (closePath u)

def ofBase (base : String) : Except ClientError Config :=
  (readBase base).map fun u => { apiBase := u }

def ofVariable : Option String → Except ClientError Config
  | none => .error (.config (.unset baseVariable))
  | some base => ofBase base

/-- Whether a path is a URL of its own. -/
def isAbsolute (path : String) : Bool := path.startsWith "http://" || path.startsWith "https://"

/-- The URL of a path: relative to the base, unless the path is a URL of its own. -/
def endpoint (c : Config) (path : String) : Except ClientError Url :=
  let url :=
    if isAbsolute path then Url.parse path
    else c.apiBase.join (String.ofList (path.toList.dropWhile (· = '/')))
  url.mapError .invalidUrl

end Config

end TenantLink
