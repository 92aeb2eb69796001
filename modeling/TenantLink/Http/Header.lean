import TenantLink.Http.Token

/-!
# Header fields

Names are compared in lower case. `Headers` keeps the fields in the order they were added; a name
may occur several times.
-/

namespace TenantLink

/-- The name of a header field, in lower case. -/
structure HeaderName where
  text : String
  deriving DecidableEq, Repr

namespace HeaderName

def maxLength : Nat := 65535

def ofBytes? (bytes : Bytes) : Option HeaderName :=
  if bytes.length ≤ maxLength then (Http.token? bytes).map (⟨·.toLower⟩) else none

def accept : HeaderName := ⟨"accept"⟩
def authorization : HeaderName := ⟨"authorization"⟩
def cacheControl : HeaderName := ⟨"cache-control"⟩
def contentEncoding : HeaderName := ⟨"content-encoding"⟩
def contentLength : HeaderName := ⟨"content-length"⟩
def contentType : HeaderName := ⟨"content-type"⟩
def cookie : HeaderName := ⟨"cookie"⟩
def csrfToken : HeaderName := ⟨"x-csrf-token"⟩
def lastEventId : HeaderName := ⟨"last-event-id"⟩
def location : HeaderName := ⟨"location"⟩
def setCookie : HeaderName := ⟨"set-cookie"⟩

end HeaderName

def isHeaderByte (b : UInt8) : Bool := b = 0x09 || (0x20 ≤ b && b ≠ 0x7F)

structure HeaderValue where
  bytes : Bytes
  legal : bytes.all isHeaderByte = true
  deriving DecidableEq, Repr

namespace HeaderValue

def ofBytes? (bytes : Bytes) : Option HeaderValue :=
  if h : bytes.all isHeaderByte = true then some ⟨bytes, h⟩ else none

def ofText? (text : String) : Option HeaderValue := ofBytes? (Utf8.encode text)

/-- Whether a value holds visible ASCII characters, spaces and tabs only. -/
def isAscii (v : HeaderValue) : Bool :=
  v.bytes.all fun b => b = 0x09 || (0x20 ≤ b && b < 0x7F)

def ascii? (v : HeaderValue) : Option String :=
  if v.isAscii then some (String.ofList (v.bytes.map fun b => Char.ofNat b.toNat)) else none

def json : HeaderValue := ⟨Utf8.encode "application/json", by decide⟩

def eventStream : HeaderValue := ⟨Utf8.encode "text/event-stream", by decide⟩

def noCache : HeaderValue := ⟨Utf8.encode "no-cache", by decide⟩

def bearer? (token : String) : Option HeaderValue := ofText? ("Bearer " ++ token)

end HeaderValue

/-- Header fields in the order they were added. -/
abbrev Headers := List (HeaderName × HeaderValue)

namespace Headers

def get? (headers : Headers) (name : HeaderName) : Option HeaderValue := headers.lookup name

def getAll (headers : Headers) (name : HeaderName) : List HeaderValue :=
  (headers.filter (·.1 = name)).map (·.2)

def remove (headers : Headers) (name : HeaderName) : Headers := headers.filter (·.1 ≠ name)

/-- `value` in place of all values of `name`. -/
def insert (headers : Headers) (name : HeaderName) (value : HeaderValue) : Headers :=
  headers.remove name ++ [(name, value)]

def append (headers : Headers) (name : HeaderName) (value : HeaderValue) : Headers :=
  headers ++ [(name, value)]

end Headers

end TenantLink
