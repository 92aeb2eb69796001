import TenantLink.Http.Cookie
import TenantLink.Http.Header
import TenantLink.Time.HttpDate
import TenantLink.Time.Span
import TenantLink.Url.Basic

/-!
# The cookie jar

The jar keeps cookies as a backend sets them, one per host, path and name, and tells which of them
go with a request: those whose host and path fit the URL, which have not ended, and which may be
sent over its scheme.
-/

namespace TenantLink

inductive CookieScope
  | host (name : String)
  /-- To a domain and all hosts below it. -/
  | domain (name : String)
  deriving DecidableEq, Repr

structure Cookie where
  name : String
  value : String
  scope : CookieScope
  path : String
  secure : Bool := false
  httpOnly : Bool := false
  /-- When the cookie ends, in seconds from the epoch. -/
  endsAt : Option Int := none
  deriving DecidableEq, Repr

namespace CookieScope

/-- Whether a host lies below a domain. An address lies below none. -/
def isBelow (host : Host) (domain : String) : Bool :=
  match host with
  | .domain name => ('.' :: domain.toList).isSuffixOf name.toList
  | _ => false

def fits (scope : CookieScope) (host : Host) : Bool :=
  match scope with
  | .host name => name = host.text
  | .domain name => name = host.text || isBelow host name

end CookieScope

namespace Cookie

/-- Whether `path` is the path of a cookie or lies below it. -/
def pathFits (cookiePath path : List Char) : Bool :=
  path = cookiePath ||
    (cookiePath.isPrefixOf path &&
      (cookiePath.getLast? = some '/' || (path.drop cookiePath.length).head? = some '/'))

/-- Whether the requests of a URL go over HTTP. -/
def isHttp (u : Url) : Bool := u.scheme = "http" || u.scheme = "https"

/-- Whether nobody can listen in on the requests of a URL. -/
def isPrivate (u : Url) : Bool := u.scheme = "https" || u.host.any Host.isLoopback

def hasEnded (c : Cookie) (now : Span) : Bool :=
  c.endsAt.any fun t => t * 1000000000 ≤ (now.nanos : Int)

def fits (c : Cookie) (now : Span) (u : Url) : Bool :=
  !c.hasEnded now && !u.isOpaque && u.host.any c.scope.fits &&
    pathFits c.path.toList u.path.chars &&
    (!c.secure || isPrivate u) && (!c.httpOnly || isHttp u)

/-- The path of a cookie that names none: that of the URL up to its last slash. -/
def defaultPath (u : Url) : String :=
  let upToSlash := u.path.chars.reverse.dropWhile (· ≠ '/')
  match upToSlash.drop 1 with
  | [] => "/"
  | chars => String.ofList chars.reverse

def readAttribute (piece : List Char) : String × Option String :=
  match Text.cutAt? '=' piece with
  | none => ((String.ofList (Text.trim piece)).toLower, none)
  | some (name, value) =>
    ((String.ofList (Text.trim name)).toLower, some (String.ofList (Text.trim value)))

/-- The last value of an attribute. -/
def attribute? (attributes : List (String × Option String)) (name : String) : Option String :=
  (attributes.reverse.find? fun a => a.1 = name && a.2.isSome).bind (·.2)

/-- The longest time in seconds that a cookie is kept. -/
def maxSeconds : Nat := 0x7FFFFFFFFFFFFFFF

/-- The seconds for which a cookie is to be kept. A negative number stands for none. -/
def keptFor? (text : String) : Option Nat :=
  match text.toList with
  | '-' :: rest => if rest.all Char.isDigit then some 0 else none
  | chars =>
    if chars.all Char.isDigit then
      if chars = [] then some maxSeconds
      else some (min (chars.foldl (fun n c => n * 10 + (c.toNat - 0x30)) 0) maxSeconds)
    else none

/-- When a cookie ends. The number of seconds counts before the date. -/
def endOf (now : Span) (attributes : List (String × Option String)) : Option Int :=
  match (attribute? attributes "max-age").bind keptFor? with
  | some 0 => some 0
  | some n => some (now.nanos / 1000000000 + n)
  | none => (attribute? attributes "expires").bind HttpDate.parse?

/-- The scope of a cookie from `u` that names a domain or none; `none` when the domain is not that
of `u`. -/
def scope? (u : Url) (domain : Option String) : Option CookieScope :=
  match u.host with
  | none => none
  | some host =>
    match domain.filter (· ≠ "") with
    | none => some (.host host.text)
    | some text =>
      match Url.Domain.toAscii? (Text.trim text.toList) with
      | none => none
      | some name =>
        let name := String.ofList (if name.head? = some '.' then name.drop 1 else name)
        if name = "" then some (.host host.text)
        else if (CookieScope.domain name).fits host then some (.domain name) else none

def read? (now : Span) (u : Url) (text : String) : Option Cookie :=
  match Text.splitAt ';' text.toList with
  | [] => none
  | first :: rest =>
    match Text.cutAt? '=' first with
    | none => none
    | some (name, value) =>
      let name := String.ofList (Text.trim name)
      let attributes := rest.map readAttribute
      let path := (attribute? attributes "path").filter (·.startsWith "/")
      match scope? u (attribute? attributes "domain") with
      | none => none
      | some scope =>
        if name = "" then none
        else
          some
            { name
              value := String.ofList (Text.trim value)
              scope
              path := path.getD (defaultPath u)
              secure := attributes.any (·.1 = "secure")
              httpOnly := attributes.any (·.1 = "httponly")
              endsAt := endOf now attributes }

def sameKey (a b : Cookie) : Bool := a.scope = b.scope && a.path = b.path && a.name = b.name

end Cookie

structure CookieJar where
  cookies : List Cookie := []
  deriving DecidableEq, Repr

namespace CookieJar

/-- Puts a cookie in the place of the one with its key. One that has ended only removes that. -/
def put (jar : CookieJar) (now : Span) (c : Cookie) : CookieJar :=
  let others := jar.cookies.filter (!c.sameKey ·)
  ⟨if c.hasEnded now then others else others ++ [c]⟩

/-- Takes up the text with which `u` sets a cookie. Over other schemes than HTTP a cookie that is
kept from scripts cannot be set or replaced. -/
def set (jar : CookieJar) (now : Span) (u : Url) (text : String) : CookieJar :=
  match Cookie.read? now u text with
  | none => jar
  | some c =>
    let isHidden := c.httpOnly || jar.cookies.any fun d => d.sameKey c && d.httpOnly
    if isHidden && !Cookie.isHttp u then jar else jar.put now c

def setAll (jar : CookieJar) (now : Span) (u : Url) (headers : Headers) : CookieJar :=
  (headers.getAll .setCookie).foldl
    (fun jar v =>
      match Utf8.decode? v.bytes with
      | some text => jar.set now u text
      | none => jar)
    jar

def matching (jar : CookieJar) (now : Span) (u : Url) : List Cookie :=
  jar.cookies.filter (·.fits now u)

def headerOf (cookies : List Cookie) : Option HeaderValue :=
  if cookies = [] then none
  else HeaderValue.ofText? ("; ".intercalate (cookies.map fun c => c.name ++ "=" ++ c.value))

def header? (jar : CookieJar) (now : Span) (u : Url) : Option HeaderValue :=
  headerOf (jar.matching now u)

end CookieJar

end TenantLink
