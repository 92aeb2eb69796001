import TenantLink.Backend
import TenantLink.Error
import TenantLink.Http.CookieJar
import TenantLink.Session
import TenantLink.Toast

/-!
# What a client works with

A client shares a clock, a backend, a cookie jar, the session of the user and the list of toasts.
An activity runs under a limit on the clock: what would go on for longer is stopped when the limit
comes.
-/

namespace TenantLink

inductive RetryCause
  | unavailable
  | failed (error : ClientError)
  deriving DecidableEq, Repr

structure RetryWait where
  /-- The attempt that came before, counted from 0. -/
  attempt : Nat
  /-- The milliseconds of the wait. -/
  delay : Nat
  cause : RetryCause
  deriving DecidableEq, Repr

structure World where
  /-- The clock that calls go by, in milliseconds. -/
  now : Nat := 0
  /-- The time since the epoch, by which sessions, cookies and toasts end. -/
  wall : Span
  backend : Backend
  jar : CookieJar := {}
  provider : SessionProvider
  toasts : ToastStore := {}
  waits : List RetryWait := []
  deriving DecidableEq

inductive Halt
  /-- Its limit came first. -/
  | expired
  | failed (error : ClientError)
  deriving DecidableEq, Repr

namespace World

def expire (w : World) (limit : Nat) : World := { w with now := max w.now limit }

def pause (w : World) (limit ms : Nat) : Except Halt Unit × World :=
  if w.now + ms < limit then (.ok (), { w with now := w.now + ms })
  else (.error .expired, w.expire limit)

/-- The header fields of a request, with the cookies that go with it unless it brings its own. -/
def withCookies (w : World) (u : Url) (headers : Headers) : Headers :=
  match headers.get? .cookie, w.jar.header? w.wall u with
  | none, some v => headers.append .cookie v
  | _, _ => headers

/-- Hands a request to the backend, if it can be reached. The fields are those that the client gives
to the transport, which adds others: the host, and the credentials of the URL where no authorization
is given. The reaction is the one to this request, also if it is a redirect. -/
def transmit (w : World) (u : Url) (method : Method) (headers : Headers) (body : Option Bytes) :
    Option (Reaction × World) :=
  if w.backend.reaches u then
    let request : SentRequest :=
      { method, target := u.target, headers := w.withCookies u headers, body }
    let (reaction, backend) := w.backend.receive request
    some (reaction, { w with backend })
  else none

def storeCookies (w : World) (u : Url) (reply : Reply) : World :=
  { w with jar := w.jar.setAll w.wall u reply.headers }

/-- Sends a request. The reply to it is the one that the transport hands over, unless it is a
redirect. -/
def dispatch (w : World) (limit : Nat) (u : Url) (method : Method) (headers : Headers)
    (body : Option Bytes) : Except Halt Reply × World :=
  match w.transmit u method headers body with
  | none => (.error (.failed .network), w)
  | some (.silence, w) => (.error .expired, w.expire limit)
  | some (.hangUp delay, w) =>
    match w.pause limit delay with
    | (.ok (), w) => (.error (.failed .network), w)
    | (.error halt, w) => (.error halt, w)
  | some (.answer reply, w) =>
    match w.pause limit reply.headDelay with
    | (.ok (), w) => (.ok reply, w.storeCookies u reply)
    | (.error halt, w) => (.error halt, w)

def readBody (w : World) (limit : Nat) (reply : Reply) : Except Halt Bytes × World :=
  match w.pause limit reply.bodyDelay with
  | (.error halt, w) => (.error halt, w)
  | (.ok (), w) =>
    match reply.ending with
    | .complete => (.ok reply.body, w)
    | .broken => (.error (.failed .network), w)
    | .stalled => (.error .expired, w.expire limit)

end World

end TenantLink
