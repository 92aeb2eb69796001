import TenantLink.Client.Csrf
import TenantLink.Request
import TenantLink.Response
import TenantLink.Tenant.Scan

/-!
# One call

A call has a deadline. It carries the token of the session, and a CSRF token if it may change
something; when the token is no longer accepted, the session is renewed and the call sent once
more. A body of another tenant is withheld, and the body of a server error is replaced.
-/

namespace TenantLink

namespace World

/-- Header fields with the token of a session, if there is one. -/
def authorize (headers : Headers) : Option Session → Except ClientError Headers
  | none => .ok headers
  | some s =>
    match HeaderValue.bearer? s.token with
    | some v => .ok (headers.insert .authorization v)
    | none => .error (.header .value)

def withCsrf (headers : Headers) (token : Option String) : Headers :=
  match token.bind HeaderValue.ofText? with
  | some v => headers.insert .csrfToken v
  | none => headers

/-- The header fields of a call: with a CSRF token if its method may change something. -/
def attachCsrf (w : World) (c : Config) (limit : Nat) (method : Method) (headers : Headers) :
    Except Halt Headers × World :=
  if method.isMutating then
    match w.csrfToken c (some limit) with
    | (.ok token, w) => (.ok (withCsrf headers token), w)
    | (.error halt, w) => (.error halt, w)
  else (.ok headers, w)

def awaitProvider (w : World) (limit : Nat) : Except Halt Unit × World :=
  match w.provider.delays with
  | [] => (.ok (), w)
  | delay :: delays =>
    let w := { w with provider := { w.provider with delays } }
    if delay = 0 then (.ok (), w) else w.pause limit delay

def look (w : World) (limit : Nat) : Except Halt (Option Session) × World :=
  match w.awaitProvider limit with
  | (.error halt, w) => (.error halt, w)
  | (.ok (), w) =>
    let looked := w.provider.look
    (.ok looked.1, { w with provider := looked.2 })

def refresh (w : World) (limit : Nat) : Except Halt RefreshOutcome × World :=
  let w := { w with provider := { w.provider with asked := w.provider.asked + 1 } }
  match w.awaitProvider limit with
  | (.error halt, w) => (.error halt, w)
  | (.ok (), w) =>
    let refreshed := w.provider.refresh
    (.ok refreshed.1, { w with provider := refreshed.2 })

/-- Sends a request, and once more with a new token if its token is no longer accepted. The answer
comes with the session that it was given to. -/
def exchange (w : World) (limit : Nat) (u : Url) (r : Request) (headers : Headers)
    (session : Option Session) : Except Halt (Reply × Option Session) × World :=
  match w.dispatch limit u r.method headers r.body with
  | (.error halt, w) => (.error halt, w)
  | (.ok reply, w) =>
    if reply.status.isAuthExpired && !r.skipAuth then
      match w.refresh limit with
      | (.error halt, w) => (.error halt, w)
      | (.ok (.renewed s), w) =>
        match authorize headers (some s) with
        | .error e => (.error (.failed e), w)
        | .ok headers =>
          match w.dispatch limit u r.method headers r.body with
          | (.error halt, w) => (.error halt, w)
          | (.ok reply, w) => (.ok (reply, some s), w)
      | (.ok _, w) => (.ok (reply, session), w)
    else (.ok (reply, session), w)

/-- Whether the body of a successful response belongs to the tenant of the session. -/
def verifyTenant (c : Config) (session : Option Session) (response : Response) :
    Except Violation Unit :=
  match session.bind Session.tenant with
  | none => .ok ()
  | some tenant => (TenantScan.mk tenant c.maxScanDepth).verifyBody response.body

def warnRateLimit (w : World) (status : Status) : World :=
  if status.isRateLimited then { w with toasts := (w.toasts.warnRateLimit w.wall).2 } else w

def release (c : Config) (session : Option Session) (response : Response) :
    Except ClientError Response :=
  if response.isSuccess then
    match verifyTenant c session response with
    | .ok () => .ok response
    | .error v => .error (.security v)
  else .ok response.sanitize

def conclude (w : World) (c : Config) (limit : Nat) (reply : Reply) (session : Option Session) :
    Except Halt Response × World :=
  match w.readBody limit reply with
  | (.error halt, w) => (.error halt, w)
  | (.ok body, w) =>
    let w := w.warnRateLimit reply.status
    match release c session { status := reply.status, headers := reply.headers, body } with
    | .ok response => (.ok response, w)
    | .error e => (.error (.failed e), w)

/-- Gets a request answered. The answer comes with the session that it was given to. -/
def deliver (w : World) (c : Config) (limit : Nat) (r : Request) :
    Except Halt (Reply × Option Session) × World :=
  match c.endpoint r.path with
  | .error e => (.error (.failed e), w)
  | .ok u =>
    match w.look limit with
    | (.error halt, w) => (.error halt, w)
    | (.ok session, w) =>
      match authorize r.headers (if r.skipAuth then none else session) with
      | .error e => (.error (.failed e), w)
      | .ok headers =>
        match w.attachCsrf c limit r.method headers with
        | (.error halt, w) => (.error halt, w)
        | (.ok headers, w) => w.exchange limit u r headers session

def sendWithin (w : World) (c : Config) (limit : Nat) (r : Request) :
    Except Halt Response × World :=
  match w.deliver c limit r with
  | (.error halt, w) => (.error halt, w)
  | (.ok (reply, session), w) => w.conclude c limit reply session

/-- The time that a call has. -/
def timeLimit (c : Config) (r : Request) : Span := r.timeLimit.getD (.ofMillis c.requestTimeout)

/-- The deadline of a call, in milliseconds from its start: the clock strikes whole ones only. -/
def deadline (c : Config) (r : Request) : Nat := (timeLimit c r).ceilMillis

/-- One call under its deadline. -/
def send (w : World) (c : Config) (r : Request) : Except ClientError Response × World :=
  match w.sendWithin c (w.now + deadline c r) r with
  | (.ok response, w) => (.ok response, w)
  | (.error .expired, w) => (.error (.timeout (timeLimit c r)), w)
  | (.error (.failed e), w) => (.error e, w)

end World

end TenantLink
