import TenantLink.Client.World
import TenantLink.Config
import TenantLink.Json.Value

/-!
# CSRF tokens

A call that may change something carries a token. It is looked for in the cookies of the API base;
when there is none, the backend is asked for one, which is kept as a cookie. That there is no token
is no failure.
-/

namespace TenantLink

namespace Csrf

def path : String := "csrf"

def tokenField : String := "csrf_token"

def tokenOf (body : Json) : Option String :=
  ((body.member? tokenField).bind Json.asString?).filter (· ≠ "")

def cookieText (name token : String) : String := name ++ "=" ++ token ++ "; Path=/"

/-- The sooner of an outer limit, if there is one, and a limit of its own. -/
def sooner (outer : Option Nat) (own : Nat) : Nat :=
  match outer with
  | some limit => min limit own
  | none => own

end Csrf

namespace World

open Csrf

def csrfCookie (w : World) (c : Config) : Option String :=
  ((w.jar.header? w.wall c.apiBase).bind HeaderValue.ascii?).bind (Cookie.value? · c.csrfCookieName)

def storeToken (w : World) (c : Config) (token : String) : World :=
  { w with jar := w.jar.set w.wall c.apiBase (cookieText c.csrfCookieName token) }

/-- Asks for a token. Head and body of the answer each have the time of a request, within the outer
limit. -/
def askForToken (w : World) (c : Config) (outer : Option Nat) :
    Except Halt (Option String) × World :=
  match c.endpoint path with
  | .error e => (.error (.failed e), w)
  | .ok u =>
    match w.dispatch (sooner outer (w.now + c.requestTimeout)) u .get [] none with
    | (.error halt, w) => (.error halt, w)
    | (.ok reply, w) =>
      if reply.status.isSuccess then
        match w.readBody (sooner outer (w.now + c.requestTimeout)) reply with
        | (.error halt, w) => (.error halt, w)
        | (.ok body, w) =>
          match Json.read? body with
          | none => (.error (.failed .json), w)
          | some value => (.ok (tokenOf value), w)
      else (.ok none, w)

/-- Asks for a token and keeps it. Only the outer limit stops the call; every other failure leaves
it without a token. -/
def bootstrapToken (w : World) (c : Config) (outer : Option Nat) :
    Except Halt (Option String) × World :=
  match w.askForToken c outer with
  | (.ok (some token), w) => (.ok (some token), w.storeToken c token)
  | (.error .expired, w) => if outer.any (· ≤ w.now) then (.error .expired, w) else (.ok none, w)
  | (_, w) => (.ok none, w)

/-- The token for a call: the one in the cookies, or else one from the backend. -/
def csrfToken (w : World) (c : Config) (outer : Option Nat) : Except Halt (Option String) × World :=
  match w.csrfCookie c with
  | some token => (.ok (some token), w)
  | none => w.bootstrapToken c outer

def resolveToken (w : World) (c : Config) : Option String × World :=
  match w.csrfToken c none with
  | (.ok token, w) => (token, w)
  | (.error _, w) => (none, w)

end World

end TenantLink
