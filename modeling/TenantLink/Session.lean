import TenantLink.Time.Span
import TenantLink.Text.Quoted

/-!
# Sessions

A session is a token, which may be bound to a tenant and may run out. A `SessionProvider` holds
the current session and hands out a new one when it is asked to. It follows a script: what it
answers and how long it takes may be anything.
-/

namespace TenantLink

structure Session where
  token : String
  tenant : Option String := none
  /-- When the token runs out, since the epoch. -/
  expiry : Option Span := none
  deriving DecidableEq, Repr

namespace Session

/-- Whether the session can be used at the time `now`. -/
def isValid (s : Session) (now : Span) : Bool :=
  s.token ≠ "" && s.expiry.all fun e => now.nanos < e.nanos

/-- An optional value as it stands in a report. -/
def optional : Option String → String
  | none => "None"
  | some text => "Some(" ++ text ++ ")"

/-- The time at which a token runs out, in a report. -/
def expiryReport (e : Span) : String :=
  "SystemTime \x7b tv_sec: " ++ toString (e.nanos / 1000000000) ++ ", tv_nsec: " ++
    toString (e.nanos % 1000000000) ++ " \x7d"

/-- A report of the session, which never shows the token. -/
def report (s : Session) : String :=
  "Session \x7b access_token: \"[REDACTED]\", tenant_id: " ++
    optional (s.tenant.map Text.quoted) ++ ", expires_at: " ++
    optional (s.expiry.map expiryReport) ++ " \x7d"

end Session

inductive RefreshOutcome
  | renewed (session : Session)
  | nothing
  | failed
  deriving DecidableEq, Repr

structure SessionProvider where
  current : Option Session := none
  /-- The sessions that take the place of the current one from outside, each just before somebody
  looks for it; then it stays. -/
  changes : List (Option Session) := []
  /-- What the next requests for a new session come to; then there is nothing. -/
  outcomes : List RefreshOutcome := []
  /-- The milliseconds that the next answers to calls take; then they come at once. -/
  delays : List Nat := []
  /-- How often a new session was asked for. -/
  asked : Nat := 0
  deriving DecidableEq, Repr

namespace SessionProvider

/-- Looks for the current session. -/
def look (p : SessionProvider) : Option Session × SessionProvider :=
  match p.changes with
  | [] => (p.current, p)
  | session :: rest => (session, { p with current := session, changes := rest })

/-- Hands out a new session, which becomes the current one. -/
def refresh (p : SessionProvider) : RefreshOutcome × SessionProvider :=
  match p.outcomes with
  | [] => (.nothing, p)
  | .renewed s :: rest => (.renewed s, { p with current := some s, outcomes := rest })
  | outcome :: rest => (outcome, { p with outcomes := rest })

end SessionProvider

end TenantLink
