import TenantLink.Backoff
import TenantLink.Client.Send

/-!
# Calls with several attempts

A call is tried again while the backend is unavailable, the transport fails or the deadline is
missed, as long as attempts are left; before each further attempt the client waits twice as long.
A response that denies access is reported to the user.
-/

namespace TenantLink

def RetryCause.text : RetryCause → String
  | unavailable => "service unavailable"
  | failed e => e.message

def RetryWait.text (wait : RetryWait) : String :=
  "Request failed (attempt " ++ toString (wait.attempt + 1) ++ "), retrying after " ++
    (Span.ofMillis wait.delay).text ++ ": " ++ wait.cause.text

def Config.logLines (c : Config) (waits : List RetryWait) : List String :=
  if c.enableLogging then waits.map RetryWait.text else []

namespace World

def backOff (w : World) (c : Config) (attempt : Nat) (cause : RetryCause) : World :=
  let delay := Backoff.delay attempt c.retryDelay
  { w with now := w.now + delay, waits := w.waits ++ [{ attempt, delay, cause }] }

def reportForbidden (w : World) (response : Response) : World :=
  if response.status.isForbidden then
    { w with toasts :=
        (w.toasts.add w.wall Toast.accessRestrictedMessage .warning (some Toast.defaultTime)).2 }
  else w

/-- The attempts from the one with a number on, of which so many are left. `last` is the error of
the attempt that failed last, which is what the call fails with when no attempt is left. -/
def sendFrom (w : World) (c : Config) (r : Request) (attempt : Nat) (last : Option ClientError) :
    Nat → Except ClientError Response × World
  | 0 => (.error (last.getD .retryExhausted), w)
  | left + 1 =>
    match w.send c r with
    | (.ok response, w) =>
      if response.status.isUnavailable && left ≠ 0 then
        (w.backOff c attempt .unavailable).sendFrom c r (attempt + 1) last left
      else (.ok response, w.reportForbidden response)
    | (.error e, w) =>
      if e.isRetryable then
        let w := if left = 0 then w else w.backOff c attempt (.failed e)
        w.sendFrom c r (attempt + 1) (some e) left
      else (.error e, w)

/-- A call with at most so many attempts, and at least one. -/
def sendWithRetry (w : World) (c : Config) (r : Request) (maxAttempts : Nat) :
    Except ClientError Response × World :=
  w.sendFrom c r 0 none (max maxAttempts 1)

def retry (w : World) (c : Config) (r : Request) : Except ClientError Response × World :=
  w.sendWithRetry c r c.maxAttempts

def get (w : World) (c : Config) (path : String) : Except ClientError Response × World :=
  w.retry c (.get path)

def delete (w : World) (c : Config) (path : String) : Except ClientError Response × World :=
  w.retry c (.delete path)

def postJson (w : World) (c : Config) (path : String) (value : Json) :
    Except ClientError Response × World :=
  w.retry c ((Request.post path).withJson value)

def putJson (w : World) (c : Config) (path : String) (value : Json) :
    Except ClientError Response × World :=
  w.retry c ((Request.put path).withJson value)

end World

end TenantLink
