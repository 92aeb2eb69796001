import TenantLink.Time.Span

/-!
# Toasts

Short messages to the user. A toast stays until it is dismissed, or until its display time is
over; then it is no longer shown, and the next message removes it. Of the warning about too many
requests at most one is shown at a time.
-/

namespace TenantLink

inductive Severity
  | info
  | success
  | warning
  | error
  deriving DecidableEq, Repr

structure Toast where
  id : Nat
  message : String
  severity : Severity
  createdAt : Span
  expiresAt : Option Span
  deriving DecidableEq, Repr

namespace Toast

def isVisible (t : Toast) (now : Span) : Bool := t.expiresAt.all fun e => now.nanos < e.nanos

def displayTime (t : Toast) : Option Span := t.expiresAt.map fun e => ⟨e.nanos - t.createdAt.nanos⟩

/-- Where the clock ends, in nanoseconds: its seconds are numbers of 63 bits. -/
def clockEnd : Nat := 0x8000000000000000 * 1000000000

/-- The display time of a toast, if not said otherwise. -/
def defaultTime : Span := .ofSeconds 5

def failureTime : Span := .ofSeconds 10

def rateLimitTime : Span := .ofSeconds 5

def rateLimitMessage : String := "Too many requests. Please slow down and try again shortly."

def accessRestrictedMessage : String :=
  "Access restricted: you do not have permission to perform this action."

end Toast

structure ToastStore where
  /-- The toasts in the order in which they were added. -/
  toasts : List Toast := []
  rateLimit : Option Nat := none
  next : Nat := 0
  deriving DecidableEq, Repr

namespace ToastStore

def visible (s : ToastStore) (now : Span) : List Toast := s.toasts.filter (·.isVisible now)

/-- Removes the toasts that are no longer shown. -/
def prune (s : ToastStore) (now : Span) : ToastStore :=
  let toasts := s.visible now
  { s with toasts, rateLimit := s.rateLimit.filter fun id => toasts.any (·.id = id) }

/-- Adds a toast. Its end is supposed to be a time that the clock can tell: a display time that goes
on beyond `Toast.clockEnd` is not described. -/
def push (s : ToastStore) (now : Span) (message : String) (severity : Severity)
    (time : Option Span) : ToastStore :=
  let toast : Toast :=
    { id := s.next, message, severity, createdAt := now
      expiresAt := time.map fun d => ⟨now.nanos + d.nanos⟩ }
  { s with toasts := s.toasts ++ [toast], next := s.next + 1 }

/-- Shows a toast, until it is dismissed if it has no display time. -/
def add (s : ToastStore) (now : Span) (message : String) (severity : Severity)
    (time : Option Span) : Nat × ToastStore :=
  (s.next, (s.prune now).push now message severity time)

def dismiss (s : ToastStore) (id : Nat) : ToastStore :=
  { s with
    toasts := s.toasts.filter (·.id ≠ id)
    rateLimit := if s.rateLimit = some id then none else s.rateLimit }

/-- Shows the warning about too many requests, unless it is shown already. -/
def warnRateLimit (s : ToastStore) (now : Span) : Nat × ToastStore :=
  let s := s.prune now
  match s.rateLimit with
  | some id => (id, s)
  | none =>
    let s' := s.push now Toast.rateLimitMessage .warning (some Toast.rateLimitTime)
    (s.next, { s' with rateLimit := some s.next })

def clear (s : ToastStore) : ToastStore := { s with toasts := [], rateLimit := none }

end ToastStore

end TenantLink
