import TenantLink.Events.Parser
import TenantLink.Updates.Connection

/-!
# The supervisor of the update stream

The supervisor keeps one connection open. It runs attempts and timers beside each other, and each
connect looks up the session between two steps of its own, so anything may happen in between.
`Supervisor.next` says what each event does; `Execution` and `Reachable` say what can come of it.
-/

namespace TenantLink

inductive AttemptPhase
  /-- The request is still to be sent. -/
  | unsent
  /-- The head of the answer has not come. -/
  | awaiting
  | reading (parser : EventParser)
  deriving DecidableEq, Repr

structure Attempt where
  generation : Nat
  resumeId : Option String
  phase : AttemptPhase := .unsent
  deriving DecidableEq, Repr

structure ReconnectTimer where
  number : Nat
  due : Nat
  deriving DecidableEq, Repr

/-- A connect that waits for the session. -/
structure Lookup where
  /-- The state in which the connection must still be. -/
  origin : StreamState
  /-- The timer that it belongs to. -/
  timer : Option Nat
  deriving DecidableEq, Repr

structure Supervisor where
  /-- The milliseconds from the loss of a connection to the next attempt. -/
  delay : Nat
  conn : Connection := {}
  attempts : List Attempt := []
  timers : List ReconnectTimer := []
  lookups : List Lookup := []
  nextTimer : Nat := 0
  begun : Nat := 0
  deriving DecidableEq, Repr

/-- What can happen to a supervisor. Times are in milliseconds. -/
inductive StreamEvent
  | init
  | fire (timer time : Nat)
  /-- The session of a lookup has come: whether it is valid. -/
  | found (lookup : Nat) (valid : Bool)
  | disconnect
  | sent (g : Nat)
  /-- The head of an answer has come: whether it is a success. -/
  | head (g : Nat) (accepted : Bool) (time : Nat)
  | chunk (g : Nat) (bytes : Bytes)
  /-- An attempt has ended or failed. -/
  | closed (g time : Nat)
  /-- A head, an id or an end that a superseded attempt reports late. What it takes in late is no
  matter of the supervisor (`Context.takeLate`). -/
  | lateHead (g : Nat)
  | lateId (g : Nat) (id : String)
  | lateEnd (g time : Nat)
  deriving DecidableEq, Repr

namespace Supervisor

def attempt? (s : Supervisor) (g : Nat) : Option Attempt :=
  s.attempts.find? (·.generation = g)

def advance (s : Supervisor) (g : Nat) (phase : AttemptPhase) : Supervisor :=
  { s with attempts := s.attempts.map fun a => if a.generation = g then { a with phase } else a }

def canInit (s : Supervisor) : Bool := s.conn.state = .disconnected

def init (s : Supervisor) : Supervisor :=
  if s.canInit then { s with lookups := s.lookups ++ [⟨.disconnected, none⟩] } else s

/-- Without the timer that has done its work. -/
def endTimer (s : Supervisor) (timer : Option Nat) : Supervisor :=
  { s with timers := s.timers.filter fun t => some t.number ≠ timer }

/-- Begins to connect for a timer that is due. -/
def fire (s : Supervisor) (timer : Nat) : Supervisor :=
  if s.conn.state = .errored then { s with lookups := s.lookups ++ [⟨.errored, some timer⟩] }
  else s.endTimer (some timer)

/-- Ends a lookup without an attempt. -/
def forget (s : Supervisor) (lookup : Nat) : Supervisor :=
  match s.lookups[lookup]? with
  | none => s
  | some l => { s with lookups := s.lookups.eraseIdx lookup }.endTimer l.timer

def start (s : Supervisor) : Supervisor :=
  let conn := s.conn.opened
  { s with
    conn
    attempts := s.attempts ++ [{ generation := conn.generation, resumeId := conn.lastEventId }]
    begun := s.begun + 1 }

/-- Goes on with a connect once its session has come. -/
def found (s : Supervisor) (lookup : Nat) (valid : Bool) : Supervisor :=
  match s.lookups[lookup]? with
  | none => s
  | some l =>
    let s := s.forget lookup
    if s.conn.state ≠ l.origin then s
    else if valid then s.start
    else if l.origin = .errored then { s with conn := s.conn.abandoned }
    else s

/-- Closes the connection and stops its attempt, its timer and the lookup of that timer. -/
def disconnect (s : Supervisor) : Supervisor :=
  { s with
    conn := s.conn.shutdown
    attempts := s.attempts.filter fun a => some a.generation ≠ s.conn.task
    timers := s.timers.filter fun t => some t.number ≠ s.conn.reconnect
    lookups := s.lookups.filter fun l => l.timer = none ∨ l.timer ≠ s.conn.reconnect }

/-- Plans another attempt, if the end of attempt `g` loses the connection. -/
def lose (s : Supervisor) (g time : Nat) : Supervisor :=
  if s.conn.isHeldBy g then
    { s with
      conn := s.conn.lost g s.nextTimer
      timers := s.timers ++ [⟨s.nextTimer, time + s.delay⟩]
      nextTimer := s.nextTimer + 1 }
  else s

def close (s : Supervisor) (g time : Nat) : Supervisor :=
  { s with attempts := s.attempts.filter (·.generation ≠ g) }.lose g time

def head (s : Supervisor) (g : Nat) (accepted : Bool) (time : Nat) : Supervisor :=
  if accepted && s.conn.isAwaiting g then
    { s with conn := s.conn.established g }.advance g (.reading {})
  else s.close g time

/-- Takes a chunk of an answer; gives the events that it completes. -/
def take (s : Supervisor) (g : Nat) (bytes : Bytes) : List ServerEvent × Supervisor :=
  match s.attempt? g with
  | some { phase := .reading parser, .. } =>
    let (events, parser) := parser.feed bytes
    (events,
      { s with conn := s.conn.recordId g parser.lastEventId }.advance g (.reading parser))
  | _ => ([], s)

def next (s : Supervisor) : StreamEvent → Supervisor
  | .init => s.init
  | .fire timer _ => s.fire timer
  | .found lookup valid => s.found lookup valid
  | .disconnect => s.disconnect
  | .sent g => s.advance g .awaiting
  | .head g accepted time => s.head g accepted time
  | .chunk g bytes => (s.take g bytes).2
  | .closed g time => s.close g time
  | .lateHead g => { s with conn := s.conn.established g }
  | .lateId g id => { s with conn := s.conn.recordId g (some id) }
  | .lateEnd g time => s.lose g time

/-- Whether the attempt of a generation goes on, in a phase with a property. -/
def attemptIs (s : Supervisor) (g : Nat) (p : AttemptPhase → Bool) : Bool :=
  (s.attempt? g).any fun a => p a.phase

/-- Whether an attempt is over whose reports may still come. -/
def isSuperseded (s : Supervisor) (g : Nat) : Bool :=
  g < s.conn.generation && (s.attempt? g).isNone

def Enabled (s : Supervisor) : StreamEvent → Prop
  | .init => True
  | .fire timer time =>
    (∃ t ∈ s.timers, t.number = timer ∧ t.due ≤ time) ∧ ∀ l ∈ s.lookups, l.timer ≠ some timer
  | .found lookup _ => lookup < s.lookups.length
  | .disconnect => True
  | .sent g => s.attemptIs g (· = .unsent)
  | .head g _ _ => s.attemptIs g (· = .awaiting)
  | .chunk g _ => s.attemptIs g (· matches .reading _)
  | .closed g _ => (s.attempt? g).isSome
  | .lateHead g | .lateId g _ | .lateEnd g _ => s.isSuperseded g

/-- `t` comes of `s` by events that can happen. -/
inductive Execution : Supervisor → Supervisor → Prop
  | refl (s) : Execution s s
  | tail {s t : Supervisor} {e : StreamEvent} :
    Execution s t → t.Enabled e → Execution s (t.next e)

def Reachable (s : Supervisor) : Prop := ∃ delay, Execution { delay } s

end Supervisor

end TenantLink
