import TenantLink.Context

/-!
# Watching the update stream

A watcher lets the clock run until something has come about. While it waits, each timer that falls
due connects again; after `patience` milliseconds it gives up.
-/

namespace TenantLink.Context

/-- With the clock at a time, unless it is later already. -/
def atTime (x : Context) (time : Nat) : Context :=
  { x with world := { x.world with now := max x.world.now time } }

/-- The time of the next timer, if it falls due before `limit`. -/
def nextDue? (x : Context) (limit : Nat) : Option Nat :=
  (x.stream.timers.find? (·.due ≤ limit)).map ReconnectTimer.due

/-- Lets a timer that is due connect again, and its attempt go as far as it goes. -/
def reconnect (done : Context → Bool) (x : Context) : Bool × Context :=
  let x := x.fireDue
  let (later, x') := x.settle done
  (done x || later, x')

/-- Waits up to `limit` until `done` holds. There is at most one attempt in a millisecond. -/
def waitUntil (done : Context → Bool) (limit : Nat) (x : Context) : Nat → Bool × Context
  | 0 => (false, x.atTime limit)
  | attempts + 1 =>
    match x.nextDue? limit with
    | none => (false, x.atTime limit)
    | some due =>
      match (x.atTime due).reconnect done with
      | (true, x) => (true, x)
      | (false, x) => waitUntil done limit x attempts

def watch (done : Context → Bool) (patience : Nat) (x : Context) : Bool × Context :=
  if done x then (true, x)
  else
    match x.settle done with
    | (true, x) => (true, x)
    | (false, x) => x.waitUntil done (x.world.now + patience) (patience + 1)

def isIn (state : StreamState) (x : Context) : Bool := x.state = state

def awaitState (x : Context) (state : StreamState) (patience : Nat) : Bool × Context :=
  x.watch (isIn state) patience

/-- Moves the clock. A timer that is due then connects again. -/
def elapse (x : Context) (ms : Nat) : Context :=
  ((x.atTime (x.world.now + ms)).reconnect fun _ => false).2

/-- Moves the clock, and waits until the stream has come to a state since. -/
def elapseUntil (x : Context) (ms : Nat) (state : StreamState) (patience : Nat) : Bool × Context :=
  match (x.atTime (x.world.now + ms)).reconnect (isIn state) with
  | (true, x) => (true, x)
  | (false, x) => x.waitUntil (isIn state) (x.world.now + patience) (patience + 1)

inductive Reception
  | batch (jobs : List Job) (next : Subscription)
  /-- The stream is shut, and everything has been received. -/
  | ended
  | nothing

/-- Waits for the next batch of a subscriber. -/
def receive (x : Context) (s : Subscription) (patience : Nat) : Reception × Context :=
  let x := if x.isShut then x
    else (x.watch (fun x => (x.channel.receive? s).isSome) patience).2
  match x.channel.receive? s with
  | some (jobs, next) => (.batch jobs next, x)
  | none => (if x.isShut then .ended else .nothing, x)

end TenantLink.Context
