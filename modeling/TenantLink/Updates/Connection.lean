/-!
# The connection of the update stream

A connection has a state, and a generation that counts its attempts. What an attempt reports counts
only as long as its generation is the current one.
-/

namespace TenantLink

inductive StreamState
  /-- There is no connection, and none is planned. -/
  | disconnected
  /-- A request was sent, and the head of the answer has not come. -/
  | connecting
  /-- Events come in. -/
  | connected
  /-- The connection was lost, and another attempt is planned. -/
  | errored
  deriving DecidableEq, Repr

structure Connection where
  state : StreamState := .disconnected
  generation : Nat := 0
  /-- The generation of the attempt that holds the connection. -/
  task : Option Nat := none
  /-- The number of the timer that waits to connect again. -/
  reconnect : Option Nat := none
  lastEventId : Option String := none
  deriving DecidableEq, Repr

namespace Connection

/-- Closed for good: attempts and timers from before no longer count. -/
def shutdown (c : Connection) : Connection := { generation := c.generation + 1 }

/-- With a new attempt. -/
def opened (c : Connection) : Connection :=
  { c with
    state := .connecting
    generation := c.generation + 1
    task := some (c.generation + 1)
    reconnect := none }

/-- Without a session to connect again for. -/
def abandoned (c : Connection) : Connection := { c with state := .disconnected, reconnect := none }

/-- Whether the answer to attempt `g` opens the connection. -/
def isAwaiting (c : Connection) (g : Nat) : Bool := c.generation = g && c.state = .connecting

/-- The head of the answer to attempt `g` has come. -/
def established (c : Connection) (g : Nat) : Connection :=
  if c.isAwaiting g then { c with state := .connected } else c

/-- Attempt `g` has received an event id. -/
def recordId (c : Connection) (g : Nat) (id : Option String) : Connection :=
  match id with
  | some id => if c.generation = g then { c with lastEventId := some id } else c
  | none => c

/-- Whether the end of attempt `g` loses the connection. -/
def isHeldBy (c : Connection) (g : Nat) : Bool :=
  c.generation = g && c.state ≠ .disconnected && c.state ≠ .errored

/-- Attempt `g` has lost the connection, and a timer waits to connect again. -/
def lost (c : Connection) (g timer : Nat) : Connection :=
  if c.isHeldBy g then { c with state := .errored, task := none, reconnect := some timer } else c

end Connection

end TenantLink
