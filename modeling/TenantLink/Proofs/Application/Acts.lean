import TenantLink.Proofs.Client.Isolation
import TenantLink.Proofs.Updates.Broadcast
import TenantLink.Updates.Watch

/-!
# An application and its readers

An `Act` is a step of an application, or one of its stream, of the backend or of the clock. In a
`Scene` readers look on: they subscribe, and receive what was published. A run takes any turns in
any order.
-/

namespace TenantLink

namespace Supervisor

instance decidableEnabled (s : Supervisor) : (e : StreamEvent) → Decidable (s.Enabled e)
  | .init | .disconnect => instDecidableTrue
  | .fire timer time => inferInstanceAs (Decidable
    ((∃ t ∈ s.timers, t.number = timer ∧ t.due ≤ time) ∧ ∀ l ∈ s.lookups, l.timer ≠ some timer))
  | .found _ _ => Nat.decLt _ _
  | .sent _ | .head _ _ _ | .chunk _ _ | .closed _ _ | .lateHead _ | .lateId _ _ | .lateEnd _ _ =>
    instDecidableEqBool _ true

end Supervisor

inductive Act
  | call (c : Call)
  | csrfCookie
  | resolveToken
  | addCookie (text : String)
  | replaceSession (session : Option Session)
  | wait (time : Nat)
  | pass (wall : Span)
  -- the stream, step by step
  | init
  | answer (lookup : Nat)
  | fire
  | send
  | head (accepted : Bool)
  | chunk (bytes : Bytes)
  | close
  | lateHead (g : Nat)
  | lateId (g : Nat) (id : String)
  | lateEnd (g : Nat)
  -- the stream, as far as it goes
  | openStream
  | fireDue
  | settle
  | elapse (ms : Nat)
  | awaitState (state : StreamState) (patience : Nat)
  | elapseUntil (ms : Nat) (state : StreamState) (patience : Nat)
  | disconnect
  | teardown
  | clone
  | dropClone
  | drop
  -- the stores
  | upsert (job : Job)
  | clearJobs
  | addToast (message : String) (severity : Severity) (time : Option Span)
  | warnRateLimit
  /-- Dismisses a toast. An id may be unknown. -/
  | dismiss (id : Option Nat)
  | clearToasts

namespace Act

/-- Makes a handle on the stream, or gives one away. -/
def ofHandles : Act → Bool
  | .clone | .dropClone | .drop => true
  | _ => false

/-- Opens the stream. -/
def opens : Act → Bool
  | .init | .openStream => true
  | _ => false

/-- Comes from the stream itself, from the backend or from the clock. -/
def ofStream : Act → Bool
  | .answer _ | .fire | .send | .head _ | .chunk _ | .close | .lateHead _ | .lateId _ _ | .lateEnd _
  | .wait _ | .fireDue | .settle | .elapse _ | .awaitState _ _ | .elapseUntil _ _ _ => true
  | _ => false

/-- What an application itself does with its client and its stores. -/
def isOwn : Act → Bool
  | .call _ | .resolveToken | .teardown | .upsert _ | .clearJobs | .addToast _ _ _ | .warnRateLimit
  | .dismiss _ | .clearToasts => true
  | _ => false

end Act

/-- What is seen of a turn. -/
inductive Result
  | done
  | response (result : Except ClientError Response)
  | token (token : Option String)
  | flag (flag : Bool)
  | reaction (reaction : Option Reaction)
  | job (previous : Option Job)
  | toast (id : Nat)
  | batch (jobs : List Job)
  | ended
  | nothing

namespace Context

/-- Lets an event happen, if it can. -/
def happen (x : Context) (e : StreamEvent) : Context :=
  if x.stream.Enabled e then x.step e else x

def withToasts (x : Context) (toasts : ToastStore) : Context :=
  { x with world := { x.world with toasts } }

/-- Whether no timer waits for the session of its connect, so that the next one may fire. -/
def isCalm (x : Context) : Bool := x.stream.lookups.all (·.timer = none)

/-- Whether the application waits for the session of an `init`, and so needs its handle. -/
def awaitsInit (x : Context) : Bool := x.stream.lookups.any (·.timer = none)

/-- Gives a handle away, unless it is the last one and needed. -/
def release (x : Context) (rest : Context) : Context :=
  if x.awaitsInit && rest.isShut then x else rest

def fire (x : Context) : Context :=
  match x.stream.timers.find? (·.due ≤ x.world.now) with
  | some t => x.happen (.fire t.number x.world.now)
  | none => x

def send (x : Context) : Option Reaction × Context :=
  match x.stream.attempts.find? (·.phase = .unsent) with
  | some a => ((x.transmitAttempt a).map (·.1), (x.sendAttempt a).2)
  | none => (none, x)

def perform (x : Context) : Act → Result × Context
  | .call c =>
    let (result, world) := c.run x.world x.config
    (.response result, { x with world })
  | .csrfCookie => (.token (x.world.csrfCookie x.config), x)
  | .resolveToken =>
    let (token, world) := x.world.resolveToken x.config
    (.token token, { x with world })
  | .addCookie text => (.done, x.addCookie text)
  | .replaceSession session => (.done, x.replaceSession session)
  | .wait time => (.done, x.atTime time)
  | .pass wall => (.done, { x with world := { x.world with wall } })
  | .init => (.done, if x.isShut then x else x.step .init)
  | .answer lookup =>
    if lookup < x.stream.lookups.length then
      let x' := x.answerLookup lookup
      (.flag (x.stream.begun < x'.stream.begun), x')
    else (.done, x)
  | .fire => (.done, x.fire)
  | .send => (.reaction x.send.1, x.send.2)
  | .head accepted => (.done, x.happen (.head x.stream.conn.generation accepted x.world.now))
  | .chunk bytes => (.done, x.happen (.chunk x.stream.conn.generation bytes))
  | .close => (.done, x.happen (.closed x.stream.conn.generation x.world.now))
  | .lateHead g => (.done, x.happen (.lateHead g))
  | .lateId g id => (.done, x.happen (.lateId g id))
  | .lateEnd g => (.done, x.happen (.lateEnd g x.world.now))
  | .openStream => if x.isShut then (.done, x) else (.flag x.openStream.1, x.openStream.2)
  | .fireDue => if x.isCalm then (.done, x.fireDue) else (.done, x)
  | .settle => if x.isCalm then (.done, (x.settle fun _ => false).2) else (.done, x)
  | .elapse ms => if x.isCalm then (.done, x.elapse ms) else (.done, x)
  | .awaitState state patience =>
    if x.isCalm then (.flag (x.awaitState state patience).1, (x.awaitState state patience).2)
    else (.done, x)
  | .elapseUntil ms state patience =>
    if x.isCalm then
      (.flag (x.elapseUntil ms state patience).1, (x.elapseUntil ms state patience).2)
    else (.done, x)
  | .disconnect => (.done, x.disconnect)
  | .teardown => (.done, x.teardown)
  | .clone => (.done, if x.isShut then x else x.clone)
  | .dropClone => (.done, x.release x.dropClone)
  | .drop => (.done, x.release x.drop)
  | .upsert job =>
    let (previous, jobs) := x.jobs.upsert job
    (.job previous, { x with jobs })
  | .clearJobs => (.done, { x with jobs := .empty })
  | .addToast message severity time =>
    let (id, toasts) := x.world.toasts.add x.world.wall message severity time
    (.toast id, x.withToasts toasts)
  | .warnRateLimit =>
    let (id, toasts) := x.world.toasts.warnRateLimit x.world.wall
    (.toast id, x.withToasts toasts)
  | .dismiss none => (.done, x)
  | .dismiss (some id) => (.done, x.withToasts (x.world.toasts.dismiss id))
  | .clearToasts => (.done, x.withToasts x.world.toasts.clear)

/-- What a reader sees that does not wait. -/
def poll (x : Context) (s : Subscription) : Result :=
  match x.channel.receive? s with
  | some (jobs, _) => .batch jobs
  | none => if x.isShut then .ended else .nothing

end Context

inductive Turn
  | act (a : Act)
  | subscribe
  | receive (i : Nat)

/-- Whether a turn opens the stream. -/
def Turn.opens : Turn → Bool
  | .act a => a.opens
  | _ => false

structure Scene where
  context : Context
  readers : List (Reader (List Job)) := []

namespace Scene

def take (s : Scene) : Turn → Result × Scene
  | .act a =>
    let (result, context) := s.context.perform a
    (result, { s with context })
  | .subscribe =>
    if s.context.isShut then (.done, s)
    else (.done, { s with readers := s.readers ++ [s.context.channel.reader] })
  | .receive i =>
    match s.readers[i]? with
    | none => (.done, s)
    | some r =>
      (s.context.poll r.place, { s with readers := s.readers.set i (s.context.channel.read r).2 })

def run (s : Scene) : List Turn → List Result × Scene
  | [] => ([], s)
  | t :: rest =>
    let (result, s) := s.take t
    let (results, s) := s.run rest
    (result :: results, s)

/-- Only an act changes the context. -/
theorem take_context (s : Scene) (t : Turn) :
    (∃ a, t = .act a ∧ (s.take t).2.context = (s.context.perform a).2) ∨
      (s.take t).2.context = s.context := by
  cases t with
  | act a => exact .inl ⟨a, rfl, rfl⟩
  | subscribe =>
    rw [take]
    split <;> exact .inr rfl
  | receive i =>
    rw [take]
    split <;> exact .inr rfl

theorem run_cons (s : Scene) (t : Turn) (rest : List Turn) :
    s.run (t :: rest) =
      ((s.take t).1 :: ((s.take t).2.run rest).1, ((s.take t).2.run rest).2) := rfl

theorem run_keeps {P : Scene → Prop} {s : Scene} {turns : List Turn}
    (keeps : ∀ s, ∀ t ∈ turns, P s → P (s.take t).2) (first : P s) : P (s.run turns).2 := by
  induction turns generalizing s with
  | nil => exact first
  | cons t rest ih =>
    exact ih (fun s t member => keeps s t (List.mem_cons_of_mem _ member))
      (keeps s t List.mem_cons_self first)

end Scene

end TenantLink
