import TenantLink.Client.Retry
import TenantLink.Updates.Feed
import TenantLink.Updates.Supervisor

/-!
# The context of an application

A context ties everything of one session together: the client, the jobs and the update stream share
its configuration, clock, cookies, session and toasts. The stream lives as long as there is a
handle on it, and the context itself holds one.
-/

namespace TenantLink

structure Context where
  config : Config
  world : World
  jobs : JobStore := .empty
  channel : Channel (List Job)
  stream : Supervisor
  /-- Whether the context itself is still there. -/
  held : Bool := true
  clones : Nat := 0

namespace Context

def streamPath : String := "jobs/stream"

def ofConfig (config : Config) (world : World) : Context :=
  { config, world, channel := .ofSize config.streamBuffer
    stream := { delay := config.reconnectDelay } }

def state (x : Context) : StreamState := x.stream.conn.state

/-- Whether no handle on the stream is left. -/
def isShut (x : Context) : Bool := !x.held && x.clones = 0

/-! ## What the stream does -/

def feed (x : Context) : Feed := ⟨x.jobs, x.world.toasts, x.channel⟩

def withFeed (x : Context) (f : Feed) : Context :=
  { x with jobs := f.jobs, channel := f.channel, world := { x.world with toasts := f.toasts } }

/-- Lets an event happen to the stream. The jobs that a chunk brings go into the feed. -/
def step (x : Context) : StreamEvent → Context
  | .chunk g bytes =>
    let (events, stream) := x.stream.take g bytes
    { x with stream }.withFeed (events.foldl (Feed.applyEvent x.world.wall) x.feed)
  | e => { x with stream := x.stream.next e }

/-- Takes in an event of the last chunk of an attempt that was superseded in the middle of it. The
generation of the attempt does not matter here. -/
def takeLate (x : Context) (e : ServerEvent) : Context :=
  x.withFeed (Feed.applyEvent x.world.wall x.feed e)

/-- Goes on with a lookup, whose session comes at once. -/
def answerLookup (x : Context) (lookup : Nat) : Context :=
  let (session, provider) := x.world.provider.look
  let x := { x with world := { x.world with provider } }
  if session.any (·.isValid x.world.wall) then
    match x.config.endpoint streamPath with
    | .ok _ => x.step (.found lookup true)
    | .error _ => { x with stream := x.stream.forget lookup }
  else x.step (.found lookup false)

/-- Goes on with the lookups that an event has begun. -/
def answerNew (x : Context) (e : StreamEvent) : Context :=
  let x' := x.step e
  if x.stream.lookups.length < x'.stream.lookups.length then
    x'.answerLookup x.stream.lookups.length
  else x'

/-- Opens the update stream; tells whether an attempt was begun. -/
def openStream (x : Context) : Bool × Context :=
  let x' := x.answerNew .init
  (x.stream.begun < x'.stream.begun, x')

/-- Lets a timer that is due connect again. -/
def fireDue (x : Context) : Context :=
  match x.stream.timers.find? (·.due ≤ x.world.now) with
  | some t => x.answerNew (.fire t.number x.world.now)
  | none => x

/-- The header fields of an attempt; none when the event id cannot stand in one. -/
def attemptHeaders? (resumeId : Option String) : Option Headers :=
  let headers : Headers := [(.accept, .eventStream), (.cacheControl, .noCache)]
  match resumeId with
  | none => some headers
  | some id => (HeaderValue.ofText? id).map (headers.append .lastEventId)

/-- Sends the request of an attempt. The reaction is the one to this request, also if it is a
redirect. -/
def transmitAttempt (x : Context) (a : Attempt) : Option (Reaction × World) :=
  match x.config.endpoint streamPath, attemptHeaders? a.resumeId with
  | .ok u, some headers =>
    match x.world.transmit u .get headers none with
    | some (.answer reply, w) => some (.answer reply, w.storeCookies u reply)
    | other => other
  | _, _ => none

/-- What attempt `g` reports on the way from a reaction of the backend. -/
def reports (g time : Nat) : Reaction → List StreamEvent
  | .silence => []
  | .hangUp _ => [.closed g time]
  | .answer reply =>
    .head g reply.status.isSuccess time ::
      if reply.status.isSuccess then
        reply.chunks.map (.chunk g) ++
          match reply.ending with
          | .stalled => []
          | _ => [.closed g time]
      else []

/-- Sends the request of an attempt; gives what the attempt will report. -/
def sendAttempt (x : Context) (a : Attempt) : List StreamEvent × Context :=
  let g := a.generation
  match x.transmitAttempt a with
  | none => ([.closed g x.world.now], x.step (.sent g))
  | some (reaction, world) => (reports g x.world.now reaction, { x with world }.step (.sent g))

/-- Lets events happen; tells whether `done` held behind one of them. -/
def play (done : Context → Bool) (x : Context) : List StreamEvent → Bool × Context
  | [] => (false, x)
  | e :: rest =>
    let x := x.step e
    let (later, x') := play done x rest
    (done x || later, x')

/-- Lets the attempt that was begun last go as far as it goes. -/
def settle (done : Context → Bool) (x : Context) : Bool × Context :=
  match x.stream.attempts.find? (·.phase = .unsent) with
  | none => (false, x)
  | some a =>
    let (events, x) := x.sendAttempt a
    play done x events

/-! ## What an application does -/

def startSession (x : Context) : Bool × Context := x.openStream

def disconnect (x : Context) : Context := x.step .disconnect

/-- Ends a session: closes the stream and forgets jobs and toasts. -/
def teardown (x : Context) : Context :=
  let x := x.disconnect
  { x with jobs := .empty, world := { x.world with toasts := x.world.toasts.clear } }

def replaceSession (x : Context) (session : Option Session) : Context :=
  { x with world := { x.world with provider := { x.world.provider with current := session } } }

def addCookie (x : Context) (text : String) : Context :=
  { x with world :=
      { x.world with jar := x.world.jar.set x.world.wall x.config.apiBase text } }

def subscribe (x : Context) : Subscription := x.channel.subscribe

def clone (x : Context) : Context := { x with clones := x.clones + 1 }

/-- Closes the stream when no handle is left. -/
def closeUnheld (x : Context) : Context := if x.isShut then x.disconnect else x

def dropClone (x : Context) : Context := { x with clones := x.clones - 1 }.closeUnheld

def drop (x : Context) : Context := { x with held := false }.closeUnheld

def visibleToasts (x : Context) : List Toast := x.world.toasts.visible x.world.wall

end Context

end TenantLink
