import OpenLighting.FiniteMap
import OpenLighting.TransitionSystem
import Mathlib.Data.UInt

/- An `AdvancedTCPConnector` with its `TCPConnector` and what they have registered with the
select server. -/
namespace OpenLighting.TcpConnector

open TransitionSystem

inductive ConnectionState where
  | disconnected
  | paused
  | connected
  deriving DecidableEq

/-- `ConnectionInfo`. The serial tells objects apart that one endpoint has had. An id of 0 and
`INVALID_TIMEOUT` are `none`. The policy is its `BackOffTime`. -/
structure ConnectionInfo where
  serial : Nat
  state : ConnectionState
  failedAttempts : UInt32
  retryTimeout : Option Nat
  connectionId : Option Nat
  policy : UInt32 → Nat

/-- `PendingTCPConnection` with the key that its callback was made with. -/
structure PendingConnection (κ : Type) where
  id : Nat
  key : κ
  timeoutId : Nat
  deriving DecidableEq

/-- What a timer calls: `RetryTimeout`, or `TimeoutEvent`. -/
inductive TimerCallback (κ : Type) where
  | retry (key : κ)
  | connect (connection : Nat)
  deriving DecidableEq

structure Timer (κ : Type) where
  id : Nat
  delay : Nat
  callback : TimerCallback κ
  deriving DecidableEq

/-- Both connectors, and the timers and write descriptors of the select server. An object of
type `ConnectionInfo` lives as long as its entry in `connections`. -/
structure World (κ : Type) where
  connectionTimeout : Nat
  connections : AList (fun _ : κ => ConnectionInfo)
  pending : List (PendingConnection κ)
  timers : List (Timer κ)
  writers : List Nat
  next : Nat

/-- What a socket factory does when it gets a socket. -/
inductive Call (κ : Type) where
  | disconnect (key : κ) (pause : Bool)
  | removeEndpoint (key : κ)
  deriving DecidableEq

/-- What `connect` makes of an attempt, with what the socket factory does if it succeeds at
once. -/
inductive Outcome (κ : Type) where
  | inProgress
  | failed
  | connected (calls : List (Call κ))

section Connectors
variable {κ : Type} [DecidableEq κ] (world : World κ) (key : κ) (connection : PendingConnection κ)

variable (id : Nat)

namespace World

def removeTimeout (id : Option Nat) : World κ :=
  { world with timers := world.timers.filter (fun timer => some timer.id ≠ id) }

/-- A pointer to the state of an endpoint is followed. -/
def deref (serial : Nat) : Option ConnectionInfo :=
  (world.connections.lookup key).filter (fun info => info.serial = serial)

/-- The state of an endpoint is written. -/
def put (info : ConnectionInfo) : World κ :=
  { world with connections := world.connections.insert key info }

/-- `ScheduleRetry`, as if so many attempts had failed. -/
def scheduleRetry (info : ConnectionInfo) (attempts : UInt32) : World κ :=
  let timer : Timer κ := ⟨world.next, info.policy attempts, .retry key⟩
  { world with timers := world.timers ++ [timer], next := world.next + 1 }.put key
    { info with retryTimeout := some world.next }

def takeAction (newTCPSocket : World κ → Option (World κ)) (world : World κ) (key : κ)
    (info : ConnectionInfo) (connected : Bool) : Option (World κ) :=
  if connected then newTCPSocket (world.put key { info with state := .connected })
  else
    let attempts := info.failedAttempts + 1
    some (world.scheduleRetry key { info with failedAttempts := attempts } attempts)

def connectionResult (newTCPSocket : World κ → Option (World κ)) (world : World κ) (key : κ)
    (connected : Bool) : Option (World κ) :=
  match world.connections.lookup key with
  | none => some world
  | some info => world.takeAction newTCPSocket key { info with connectionId := none } connected

/-- `m_connections.erase` of the `TCPConnector`. -/
def forget : World κ :=
  { world with pending := world.pending.filter (fun connection => connection.id ≠ id) }

/-- A pending connection is not watched any more: its timer and its write descriptor go. -/
def unwatch : World κ :=
  { world.removeTimeout (some connection.timeoutId) with
    writers := world.writers.filter (· ≠ connection.id) }

def timeout : Option (World κ) :=
  (world.unwatch connection).connectionResult some connection.key false

def cancel : Option (World κ) :=
  match world.pending.find? (fun connection => connection.id = id) with
  | none => some world
  | some connection => do
    let world ← world.timeout connection
    some (world.forget id)

def abortConnection (serial : Nat) : Option (World κ) := do
  let info ← world.deref key serial
  let world ← match info.connectionId with
    | none => some world
    | some id => world.cancel id
  let info ← world.deref key serial
  some (if info.retryTimeout = none then world else world.removeTimeout info.retryTimeout)

def removeEndpoint : Option (World κ) :=
  match world.connections.lookup key with
  | none => some world
  | some info => do
    let world ← world.abortConnection key info.serial
    some { world with connections := world.connections.erase key }

def disconnect (pause : Bool) : World κ :=
  match world.connections.lookup key with
  | none => world
  | some info =>
    if info.state ≠ .connected then world
    else
      let info := { info with failedAttempts := 0 }
      if pause then world.put key { info with state := .paused }
      else world.scheduleRetry key { info with state := .disconnected } 1

def call (world : World κ) : Call κ → Option (World κ)
  | .disconnect key pause => some (world.disconnect key pause)
  | .removeEndpoint key => world.removeEndpoint key

/-- `NewTCPSocket` of a factory that makes these calls. -/
def newTCPSocket (calls : List (Call κ)) (world : World κ) : Option (World κ) :=
  calls.foldlM call world

/-- `Connect`: the id of the connection, or `none` when the callback has been run. -/
def connect (world : World κ) (key : κ) : Outcome κ → Option (World κ × Option Nat)
  | .inProgress =>
    let connection : PendingConnection κ := ⟨world.next, key, world.next + 1⟩
    let timer : Timer κ := ⟨world.next + 1, world.connectionTimeout, .connect world.next⟩
    some ({ world with
      pending := world.pending ++ [connection]
      timers := world.timers ++ [timer]
      writers := world.writers ++ [world.next]
      next := world.next + 2 }, some world.next)
  | .failed => do
    let world ← world.connectionResult some key false
    some (world, none)
  | .connected calls => do
    let world ← world.connectionResult (newTCPSocket calls) key true
    some (world, none)

/-- `AttemptConnection`. The id is written when `Connect` has returned. -/
def attemptConnection (serial : Nat) (outcome : Outcome κ) : Option (World κ) := do
  let (world, id) ← world.connect key outcome
  let info ← world.deref key serial
  some (world.put key { info with connectionId := id })

def addEndpoint (policy : UInt32 → Nat) (paused : Bool) (outcome : Outcome κ) : Option (World κ) :=
  match world.connections.lookup key with
  | some _ => some world
  | none =>
    let state : ConnectionState := if paused then .paused else .disconnected
    let info : ConnectionInfo := ⟨world.next, state, 0, none, none, policy⟩
    let world := { world with next := world.next + 1 }.put key info
    if paused then some world else world.attemptConnection key info.serial outcome

def resume (outcome : Outcome κ) : Option (World κ) :=
  match world.connections.lookup key with
  | none => some world
  | some info =>
    if info.state = .paused then
      (world.put key { info with state := .disconnected }).attemptConnection key info.serial
        outcome
    else some world

def retryTimeout (world : World κ) (key : κ) (outcome : Outcome κ) : Option (World κ) :=
  match world.connections.lookup key with
  | none => some world
  | some info =>
    (world.put key { info with retryTimeout := none }).attemptConnection key info.serial outcome

/-- `TimeoutEvent`. A connection that is not found is used all the same. -/
def timeoutEvent : Option (World κ) :=
  match world.pending.find? (fun connection => connection.id = id) with
  | none => none
  | some connection => do
    let world ← world.timeout connection
    some (world.forget id)

/-- `SocketWritable`. A connection without an error has been made. -/
def socketWritable (result : Option (List (Call κ))) : Option (World κ) := do
  let world := world.unwatch connection
  let world ← match result with
    | none => world.connectionResult some connection.key false
    | some calls => world.connectionResult (newTCPSocket calls) connection.key true
  some (world.forget connection.id)

/-- A timer fires, if it is registered. -/
def expire (outcome : Outcome κ) : Option (World κ) :=
  match world.timers.find? (fun timer => timer.id = id) with
  | none => some world
  | some timer =>
    let world := world.removeTimeout (some id)
    match timer.callback with
    | .retry key => world.retryTimeout key outcome
    | .connect connection => world.timeoutEvent connection

/-- A write descriptor is ready, if it is registered. -/
def writable (result : Option (List (Call κ))) : Option (World κ) :=
  if id ∈ world.writers then
    match world.pending.find? (fun connection => connection.id = id) with
    | none => none
    | some connection => world.socketWritable connection result
  else some world

end World

/-- What is called, or happens in the select server. -/
inductive Event (κ : Type) where
  | addEndpoint (key : κ) (policy : UInt32 → Nat) (paused : Bool) (outcome : Outcome κ)
  | removeEndpoint (key : κ)
  | disconnect (key : κ) (pause : Bool)
  | resume (key : κ) (outcome : Outcome κ)
  | expire (timer : Nat) (outcome : Outcome κ)
  | writable (connection : Nat) (result : Option (List (Call κ)))

/-- The connectors after an event, or `none` once the state of an endpoint, or a pending
connection, has been used that was not there. -/
def step (world : Option (World κ)) (event : Event κ) : Option (World κ) := do
  let world ← world
  match event with
  | .addEndpoint key policy paused outcome => world.addEndpoint key policy paused outcome
  | .removeEndpoint key => world.removeEndpoint key
  | .disconnect key pause => some (world.disconnect key pause)
  | .resume key outcome => world.resume key outcome
  | .expire timer outcome => world.expire timer outcome
  | .writable connection result => world.writable connection result

/-- Connectors without endpoints. -/
def World.new (connectionTimeout : Nat) : World κ := ⟨connectionTimeout, ∅, [], [], [], 0⟩

/-- For which endpoint an event calls `Connect`, and what comes of it. -/
def World.attempts (world : World κ) : Event κ → Option (κ × Outcome κ)
  | .addEndpoint key _ paused outcome =>
    if (world.connections.lookup key).isNone ∧ ¬ paused then some (key, outcome) else none
  | .resume key outcome =>
    if (world.connections.lookup key).map ConnectionInfo.state = some .paused then
      some (key, outcome)
    else none
  | .expire id outcome =>
    match (world.timers.find? (fun timer => timer.id = id)).map Timer.callback with
    | some (.retry key) => some (key, outcome)
    | _ => none
  | _ => none

/-- An attempt that succeeds at once does not make the socket factory remove the endpoint. -/
def Survives (world : Option (World κ)) (event : Event κ) : Prop :=
  ∀ before, world = some before → ∀ key calls,
    before.attempts event = some (key, .connected calls) → .removeEndpoint key ∉ calls

/-- What should hold of the connectors. A disconnected endpoint has one pending connection or one
retry timer, and nothing else has one. A pending connection has its timer and its write
descriptor. -/
structure Balanced (world : World κ) : Prop where
  waits : ∀ key,
    world.pending.countP (fun connection => connection.key = key) +
        world.timers.countP (fun timer => timer.callback = .retry key) =
      if (world.connections.lookup key).map ConnectionInfo.state = some .disconnected then 1 else 0
  connects : ∀ id, id ∈ world.writers ↔ ∃ connection ∈ world.pending, connection.id = id
  watched : ∀ id, (∃ timer ∈ world.timers, timer.callback = .connect id) ↔ id ∈ world.writers

end Connectors

end OpenLighting.TcpConnector
