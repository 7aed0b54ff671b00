import NimbleServerLib.Server

/-!
# Runs of the server

The server is a state machine driven from outside: the host calls the lifecycle functions, and
the network's datagrams arrive through `nimbleServerFeed`, or through
`nimbleServerReadFromMultiTransport` and `nimbleServerUpdate`, which drain the transport.  An
event is one such call with its arguments; the transport a drain reads from and the reply
transport a feed answers through are arguments too, since they belong to the environment.  The
host may also write the game's public `debugIsFrozen` flag.

A call that makes the C code index an array out of bounds has no next state: the run stops there.
`NimbleServerReachable` collects the states that a successful `nimbleServerInit` and any run
after it reach.  `nimbleServerRun_invariant` is the one induction every invariant of the server is
proved with: a property of the start that every event keeps holds all along the run.
-/

namespace NimbleServerLib

/-- One call into the server, or the host's write of `debugIsFrozen`. -/
inductive NimbleServerEvent
  | feed (context : NimbleServerFeedContext) (connectionIndex : UInt8) (data : List UInt8)
      (response : DatagramTransportOut)
  | connectionConnected (connectionIndex : UInt8)
  | connectionDisconnected (connectionIndex : UInt8)
  | reInitWithGame (gameState : List UInt8) (stepId : StepId) (now : Nat)
  | setGameState (gameState : List UInt8) (stepId : StepId)
  | readFromMultiTransport (context : NimbleServerFeedContext) (transport : DatagramTransportMulti)
  | update (context : NimbleServerFeedContext) (transport : DatagramTransportMulti) (now : Nat)
  | setDebugIsFrozen (frozen : Bool)

/-- The server after an event, or `none` when the call is undefined. -/
def NimbleServerEvent.apply (nbsWindowSize : Nat) : NimbleServerEvent → NimbleServer → Option NimbleServer
  | .feed context connectionIndex data response, self =>
      ((nimbleServerFeed nbsWindowSize context self connectionIndex data response).map
        (·.server)).toOption
  | .connectionConnected connectionIndex, self =>
      ((nimbleServerConnectionConnected self connectionIndex).map Prod.fst).toOption
  | .connectionDisconnected connectionIndex, self =>
      ((nimbleServerConnectionDisconnected self connectionIndex).map Prod.fst).toOption
  | .reInitWithGame gameState stepId now, self =>
      some (nimbleServerReInitWithGame self gameState stepId now).1
  | .setGameState gameState stepId, self => some (nimbleServerSetGameState self gameState stepId)
  | .readFromMultiTransport context transport, self =>
      ((nimbleServerReadFromMultiTransport nbsWindowSize context self transport).map Prod.fst).toOption
  | .update context transport now, self =>
      ((nimbleServerUpdate nbsWindowSize context self transport now).map Prod.fst).toOption
  | .setDebugIsFrozen frozen, self => some { self with game := { self.game with debugIsFrozen := frozen } }

/-- The events that set no new game state: all but `nimbleServerReInitWithGame` and
`nimbleServerSetGameState`. -/
def NimbleServerEvent.keepsGameState : NimbleServerEvent → Bool
  | .reInitWithGame .. | .setGameState .. => false
  | _ => true

/-- The server after a run of events, or `none` when one of them is undefined. -/
def nimbleServerRun (nbsWindowSize : Nat) : List NimbleServerEvent → NimbleServer → Option NimbleServer
  | [], self => some self
  | event :: events, self =>
      (event.apply nbsWindowSize self).bind (nimbleServerRun nbsWindowSize events)

/-- The states a successful `nimbleServerInit` and a run after it reach. -/
def NimbleServerReachable (nbsWindowSize : Nat) (setup : NimbleServerSetup) (self : NimbleServer) :
    Prop :=
  ∃ memory events, (nimbleServerInit memory setup).2 = 0 ∧
    nimbleServerRun nbsWindowSize events (nimbleServerInit memory setup).1 = some self

theorem except_toOption_map_eq_some {ε α β : Type} {x : Except ε α} {f : α → β} {y : β} :
    (x.map f).toOption = some y ↔ ∃ v, x = .ok v ∧ f v = y := by
  cases x <;> simp [Except.map, Except.toOption]

theorem nimbleServerRun_cons {nbsWindowSize : Nat} {event : NimbleServerEvent}
    {events : List NimbleServerEvent} {self after : NimbleServer}
    (h : nimbleServerRun nbsWindowSize (event :: events) self = some after) :
    ∃ middle, event.apply nbsWindowSize self = some middle ∧
      nimbleServerRun nbsWindowSize events middle = some after := by
  simpa [nimbleServerRun, Option.bind_eq_some] using h

/-- **Invariants of runs.**  What holds of a state and is kept by every event holds after any
run from it. -/
theorem nimbleServerRun_invariant {nbsWindowSize : Nat} (P : NimbleServer → Prop)
    (hstep : ∀ (event : NimbleServerEvent) self after, P self →
      event.apply nbsWindowSize self = some after → P after)
    (events : List NimbleServerEvent) {self after : NimbleServer} (hstart : P self)
    (hrun : nimbleServerRun nbsWindowSize events self = some after) : P after := by
  induction events generalizing self with
  | nil =>
      cases hrun
      exact hstart
  | cons event events ih =>
      obtain ⟨middle, hmiddle, hrest⟩ := nimbleServerRun_cons hrun
      exact ih (hstep event self middle hstart hmiddle) hrest

end NimbleServerLib
