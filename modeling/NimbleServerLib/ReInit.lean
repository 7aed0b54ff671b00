import NimbleServerLib.Feed
import NimbleServerLib.Run

/-!
# A new game on a running server

`nimbleServerReInitWithGame` starts a new game: a fresh game record, an empty authoritative ring at
the given step id, a reset participant-connection pool, fresh statistics.  It does not touch the
transport slots.  So on a server that has already run, the new game is the one a freshly
initialised server would start, except that every slot keeps what the previous game left in it,
and the pool keeps its connections' ids and slot numbers, only marked unused
(`nimbleServerReInitWithGame_after_run`).

The new game depends on the server only through its setup.  No call but `nimbleServerInit` writes
the setup (`NimbleServerEvent.apply_setup`), so every reachable state keeps the setup it was
initialised with.
-/

namespace NimbleServerLib

variable {nbsWindowSize : Nat}

/-! ## No call writes the setup -/

@[simp] theorem nimbleServerFeedReply_setup (self : NimbleServer) (slot : TransportSlot)
    (request : NimbleServerReqResult) (response : DatagramTransportOut) :
    (nimbleServerFeedReply self slot request response).server.setup = self.setup := by
  unfold nimbleServerFeedReply
  dsimp only
  split
  · rfl
  split <;> rfl

theorem nimbleServerFeed_setup {context : NimbleServerFeedContext} {self : NimbleServer}
    {connectionIndex : UInt8} {data : List UInt8} {response : DatagramTransportOut}
    {fed : NimbleServerFeedResult}
    (h : nimbleServerFeed nbsWindowSize context self connectionIndex data response = .ok fed) :
    fed.server.setup = self.setup := by
  rcases nimbleServerFeed_eq_ok h with ⟨-, rfl⟩ | ⟨slot, transportConnection, -, hcases⟩
  · rfl
  dsimp only at hcases
  rcases hcases with ⟨-, rfl⟩ | ⟨-, request, -, rfl⟩ | ⟨-, -, rfl⟩ <;> simp

theorem nimbleServerConnectionConnected_setup {self after : NimbleServer} {connectionIndex : UInt8}
    {result : Int} (h : nimbleServerConnectionConnected self connectionIndex = .ok (after, result)) :
    after.setup = self.setup := by
  obtain ⟨-, -, ⟨-, rfl, -⟩ | ⟨-, -, rfl⟩⟩ := nimbleServerConnectionConnected_eq_ok h <;> rfl

theorem nimbleServerConnectionDisconnected_setup {self after : NimbleServer}
    {connectionIndex : UInt8} {result : Int}
    (h : nimbleServerConnectionDisconnected self connectionIndex = .ok (after, result)) :
    after.setup = self.setup := by
  rcases nimbleServerConnectionDisconnected_eq_ok h with ⟨rfl, -⟩ | ⟨-, -, -, -, -, rfl⟩ <;> rfl

theorem nimbleServerReadFromMultiTransportLoop_setup (context : NimbleServerFeedContext)
    (rounds : Nat) {self after : NimbleServer} {transport transport' : DatagramTransportMulti}
    {result : Int}
    (h : nimbleServerReadFromMultiTransportLoop nbsWindowSize context rounds self transport =
      .ok (after, transport', result)) :
    after.setup = self.setup :=
  nimbleServerReadFromMultiTransportLoop_induction context (fun server after => after.setup = server.setup)
    (fun _ => rfl) (fun _ _ _ h₁ h₂ => h₂.trans h₁)
    (fun _ _ _ _ hc => nimbleServerConnectionConnected_setup hc)
    (fun _ _ _ _ _ hfed => nimbleServerFeed_setup hfed) h

/-- No event but `nimbleServerInit` writes the setup. -/
theorem NimbleServerEvent.apply_setup {event : NimbleServerEvent} {self after : NimbleServer}
    (h : event.apply nbsWindowSize self = some after) : after.setup = self.setup := by
  cases event with
  | feed =>
      obtain ⟨fed, hfed, rfl⟩ := except_toOption_map_eq_some.mp h
      exact nimbleServerFeed_setup hfed
  | connectionConnected =>
      obtain ⟨⟨_, _⟩, hconnected, rfl⟩ := except_toOption_map_eq_some.mp h
      exact nimbleServerConnectionConnected_setup hconnected
  | connectionDisconnected =>
      obtain ⟨⟨_, _⟩, hdisconnected, rfl⟩ := except_toOption_map_eq_some.mp h
      exact nimbleServerConnectionDisconnected_setup hdisconnected
  | reInitWithGame => cases h; rfl
  | setGameState =>
      cases h
      unfold nimbleServerSetGameState
      split <;> rfl
  | readFromMultiTransport context =>
      obtain ⟨⟨_, _, _⟩, hdrained, rfl⟩ := except_toOption_map_eq_some.mp h
      exact nimbleServerReadFromMultiTransportLoop_setup context 32 hdrained
  | update context =>
      obtain ⟨⟨_, _, _⟩, hupdated, rfl⟩ := except_toOption_map_eq_some.mp h
      unfold nimbleServerUpdate at hupdated
      split at hupdated
      · cases hupdated
      · rename_i hdrained
        cases hupdated
        exact (nimbleServerReadFromMultiTransportLoop_setup context 32 hdrained :)
  | setDebugIsFrozen => cases h; rfl

theorem nimbleServerInit_setup {memory : NimbleServer} {setup : NimbleServerSetup}
    (h : (nimbleServerInit memory setup).2 = 0) : (nimbleServerInit memory setup).1.setup = setup := by
  unfold nimbleServerInit at h ⊢
  split_ifs at h ⊢ <;> first | rfl | simp at h

theorem NimbleServerReachable.setup_eq {setup : NimbleServerSetup} {self : NimbleServer}
    (h : NimbleServerReachable nbsWindowSize setup self) : self.setup = setup := by
  obtain ⟨memory, events, hinit, hrun⟩ := h
  rw [← nimbleServerInit_setup hinit]
  exact nimbleServerRun_invariant (fun server => server.setup = (nimbleServerInit memory setup).1.setup)
    (fun _ _ _ hsetup happly => (NimbleServerEvent.apply_setup happly).trans hsetup) events rfl hrun

/-! ## The new game -/

/-- The game `nimbleServerReInitWithGame` starts: an initial game under the server's limits, with
the given state when it fits, and an empty ring at `stepId`. -/
theorem nimbleServerReInitWithGame_game (self : NimbleServer) (gameState : List UInt8)
    (stepId : StepId) (now : Nat) :
    (nimbleServerReInitWithGame self gameState stepId now).1.game =
      { nbdGameInit self.setup.maxSingleParticipantStepOctetCount self.setup.maxGameStateOctetCount
          self.setup.maxParticipantCount with
        latestState := if gameState.length ≤ self.setup.maxGameStateOctetCount then ⟨stepId, gameState⟩
          else ⟨0, []⟩
        authoritativeSteps := nbsStepsReInit stepId } := by
  unfold nimbleServerReInitWithGame nbdGameSetGameState
  by_cases hfits : gameState.length ≤ self.setup.maxGameStateOctetCount
  · simp [nbdGameInit, hfits, Nat.not_lt.mpr hfits]
  · simp [nbdGameInit, hfits, Nat.lt_of_not_le hfits]

/-- **A new game on a running server.**  On any state a run from `nimbleServerInit setup` reaches,
`nimbleServerReInitWithGame` starts the same game as on a freshly initialised server: an empty
ring at `stepId`, the given game state when it fits, no participants, no participant connection in
use, `statsCounter` zero.  The server differs from the fresh one in two places only: every
transport slot keeps what the run left in it, its use flag, phase, step cursor and participant
connection included, and the pool keeps its connections' ids and slots. -/
theorem nimbleServerReInitWithGame_after_run {setup : NimbleServerSetup} {self memory : NimbleServer}
    (hreach : NimbleServerReachable nbsWindowSize setup self)
    (hfresh : (nimbleServerInit memory setup).2 = 0)
    (gameState : List UInt8) (stepId : StepId) (now : Nat) :
    (nimbleServerReInitWithGame self gameState stepId now).1 =
        { (nimbleServerReInitWithGame (nimbleServerInit memory setup).1 gameState stepId now).1 with
          connections := nbdParticipantConnectionsReset self.connections
          transportConnections := self.transportConnections } ∧
      (nimbleServerReInitWithGame self gameState stepId now).1.game.authoritativeSteps =
        nbsStepsReInit stepId ∧
      (nimbleServerReInitWithGame self gameState stepId now).1.game.participants = [] ∧
      (nimbleServerReInitWithGame self gameState stepId now).1.statsCounter = 0 ∧
      (gameState.length ≤ setup.maxGameStateOctetCount →
        (nimbleServerReInitWithGame self gameState stepId now).1.game.latestState =
          ⟨stepId, gameState⟩) ∧
      ∀ connection ∈ (nimbleServerReInitWithGame self gameState stepId now).1.connections.connections,
        connection.isUsed = false := by
  have hsetup := hreach.setup_eq
  have hgame := nimbleServerReInitWithGame_game self gameState stepId now
  refine ⟨?_, rfl, by rw [hgame]; rfl, rfl, fun hfits => by simp [hgame, hsetup, hfits], ?_⟩
  · simp only [nimbleServerReInitWithGame, hsetup, nimbleServerInit_setup hfresh]
  · simp [nimbleServerReInitWithGame, nbdParticipantConnectionsReset, nbdParticipantConnectionReset]

/-- A new game on the server one connect after `nimbleServerInit`. -/
theorem nimbleServerReInitWithGame_after_connect :
    let setup : NimbleServerSetup := ⟨2, 4, 2, 4, 100, 0⟩
    ∃ self, nimbleServerRun 90 [.connectionConnected 0]
        (nimbleServerInit NimbleServer.zeroed setup).1 = some self ∧
      NimbleServerReachable 90 setup self ∧ (nimbleServerInit NimbleServer.zeroed setup).2 = 0 ∧
      (nimbleServerReInitWithGame self [0xAA] 7 0).1 =
          { (nimbleServerReInitWithGame (nimbleServerInit NimbleServer.zeroed setup).1 [0xAA] 7 0).1 with
            connections := nbdParticipantConnectionsReset self.connections
            transportConnections := self.transportConnections } ∧
        (nimbleServerReInitWithGame self [0xAA] 7 0).1.game.authoritativeSteps = nbsStepsReInit 7 ∧
        (nimbleServerReInitWithGame self [0xAA] 7 0).1.game.participants = [] ∧
        (nimbleServerReInitWithGame self [0xAA] 7 0).1.statsCounter = 0 ∧
        ([0xAA].length ≤ setup.maxGameStateOctetCount →
          (nimbleServerReInitWithGame self [0xAA] 7 0).1.game.latestState = ⟨7, [0xAA]⟩) ∧
        ∀ connection ∈ (nimbleServerReInitWithGame self [0xAA] 7 0).1.connections.connections,
          connection.isUsed = false := by
  intro setup
  exact ⟨_, rfl, ⟨NimbleServer.zeroed, [.connectionConnected 0], rfl, rfl⟩, rfl,
    @nimbleServerReInitWithGame_after_run 90 setup _ NimbleServer.zeroed
      ⟨NimbleServer.zeroed, [.connectionConnected 0], rfl, rfl⟩ rfl [0xAA] 7 0⟩

/-- **A new game keeps the previous game's slots.**  Slot 0, connected before
`nimbleServerReInitWithGame`, is still in use in the new game, while the same call on the freshly
initialised server leaves it unused. -/
theorem reInitWithGame_keeps_connected_slot :
    (nimbleServerInit NimbleServer.zeroed ⟨2, 4, 2, 4, 100, 0⟩).2 = 0 ∧
      ∃ self, nimbleServerRun 90 [.connectionConnected 0]
          (nimbleServerInit NimbleServer.zeroed ⟨2, 4, 2, 4, 100, 0⟩).1 = some self ∧
        ((nimbleServerReInitWithGame self [] 0 0).1.transportConnections 0).isUsed = true ∧
        ((nimbleServerReInitWithGame (nimbleServerInit NimbleServer.zeroed ⟨2, 4, 2, 4, 100, 0⟩).1
          [] 0 0).1.transportConnections 0).isUsed = false :=
  ⟨rfl, _, rfl, rfl, rfl⟩

end NimbleServerLib
