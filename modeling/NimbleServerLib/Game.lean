import NimbleServerLib.Connections

/-!
# The game

The game holds the authoritative step ring, the latest game state (the snapshot a joiner starts
from, with the step id it is valid at) and the participants.  `game.c` is not under `src/`;
`nbdGameInit`, `nbdGameSetGameState` and the participant registry are modelled from the spec:
`setGameState` "replaces the stored snapshot", a snapshot larger than the configured maximum is
refused, and a joining participant gets the smallest unused id from 1.
-/

namespace NimbleServerLib

/-- A participant of the game: its id, its index among its client's local players, and the pool
index of the participant connection that owns it. -/
structure NimbleServerParticipant where
  participantId : Nat
  localIndex : Nat
  participantConnectionIndex : Nat
  deriving DecidableEq, Repr

/-- The latest game state: its octets and the step id it is valid at. -/
structure NimbleServerGameState where
  stepId : StepId
  state : List UInt8
  deriving DecidableEq, Repr

/-- Modelled from the spec: `NimbleServerGame`. -/
structure NimbleServerGame where
  authoritativeSteps : NbsSteps
  latestState : NimbleServerGameState
  participants : List NimbleServerParticipant
  debugIsFrozen : Bool
  maxSingleParticipantStepOctetCount : Nat
  maxGameStateOctetCount : Nat
  maxParticipantCount : Nat
  deriving DecidableEq, Repr

/-- The failure of `nbdGameSetGameState` on a game state over the configured maximum. -/
def nbdGameErrStateTooLarge : Int := -1

/-- Modelled from the spec: `nbdGameInit`, an empty game with the configured limits. -/
def nbdGameInit (maxSingleParticipantStepOctetCount maxGameStateOctetCount
    maxParticipantCount : Nat) : NimbleServerGame :=
  ⟨nbsStepsReInit 0, ⟨0, []⟩, [], false, maxSingleParticipantStepOctetCount,
    maxGameStateOctetCount, maxParticipantCount⟩

/-- Modelled from the spec: `nbdGameSetGameState` replaces the latest game state, unless it is
larger than the game allows. -/
def nbdGameSetGameState (self : NimbleServerGame) (stepId : StepId) (gameState : List UInt8) :
    Except Int NimbleServerGame :=
  if self.maxGameStateOctetCount < gameState.length then .error nbdGameErrStateTooLarge
  else .ok { self with latestState := ⟨stepId, gameState⟩ }

/-- The smallest participant id from 1 that no participant of the list has. -/
def nbdParticipantsFreeId (participants : List NimbleServerParticipant) : Nat → Nat → Nat
  | 0, candidate => candidate
  | fuel + 1, candidate =>
      if participants.any (·.participantId == candidate) then
        nbdParticipantsFreeId participants fuel (candidate + 1)
      else candidate

/-- Modelled from the spec: the registry adds one participant per local index, each with the
smallest unused id, all owned by the participant connection at `participantConnectionIndex`. -/
def nbdParticipantsJoin (participants : List NimbleServerParticipant)
    (participantConnectionIndex : Nat) : List Nat → List NimbleServerParticipant
  | [] => participants
  | localIndex :: rest =>
      let participantId := nbdParticipantsFreeId participants participants.length 1
      nbdParticipantsJoin (participants ++ [⟨participantId, localIndex, participantConnectionIndex⟩])
        participantConnectionIndex rest

theorem nbdGameSetGameState_eq_ok {self after : NimbleServerGame} {stepId : StepId}
    {gameState : List UInt8} :
    nbdGameSetGameState self stepId gameState = .ok after ↔
      gameState.length ≤ self.maxGameStateOctetCount ∧
        after = { self with latestState := ⟨stepId, gameState⟩ } := by
  unfold nbdGameSetGameState
  split <;> simp_all [eq_comm]

end NimbleServerLib
