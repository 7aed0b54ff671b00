import NimbleServerLib.Datagram

/-!
# Transport connections and participant connections

A transport slot (`NimbleServerTransportConnection`) is the server's per-slot framing state: the
two ordered-datagram halves, the outgoing blob stream of a game state, the phase, and the cursor
`nextAuthoritativeStepIdToSend`.  It refers to the participant connection it serves through the
non-owning pointer `assignedParticipantConnection`, here the index of that connection in the pool.

A participant connection (`NimbleServerParticipantConnection`, `participant_connection.h`) is one
client's logical session: its participants and the ring of predicted steps it has sent.  The
pool (`NimbleServerParticipantConnections`) owns them all.

`transportConnectionInit` and `transportConnectionSetGameStateTickId` are translated from
`transport_connection.c`.  The pool functions, the blob stream and the statistics are not under
`src/` and are modelled from the spec: `init` starts a participant connection's step ring at the
latest authoritative step id, `reset` "clears refs, zeroes counters, marks unused", and the pool
hands out its first unused connection.
-/

namespace NimbleServerLib

/-! ## Statistics -/

/-- Modelled from the spec: `StatsInt`, the last `avgCountMax` samples of a counter. -/
structure StatsInt where
  avgCountMax : Nat
  samples : List Int
  deriving DecidableEq, Repr

/-- Modelled from the spec: `statsIntInit`. -/
def statsIntInit (avgCountMax : Nat) : StatsInt := ⟨avgCountMax, []⟩

/-- Modelled from the spec: `statsIntAdd` keeps the newest `avgCountMax` samples. -/
def statsIntAdd (self : StatsInt) (value : Int) : StatsInt :=
  { self with samples := (value :: self.samples).take self.avgCountMax }

/-- Modelled from the spec: `StatsIntPerSecond`, a counter averaged over periods of
`periodMs`. -/
structure StatsIntPerSecond where
  first : Nat
  periodMs : Nat
  counter : Nat
  avg : Nat
  deriving DecidableEq, Repr

/-- Modelled from the spec: `statsIntPerSecondInit`. -/
def statsIntPerSecondInit (now periodMs : Nat) : StatsIntPerSecond := ⟨now, periodMs, 0, 0⟩

/-- Modelled from the spec: `statsIntPerSecondAdd`. -/
def statsIntPerSecondAdd (self : StatsIntPerSecond) (count : Nat) : StatsIntPerSecond :=
  { self with counter := self.counter + count }

/-- Modelled from the spec: `statsIntPerSecondUpdate` closes a period once it has passed. -/
def statsIntPerSecondUpdate (self : StatsIntPerSecond) (now : Nat) : StatsIntPerSecond :=
  if self.first + self.periodMs ≤ now then
    ⟨now, self.periodMs, 0, self.counter * 1000 / (now - self.first)⟩
  else self

/-! ## Transport connections -/

/-- `NbTransportConnectionPhase`. -/
inductive NbTransportConnectionPhase
  | idle
  | initialStateDetermined
  | waitingForReconnect
  deriving DecidableEq, Repr

/-- Modelled from the spec: an outgoing blob stream of a game state, on its channel. -/
structure BlobStreamOut where
  channel : BitVec 16
  octets : List UInt8
  deriving DecidableEq, Repr

/-- The transport slot record of `transport_connection.h`, with the fields that the modelled
functions read or write. -/
structure NimbleServerTransportConnection where
  transportConnectionId : Nat
  isUsed : Bool
  assignedParticipantConnection : Option Nat
  orderedDatagramInLogic : OrderedDatagramInLogic
  orderedDatagramOutLogic : OrderedDatagramOutLogic
  nextBlobStreamOutChannel : BitVec 16
  blobStreamOutClientRequestId : UInt8
  blobStreamOut : Option BlobStreamOut
  debugCounter : Nat
  noRangesToSendCounter : Nat
  nextAuthoritativeStepIdToSend : StepId
  phase : NbTransportConnectionPhase
  stepsBehindStats : StatsInt
  deriving DecidableEq, Repr

/-- `transportConnectionInit` (`transport_connection.c`): fresh ordered-datagram halves, channel
127, cursor `0xFFFFFFFF`, phase idle.  The slot's id, its assigned participant connection and its
blob stream are left as they were. -/
def transportConnectionInit (self : NimbleServerTransportConnection) :
    NimbleServerTransportConnection :=
  { self with
    orderedDatagramOutLogic := orderedDatagramOutLogicInit
    orderedDatagramInLogic := orderedDatagramInLogicInit
    nextBlobStreamOutChannel := 127
    debugCounter := 0
    isUsed := true
    noRangesToSendCounter := 0
    nextAuthoritativeStepIdToSend := 0xFFFFFFFF#32
    phase := .idle
    blobStreamOutClientRequestId := 0
    stepsBehindStats := statsIntInit 60 }

/-- `transportConnectionSetGameStateTickId` (`transport_connection.c`). -/
def transportConnectionSetGameStateTickId (self : NimbleServerTransportConnection)
    (lastAuthoritativeStateTickId : StepId) : NimbleServerTransportConnection :=
  { self with
    phase := .initialStateDetermined
    nextAuthoritativeStepIdToSend := lastAuthoritativeStateTickId }

/-! ## Participant connections and their pool -/

/-- `NimbleServerParticipantConnection` (`participant_connection.h`) with the fields that the
modelled functions use; the participant references are the participants' ids, and
`transportConnectionId` is `none` until the connection is first handed out. -/
structure NimbleServerParticipantConnection where
  id : Nat
  isUsed : Bool
  steps : NbsSteps
  participantReferences : List Nat
  incomingStepCountInBufferStats : StatsInt
  transportConnectionId : Option Nat
  forcedStepInRowCounter : Nat
  deriving DecidableEq, Repr

/-- Modelled from the spec: the pool of participant connections, `capacityCount` of them. -/
structure NimbleServerParticipantConnections where
  connections : List NimbleServerParticipantConnection
  capacityCount : Nat
  maxParticipantCountForConnection : Nat
  maxSingleParticipantStepOctetCount : Nat
  deriving DecidableEq, Repr

/-- The participant connection id that marks a freed connection. -/
def nbdParticipantConnectionFreedId : Nat := 0x100

/-- Modelled from the spec: `nbdParticipantConnectionInit` starts the step ring at the latest
authoritative step id and binds the connection to its transport slot. -/
def nbdParticipantConnectionInit (self : NimbleServerParticipantConnection)
    (transportConnectionId : Nat) (latestAuthoritativeStepId : StepId) :
    NimbleServerParticipantConnection :=
  { self with
    steps := nbsStepsReInit latestAuthoritativeStepId
    participantReferences := []
    incomingStepCountInBufferStats := statsIntInit 60
    transportConnectionId := some transportConnectionId
    forcedStepInRowCounter := 0 }

/-- Modelled from the spec: `nbdParticipantConnectionReset` "clears refs, zeroes counters, marks
unused". -/
def nbdParticipantConnectionReset (self : NimbleServerParticipantConnection) :
    NimbleServerParticipantConnection :=
  { self with participantReferences := [], forcedStepInRowCounter := 0, isUsed := false }

/-- `nbdParticipantConnectionHasParticipantId`: a linear scan of the references. -/
def nbdParticipantConnectionHasParticipantId (self : NimbleServerParticipantConnection)
    (participantId : Nat) : Bool :=
  self.participantReferences.contains participantId

/-- The connection at pool index `index` before it is first handed out. -/
def nbdParticipantConnectionUnused (index : Nat) : NimbleServerParticipantConnection :=
  ⟨index, false, nbsStepsReInit 0, [], statsIntInit 60, none, 0⟩

/-- Modelled from the spec: `nbdParticipantConnectionsInit`, `capacityCount` unused connections. -/
def nbdParticipantConnectionsInit (capacityCount maxParticipantCountForConnection
    maxSingleParticipantStepOctetCount : Nat) : NimbleServerParticipantConnections :=
  ⟨(List.range capacityCount).map nbdParticipantConnectionUnused, capacityCount,
    maxParticipantCountForConnection, maxSingleParticipantStepOctetCount⟩

/-- Modelled from the spec: `nbdParticipantConnectionsReset` resets every connection. -/
def nbdParticipantConnectionsReset (self : NimbleServerParticipantConnections) :
    NimbleServerParticipantConnections :=
  { self with connections := self.connections.map nbdParticipantConnectionReset }

/-- Modelled from the spec: `nbdParticipantConnectionsFindConnection`, the first connection bound
to a transport slot, used or freed; `none` is the null pointer. -/
def nbdParticipantConnectionsFindConnection (self : NimbleServerParticipantConnections)
    (transportConnectionId : Nat) : Option Nat :=
  self.connections.findIdx? (·.transportConnectionId == some transportConnectionId)

/-- Modelled from the spec: the first unused connection of the pool. -/
def nbdParticipantConnectionsFindFree (self : NimbleServerParticipantConnections) : Option Nat :=
  self.connections.findIdx? (!·.isUsed)

/-- The pool with the connection at `index` replaced by `f` of it. -/
def NimbleServerParticipantConnections.modify (self : NimbleServerParticipantConnections)
    (index : Nat) (f : NimbleServerParticipantConnection → NimbleServerParticipantConnection) :
    NimbleServerParticipantConnections :=
  { self with connections := self.connections.modify f index }

@[simp] theorem NimbleServerParticipantConnections.modify_capacityCount
    (self : NimbleServerParticipantConnections) (index : Nat) (f) :
    (self.modify index f).capacityCount = self.capacityCount := rfl

@[simp] theorem NimbleServerParticipantConnections.modify_length
    (self : NimbleServerParticipantConnections) (index : Nat) (f) :
    (self.modify index f).connections.length = self.connections.length := by
  simp [NimbleServerParticipantConnections.modify]

theorem NimbleServerParticipantConnections.modify_get? (self : NimbleServerParticipantConnections)
    (index other : Nat) (f) :
    (self.modify index f).connections.get? other =
      if index = other then (self.connections.get? other).map f else self.connections.get? other := by
  simp only [NimbleServerParticipantConnections.modify, List.get?_eq_getElem?, List.getElem?_modify]
  split <;> simp_all

end NimbleServerLib
