import NimbleServerLib.ReqStep

/-!
# The server record

`NimbleServer` aggregates the game, the participant-connection pool, the fixed array of transport
slots, the setup it was initialised with and the statistics.  The array has
`NBD_SERVER_MAX_TRANSPORT_CONNECTIONS` slots and is a function on `Fin` of that size: an index the
server computes is checked against the bound where the C code would index the array, and an index
past it is a fault (`NimbleServerFault`), not a value.

Two things a call finds outside the server record are made explicit in `NimbleServerFeedContext`:
whether the log macros evaluate their arguments (`CLOG_C_VERBOSE` at `server.c:49` reads
`data[2]`, `CLOG_SOFT_ERROR` at `server.c:97` reads `data[0]`), and the indeterminate value that the
uninitialised `cmd` of `nimbleServerFeed` holds when its read fails.

The command codes of nimble-serialize are not under `src/`; their values here are the model's.
-/

namespace NimbleServerLib

/-- Modelled from the spec: `NBD_SERVER_MAX_TRANSPORT_CONNECTIONS`, the hard limit of 64 transport
slots ("65th connection index ⇒ feed returns -13"). -/
def nbdServerMaxTransportConnections : Nat := 64

/-- A transport slot index that is inside the array. -/
abbrev TransportSlot := Fin nbdServerMaxTransportConnections

instance : @NeZero Nat (@Zero.ofOfNat0 Nat (instOfNatNat 0)) nbdServerMaxTransportConnections :=
  ⟨Nat.succ_ne_zero 63⟩

/-! ## Commands -/

/-- Modelled from the spec: `NimbleSerializeCmdJoinGameRequest`. -/
def nimbleSerializeCmdJoinGameRequest : UInt8 := 0x01

/-- Modelled from the spec: `NimbleSerializeCmdGameStep`. -/
def nimbleSerializeCmdGameStep : UInt8 := 0x02

/-- Modelled from the spec: `NimbleSerializeCmdDownloadGameStateRequest`. -/
def nimbleSerializeCmdDownloadGameStateRequest : UInt8 := 0x03

/-- Modelled from the spec: `NimbleSerializeCmdDownloadGameStateStatus`. -/
def nimbleSerializeCmdDownloadGameStateStatus : UInt8 := 0x04

/-- Modelled from the spec: the command byte of a join reply. -/
def nimbleSerializeCmdJoinGameResponse : UInt8 := 0x11

/-- Modelled from the spec: the command byte of a download reply. -/
def nimbleSerializeCmdDownloadGameStateResponse : UInt8 := 0x13

/-- Modelled from the spec: the command byte of a blob-stream chunk. -/
def nimbleSerializeCmdBlobStreamChunk : UInt8 := 0x14

/-! ## The record -/

/-- `NimbleServerSetup`, with the limits the server reads. -/
structure NimbleServerSetup where
  maxConnectionCount : Nat
  maxParticipantCount : Nat
  maxParticipantCountForEachConnection : Nat
  maxSingleParticipantStepOctetCount : Nat
  maxGameStateOctetCount : Nat
  now : Nat
  deriving DecidableEq, Repr

/-- `NimbleServer`. -/
structure NimbleServer where
  game : NimbleServerGame
  connections : NimbleServerParticipantConnections
  transportConnections : TransportSlot → NimbleServerTransportConnection
  setup : NimbleServerSetup
  statsCounter : Nat
  authoritativeStepsPerSecondStat : StatsIntPerSecond

/-- A transport slot in zero-initialised storage. -/
def NimbleServerTransportConnection.zeroed : NimbleServerTransportConnection :=
  ⟨0, false, none, ⟨false, 0⟩, ⟨0⟩, 0, 0, none, 0, 0, 0, .idle, ⟨0, []⟩⟩

/-- The server record in zero-initialised storage, as a static `NimbleServer` starts out before
`nimbleServerInit`. -/
def NimbleServer.zeroed : NimbleServer :=
  ⟨⟨⟨[], 0, 0, 0⟩, ⟨0, []⟩, [], false, 0, 0, 0⟩, ⟨[], 0, 0, 0⟩,
    fun _ => NimbleServerTransportConnection.zeroed, ⟨0, 0, 0, 0, 0, 0⟩, 0, ⟨0, 0, 0, 0⟩⟩

/-- An access the C code makes outside the bounds of an array: undefined behaviour. -/
inductive NimbleServerFault
  | transportConnectionOutOfRange (index : Int)
  | datagramOutOfRange (index : Nat)
  deriving DecidableEq, Repr

/-- What a call of `nimbleServerFeed` finds outside the server record: whether the verbose and
soft-error log macros evaluate their arguments, and the indeterminate value of `cmd` when its
read fails. -/
structure NimbleServerFeedContext where
  verboseLogging : Bool
  softErrorLogging : Bool
  uninitializedCmd : UInt8
  deriving DecidableEq, Repr

/-- Modelled from the spec: the send side of a transport, `DatagramTransportOut`.  `send` is what
the transport returns for a datagram: its octet count, or a negative failure. -/
structure DatagramTransportOut where
  send : List UInt8 → Int

/-- The slot `index` of the array, when the index is inside it. -/
def NimbleServer.transportConnectionAt (self : NimbleServer) (index : Int) :
    Except NimbleServerFault (TransportSlot × NimbleServerTransportConnection) :=
  if h : 0 ≤ index ∧ index.toNat < nbdServerMaxTransportConnections then
    .ok (⟨index.toNat, h.2⟩, self.transportConnections ⟨index.toNat, h.2⟩)
  else .error (.transportConnectionOutOfRange index)

/-- The server with the slot `slot` replaced. -/
def NimbleServer.setTransportConnection (self : NimbleServer) (slot : TransportSlot)
    (transportConnection : NimbleServerTransportConnection) : NimbleServer :=
  { self with transportConnections := Function.update self.transportConnections slot transportConnection }

section SetTransportConnection

variable (self : NimbleServer) (slot : TransportSlot) (tc : NimbleServerTransportConnection)

@[simp] theorem setTransportConnection_game : (self.setTransportConnection slot tc).game = self.game :=
  rfl

@[simp] theorem setTransportConnection_connections :
    (self.setTransportConnection slot tc).connections = self.connections := rfl

@[simp] theorem setTransportConnection_setup :
    (self.setTransportConnection slot tc).setup = self.setup := rfl

@[simp] theorem setTransportConnection_statsCounter :
    (self.setTransportConnection slot tc).statsCounter = self.statsCounter := rfl

@[simp] theorem setTransportConnection_same :
    (self.setTransportConnection slot tc).transportConnections slot = tc := by
  simp [NimbleServer.setTransportConnection]

theorem setTransportConnection_other {other : TransportSlot} (h : other ≠ slot) :
    (self.setTransportConnection slot tc).transportConnections other = self.transportConnections other := by
  simp [NimbleServer.setTransportConnection, h]

end SetTransportConnection

theorem transportConnectionAt_eq_ok {self : NimbleServer} {index : Int} {slot : TransportSlot}
    {tc : NimbleServerTransportConnection} :
    self.transportConnectionAt index = .ok (slot, tc) ↔
      index = slot.val ∧ tc = self.transportConnections slot := by
  unfold NimbleServer.transportConnectionAt
  split
  · rename_i h
    simp only [Except.ok.injEq, Prod.mk.injEq]
    constructor
    · rintro ⟨rfl, rfl⟩
      exact ⟨by simp; omega, rfl⟩
    · rintro ⟨rfl, rfl⟩
      exact ⟨rfl, rfl⟩
  · rename_i h
    simp only [reduceCtorEq, false_iff, not_and]
    rintro rfl
    exact absurd ⟨by omega, by simp⟩ h

end NimbleServerLib
