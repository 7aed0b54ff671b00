import NimbleServerLib.State

/-!
# The join, download and download-status requests

`nimbleServerFeed` dispatches three commands besides GameStep.  Their handlers
(`req_join_game.c`, `req_download_game_state.c`, `req_download_game_state_ack.c`) are not under
`src/`; they are modelled from the spec (sections 4.2, 4.3 and 4.7):

* **JoinGameRequest** allocates participants and, on a slot's first successful join, a participant
  connection whose step ring starts at the authoritative write head; the slot then points at it.
  The reply names the assigned participant ids and the latest state's step id.
* **DownloadGameStateRequest** starts a blob stream of the latest game state on the slot's next
  channel and fixes the slot's phase and cursor at the state's step id; the reply names the
  request id, the step id, the state's length and the channel.
* **DownloadGameStateStatus** acknowledges the chunks the client has; the blob stream answers with
  the chunks it still misses, each its own ordered datagram.

## The wire format of the modelled parts

A join request is a local player count (`u8`) and one local index (`u8`) per local player.  A
download request is a client request id (`u8`).  A download status is a channel (`u16`) and the
index of the first chunk the client misses (`u32`).
-/

namespace NimbleServerLib

/-! ## Join -/

/-- Modelled from the spec: the failure of a join that asks for no or too many local players. -/
def nimbleServerErrJoinLocalPlayerCount : Int := -30

/-- Modelled from the spec: the failure of a join when the participant ids are used up. -/
def nimbleServerErrNoParticipantSlots : Int := -31

/-- Modelled from the spec: the failure of a join when every participant connection is in use. -/
def nimbleServerErrJoinFull : Int := -32

/-- The octets of a join reply. -/
def joinGameResponseOctets (participants : List NimbleServerParticipant) (stepId : StepId) :
    List UInt8 :=
  [nimbleSerializeCmdJoinGameResponse, UInt8.ofNat participants.length] ++
    participants.flatMap (fun p => [UInt8.ofNat p.localIndex, UInt8.ofNat p.participantId]) ++
    encodeBigEndian 4 stepId.toNat

/-- The participant connection a slot already owns: the one it points at, when in use. -/
def joinedParticipantConnection (connections : NimbleServerParticipantConnections)
    (transportConnection : NimbleServerTransportConnection) : Option Nat :=
  transportConnection.assignedParticipantConnection.filter fun index =>
    (connections.connections.get? index).any (·.isUsed)

/-- Modelled from the spec: `nbdReqGameJoin`. -/
def nbdReqGameJoin (self : NimbleServer) (transportConnection : NimbleServerTransportConnection)
    (inStream : FldInStream) (outStream : FldOutStream) : NimbleServerReqResult :=
  let fail := fun (inStream : FldInStream) (err : Int) =>
    (⟨self.game, self.connections, transportConnection, self.authoritativeStepsPerSecondStat,
      inStream, outStream, err⟩ : NimbleServerReqResult)
  let reply := fun (game : NimbleServerGame) (connections : NimbleServerParticipantConnections)
      (transportConnection : NimbleServerTransportConnection) (inStream : FldInStream)
      (participants : List NimbleServerParticipant) =>
    match fldOutStreamWriteOctets outStream
        (joinGameResponseOctets participants game.latestState.stepId) with
    | .error err => (⟨game, connections, transportConnection, self.authoritativeStepsPerSecondStat,
        inStream, outStream, err⟩ : NimbleServerReqResult)
    | .ok outStream => ⟨game, connections, transportConnection, self.authoritativeStepsPerSecondStat,
        inStream, outStream, 0⟩
  match fldInStreamReadUInt8 inStream with
  | .error err => fail inStream err
  | .ok (localPlayerCount, inStream) =>
    match fldInStreamReadOctets inStream localPlayerCount.toNat with
    | .error err => fail inStream err
    | .ok (localIndices, inStream) =>
      if localPlayerCount = 0 ∨
          self.setup.maxParticipantCountForEachConnection < localPlayerCount.toNat then
        fail inStream nimbleServerErrJoinLocalPlayerCount
      else
        match joinedParticipantConnection self.connections transportConnection with
        | some index =>
          reply self.game self.connections transportConnection inStream
            (self.game.participants.filter (·.participantConnectionIndex == index))
        | none =>
          if self.game.maxParticipantCount < self.game.participants.length + localPlayerCount.toNat then
            fail inStream nimbleServerErrNoParticipantSlots
          else
            match nbdParticipantConnectionsFindFree self.connections with
            | none => fail inStream nimbleServerErrJoinFull
            | some index =>
              let participants := nbdParticipantsJoin self.game.participants index
                (localIndices.map UInt8.toNat)
              let joined := participants.drop self.game.participants.length
              let connections := self.connections.modify index fun connection =>
                { nbdParticipantConnectionInit connection transportConnection.transportConnectionId
                    self.game.authoritativeSteps.expectedWriteId with
                  id := index
                  isUsed := true
                  participantReferences := joined.map (·.participantId) }
              reply { self.game with participants := participants } connections
                { transportConnection with assignedParticipantConnection := some index } inStream
                joined

/-! ## Download -/

/-- The octets of a download reply. -/
def downloadGameStateResponseOctets (clientRequestId : UInt8) (gameState : NimbleServerGameState)
    (channel : BitVec 16) : List UInt8 :=
  [nimbleSerializeCmdDownloadGameStateResponse, clientRequestId] ++
    encodeBigEndian 4 gameState.stepId.toNat ++ encodeBigEndian 4 gameState.state.length ++
    encodeBigEndian 2 channel.toNat

/-- Modelled from the spec: `nbdReqDownloadGameState` starts a blob stream of the latest game
state on the slot's next channel. -/
def nbdReqDownloadGameState (transportConnection : NimbleServerTransportConnection)
    (foundGame : NimbleServerGame) (inStream : FldInStream) (outStream : FldOutStream) :
    NimbleServerTransportConnection × FldInStream × FldOutStream × Int :=
  match fldInStreamReadUInt8 inStream with
  | .error err => (transportConnection, inStream, outStream, err)
  | .ok (clientRequestId, inStream) =>
    let channel := transportConnection.nextBlobStreamOutChannel
    let transportConnection := transportConnectionSetGameStateTickId
      { transportConnection with
        nextBlobStreamOutChannel := channel + 1
        blobStreamOutClientRequestId := clientRequestId
        blobStreamOut := some ⟨channel, foundGame.latestState.state⟩ }
      foundGame.latestState.stepId
    match fldOutStreamWriteOctets outStream
        (downloadGameStateResponseOctets clientRequestId foundGame.latestState channel) with
    | .error err => (transportConnection, inStream, outStream, err)
    | .ok outStream => (transportConnection, inStream, outStream, 0)

/-! ## Download status -/

/-- Modelled from the spec: the failure of a status for a channel with no blob stream. -/
def nimbleServerErrUnknownBlobChannel : Int := -40

/-- The octets a blob-stream chunk carries.  The spec gives no chunk size; the model fixes it at
1024, so that a chunk behind its nine-octet frame fits `UDP_MAX_SIZE` (1200). -/
def blobStreamChunkSize : Nat := 1024

/-- The chunks of a blob, `blobStreamChunkSize` octets each but the last. -/
def blobStreamChunks : Nat → List UInt8 → List (List UInt8)
  | 0, _ => []
  | _, [] => []
  | fuel + 1, octets => octets.take blobStreamChunkSize :: blobStreamChunks fuel (octets.drop blobStreamChunkSize)

/-- The datagram of chunk `chunkId`, framed with the slot's next ordered-datagram id. -/
def blobStreamChunkDatagram (outLogic : OrderedDatagramOutLogic) (channel : BitVec 16)
    (chunkId : Nat) (chunk : List UInt8) : List UInt8 :=
  encodeBigEndian 2 outLogic.sequenceToSend.toNat ++ [nimbleSerializeCmdBlobStreamChunk] ++
    encodeBigEndian 2 channel.toNat ++ encodeBigEndian 4 chunkId ++ chunk

/-- Sends chunks `chunkId, chunkId + 1, …`, committing an ordered-datagram id for each, and stops
at the first send the transport refuses. -/
def blobStreamSendChunks (transportOut : DatagramTransportOut) (channel : BitVec 16) :
    OrderedDatagramOutLogic → Nat → List (List UInt8) →
      OrderedDatagramOutLogic × List (List UInt8) × Int
  | outLogic, _, [] => (outLogic, [], 0)
  | outLogic, chunkId, chunk :: rest =>
      let datagram := blobStreamChunkDatagram outLogic channel chunkId chunk
      let outLogic := orderedDatagramOutLogicCommit outLogic
      let sendResult := transportOut.send datagram
      if sendResult < 0 then (outLogic, [datagram], sendResult)
      else
        let (outLogic, sent, result) := blobStreamSendChunks transportOut channel outLogic (chunkId + 1) rest
        (outLogic, datagram :: sent, result)

/-- Modelled from the spec, with a simpler status body: `nbdReqDownloadGameStateAck` answers a
status with the chunks the client still misses.  The spec's status carries the channel and a chunk
ack bitmap; the model reads the channel (`u16`) and the index of the first chunk the client misses
(`u32`), which acknowledges every chunk before it, and resends every chunk from there.  It returns
the slot, the datagrams handed to the transport and its result. -/
def nbdReqDownloadGameStateAck (transportConnection : NimbleServerTransportConnection)
    (inStream : FldInStream) (transportOut : DatagramTransportOut) :
    NimbleServerTransportConnection × List (List UInt8) × Int :=
  match fldInStreamReadUInt16 inStream with
  | .error err => (transportConnection, [], err)
  | .ok (channel, inStream) =>
    match fldInStreamReadUInt32 inStream with
    | .error err => (transportConnection, [], err)
    | .ok (firstMissingChunk, _) =>
      match transportConnection.blobStreamOut with
      | some blob =>
        if blob.channel = channel then
          let chunks := (blobStreamChunks blob.octets.length blob.octets).drop firstMissingChunk.toNat
          let (outLogic, sent, result) := blobStreamSendChunks transportOut channel
            transportConnection.orderedDatagramOutLogic firstMissingChunk.toNat chunks
          ({ transportConnection with orderedDatagramOutLogic := outLogic }, sent, result)
        else (transportConnection, [], nimbleServerErrUnknownBlobChannel)
      | none => (transportConnection, [], nimbleServerErrUnknownBlobChannel)

end NimbleServerLib
