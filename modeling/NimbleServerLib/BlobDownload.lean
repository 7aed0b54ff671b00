import NimbleServerLib.FeedSlots
import NimbleServerLib.Run

/-!
# Downloading the game state

A joining client asks for the game state with a DownloadGameStateRequest.  The server answers
with the state's step id, its octet count and a blob-stream channel, and keeps the state as the
slot's outgoing blob stream on that channel.  The client then sends a DownloadGameStateStatus
naming the channel and the first chunk it misses, and the server sends the chunks from there, each
framed with an ordered-datagram header, the chunk command, the channel and the chunk id.

**The round trip** (`download_then_status_delivers_game_state`): a request followed by a status
for the announced channel from chunk 0, both on one slot, makes the server send datagrams whose
payloads after the nine-octet chunk frame are, in the order sent, exactly the game state the
request found, provided the transport accepts every send.  Neither datagram's ordered-datagram
header matters: the feed reads the command whatever the slot's ordered-in logic says of it.
-/

namespace NimbleServerLib

variable {nbsWindowSize : Nat}

/-! ## The command -/

/-- The command `nimbleServerFeed` reads from a datagram with a two-octet header: the third
octet, whatever the slot's ordered-in logic expects. -/
theorem nimbleServerFeedReadCmd_of_header (context : NimbleServerFeedContext)
    (inLogic : OrderedDatagramInLogic) (header rest : List UInt8) (hheader : header.length = 2)
    (cmd : UInt8) :
    nimbleServerFeedReadCmd context
        (orderedDatagramInLogicReceive inLogic (fldInStreamInit (header ++ cmd :: rest))).2.2 =
      (cmd, ⟨header ++ cmd :: rest, 3⟩) := by
  have hheaderRead := @fldInStreamReadOctets_of_drop ⟨header ++ cmd :: rest, 0⟩ header (cmd :: rest)
    (Nat.zero_le _) rfl
  have hcmd := @fldInStreamReadUInt8_of_drop ⟨header ++ cmd :: rest, 2⟩ cmd rest
    (by rw [← hheader]; exact List.drop_left _ _)
  simp only [Nat.zero_add, hheader] at hheaderRead
  rw [orderedDatagramInLogicReceive_inStream _ orderedDatagramInLogicInit]
  simp [orderedDatagramInLogicReceive, fldInStreamReadUInt16, fldInStreamInit,
    orderedDatagramInLogicInit, hheaderRead, nimbleServerFeedReadCmd, hcmd]

/-! ## The chunks -/

/-- With a chunk budget of at least one per octet, the chunks are the octets cut in order. -/
theorem blobStreamChunks_flatten {fuel : Nat} {octets : List UInt8} (h : octets.length ≤ fuel) :
    (blobStreamChunks fuel octets).flatten = octets := by
  induction fuel generalizing octets with
  | zero => rw [List.eq_nil_of_length_eq_zero (Nat.le_zero.mp h)]; rfl
  | succ fuel ih =>
      cases octets with
      | nil => rfl
      | cons octet rest =>
          have hrest : ((octet :: rest).drop blobStreamChunkSize).length ≤ fuel := by
            simp [blobStreamChunkSize] at h ⊢
            omega
          rw [blobStreamChunks, List.flatten_cons, ih hrest, List.take_append_drop]
          exact List.cons_ne_nil _ _

/-- A chunk's payload is what follows its nine-octet frame. -/
theorem blobStreamChunkDatagram_drop (outLogic : OrderedDatagramOutLogic) (channel : BitVec 16)
    (chunkId : Nat) (chunk : List UInt8) :
    (blobStreamChunkDatagram outLogic channel chunkId chunk).drop 9 = chunk :=
  List.drop_left' (by simp)

/-- When the transport accepts every send, the payloads sent are the chunks. -/
theorem blobStreamSendChunks_payloads {transportOut : DatagramTransportOut}
    (haccept : ∀ datagram, 0 ≤ transportOut.send datagram) (channel : BitVec 16)
    (outLogic : OrderedDatagramOutLogic) (chunkId : Nat) (chunks : List (List UInt8)) :
    (blobStreamSendChunks transportOut channel outLogic chunkId chunks).2.1.map (List.drop 9) =
      chunks := by
  induction chunks generalizing outLogic chunkId with
  | nil => rfl
  | cons chunk rest ih =>
      have hpayloads := ih (orderedDatagramOutLogicCommit outLogic) (chunkId + 1)
      simp only [blobStreamSendChunks, if_neg (Int.not_lt.mpr (haccept _))]
      generalize blobStreamSendChunks transportOut channel (orderedDatagramOutLogicCommit outLogic)
        (chunkId + 1) rest = sent at hpayloads ⊢
      simp [blobStreamChunkDatagram_drop, hpayloads]

/-! ## The request and the status -/

theorem nbdReqDownloadGameState_blobStreamOut (transportConnection : NimbleServerTransportConnection)
    (foundGame : NimbleServerGame) {inStream rest : FldInStream} {clientRequestId : UInt8}
    (hread : fldInStreamReadUInt8 inStream = .ok (clientRequestId, rest)) (outStream : FldOutStream) :
    (nbdReqDownloadGameState transportConnection foundGame inStream outStream).1.blobStreamOut =
      some ⟨transportConnection.nextBlobStreamOutChannel, foundGame.latestState.state⟩ := by
  unfold nbdReqDownloadGameState
  rw [hread]
  dsimp only
  split <;> rfl

theorem nimbleServerFeedReply_blobStreamOut (self : NimbleServer) (slot : TransportSlot)
    (request : NimbleServerReqResult) (response : DatagramTransportOut) :
    ((nimbleServerFeedReply self slot request response).server.transportConnections slot).blobStreamOut =
      request.transportConnection.blobStreamOut := by
  unfold nimbleServerFeedReply
  dsimp only
  split_ifs <;> simp

/-- The in-stream `nimbleServerFeed` hands a handler, for a datagram with a two-octet header, holds
the body after the command octet. -/
theorem feedInStream_drop {header : List UInt8} (hheader : header.length = 2) (cmd : UInt8)
    (body : List UInt8) : (⟨header ++ cmd :: body, 3⟩ : FldInStream).octets.drop 3 = body := by
  show (header ++ cmd :: body).drop 3 = body
  rw [List.drop_append_eq_append_drop, List.drop_eq_nil_of_le (by omega), hheader]
  rfl

section Feed

variable {context : NimbleServerFeedContext} {self : NimbleServer} {connectionIndex : UInt8}
  {response : DatagramTransportOut} {fed : NimbleServerFeedResult} {slot : TransportSlot}

/-- **A feed of a datagram with a two-octet header.**  The slot in the pool gets the command the
third octet names: a download status goes to `nbdReqDownloadGameStateAck`, a known request to its
handler and then `nimbleServerFeedReply`, and any other command only stores the slot's new
ordered-in logic.  The handlers read on from the fourth octet. -/
theorem nimbleServerFeed_of_header (hslot : slot.val = connectionIndex.toNat) {header : List UInt8}
    (hheader : header.length = 2) {cmd : UInt8} {body : List UInt8}
    (h : nimbleServerFeed nbsWindowSize context self connectionIndex (header ++ cmd :: body) response =
      .ok fed) :
    let transportConnection := self.transportConnections slot
    let received := { transportConnection with
      orderedDatagramInLogic := (orderedDatagramInLogicReceive transportConnection.orderedDatagramInLogic
        (fldInStreamInit (header ++ cmd :: body))).2.1 }
    let inStream : FldInStream := ⟨header ++ cmd :: body, 3⟩
    let outStream := nimbleServerFeedOutStream transportConnection.orderedDatagramOutLogic
    (cmd = nimbleSerializeCmdDownloadGameStateStatus ∧
        fed = ⟨self.setTransportConnection slot (nbdReqDownloadGameStateAck received inStream response).1,
          (nbdReqDownloadGameStateAck received inStream response).2.2,
          (nbdReqDownloadGameStateAck received inStream response).2.1⟩) ∨
      (cmd ≠ nimbleSerializeCmdDownloadGameStateStatus ∧ ∃ request,
        nimbleServerFeedDispatch nbsWindowSize self received cmd inStream outStream = some request ∧
        fed = nimbleServerFeedReply self slot request response) ∨
      (cmd ≠ nimbleSerializeCmdDownloadGameStateStatus ∧
        nimbleServerFeedDispatch nbsWindowSize self received cmd inStream outStream = none ∧
        fed = ⟨self.setTransportConnection slot received, 0, []⟩) := by
  obtain ⟨_, hat, rfl⟩ := nimbleServerFeed_slot h hslot
  rcases nimbleServerFeed_eq_ok h with ⟨hpast, -⟩ | ⟨slot', transportConnection, hat', hcases⟩
  · exact absurd hpast (by have := slot.isLt; simp only [nbdServerMaxTransportConnections] at this; omega)
  obtain ⟨rfl, rfl⟩ := Prod.mk.inj (Except.ok.inj (hat.symm.trans hat'))
  dsimp only at hcases
  rwa [nimbleServerFeedReadCmd_of_header _ _ _ _ hheader] at hcases

/-- A GameStep datagram with a two-octet header is answered by `nimbleServerReqGameStep` through
`nimbleServerFeedReply`, the handler reading the body from the fourth octet on. -/
theorem nimbleServerFeed_gameStep_eq (hslot : slot.val = connectionIndex.toNat) {header : List UInt8}
    (hheader : header.length = 2) {body : List UInt8}
    (h : nimbleServerFeed nbsWindowSize context self connectionIndex
      (header ++ nimbleSerializeCmdGameStep :: body) response = .ok fed) :
    fed = nimbleServerFeedReply self slot (nimbleServerReqGameStep nbsWindowSize self.game
      self.connections { self.transportConnections slot with
        orderedDatagramInLogic := (orderedDatagramInLogicReceive
          (self.transportConnections slot).orderedDatagramInLogic
          (fldInStreamInit (header ++ nimbleSerializeCmdGameStep :: body))).2.1 }
      self.authoritativeStepsPerSecondStat ⟨header ++ nimbleSerializeCmdGameStep :: body, 3⟩
      (nimbleServerFeedOutStream (self.transportConnections slot).orderedDatagramOutLogic)) response := by
  rcases nimbleServerFeed_of_header hslot hheader h with ⟨hack, -⟩ | ⟨-, request, hdispatch, rfl⟩ |
    ⟨-, hnone, -⟩
  · exact absurd hack (show nimbleSerializeCmdGameStep ≠ nimbleSerializeCmdDownloadGameStateStatus by decide)
  · rw [nimbleServerFeedDispatch, if_pos rfl] at hdispatch
    cases hdispatch
    rfl
  · simp [nimbleServerFeedDispatch] at hnone

/-- A download request leaves the slot streaming the game state on the slot's next channel. -/
theorem nimbleServerFeed_downloadRequest_blobStreamOut (hslot : slot.val = connectionIndex.toNat)
    {header : List UInt8} (hheader : header.length = 2) (clientRequestId : UInt8)
    (h : nimbleServerFeed nbsWindowSize context self connectionIndex
      (header ++ [nimbleSerializeCmdDownloadGameStateRequest, clientRequestId]) response = .ok fed) :
    (fed.server.transportConnections slot).blobStreamOut =
      some ⟨(self.transportConnections slot).nextBlobStreamOutChannel, self.game.latestState.state⟩ := by
  have hread := @fldInStreamReadUInt8_of_drop
    ⟨header ++ [nimbleSerializeCmdDownloadGameStateRequest, clientRequestId], 3⟩ clientRequestId []
    (feedInStream_drop hheader _ _)
  rcases nimbleServerFeed_of_header hslot hheader h with ⟨hack, -⟩ | ⟨-, request, hdispatch, rfl⟩ |
    ⟨-, hnone, -⟩
  · exact absurd hack
      (show nimbleSerializeCmdDownloadGameStateRequest ≠ nimbleSerializeCmdDownloadGameStateStatus by decide)
  · simp only [nimbleServerFeedDispatch, nimbleSerializeCmdGameStep, nimbleSerializeCmdJoinGameRequest,
      nimbleSerializeCmdDownloadGameStateRequest] at hdispatch
    cases hdispatch
    rw [nimbleServerFeedReply_blobStreamOut]
    exact nbdReqDownloadGameState_blobStreamOut _ _ hread _
  · simp [nimbleServerFeedDispatch, nimbleSerializeCmdGameStep, nimbleSerializeCmdJoinGameRequest,
      nimbleSerializeCmdDownloadGameStateRequest] at hnone

/-- A status for the slot's blob stream from chunk 0 sends the stream's chunks from the first. -/
theorem nimbleServerFeed_status_sent (hslot : slot.val = connectionIndex.toNat)
    {header : List UInt8} (hheader : header.length = 2) {blob : BlobStreamOut}
    (hblob : (self.transportConnections slot).blobStreamOut = some blob)
    (h : nimbleServerFeed nbsWindowSize context self connectionIndex
      (header ++ nimbleSerializeCmdDownloadGameStateStatus ::
        (encodeBigEndian 2 blob.channel.toNat ++ encodeBigEndian 4 0)) response = .ok fed) :
    fed.sent = (blobStreamSendChunks response blob.channel
      (self.transportConnections slot).orderedDatagramOutLogic 0
      (blobStreamChunks blob.octets.length blob.octets)).2.1 := by
  rcases nimbleServerFeed_of_header hslot hheader h with ⟨-, rfl⟩ | ⟨hnot, -⟩ | ⟨hnot, -⟩
  · have hchannel := @fldInStreamReadUInt16_of_drop
      ⟨header ++ nimbleSerializeCmdDownloadGameStateStatus ::
        (encodeBigEndian 2 blob.channel.toNat ++ encodeBigEndian 4 0), 3⟩ blob.channel
      (encodeBigEndian 4 0) (feedInStream_drop hheader _ _)
    have hchunk := @fldInStreamReadUInt32_of_drop
      ⟨header ++ nimbleSerializeCmdDownloadGameStateStatus ::
        (encodeBigEndian 2 blob.channel.toNat ++ encodeBigEndian 4 0), 5⟩ 0 []
      (by dsimp only; rw [List.drop_append_eq_append_drop, List.drop_eq_nil_of_le (by omega), hheader]
          simp [encodeBigEndian])
    simp [nbdReqDownloadGameStateAck, hchannel, hchunk, hblob]
  all_goals exact absurd rfl hnot

end Feed

/-- **A download delivers the game state.**  A DownloadGameStateRequest fed on a slot, followed
on the same slot by a DownloadGameStateStatus for the channel the request announced and chunk 0,
makes the server send datagrams whose payloads after the nine-octet chunk frame are, in the order
sent, exactly the game state the request found, when the transport accepts every send. -/
theorem download_then_status_delivers_game_state {context context' : NimbleServerFeedContext}
    {self : NimbleServer} {connectionIndex : UInt8} {slot : TransportSlot}
    (hslot : slot.val = connectionIndex.toNat) {requestHeader statusHeader : List UInt8}
    (hrequestHeader : requestHeader.length = 2) (hstatusHeader : statusHeader.length = 2)
    (clientRequestId : UInt8) {response response' : DatagramTransportOut}
    (haccept : ∀ datagram, 0 ≤ response'.send datagram) {requested answered : NimbleServerFeedResult}
    (hrequest : nimbleServerFeed nbsWindowSize context self connectionIndex
      (requestHeader ++ [nimbleSerializeCmdDownloadGameStateRequest, clientRequestId]) response =
        .ok requested)
    (hstatus : nimbleServerFeed nbsWindowSize context' requested.server connectionIndex
      (statusHeader ++ nimbleSerializeCmdDownloadGameStateStatus ::
        (encodeBigEndian 2 (self.transportConnections slot).nextBlobStreamOutChannel.toNat ++
          encodeBigEndian 4 0)) response' = .ok answered) :
    (answered.sent.map (List.drop 9)).flatten = self.game.latestState.state := by
  have hblob := nimbleServerFeed_downloadRequest_blobStreamOut hslot hrequestHeader clientRequestId
    hrequest
  rw [nimbleServerFeed_status_sent hslot hstatusHeader hblob hstatus,
    blobStreamSendChunks_payloads haccept]
  exact blobStreamChunks_flatten le_rfl

/-- Slot 0 in use on a server holding the two-octet state `[0xAA, 0xBB]`; the client asks for the
state and then reports chunk 0 missing on the channel the request opened. -/
example :
    ∃ connected requested answered,
      nimbleServerRun 90 [.reInitWithGame [0xAA, 0xBB] 0 0, .connectionConnected 0]
          (nimbleServerInit NimbleServer.zeroed ⟨2, 4, 2, 4, 100, 0⟩).1 = some connected ∧
      nimbleServerFeed 90 ⟨false, false, 0⟩ connected 0 [0, 0, 3, 0]
          ⟨fun octets => octets.length⟩ = .ok requested ∧
      nimbleServerFeed 90 ⟨false, false, 0⟩ requested.server 0
          ([0, 1] ++ nimbleSerializeCmdDownloadGameStateStatus ::
            (encodeBigEndian 2 (connected.transportConnections 0).nextBlobStreamOutChannel.toNat ++
              encodeBigEndian 4 0)) ⟨fun octets => octets.length⟩ = .ok answered ∧
      (answered.sent.map (List.drop 9)).flatten = connected.game.latestState.state :=
  ⟨_, _, _, rfl, rfl, rfl, @download_then_status_delivers_game_state 90 ⟨false, false, 0⟩
    ⟨false, false, 0⟩ _ 0 0 rfl [0, 0] [0, 1] rfl rfl 0 ⟨fun octets => octets.length⟩
    ⟨fun octets => octets.length⟩ (fun _ => Int.natCast_nonneg _) _ _ (by exact rfl) (by exact rfl)⟩

end NimbleServerLib
