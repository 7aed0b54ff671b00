import NimbleServerLib.ReplySequence

/-!
# What a feed writes of the transport slots

`nimbleServerFeed`, `nimbleServerConnectionConnected` and `nimbleServerConnectionDisconnected`
each write the transport slot they are called for and no other: they go through
`setTransportConnection` at their own index.  Within the slot, no request handler writes the
slot's id or its use flag (`NimbleServerTransportConnection.Keeps`), and only
`orderedDatagramOutLogicCommit` moves the ordered-datagram id of the replies.  It moves it once
for every datagram the feed hands to the transport, the chunks of a blob stream included, so the
datagrams one feed sends carry consecutive ids from the slot's next one
(`nimbleServerFeed_sent_ids`).
-/

namespace NimbleServerLib

variable {nbsWindowSize : Nat}

open NimbleServerTransportConnection

/-! ## What a handler keeps of the slot -/

/-- What no request handler writes in a transport slot: the slot's id and its use flag. -/
structure NimbleServerTransportConnection.Keeps (before after : NimbleServerTransportConnection) :
    Prop where
  transportConnectionId_eq : after.transportConnectionId = before.transportConnectionId
  isUsed_eq : after.isUsed = before.isUsed

theorem NimbleServerTransportConnection.Keeps.refl (transportConnection : NimbleServerTransportConnection) :
    transportConnection.Keeps transportConnection :=
  ⟨rfl, rfl⟩

theorem NimbleServerTransportConnection.Keeps.trans {first middle last : NimbleServerTransportConnection}
    (h₁ : first.Keeps middle) (h₂ : middle.Keeps last) : first.Keeps last :=
  ⟨h₂.transportConnectionId_eq.trans h₁.transportConnectionId_eq, h₂.isUsed_eq.trans h₁.isUsed_eq⟩

/-- Receiving a datagram writes only the slot's ordered-in logic. -/
theorem NimbleServerTransportConnection.Keeps.received (transportConnection : NimbleServerTransportConnection)
    (inLogic : OrderedDatagramInLogic) :
    transportConnection.Keeps { transportConnection with orderedDatagramInLogic := inLogic } :=
  ⟨rfl, rfl⟩

/-- The sender writes only the slot's cursor and its count of replies with no range. -/
theorem nimbleServerSendStepRanges_frame (outStream : FldOutStream)
    (transportConnection : NimbleServerTransportConnection) (foundGame : NimbleServerGame)
    (clientWaitingForStepId : StepId) :
    ∃ noRangesToSendCounter nextAuthoritativeStepIdToSend,
      (nimbleServerSendStepRanges outStream transportConnection foundGame clientWaitingForStepId).1 =
        { transportConnection with
          noRangesToSendCounter := noRangesToSendCounter
          nextAuthoritativeStepIdToSend := nextAuthoritativeStepIdToSend } := by
  unfold nimbleServerSendStepRanges
  dsimp only
  generalize (if (_ : Nat) ≤ (_ : Nat) then max (_ : Nat) _ else (_ : Nat)) = startOffset
  split_ifs
  · exact ⟨_, _, rfl⟩
  · exact ⟨_, _, rfl⟩
  · split <;> exact ⟨_, _, rfl⟩

/-- A GameStep request writes only the slot's step statistics and what the sender writes. -/
theorem nimbleServerReqGameStep_frame (foundGame : NimbleServerGame)
    (connections : NimbleServerParticipantConnections)
    (transportConnection : NimbleServerTransportConnection) (stat : StatsIntPerSecond)
    (inStream : FldInStream) (outStream : FldOutStream) :
    ∃ stepsBehindStats noRangesToSendCounter nextAuthoritativeStepIdToSend,
      (nimbleServerReqGameStep nbsWindowSize foundGame connections transportConnection stat inStream
        outStream).transportConnection =
        { transportConnection with
          stepsBehindStats := stepsBehindStats
          noRangesToSendCounter := noRangesToSendCounter
          nextAuthoritativeStepIdToSend := nextAuthoritativeStepIdToSend } := by
  unfold nimbleServerReqGameStep
  dsimp only
  split
  · exact ⟨_, _, _, rfl⟩
  · obtain ⟨noRangesToSendCounter, nextAuthoritativeStepIdToSend, h⟩ :=
      nimbleServerSendStepRanges_frame outStream
        (nimbleServerTransportConnectionUpdateStats transportConnection _ _) _ _
    exact ⟨_, noRangesToSendCounter, nextAuthoritativeStepIdToSend, h⟩

theorem nimbleServerReqGameStep_connections (foundGame : NimbleServerGame)
    (connections : NimbleServerParticipantConnections)
    (transportConnection : NimbleServerTransportConnection) (stat : StatsIntPerSecond)
    (inStream : FldInStream) (outStream : FldOutStream) :
    (nimbleServerReqGameStep nbsWindowSize foundGame connections transportConnection stat inStream
      outStream).connections = (readIncomingStepsAndCreateAuthoritativeSteps nbsWindowSize foundGame
        connections inStream transportConnection stat).connections := by
  unfold nimbleServerReqGameStep
  dsimp only
  split <;> rfl

theorem nimbleServerReqGameStep_keeps (foundGame : NimbleServerGame)
    (connections : NimbleServerParticipantConnections)
    (transportConnection : NimbleServerTransportConnection) (stat : StatsIntPerSecond)
    (inStream : FldInStream) (outStream : FldOutStream) :
    transportConnection.Keeps (nimbleServerReqGameStep nbsWindowSize foundGame connections
      transportConnection stat inStream outStream).transportConnection := by
  obtain ⟨_, _, _, h⟩ := @nimbleServerReqGameStep_frame nbsWindowSize foundGame connections
    transportConnection stat inStream outStream
  rw [h]
  exact ⟨rfl, rfl⟩

/-- A join writes only the slot's pointer to the participant connection it hands out. -/
theorem nbdReqGameJoin_frame (self : NimbleServer)
    (transportConnection : NimbleServerTransportConnection) (inStream : FldInStream)
    (outStream : FldOutStream) :
    (nbdReqGameJoin self transportConnection inStream outStream).transportConnection =
        transportConnection ∨
      ∃ index, (nbdReqGameJoin self transportConnection inStream outStream).transportConnection =
        { transportConnection with assignedParticipantConnection := some index } := by
  unfold nbdReqGameJoin
  dsimp only
  repeat' split
  all_goals first | exact .inl rfl | exact .inr ⟨_, rfl⟩

/-- A download request that reads its request id starts a blob stream on the slot's next channel
and fixes the slot's initial state at the game state's step id. -/
theorem nbdReqDownloadGameState_frame (transportConnection : NimbleServerTransportConnection)
    (foundGame : NimbleServerGame) (inStream : FldInStream) (outStream : FldOutStream) :
    (nbdReqDownloadGameState transportConnection foundGame inStream outStream).1 =
        transportConnection ∨
      ∃ clientRequestId,
        (nbdReqDownloadGameState transportConnection foundGame inStream outStream).1 =
          transportConnectionSetGameStateTickId { transportConnection with
            nextBlobStreamOutChannel := transportConnection.nextBlobStreamOutChannel + 1
            blobStreamOutClientRequestId := clientRequestId
            blobStreamOut := some ⟨transportConnection.nextBlobStreamOutChannel,
              foundGame.latestState.state⟩ } foundGame.latestState.stepId := by
  unfold nbdReqDownloadGameState
  dsimp only
  split
  · exact .inl rfl
  · split <;> exact .inr ⟨_, rfl⟩

/-- A download status writes only the slot's ordered-datagram id of the replies. -/
theorem nbdReqDownloadGameStateAck_frame (transportConnection : NimbleServerTransportConnection)
    (inStream : FldInStream) (transportOut : DatagramTransportOut) :
    ∃ outLogic, (nbdReqDownloadGameStateAck transportConnection inStream transportOut).1 =
      { transportConnection with orderedDatagramOutLogic := outLogic } := by
  unfold nbdReqDownloadGameStateAck
  repeat' split
  all_goals exact ⟨_, rfl⟩

theorem nbdReqGameJoin_keeps (self : NimbleServer)
    (transportConnection : NimbleServerTransportConnection) (inStream : FldInStream)
    (outStream : FldOutStream) :
    transportConnection.Keeps (nbdReqGameJoin self transportConnection inStream outStream).transportConnection := by
  rcases nbdReqGameJoin_frame self transportConnection inStream outStream with h | ⟨_, h⟩ <;>
    rw [h] <;> exact ⟨rfl, rfl⟩

theorem nbdReqDownloadGameState_keeps (transportConnection : NimbleServerTransportConnection)
    (foundGame : NimbleServerGame) (inStream : FldInStream) (outStream : FldOutStream) :
    transportConnection.Keeps (nbdReqDownloadGameState transportConnection foundGame inStream outStream).1 := by
  rcases nbdReqDownloadGameState_frame transportConnection foundGame inStream outStream with
    h | ⟨_, h⟩ <;> rw [h] <;> exact ⟨rfl, rfl⟩

theorem nimbleServerFeedDispatch_keeps {self : NimbleServer}
    {transportConnection : NimbleServerTransportConnection} {cmd : UInt8} {inStream : FldInStream}
    {outStream : FldOutStream} {request : NimbleServerReqResult}
    (h : nimbleServerFeedDispatch nbsWindowSize self transportConnection cmd inStream outStream =
      some request) :
    transportConnection.Keeps request.transportConnection := by
  unfold nimbleServerFeedDispatch at h
  split_ifs at h <;> cases h
  · exact nimbleServerReqGameStep_keeps _ _ _ _ _ _
  · exact nbdReqGameJoin_keeps _ _ _ _
  · exact nbdReqDownloadGameState_keeps _ _ _ _

/-! ## Blob-stream chunks -/

/-- The chunks of a blob stream go out with consecutive ordered-datagram ids from the slot's next
one, and the slot ends at the id after the last chunk handed to the transport. -/
theorem blobStreamSendChunks_ids (transportOut : DatagramTransportOut) (channel : BitVec 16)
    (outLogic : OrderedDatagramOutLogic) (chunkId : Nat) (chunks : List (List UInt8)) :
    let sent := blobStreamSendChunks transportOut channel outLogic chunkId chunks
    sent.2.1.map orderedDatagramSequenceIdOf = stepIdsFrom outLogic.sequenceToSend sent.2.1.length ∧
      sent.1.sequenceToSend = outLogic.sequenceToSend + BitVec.ofNat 16 sent.2.1.length := by
  induction chunks generalizing outLogic chunkId with
  | nil => simp [blobStreamSendChunks, stepIdsFrom]
  | cons chunk rest ih =>
      have hid : orderedDatagramSequenceIdOf (blobStreamChunkDatagram outLogic channel chunkId chunk) =
          outLogic.sequenceToSend := by
        simp only [blobStreamChunkDatagram, List.append_assoc]
        exact orderedDatagramSequenceIdOf_prepare _ _
      have hrest := ih (orderedDatagramOutLogicCommit outLogic) (chunkId + 1)
      simp only [blobStreamSendChunks]
      generalize blobStreamSendChunks transportOut channel (orderedDatagramOutLogicCommit outLogic)
        (chunkId + 1) rest = sentRest at hrest ⊢
      obtain ⟨outLogic', sent, result⟩ := sentRest
      obtain ⟨hids, hseq⟩ := hrest
      split
      · exact ⟨by simp [hid, stepIdsFrom], by simp [orderedDatagramOutLogicCommit]⟩
      · refine ⟨by simp [hid, hids, stepIdsFrom, orderedDatagramOutLogicCommit], ?_⟩
        simp only [List.length_cons] at hseq ⊢
        rw [hseq, orderedDatagramOutLogicCommit, ofNat_succ_eq]

/-- A status for a blob stream sends chunks with consecutive ids from the slot's next one and
writes nothing else of the slot but its sending half. -/
theorem nbdReqDownloadGameStateAck_ids (transportConnection : NimbleServerTransportConnection)
    (inStream : FldInStream) (transportOut : DatagramTransportOut) :
    let ack := nbdReqDownloadGameStateAck transportConnection inStream transportOut
    transportConnection.Keeps ack.1 ∧
      ack.2.1.map orderedDatagramSequenceIdOf =
        stepIdsFrom transportConnection.orderedDatagramOutLogic.sequenceToSend ack.2.1.length ∧
      ack.1.orderedDatagramOutLogic.sequenceToSend =
        transportConnection.orderedDatagramOutLogic.sequenceToSend + BitVec.ofNat 16 ack.2.1.length := by
  unfold nbdReqDownloadGameStateAck
  repeat' split
  all_goals first
    | exact ⟨⟨rfl, rfl⟩, rfl, by simp⟩
    | skip
  rename_i _ channel _ _ _ firstMissingChunk _ _ _ blob _ _
  have hsend := blobStreamSendChunks_ids transportOut channel transportConnection.orderedDatagramOutLogic
    firstMissingChunk.toNat ((blobStreamChunks blob.octets.length blob.octets).drop firstMissingChunk.toNat)
  dsimp only at hsend ⊢
  generalize blobStreamSendChunks _ _ _ _ _ = chunksSent at hsend ⊢
  exact ⟨⟨rfl, rfl⟩, hsend⟩

/-! ## One feed -/

theorem nimbleServerFeedReply_other (self : NimbleServer) {slot other : TransportSlot}
    (request : NimbleServerReqResult) (response : DatagramTransportOut) (hother : other ≠ slot) :
    (nimbleServerFeedReply self slot request response).server.transportConnections other =
      self.transportConnections other := by
  unfold nimbleServerFeedReply
  dsimp only
  split_ifs <;> simp [setTransportConnection_other _ _ _ hother]

theorem nimbleServerFeedReply_keeps (self : NimbleServer) (slot : TransportSlot)
    (request : NimbleServerReqResult) (response : DatagramTransportOut) :
    request.transportConnection.Keeps
      ((nimbleServerFeedReply self slot request response).server.transportConnections slot) := by
  unfold nimbleServerFeedReply
  dsimp only
  split_ifs <;> constructor <;> simp

section Feed

variable {context : NimbleServerFeedContext} {self : NimbleServer} {connectionIndex : UInt8}
  {data : List UInt8} {response : DatagramTransportOut} {fed : NimbleServerFeedResult}

/-- A feed leaves every other slot as it was. -/
theorem nimbleServerFeed_other
    (h : nimbleServerFeed nbsWindowSize context self connectionIndex data response = .ok fed)
    {other : TransportSlot} (hother : other.val ≠ connectionIndex.toNat) :
    fed.server.transportConnections other = self.transportConnections other := by
  rcases nimbleServerFeed_eq_ok h with ⟨-, rfl⟩ | ⟨slot, transportConnection, hat, hcases⟩
  · rfl
  obtain ⟨hindex, rfl⟩ := transportConnectionAt_eq_ok.mp hat
  have hne : other ≠ slot := fun heq => hother (by subst heq; omega)
  dsimp only at hcases
  rcases hcases with ⟨-, rfl⟩ | ⟨-, request, -, rfl⟩ | ⟨-, -, rfl⟩
  · exact setTransportConnection_other _ _ _ hne
  · exact nimbleServerFeedReply_other _ _ _ hne
  · exact setTransportConnection_other _ _ _ hne

/-- The slot a feed is for, read back at its index inside the array. -/
theorem nimbleServerFeed_slot
    (h : nimbleServerFeed nbsWindowSize context self connectionIndex data response = .ok fed)
    {slot : TransportSlot} (hslot : slot.val = connectionIndex.toNat) :
    ∃ transportConnection,
      self.transportConnectionAt connectionIndex.toNat = .ok (slot, transportConnection) ∧
      transportConnection = self.transportConnections slot := by
  rcases nimbleServerFeed_eq_ok h with ⟨hpast, -⟩ | ⟨slot', transportConnection, hat, -⟩
  · exact absurd hpast (by have := slot.isLt; simp only [nbdServerMaxTransportConnections] at this; omega)
  obtain ⟨hindex, rfl⟩ := transportConnectionAt_eq_ok.mp hat
  obtain rfl : slot' = slot := Fin.ext (by omega)
  exact ⟨_, hat, rfl⟩

/-- A feed keeps its own slot's id and use flag. -/
theorem nimbleServerFeed_keeps
    (h : nimbleServerFeed nbsWindowSize context self connectionIndex data response = .ok fed)
    {slot : TransportSlot} (hslot : slot.val = connectionIndex.toNat) :
    (self.transportConnections slot).Keeps (fed.server.transportConnections slot) := by
  obtain ⟨_, hat, rfl⟩ := nimbleServerFeed_slot h hslot
  rcases nimbleServerFeed_eq_ok h with ⟨-, rfl⟩ | ⟨slot', transportConnection, hat', hcases⟩
  · exact .refl _
  obtain ⟨rfl, rfl⟩ := Prod.mk.inj (Except.ok.inj (hat.symm.trans hat'))
  dsimp only at hcases
  rcases hcases with ⟨-, rfl⟩ | ⟨-, request, hdispatch, rfl⟩ | ⟨-, -, rfl⟩
  · simp only [setTransportConnection_same]
    exact (Keeps.received _ _).trans (nbdReqDownloadGameStateAck_ids _ _ _).1
  · exact ((Keeps.received _ _).trans (nimbleServerFeedDispatch_keeps hdispatch)).trans
      (nimbleServerFeedReply_keeps _ _ _ _)
  · simp only [setTransportConnection_same]
    exact ⟨rfl, rfl⟩

/-- **Every datagram a feed sends takes the slot's next ordered-datagram id.**  Whatever the
command, a status for a blob stream included, the datagrams one feed hands to the transport carry
consecutive ids from the slot's next one, and the slot ends at the id after the last. -/
theorem nimbleServerFeed_sent_ids
    (h : nimbleServerFeed nbsWindowSize context self connectionIndex data response = .ok fed)
    {slot : TransportSlot} (hslot : slot.val = connectionIndex.toNat) :
    fed.sent.map orderedDatagramSequenceIdOf =
        stepIdsFrom (self.transportConnections slot).orderedDatagramOutLogic.sequenceToSend
          fed.sent.length ∧
      (fed.server.transportConnections slot).orderedDatagramOutLogic.sequenceToSend =
        (self.transportConnections slot).orderedDatagramOutLogic.sequenceToSend +
          BitVec.ofNat 16 fed.sent.length := by
  by_cases hcmd : nimbleServerFeedCmd context data = nimbleSerializeCmdDownloadGameStateStatus
  case neg =>
    rcases nimbleServerFeed_sequence hslot hcmd h with ⟨hsent, hlogic⟩ | ⟨reply, hsent, hid, hlogic⟩
    · simp [hsent, hlogic, stepIdsFrom]
    · simp [hsent, hid, hlogic, stepIdsFrom, orderedDatagramOutLogicCommit]
  case pos =>
    obtain ⟨_, hat, rfl⟩ := nimbleServerFeed_slot h hslot
    rcases nimbleServerFeed_eq_ok h with ⟨-, rfl⟩ | ⟨slot', transportConnection, hat', hcases⟩
    · simp [stepIdsFrom]
    obtain ⟨rfl, rfl⟩ := Prod.mk.inj (Except.ok.inj (hat.symm.trans hat'))
    have hread : (nimbleServerFeedReadCmd context (orderedDatagramInLogicReceive
        (self.transportConnections slot).orderedDatagramInLogic (fldInStreamInit data)).2.2).1 =
          nimbleServerFeedCmd context data := by
      rw [nimbleServerFeedCmd, orderedDatagramInLogicReceive_inStream _ orderedDatagramInLogicInit]
    dsimp only at hcases
    rw [hread] at hcases
    rcases hcases with ⟨-, rfl⟩ | ⟨hnot, -⟩ | ⟨hnot, -⟩
    · simp only [setTransportConnection_same]
      exact (nbdReqDownloadGameStateAck_ids _ _ _).2
    all_goals exact absurd hcmd hnot

end Feed

/-! ## Connects and disconnects -/

theorem nimbleServerConnectionConnected_other {self after : NimbleServer} {connectionIndex : UInt8}
    {result : Int} (h : nimbleServerConnectionConnected self connectionIndex = .ok (after, result))
    {other : TransportSlot} (hother : other.val ≠ connectionIndex.toNat) :
    after.transportConnections other = self.transportConnections other := by
  obtain ⟨slot, hslot, ⟨-, rfl, -⟩ | ⟨-, -, rfl⟩⟩ := nimbleServerConnectionConnected_eq_ok h
  · rfl
  · exact setTransportConnection_other _ _ _ fun heq => hother (heq ▸ hslot)

theorem nimbleServerConnectionDisconnected_other {self after : NimbleServer}
    {connectionIndex : UInt8} {result : Int}
    (h : nimbleServerConnectionDisconnected self connectionIndex = .ok (after, result))
    {other : TransportSlot} (hother : other.val ≠ connectionIndex.toNat) :
    after.transportConnections other = self.transportConnections other := by
  rcases nimbleServerConnectionDisconnected_eq_ok h with ⟨rfl, -⟩ | ⟨-, slot, -, hslot, -, rfl⟩
  · rfl
  · exact setTransportConnection_other _ _ _ fun heq => hother (heq ▸ hslot)

end NimbleServerLib
