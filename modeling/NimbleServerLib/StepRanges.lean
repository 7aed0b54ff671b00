import NimbleServerLib.BlobDownload
import NimbleServerLib.RingRuns

/-!
# The StepRanges reply

Every GameStep a client sends is answered with the authoritative steps that follow the one it
waits for.  The reply (`stepRangesOctets`, written by `nimbleServerSendStepRanges`, modelled from
the spec) carries one start id, a count octet and the steps' payloads, but no id per step: the
client takes entry `k` as the step `start + k`.  `NbsSteps.StepRange` says what a reply must be for
that reading to be right, and the theorems here show that the server only sends such replies.

**The sender cuts a slice of the ring** (`nimbleServerSendStepRanges_stepRange`): over a valid
authoritative ring, the sender either writes nothing and keeps the slot's cursor
`nextAuthoritativeStepIdToSend`, or writes one range and moves the cursor just past it.  The range
holds the ring's steps with the ids `start, start + 1, …`, at most 255 of them, and starts at the
later of the id the client waits for and the cursor, the cursor counting only when it lies in the
ring.  A range the sender cuts always fits the reply buffer, so the sender never fails.

**A GameStep reply, end to end** (`gameStep_reply_carries_step_range`): when a GameStep datagram
fed on a slot makes the server send a datagram, that datagram is the slot's ordered-datagram
header followed by one such range, cut from the ring the server keeps after the feed, for the
waiting id the datagram carries; the slot's cursor moves past the range.

**A joining client catches up from its game state** (`download_then_gameStep_catches_up`): a
download request points the slot's cursor at the step id of the game state it streams
(`transportConnectionSetGameStateTickId`), so a GameStep that then waits for that id is answered,
if at all, with the ring's steps from exactly that id on.
-/

namespace NimbleServerLib

variable {nbsWindowSize : Nat}

/-! ## What a reply promises -/

/-- How far `stepId` lies after the ring's read id, in the modular order of step ids. -/
def NbsSteps.offsetOf (ring : NbsSteps) (stepId : StepId) : Nat :=
  (stepId - ring.expectedReadId).toNat

/-- What a StepRanges reply cut from `ring` promises a client waiting for
`clientWaitingForStepId`, on a slot whose cursor is `cursor`: it has at least one entry and no more
than its count octet holds, entry `k` is the ring's step with id `start + k`, and it starts at the
later of the id the client waits for and the cursor, the cursor counting only when it lies in the
ring.  So a step the slot was sent is not sent again, even when its reply was lost and the client
still lacks it. -/
structure NbsSteps.StepRange (ring : NbsSteps) (clientWaitingForStepId cursor start : StepId)
    (entries : List NbsStep) : Prop where
  ne_nil : entries ≠ []
  count_le : entries.length ≤ 255
  within_ring : entries <:+: ring.steps
  ids_eq : entries.map NbsStep.stepId = stepIdsFrom start entries.length
  starts_at : ring.offsetOf start = max (ring.offsetOf clientWaitingForStepId)
    (if ring.offsetOf cursor ≤ ring.stepsCount then ring.offsetOf cursor else 0)

theorem NbsSteps.offsetOf_add (ring : NbsSteps) {offset : Nat} (h : offset < 2 ^ 32) :
    ring.offsetOf (ring.expectedReadId + BitVec.ofNat 32 offset) = offset := by
  rw [NbsSteps.offsetOf, add_sub_cancel_left, BitVec.toNat_ofNat, Nat.mod_eq_of_lt h]

theorem NbsSteps.offsetOf_inj (ring : NbsSteps) {stepId stepId' : StepId}
    (h : ring.offsetOf stepId = ring.offsetOf stepId') : stepId = stepId' :=
  sub_left_inj.mp (BitVec.eq_of_toNat_eq h)

/-- A range for a client that waits for the slot's own cursor starts there. -/
theorem NbsSteps.StepRange.start_eq {ring : NbsSteps} {stepId start : StepId}
    {entries : List NbsStep} (hrange : ring.StepRange stepId stepId start entries) : start = stepId :=
  ring.offsetOf_inj (by have := hrange.starts_at; split at this <;> omega)

theorem stepIdsFrom_take {w : Nat} (first : BitVec w) (count length : Nat) :
    (stepIdsFrom first count).take length = stepIdsFrom first (min length count) := by
  induction count generalizing first length with
  | zero => simp [stepIdsFrom]
  | succ count ih =>
      cases length with
      | zero => simp [stepIdsFrom]
      | succ length => simp [stepIdsFrom, ih, Nat.succ_min_succ]

/-- A run of a valid ring's steps from `offset` on is a range from the id at `offset`. -/
theorem NbsSteps.Valid.stepRange {ring : NbsSteps} (hv : ring.Valid nbsWindowSize)
    {clientWaitingForStepId cursor : StepId} {offset : Nat} (hoffset : offset < 2 ^ 32)
    (hstart : offset = max (ring.offsetOf clientWaitingForStepId)
      (if ring.offsetOf cursor ≤ ring.stepsCount then ring.offsetOf cursor else 0))
    {entries : List NbsStep} (hne : entries ≠ []) (hcount : entries.length ≤ 255)
    (hentries : entries <+: ring.steps.drop offset) :
    ring.StepRange clientWaitingForStepId cursor (ring.expectedReadId + BitVec.ofNat 32 offset)
      entries := by
  have hlength := hentries.length_le
  rw [List.length_drop, hv.count_eq] at hlength
  refine ⟨hne, hcount, hentries.isInfix.trans (List.drop_suffix _ _).isInfix, ?_,
    (ring.offsetOf_add hoffset).trans hstart⟩
  conv_lhs => rw [List.prefix_iff_eq_take.mp hentries]
  rw [List.map_take, List.map_drop, hv.ids_eq, stepIdsFrom_drop, stepIdsFrom_take,
    Nat.min_eq_left hlength]

/-! ## The sender -/

theorem stepRangeEntries_isPrefix (room maxCount : Nat) (steps : List NbsStep) :
    stepRangeEntries room maxCount steps <+: steps := by
  induction steps generalizing room maxCount with
  | nil => cases maxCount <;> exact List.nil_prefix
  | cons step rest ih =>
      cases maxCount with
      | zero => exact List.nil_prefix
      | succ maxCount =>
          simp only [stepRangeEntries]
          split
          · exact List.nil_prefix
          · exact (List.prefix_cons_inj step).mpr (ih _ _)

theorem stepRangeEntries_length_le (room maxCount : Nat) (steps : List NbsStep) :
    (stepRangeEntries room maxCount steps).length ≤ maxCount := by
  induction steps generalizing room maxCount with
  | nil => cases maxCount <;> simp [stepRangeEntries]
  | cons step rest ih =>
      cases maxCount with
      | zero => simp [stepRangeEntries]
      | succ maxCount =>
          simp only [stepRangeEntries]
          split
          · simp
          · simpa using ih (room - (2 + step.payload.length)) maxCount

/-- The entries the sender cuts, each with its two-octet length, fit the room it gives. -/
theorem stepRangeEntries_octets_le (room maxCount : Nat) (steps : List NbsStep) :
    ((stepRangeEntries room maxCount steps).flatMap
      fun step => encodeBigEndian 2 step.payload.length ++ step.payload).length ≤ room := by
  induction steps generalizing room maxCount with
  | nil => cases maxCount <;> simp [stepRangeEntries]
  | cons step rest ih =>
      cases maxCount with
      | zero => simp [stepRangeEntries]
      | succ maxCount =>
          simp only [stepRangeEntries]
          split
          · simp
          · have := ih (room - (2 + step.payload.length)) maxCount
            simp only [List.flatMap_cons, List.length_append, encodeBigEndian_length]
            omega

theorem stepRangesOctets_length (start : StepId) (entries : List NbsStep) :
    (stepRangesOctets start entries).length =
      7 + (entries.flatMap fun step => encodeBigEndian 2 step.payload.length ++ step.payload).length := by
  simp only [stepRangesOctets, List.length_append, encodeBigEndian_length, List.length_cons,
    List.length_singleton, List.length_nil]

/-- A range the sender cuts fits the reply buffer: its write never fails. -/
theorem fldOutStreamWriteOctets_stepRanges (outStream : FldOutStream) (start : StepId)
    {steps : List NbsStep} (hne : stepRangeEntries (outStream.size - outStream.pos - 7) 255 steps ≠ []) :
    fldOutStreamWriteOctets outStream
        (stepRangesOctets start (stepRangeEntries (outStream.size - outStream.pos - 7) 255 steps)) =
      .ok { outStream with octets := (outStream.octets ++
        stepRangesOctets start (stepRangeEntries (outStream.size - outStream.pos - 7) 255 steps)) } := by
  have hfit := stepRangeEntries_octets_le (outStream.size - outStream.pos - 7) 255 steps
  have hpos : 0 < ((stepRangeEntries (outStream.size - outStream.pos - 7) 255 steps).flatMap
      fun step => encodeBigEndian 2 step.payload.length ++ step.payload).length := by
    obtain ⟨step, rest, hcons⟩ := List.exists_cons_of_ne_nil hne
    simp only [hcons, List.flatMap_cons, List.length_append, encodeBigEndian_length]
    omega
  refine fldOutStreamWriteOctets_eq_ok.mpr ⟨?_, rfl⟩
  rw [stepRangesOctets_length]
  simp only [FldOutStream.pos] at hfit hpos ⊢
  omega

/-- **The sender cuts a slice of the ring.**  Over a valid authoritative ring the sender never
fails; it either writes nothing and keeps the slot's cursor, or writes one range that keeps the
promise `NbsSteps.StepRange` and moves the cursor just past it. -/
theorem nimbleServerSendStepRanges_stepRange (outStream : FldOutStream)
    (transportConnection : NimbleServerTransportConnection) {foundGame : NimbleServerGame}
    (clientWaitingForStepId : StepId) (hv : foundGame.authoritativeSteps.Valid nbsWindowSize) :
    let sent := nimbleServerSendStepRanges outStream transportConnection foundGame
      clientWaitingForStepId
    sent.2.2 = 0 ∧
      ((sent.2.1 = outStream ∧ sent.1.nextAuthoritativeStepIdToSend =
          transportConnection.nextAuthoritativeStepIdToSend) ∨
        ∃ start entries, foundGame.authoritativeSteps.StepRange clientWaitingForStepId
            transportConnection.nextAuthoritativeStepIdToSend start entries ∧
          sent.2.1 = { outStream with octets := outStream.octets ++ stepRangesOctets start entries } ∧
          sent.1.nextAuthoritativeStepIdToSend = start + BitVec.ofNat 32 entries.length) := by
  unfold nimbleServerSendStepRanges
  dsimp only
  generalize hstart : (if (_ : Nat) ≤ (_ : Nat) then max (_ : Nat) _ else (_ : Nat)) = startOffset
  split_ifs with hbefore hempty
  · exact ⟨rfl, .inl ⟨rfl, rfl⟩⟩
  · exact ⟨rfl, .inl ⟨rfl, rfl⟩⟩
  have hne := fun h => hempty (List.isEmpty_iff.mpr h)
  rw [fldOutStreamWriteOctets_stepRanges _ _ hne]
  have := (clientWaitingForStepId - foundGame.authoritativeSteps.expectedReadId).isLt
  have := (transportConnection.nextAuthoritativeStepIdToSend -
    foundGame.authoritativeSteps.expectedReadId).isLt
  refine ⟨rfl, .inr ⟨_, _, hv.stepRange ?_ ?_ hne (stepRangeEntries_length_le _ _ _)
    (stepRangeEntries_isPrefix _ _ _), rfl, rfl⟩⟩
  · split at hstart <;> omega
  · unfold NbsSteps.offsetOf
    split at hstart <;> split <;> omega

/-! ## The request -/

/-- A handler that did not fail read the id the client waits for from the body's first four
octets. -/
theorem nimbleServerHandleIncomingSteps_waiting (foundGame : NimbleServerGame)
    (connections : NimbleServerParticipantConnections) {inStream : FldInStream}
    (transportConnection : NimbleServerTransportConnection) {waitingForStepId : StepId}
    {rest : List UInt8}
    (hstream : inStream.octets.drop inStream.pos = encodeBigEndian 4 waitingForStepId.toNat ++ rest)
    (hresult : 0 ≤ (nimbleServerHandleIncomingSteps nbsWindowSize foundGame connections inStream
      transportConnection).result) :
    (nimbleServerHandleIncomingSteps nbsWindowSize foundGame connections inStream
      transportConnection).clientWaitingForStepId = waitingForStepId := by
  unfold nimbleServerHandleIncomingSteps at hresult ⊢
  simp only [fldInStreamReadUInt32_of_drop hstream] at hresult ⊢
  rcases hassigned : transportConnection.assignedParticipantConnection with _ | index
  · simp only [hassigned] at hresult
    exact absurd hresult (by decide)
  rcases hconnection : connections.connections.get? index with _ | participantConnection
  · simp only [hassigned, hconnection] at hresult
    exact absurd hresult (by decide)
  simp only [hassigned, hconnection]
  split <;> (try split) <;> rfl

theorem readIncomingStepsAndCreateAuthoritativeSteps_waiting (foundGame : NimbleServerGame)
    (connections : NimbleServerParticipantConnections) {inStream : FldInStream}
    (transportConnection : NimbleServerTransportConnection) (stat : StatsIntPerSecond)
    {waitingForStepId : StepId} {rest : List UInt8}
    (hstream : inStream.octets.drop inStream.pos = encodeBigEndian 4 waitingForStepId.toNat ++ rest) :
    let read := readIncomingStepsAndCreateAuthoritativeSteps nbsWindowSize foundGame connections
      inStream transportConnection stat
    0 ≤ read.result → read.clientWaitingForStepId = waitingForStepId := by
  unfold readIncomingStepsAndCreateAuthoritativeSteps
  generalize discardAuthoritativeStepsIfBufferGettingFull nbsWindowSize foundGame = trimmed
  obtain ⟨trimmed, discardErr⟩ := trimmed
  have hwaiting := @nimbleServerHandleIncomingSteps_waiting nbsWindowSize trimmed connections _
    transportConnection _ _ hstream
  dsimp only
  split_ifs <;> dsimp only <;> intro hresult <;> first | omega | exact hwaiting (by omega)

/-- A GameStep request whose ingest did not fail ends with the sender's reply. -/
theorem nimbleServerReqGameStep_of_nonneg (foundGame : NimbleServerGame)
    (connections : NimbleServerParticipantConnections)
    (transportConnection : NimbleServerTransportConnection) (stat : StatsIntPerSecond)
    (inStream : FldInStream) (outStream : FldOutStream)
    (hresult : 0 ≤ (readIncomingStepsAndCreateAuthoritativeSteps nbsWindowSize foundGame connections
      inStream transportConnection stat).result) :
    nimbleServerReqGameStep nbsWindowSize foundGame connections transportConnection stat inStream
        outStream =
      let read := readIncomingStepsAndCreateAuthoritativeSteps nbsWindowSize foundGame connections
        inStream transportConnection stat
      let sent := nimbleServerSendStepRanges outStream
        (nimbleServerTransportConnectionUpdateStats transportConnection read.game
          read.clientWaitingForStepId) read.game read.clientWaitingForStepId
      ⟨read.game, read.connections, sent.1, read.stat, read.inStream, sent.2.1, sent.2.2⟩ := by
  unfold nimbleServerReqGameStep
  dsimp only
  rw [if_neg (not_lt.mpr hresult)]

/-- **A GameStep's reply.**  A GameStep request that does not fail answers with nothing, keeping
the slot's cursor, or with one range cut from the authoritative ring it leaves, for the id the
body's first four octets name. -/
theorem nimbleServerReqGameStep_stepRange (foundGame : NimbleServerGame)
    (connections : NimbleServerParticipantConnections)
    (transportConnection : NimbleServerTransportConnection) (stat : StatsIntPerSecond)
    {inStream : FldInStream} (outStream : FldOutStream) {waitingForStepId : StepId}
    {rest : List UInt8}
    (hstream : inStream.octets.drop inStream.pos = encodeBigEndian 4 waitingForStepId.toNat ++ rest)
    (hv : foundGame.authoritativeSteps.Valid nbsWindowSize) :
    let request := nimbleServerReqGameStep nbsWindowSize foundGame connections transportConnection
      stat inStream outStream
    0 ≤ request.result →
      (request.outStream = outStream ∧ request.transportConnection.nextAuthoritativeStepIdToSend =
          transportConnection.nextAuthoritativeStepIdToSend) ∨
        ∃ start entries, request.game.authoritativeSteps.StepRange waitingForStepId
            transportConnection.nextAuthoritativeStepIdToSend start entries ∧
          request.outStream = { outStream with octets := outStream.octets ++ stepRangesOctets start entries } ∧
          request.transportConnection.nextAuthoritativeStepIdToSend =
            start + BitVec.ofNat 32 entries.length := by
  intro request hresult
  have hread : 0 ≤ (readIncomingStepsAndCreateAuthoritativeSteps nbsWindowSize foundGame connections
      inStream transportConnection stat).result := by
    by_contra hneg
    have hfailed : request.result = (readIncomingStepsAndCreateAuthoritativeSteps nbsWindowSize
        foundGame connections inStream transportConnection stat).result := by
      simp only [request, nimbleServerReqGameStep, if_pos (not_le.mp hneg)]
    omega
  have hwaiting := readIncomingStepsAndCreateAuthoritativeSteps_waiting foundGame connections
    transportConnection stat hstream hread
  have hvalid := (readIncomingStepsAndCreateAuthoritativeSteps_ring foundGame connections inStream
    transportConnection stat).1 hv
  simp only [request, nimbleServerReqGameStep_of_nonneg _ _ _ _ _ _ hread]
  rw [← hwaiting]
  exact (nimbleServerSendStepRanges_stepRange outStream _ _ hvalid).2

/-! ## The feed -/

/-- A feed reply that sends anything sends the handler's buffer, after a handler that did not fail
and wrote past the two-octet header. -/
theorem nimbleServerFeedReply_sent {self : NimbleServer} {slot : TransportSlot}
    {request : NimbleServerReqResult} {response : DatagramTransportOut}
    (hsent : (nimbleServerFeedReply self slot request response).sent ≠ []) :
    0 ≤ request.result ∧ 2 < request.outStream.pos ∧
      (nimbleServerFeedReply self slot request response).sent = [request.outStream.octets] := by
  unfold nimbleServerFeedReply at hsent ⊢
  dsimp only at hsent ⊢
  split_ifs at hsent ⊢
  · exact absurd rfl hsent
  · exact absurd rfl hsent
  · exact ⟨by omega, by omega, rfl⟩

theorem nimbleServerFeedReply_cursor (self : NimbleServer) (slot : TransportSlot)
    (request : NimbleServerReqResult) (response : DatagramTransportOut) :
    ((nimbleServerFeedReply self slot request response).server.transportConnections
        slot).nextAuthoritativeStepIdToSend = request.transportConnection.nextAuthoritativeStepIdToSend := by
  unfold nimbleServerFeedReply
  dsimp only
  split_ifs <;> simp

/-- What the feed sends for a GameStep request on a slot, when it sends anything: the slot's
ordered-datagram header and one range cut from the ring the request leaves. -/
theorem nimbleServerFeedReply_gameStep (self : NimbleServer) (slot : TransportSlot)
    (transportConnection : NimbleServerTransportConnection) {inStream : FldInStream}
    {waitingForStepId : StepId} {rest : List UInt8}
    (hstream : inStream.octets.drop inStream.pos = encodeBigEndian 4 waitingForStepId.toNat ++ rest)
    (hv : self.game.authoritativeSteps.Valid nbsWindowSize) (response : DatagramTransportOut) :
    let fed := nimbleServerFeedReply self slot (nimbleServerReqGameStep nbsWindowSize self.game
      self.connections transportConnection self.authoritativeStepsPerSecondStat inStream
      (nimbleServerFeedOutStream transportConnection.orderedDatagramOutLogic)) response
    fed.sent ≠ [] →
      ∃ start entries, fed.server.game.authoritativeSteps.StepRange waitingForStepId
          transportConnection.nextAuthoritativeStepIdToSend start entries ∧
        fed.sent = [encodeBigEndian 2 transportConnection.orderedDatagramOutLogic.sequenceToSend.toNat ++
          stepRangesOctets start entries] ∧
        (fed.server.transportConnections slot).nextAuthoritativeStepIdToSend =
          start + BitVec.ofNat 32 entries.length := by
  intro fed hsent
  obtain ⟨hresult, hpos, hsent⟩ := nimbleServerFeedReply_sent hsent
  rcases nimbleServerReqGameStep_stepRange _ _ _ _ _ hstream hv hresult with
    ⟨hout, -⟩ | ⟨start, entries, hrange, hout, hcursor⟩
  · rw [hout, FldOutStream.pos, nimbleServerFeedOutStream_octets, encodeBigEndian_length] at hpos
    exact absurd hpos (by decide)
  · refine ⟨start, entries, ?_, ?_, ?_⟩
    · rwa [nimbleServerFeedReply_game]
    · rw [hsent, hout, nimbleServerFeedOutStream_octets]
    · rw [nimbleServerFeedReply_cursor, hcursor]

/-- A download request points the slot's cursor at the step id of the game state it streams. -/
theorem nbdReqDownloadGameState_cursor (transportConnection : NimbleServerTransportConnection)
    (foundGame : NimbleServerGame) {inStream rest : FldInStream} {clientRequestId : UInt8}
    (hread : fldInStreamReadUInt8 inStream = .ok (clientRequestId, rest)) (outStream : FldOutStream) :
    (nbdReqDownloadGameState transportConnection foundGame inStream outStream).1.nextAuthoritativeStepIdToSend =
      foundGame.latestState.stepId := by
  unfold nbdReqDownloadGameState
  rw [hread]
  dsimp only
  split <;> rfl

section Feed

variable {context : NimbleServerFeedContext} {self : NimbleServer} {connectionIndex : UInt8}
  {response : DatagramTransportOut} {fed : NimbleServerFeedResult} {slot : TransportSlot}

/-- A download request leaves the game alone and the slot's cursor at the game state's step id. -/
theorem nimbleServerFeed_downloadRequest_cursor (hslot : slot.val = connectionIndex.toNat)
    {header : List UInt8} (hheader : header.length = 2) (clientRequestId : UInt8)
    (h : nimbleServerFeed nbsWindowSize context self connectionIndex
      (header ++ [nimbleSerializeCmdDownloadGameStateRequest, clientRequestId]) response = .ok fed) :
    fed.server.game = self.game ∧
      (fed.server.transportConnections slot).nextAuthoritativeStepIdToSend =
        self.game.latestState.stepId := by
  have hread := @fldInStreamReadUInt8_of_drop
    ⟨header ++ [nimbleSerializeCmdDownloadGameStateRequest, clientRequestId], 3⟩ clientRequestId []
    (feedInStream_drop hheader _ _)
  rcases nimbleServerFeed_of_header hslot hheader h with ⟨hack, -⟩ | ⟨-, request, hdispatch, rfl⟩ |
    ⟨-, hnone, -⟩
  · exact absurd hack
      (show nimbleSerializeCmdDownloadGameStateRequest ≠ nimbleSerializeCmdDownloadGameStateStatus by decide)
  · simp only [nimbleServerFeedDispatch, nimbleSerializeCmdGameStep, nimbleSerializeCmdJoinGameRequest,
      nimbleSerializeCmdDownloadGameStateRequest] at hdispatch
    cases hdispatch
    rw [nimbleServerFeedReply_game, nimbleServerFeedReply_cursor]
    exact ⟨rfl, nbdReqDownloadGameState_cursor _ _ hread _⟩
  · simp [nimbleServerFeedDispatch, nimbleSerializeCmdGameStep, nimbleSerializeCmdJoinGameRequest,
      nimbleSerializeCmdDownloadGameStateRequest] at hnone

end Feed

/-- **A joining client catches up from its game state.**  A DownloadGameStateRequest fed on a slot,
followed on the same slot by a GameStep that waits for the step id of the game state the request
found, over a valid authoritative ring: if the server replies to the GameStep, the reply is one
range that starts exactly at that step id and holds the ring's steps from it on, consecutive, and
the slot's cursor moves just past them.  The state the download streams and these steps are what
the client replays from. -/
theorem download_then_gameStep_catches_up {context context' : NimbleServerFeedContext}
    {self : NimbleServer} {connectionIndex : UInt8} {slot : TransportSlot}
    (hslot : slot.val = connectionIndex.toNat) {requestHeader stepHeader : List UInt8}
    (hrequestHeader : requestHeader.length = 2) (hstepHeader : stepHeader.length = 2)
    (clientRequestId : UInt8) {rest : List UInt8} {response response' : DatagramTransportOut}
    {requested stepped : NimbleServerFeedResult}
    (hv : self.game.authoritativeSteps.Valid nbsWindowSize)
    (hrequest : nimbleServerFeed nbsWindowSize context self connectionIndex
      (requestHeader ++ [nimbleSerializeCmdDownloadGameStateRequest, clientRequestId]) response =
        .ok requested)
    (hstep : nimbleServerFeed nbsWindowSize context' requested.server connectionIndex
      (stepHeader ++ nimbleSerializeCmdGameStep ::
        (encodeBigEndian 4 self.game.latestState.stepId.toNat ++ rest)) response' = .ok stepped)
    (hsent : stepped.sent ≠ []) :
    ∃ entries, stepped.server.game.authoritativeSteps.StepRange self.game.latestState.stepId
        self.game.latestState.stepId self.game.latestState.stepId entries ∧
      stepped.sent = [encodeBigEndian 2
          (requested.server.transportConnections slot).orderedDatagramOutLogic.sequenceToSend.toNat ++
        stepRangesOctets self.game.latestState.stepId entries] ∧
      (stepped.server.transportConnections slot).nextAuthoritativeStepIdToSend =
        self.game.latestState.stepId + BitVec.ofNat 32 entries.length := by
  obtain ⟨hgame, hcursor⟩ := nimbleServerFeed_downloadRequest_cursor hslot hrequestHeader
    clientRequestId hrequest
  rw [nimbleServerFeed_gameStep_eq hslot hstepHeader hstep] at hsent ⊢
  obtain ⟨start, entries, hrange, hreply, hnext⟩ := nimbleServerFeedReply_gameStep _ _ _
    (feedInStream_drop hstepHeader _ _) (hgame ▸ hv) _ hsent
  rw [hcursor] at hrange
  obtain rfl := hrange.start_eq
  exact ⟨entries, hrange, hreply, hnext⟩

/-- Slot 0 joined on a server whose game state is `[0xAA]` at step 0 downloads the state, then sends
its first two predicted steps from step 0, waiting for the state's step. -/
theorem joined_client_downloads_then_catches_up :
    ∃ self requested stepped,
      nimbleServerRun 90 [.reInitWithGame [0xAA] 0 0, .connectionConnected 0,
          .feed ⟨false, false, 0⟩ 0 [0, 0, 1, 1, 0] ⟨fun octets => octets.length⟩]
        (nimbleServerInit NimbleServer.zeroed ⟨2, 4, 2, 4, 100, 0⟩).1 = some self ∧
      self.game.authoritativeSteps.Valid 90 ∧
      nimbleServerFeed 90 ⟨false, false, 0⟩ self 0
          ([0, 1] ++ [nimbleSerializeCmdDownloadGameStateRequest, 5]) ⟨fun octets => octets.length⟩ =
        .ok requested ∧
      nimbleServerFeed 90 ⟨false, false, 0⟩ requested.server 0
          ([0, 2] ++ nimbleSerializeCmdGameStep ::
            (encodeBigEndian 4 self.game.latestState.stepId.toNat ++
              (encodeBigEndian 4 0 ++ [2, 1, 7, 1, 8]))) ⟨fun octets => octets.length⟩ =
        .ok stepped ∧
      stepped.sent ≠ [] ∧
      ∃ entries, stepped.server.game.authoritativeSteps.StepRange self.game.latestState.stepId
          self.game.latestState.stepId self.game.latestState.stepId entries ∧
        stepped.sent = [encodeBigEndian 2
            (requested.server.transportConnections 0).orderedDatagramOutLogic.sequenceToSend.toNat ++
          stepRangesOctets self.game.latestState.stepId entries] ∧
        (stepped.server.transportConnections 0).nextAuthoritativeStepIdToSend =
          self.game.latestState.stepId + BitVec.ofNat 32 entries.length :=
  ⟨_, _, _, rfl, by constructor <;> decide, rfl, rfl, by decide,
    @download_then_gameStep_catches_up 90 ⟨false, false, 0⟩ ⟨false, false, 0⟩ _ 0 0 rfl [0, 1] [0, 2]
      rfl rfl 5 (encodeBigEndian 4 0 ++ [2, 1, 7, 1, 8]) ⟨fun octets => octets.length⟩
      ⟨fun octets => octets.length⟩ _ _ (by constructor <;> decide) (by exact rfl) (by exact rfl)
      (by decide)⟩

end NimbleServerLib
