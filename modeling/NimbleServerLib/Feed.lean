import NimbleServerLib.Server

/-!
# What one feed does

`nimbleServerFeed` is where every datagram enters the server.  `nimbleServerFeed_eq_ok` says once
every way a feed that does not fault can end: on an index past the pool it returns `-13`; on a
status for a blob stream it hands the slot to `nbdReqDownloadGameStateAck`; on a known command it
replies through `nimbleServerFeedReply`; on any other command octet it only stores the slot's new
ordered-in logic.  Later files reason about a feed through this lemma and never unfold the
function; `nimbleServerConnectionConnected_eq_ok` and `nimbleServerConnectionDisconnected_eq_ok`
do the same for the two connection calls.

## Replies

The feed prepares its reply buffer with the slot's next ordered-datagram id before it dispatches.
Every request handler writes after what it was given and never touches the slot's sending half
(`nimbleServerFeedDispatch_replies`), so the id at the head of a reply is the one prepared.
-/

namespace NimbleServerLib

variable {nbsWindowSize : Nat}

/-! ## The inversion lemma -/

/-- **Every way a feed can end.** -/
theorem nimbleServerFeed_eq_ok {context : NimbleServerFeedContext} {self : NimbleServer}
    {connectionIndex : UInt8} {data : List UInt8} {response : DatagramTransportOut}
    {fed : NimbleServerFeedResult}
    (h : nimbleServerFeed nbsWindowSize context self connectionIndex data response = .ok fed) :
    (64 < connectionIndex.toNat ∧ fed = ⟨self, -13, []⟩) ∨
    ∃ slot transportConnection,
      self.transportConnectionAt connectionIndex.toNat = .ok (slot, transportConnection) ∧
      let receive := orderedDatagramInLogicReceive transportConnection.orderedDatagramInLogic
        (fldInStreamInit data)
      let received := { transportConnection with orderedDatagramInLogic := receive.2.1 }
      let read := nimbleServerFeedReadCmd context receive.2.2
      let outStream := nimbleServerFeedOutStream transportConnection.orderedDatagramOutLogic
      (read.1 = nimbleSerializeCmdDownloadGameStateStatus ∧
          fed = ⟨self.setTransportConnection slot (nbdReqDownloadGameStateAck received read.2 response).1,
            (nbdReqDownloadGameStateAck received read.2 response).2.2,
            (nbdReqDownloadGameStateAck received read.2 response).2.1⟩) ∨
      (read.1 ≠ nimbleSerializeCmdDownloadGameStateStatus ∧ ∃ request,
          nimbleServerFeedDispatch nbsWindowSize self received read.1 read.2 outStream = some request ∧
          fed = nimbleServerFeedReply self slot request response) ∨
      (read.1 ≠ nimbleSerializeCmdDownloadGameStateStatus ∧
          nimbleServerFeedDispatch nbsWindowSize self received read.1 read.2 outStream = none ∧
          fed = ⟨self.setTransportConnection slot received, 0, []⟩) := by
  unfold nimbleServerFeed at h
  split at h
  · cases h
  split at h
  · exact .inl ⟨by omega, (Except.ok.inj h).symm⟩
  split at h
  · cases h
  rename_i slot transportConnection hat
  refine .inr ⟨slot, transportConnection, hat, ?_⟩
  dsimp only at h ⊢
  split at h
  · rename_i hack
    exact .inl ⟨hack, (Except.ok.inj h).symm⟩
  rename_i hack
  split at h
  · rename_i request hdispatch
    exact .inr (.inl ⟨hack, request, hdispatch, (Except.ok.inj h).symm⟩)
  · rename_i hdispatch
    split at h
    · cases h
    · exact .inr (.inr ⟨hack, hdispatch, (Except.ok.inj h).symm⟩)

/-! ## Replies -/

/-- What a request handler did to the reply: it kept the slot's sending half and wrote after the
octets it was given. -/
structure NimbleServerReqResult.Replies (transportConnection : NimbleServerTransportConnection)
    (outStream : FldOutStream) (request : NimbleServerReqResult) : Prop where
  outLogic_eq : request.transportConnection.orderedDatagramOutLogic =
    transportConnection.orderedDatagramOutLogic
  octets_prefix : outStream.octets <+: request.outStream.octets

theorem fldOutStreamWriteOctets_prefix {self after : FldOutStream} {data : List UInt8}
    (h : fldOutStreamWriteOctets self data = .ok after) : self.octets <+: after.octets := by
  obtain ⟨-, rfl⟩ := fldOutStreamWriteOctets_eq_ok.mp h
  exact List.prefix_append _ _

theorem nimbleServerSendStepRanges_replies (outStream : FldOutStream)
    (transportConnection : NimbleServerTransportConnection) (foundGame : NimbleServerGame)
    (clientWaitingForStepId : StepId) :
    let sent := nimbleServerSendStepRanges outStream transportConnection foundGame
      clientWaitingForStepId
    sent.1.orderedDatagramOutLogic = transportConnection.orderedDatagramOutLogic ∧
      outStream.octets <+: sent.2.1.octets := by
  unfold nimbleServerSendStepRanges
  dsimp only
  repeat' split
  all_goals first
    | exact ⟨rfl, List.prefix_rfl⟩
    | exact ⟨rfl, fldOutStreamWriteOctets_prefix ‹_›⟩

theorem nimbleServerReqGameStep_replies (foundGame : NimbleServerGame)
    (connections : NimbleServerParticipantConnections)
    (transportConnection : NimbleServerTransportConnection) (stat : StatsIntPerSecond)
    (inStream : FldInStream) (outStream : FldOutStream) :
    (nimbleServerReqGameStep nbsWindowSize foundGame connections transportConnection stat inStream
      outStream).Replies transportConnection outStream := by
  unfold nimbleServerReqGameStep
  dsimp only
  split
  · exact ⟨rfl, List.prefix_rfl⟩
  · exact ⟨(nimbleServerSendStepRanges_replies _ _ _ _).1,
      (nimbleServerSendStepRanges_replies _ _ _ _).2⟩

theorem nbdReqGameJoin_replies (self : NimbleServer)
    (transportConnection : NimbleServerTransportConnection) (inStream : FldInStream)
    (outStream : FldOutStream) :
    (nbdReqGameJoin self transportConnection inStream outStream).Replies transportConnection
      outStream := by
  unfold nbdReqGameJoin
  dsimp only
  repeat' split
  all_goals first
    | exact ⟨rfl, List.prefix_rfl⟩
    | exact ⟨rfl, fldOutStreamWriteOctets_prefix ‹_›⟩

theorem nbdReqDownloadGameState_replies (transportConnection : NimbleServerTransportConnection)
    (foundGame : NimbleServerGame) (inStream : FldInStream) (outStream : FldOutStream) :
    let download := nbdReqDownloadGameState transportConnection foundGame inStream outStream
    download.1.orderedDatagramOutLogic = transportConnection.orderedDatagramOutLogic ∧
      outStream.octets <+: download.2.2.1.octets := by
  unfold nbdReqDownloadGameState
  dsimp only
  repeat' split
  all_goals first
    | exact ⟨rfl, List.prefix_rfl⟩
    | exact ⟨rfl, fldOutStreamWriteOctets_prefix ‹_›⟩

/-- **Every handler writes after the prepared header and keeps the slot's sending half.** -/
theorem nimbleServerFeedDispatch_replies {self : NimbleServer}
    {transportConnection : NimbleServerTransportConnection} {cmd : UInt8} {inStream : FldInStream}
    {outStream : FldOutStream} {request : NimbleServerReqResult}
    (h : nimbleServerFeedDispatch nbsWindowSize self transportConnection cmd inStream outStream =
      some request) :
    request.Replies transportConnection outStream := by
  unfold nimbleServerFeedDispatch at h
  split at h
  · cases h
    exact nimbleServerReqGameStep_replies _ _ _ _ _ _
  split at h
  · cases h
    exact nbdReqGameJoin_replies _ _ _ _
  split at h
  · cases h
    exact ⟨(nbdReqDownloadGameState_replies _ _ _ _).1, (nbdReqDownloadGameState_replies _ _ _ _).2⟩
  · cases h

/-- A failed handler's reply: its writes to the server are kept, nothing is sent. -/
theorem nimbleServerFeedReply_of_neg {self : NimbleServer} {slot : TransportSlot}
    {request : NimbleServerReqResult} (response : DatagramTransportOut) (h : request.result < 0) :
    nimbleServerFeedReply self slot request response =
      ⟨{ self.setTransportConnection slot request.transportConnection with
          game := request.game
          connections := request.connections
          authoritativeStepsPerSecondStat := request.stat }, request.result, []⟩ := by
  unfold nimbleServerFeedReply
  rw [if_pos h]

/-! ## Handlers on an exhausted stream

A handler that finds nothing left to read fails at its first read and writes nothing, except the
GameStep handler: its backpressure trim comes before any read. -/

section Exhausted

variable {inStream : FldInStream}

theorem nbdReqGameJoin_exhausted (self : NimbleServer)
    (transportConnection : NimbleServerTransportConnection) (outStream : FldOutStream)
    (hout : inStream.octets.length ≤ inStream.pos) :
    nbdReqGameJoin self transportConnection inStream outStream =
      ⟨self.game, self.connections, transportConnection, self.authoritativeStepsPerSecondStat,
        inStream, outStream, fldInStreamErrReadPastEnd⟩ := by
  rw [nbdReqGameJoin, fldInStreamReadUInt8_of_lt (by omega)]

theorem nbdReqDownloadGameState_exhausted (transportConnection : NimbleServerTransportConnection)
    (foundGame : NimbleServerGame) (outStream : FldOutStream)
    (hout : inStream.octets.length ≤ inStream.pos) :
    nbdReqDownloadGameState transportConnection foundGame inStream outStream =
      (transportConnection, inStream, outStream, fldInStreamErrReadPastEnd) := by
  rw [nbdReqDownloadGameState, fldInStreamReadUInt8_of_lt (by omega)]

theorem nbdReqDownloadGameStateAck_exhausted (transportConnection : NimbleServerTransportConnection)
    (transportOut : DatagramTransportOut) (hout : inStream.octets.length ≤ inStream.pos) :
    nbdReqDownloadGameStateAck transportConnection inStream transportOut =
      (transportConnection, [], fldInStreamErrReadPastEnd) := by
  rw [nbdReqDownloadGameStateAck, fldInStreamReadUInt16_of_lt (by omega)]

theorem nimbleServerHandleIncomingSteps_exhausted (foundGame : NimbleServerGame)
    (connections : NimbleServerParticipantConnections)
    (transportConnection : NimbleServerTransportConnection)
    (hout : inStream.octets.length ≤ inStream.pos) :
    let received := nimbleServerHandleIncomingSteps nbsWindowSize foundGame connections inStream
      transportConnection
    received.connections = connections ∧ received.result < 0 := by
  unfold nimbleServerHandleIncomingSteps
  split
  · exact ⟨rfl, show nimbleServerErrNoParticipantConnection < 0 by decide⟩
  split
  · exact ⟨rfl, show nimbleServerErrNoParticipantConnection < 0 by decide⟩
  rw [fldInStreamReadUInt32_of_lt (by omega)]
  exact ⟨rfl, show fldInStreamErrReadPastEnd < 0 by decide⟩

theorem readIncomingStepsAndCreateAuthoritativeSteps_exhausted (foundGame : NimbleServerGame)
    (connections : NimbleServerParticipantConnections)
    (transportConnection : NimbleServerTransportConnection) (stat : StatsIntPerSecond)
    (hout : inStream.octets.length ≤ inStream.pos) :
    let read := readIncomingStepsAndCreateAuthoritativeSteps nbsWindowSize foundGame connections
      inStream transportConnection stat
    read.result < 0 ∧
      read.game = (discardAuthoritativeStepsIfBufferGettingFull nbsWindowSize foundGame).1 ∧
      read.connections = connections ∧ read.stat = stat := by
  unfold readIncomingStepsAndCreateAuthoritativeSteps
  generalize discardAuthoritativeStepsIfBufferGettingFull nbsWindowSize foundGame = trimmed
  obtain ⟨trimmed, discardErr⟩ := trimmed
  dsimp only
  split
  · exact ⟨‹_›, rfl, rfl, rfl⟩
  obtain ⟨hconnections, hresult⟩ := @nimbleServerHandleIncomingSteps_exhausted nbsWindowSize _
    trimmed connections transportConnection hout
  rw [if_pos hresult]
  exact ⟨hresult, rfl, hconnections, rfl⟩

theorem nimbleServerReqGameStep_exhausted (foundGame : NimbleServerGame)
    (connections : NimbleServerParticipantConnections)
    (transportConnection : NimbleServerTransportConnection) (stat : StatsIntPerSecond)
    (outStream : FldOutStream) (hout : inStream.octets.length ≤ inStream.pos) :
    let request := nimbleServerReqGameStep nbsWindowSize foundGame connections transportConnection
      stat inStream outStream
    request.result < 0 ∧
      request.game = (discardAuthoritativeStepsIfBufferGettingFull nbsWindowSize foundGame).1 ∧
      request.connections = connections ∧ request.transportConnection = transportConnection ∧
      request.stat = stat := by
  obtain ⟨hresult, hgame, hconnections, hstat⟩ :=
    @readIncomingStepsAndCreateAuthoritativeSteps_exhausted nbsWindowSize _ foundGame connections
      transportConnection stat hout
  unfold nimbleServerReqGameStep
  dsimp only
  rw [if_pos hresult]
  exact ⟨hresult, hgame, hconnections, rfl, hstat⟩

/-- **Every handler fails on an exhausted stream.**  It leaves the pool, the slot and the
statistics as they were, and the game too unless it is the GameStep handler, which has trimmed the
ring. -/
theorem nimbleServerFeedDispatch_exhausted {self : NimbleServer}
    {transportConnection : NimbleServerTransportConnection} {cmd : UInt8}
    {outStream : FldOutStream} {request : NimbleServerReqResult}
    (h : nimbleServerFeedDispatch nbsWindowSize self transportConnection cmd inStream outStream =
      some request) (hout : inStream.octets.length ≤ inStream.pos) :
    request.result < 0 ∧ request.connections = self.connections ∧
      request.transportConnection = transportConnection ∧
      request.stat = self.authoritativeStepsPerSecondStat ∧
      request.game = if cmd = nimbleSerializeCmdGameStep then
        (discardAuthoritativeStepsIfBufferGettingFull nbsWindowSize self.game).1 else self.game := by
  unfold nimbleServerFeedDispatch at h
  rw [nbdReqGameJoin_exhausted _ _ _ hout, nbdReqDownloadGameState_exhausted _ _ _ hout] at h
  split_ifs at h with hstep hjoin hdownload <;> cases h
  · obtain ⟨hresult, hgame, hconnections, htc, hstat⟩ :=
      @nimbleServerReqGameStep_exhausted nbsWindowSize _ self.game self.connections
        transportConnection self.authoritativeStepsPerSecondStat outStream hout
    exact ⟨hresult, hconnections, htc, hstat, by rw [if_pos hstep, hgame]⟩
  all_goals exact ⟨show fldInStreamErrReadPastEnd < 0 by decide, rfl, rfl, rfl, (if_neg hstep).symm⟩

end Exhausted

/-- The reply buffer holds the two octets of the slot's next ordered-datagram id. -/
theorem nimbleServerFeedOutStream_eq (outLogic : OrderedDatagramOutLogic) :
    nimbleServerFeedOutStream outLogic =
      ⟨encodeBigEndian 2 outLogic.sequenceToSend.toNat, udpMaxSize⟩ := by
  have hprepare : orderedDatagramOutLogicPrepare outLogic (fldOutStreamInit udpMaxSize) =
      .ok ⟨[] ++ encodeBigEndian 2 outLogic.sequenceToSend.toNat, udpMaxSize⟩ := by
    unfold orderedDatagramOutLogicPrepare fldOutStreamWriteUInt16
    exact fldOutStreamWriteOctets_eq_ok.mpr ⟨by simp [fldOutStreamInit, udpMaxSize], rfl⟩
  simp [nimbleServerFeedOutStream, hprepare]

theorem nimbleServerFeedOutStream_octets (outLogic : OrderedDatagramOutLogic) :
    (nimbleServerFeedOutStream outLogic).octets = encodeBigEndian 2 outLogic.sequenceToSend.toNat := by
  rw [nimbleServerFeedOutStream_eq]

/-! ## Connects and disconnects -/

/-- What `nimbleServerConnectionConnected` does on a slot inside the array: it refuses a slot in
use with `-44`, leaving the server alone, and initialises a free one. -/
theorem nimbleServerConnectionConnected_eq_ok {self after : NimbleServer} {connectionIndex : UInt8}
    {result : Int} (h : nimbleServerConnectionConnected self connectionIndex = .ok (after, result)) :
    ∃ slot : TransportSlot, slot.val = connectionIndex.toNat ∧
      ((self.transportConnections slot).isUsed = true ∧ after = self ∧ result = -44 ∨
        (self.transportConnections slot).isUsed = false ∧ result = 0 ∧
          after = self.setTransportConnection slot
            (transportConnectionInit { self.transportConnections slot with isUsed := true })) := by
  unfold nimbleServerConnectionConnected at h
  split at h
  · cases h
  rename_i slot transportConnection hat
  obtain ⟨hindex, rfl⟩ := transportConnectionAt_eq_ok.mp hat
  refine ⟨slot, by omega, ?_⟩
  split at h <;> cases h
  · exact .inl ⟨‹_›, rfl, rfl⟩
  · rename_i hfree
    exact .inr ⟨Bool.eq_false_iff.mpr hfree, rfl, rfl⟩

/-- **What `nimbleServerConnectionDisconnected` does.**  It fails with `-2` when no participant
connection was ever bound to the slot and with `-4` when that connection is unused, leaving the
server alone; otherwise it frees the connection and clears the slot's "received a first datagram"
flag, and nothing else. -/
theorem nimbleServerConnectionDisconnected_eq_ok {self after : NimbleServer}
    {connectionIndex : UInt8} {result : Int}
    (h : nimbleServerConnectionDisconnected self connectionIndex = .ok (after, result)) :
    (after = self ∧ result < 0) ∨
      ∃ index slot, nbdParticipantConnectionsFindConnection self.connections connectionIndex.toNat =
          some index ∧ slot.val = connectionIndex.toNat ∧ result = 0 ∧
        after = { self.setTransportConnection slot { self.transportConnections slot with
            orderedDatagramInLogic := { (self.transportConnections slot).orderedDatagramInLogic with
              hasReceivedInitialDatagram := false } } with
          connections := self.connections.modify index fun connection =>
            { connection with id := nbdParticipantConnectionFreedId, isUsed := false } } := by
  unfold nimbleServerConnectionDisconnected at h
  split at h
  · cases h
    exact .inl ⟨rfl, by decide⟩
  rename_i index hfind
  split at h
  · cases h
    exact .inl ⟨rfl, by decide⟩
  split at h
  · cases h
  rename_i slot transportConnection hat
  obtain ⟨hindex, rfl⟩ := transportConnectionAt_eq_ok.mp hat
  cases h
  exact .inr ⟨index, slot, hfind, by omega, rfl, rfl⟩

/-! ## The drain's implicit connect -/

/-- The connect `nimbleServerReadFromMultiTransport` makes for a datagram on an unused slot: the
server is left as it was, or it is the server a successful `nimbleServerConnectionConnected`
returns. -/
theorem implicitConnect_eq_ok {self connected : NimbleServer}
    {transportConnection : NimbleServerTransportConnection} {connectionIndex : UInt8}
    (h : (if !transportConnection.isUsed then
        (nimbleServerConnectionConnected self connectionIndex).map Prod.fst else .ok self) =
      .ok connected) :
    connected = self ∨ ∃ result, nimbleServerConnectionConnected self connectionIndex =
      .ok (connected, result) := by
  split at h
  · cases hc : nimbleServerConnectionConnected self connectionIndex with
    | error fault => simp [hc, Except.map] at h
    | ok pair =>
        simp only [hc, Except.map, Except.ok.injEq] at h
        exact .inr ⟨pair.2, by rw [← h]⟩
  · cases h
    exact .inl rfl

/-- **Induction over the drain.**  A relation that is reflexive and transitive and holds across
every successful connect and every successful feed holds between the server before a drain and
the server after it. -/
theorem nimbleServerReadFromMultiTransportLoop_induction (context : NimbleServerFeedContext)
    (R : NimbleServer → NimbleServer → Prop) (hrefl : ∀ server, R server server)
    (htrans : ∀ first middle last, R first middle → R middle last → R first last)
    (hconnect : ∀ server connected connectionIndex result,
      nimbleServerConnectionConnected server connectionIndex = .ok (connected, result) →
        R server connected)
    (hfeed : ∀ server connectionIndex data response fed,
      nimbleServerFeed nbsWindowSize context server connectionIndex data response = .ok fed →
        R server fed.server)
    {rounds : Nat} {self after : NimbleServer} {transport transport' : DatagramTransportMulti}
    {result : Int}
    (h : nimbleServerReadFromMultiTransportLoop nbsWindowSize context rounds self transport =
      .ok (after, transport', result)) :
    R self after := by
  induction rounds generalizing self transport with
  | zero =>
      cases h
      exact hrefl _
  | succ rounds ih =>
      unfold nimbleServerReadFromMultiTransportLoop at h
      dsimp only at h
      split at h
      · cases h; exact hrefl _
      split at h
      · cases h; exact hrefl _
      split at h
      · cases h
      split at h
      · cases h
      rename_i connected hconnected
      have hconnected : R self connected := by
        rcases implicitConnect_eq_ok hconnected with rfl | ⟨_, hc⟩
        · exact hrefl _
        · exact hconnect _ _ _ _ hc
      split at h
      · cases h
      rename_i fed hfed
      have hfed := htrans _ _ _ hconnected (hfeed _ _ _ _ _ hfed)
      split at h
      · cases h; exact hfed
      · exact htrans _ _ _ hfed (ih h)

end NimbleServerLib
