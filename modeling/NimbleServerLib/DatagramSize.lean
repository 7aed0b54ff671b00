import NimbleServerLib.DrainSlots

/-!
# Every datagram fits `UDP_MAX_SIZE`

`nimbleServerFeed` builds each reply in a buffer of `UDP_MAX_SIZE` octets (`server.c:76-79`),
whose writes fail rather than run past its end, and every handler writes its reply into that
buffer only.  The chunks of a blob stream are built apart from it: at most `blobStreamChunkSize`
octets of the game state behind a nine-octet frame.

**Every datagram the server sends fits `UDP_MAX_SIZE`**
(`nimbleServerReadFromMultiTransport_sent_fit`): whatever the transport queued, every datagram a
drain hands to the transport is at most 1200 octets long.
-/

namespace NimbleServerLib

variable {nbsWindowSize : Nat}

/-- An out stream whose octets fit its buffer. -/
def FldOutStream.Fits (outStream : FldOutStream) : Prop :=
  outStream.octets.length ≤ outStream.size

/-- What a handler does to the reply buffer it is given: it keeps the buffer, and octets that fit
it still fit. -/
structure FldOutStream.WrittenFrom (before after : FldOutStream) : Prop where
  size_eq : after.size = before.size
  fits : before.Fits → after.Fits

theorem FldOutStream.WrittenFrom.refl (outStream : FldOutStream) :
    outStream.WrittenFrom outStream :=
  ⟨rfl, id⟩

theorem fldOutStreamWriteOctets_writtenFrom {self after : FldOutStream} {data : List UInt8}
    (h : fldOutStreamWriteOctets self data = .ok after) : self.WrittenFrom after := by
  obtain ⟨hroom, rfl⟩ := fldOutStreamWriteOctets_eq_ok.mp h
  exact ⟨rfl, fun _ => by simpa [FldOutStream.Fits] using hroom⟩

/-- The buffer `nimbleServerFeed` hands a handler holds the two-octet header and `UDP_MAX_SIZE`
octets in all. -/
theorem nimbleServerFeedOutStream_fits (outLogic : OrderedDatagramOutLogic) :
    (nimbleServerFeedOutStream outLogic).size = udpMaxSize ∧
      (nimbleServerFeedOutStream outLogic).Fits := by
  rw [nimbleServerFeedOutStream_eq]
  exact ⟨rfl, by simp [FldOutStream.Fits, encodeBigEndian_length, udpMaxSize]⟩

/-! ## The handlers write into the buffer only -/

theorem nimbleServerSendStepRanges_writtenFrom (outStream : FldOutStream)
    (transportConnection : NimbleServerTransportConnection) (foundGame : NimbleServerGame)
    (clientWaitingForStepId : StepId) :
    outStream.WrittenFrom
      (nimbleServerSendStepRanges outStream transportConnection foundGame clientWaitingForStepId).2.1 := by
  unfold nimbleServerSendStepRanges
  dsimp only
  repeat' split
  all_goals first | exact .refl _ | exact fldOutStreamWriteOctets_writtenFrom ‹_›

theorem nimbleServerReqGameStep_writtenFrom (foundGame : NimbleServerGame)
    (connections : NimbleServerParticipantConnections)
    (transportConnection : NimbleServerTransportConnection) (stat : StatsIntPerSecond)
    (inStream : FldInStream) (outStream : FldOutStream) :
    outStream.WrittenFrom (nimbleServerReqGameStep nbsWindowSize foundGame connections
      transportConnection stat inStream outStream).outStream := by
  unfold nimbleServerReqGameStep
  dsimp only
  split
  · exact .refl _
  · exact nimbleServerSendStepRanges_writtenFrom _ _ _ _

theorem nbdReqGameJoin_writtenFrom (self : NimbleServer)
    (transportConnection : NimbleServerTransportConnection) (inStream : FldInStream)
    (outStream : FldOutStream) :
    outStream.WrittenFrom (nbdReqGameJoin self transportConnection inStream outStream).outStream := by
  unfold nbdReqGameJoin
  dsimp only
  repeat' split
  all_goals first | exact .refl _ | exact fldOutStreamWriteOctets_writtenFrom ‹_›

theorem nbdReqDownloadGameState_writtenFrom (transportConnection : NimbleServerTransportConnection)
    (foundGame : NimbleServerGame) (inStream : FldInStream) (outStream : FldOutStream) :
    outStream.WrittenFrom (nbdReqDownloadGameState transportConnection foundGame inStream
      outStream).2.2.1 := by
  unfold nbdReqDownloadGameState
  dsimp only
  repeat' split
  all_goals first | exact .refl _ | exact fldOutStreamWriteOctets_writtenFrom ‹_›

theorem nimbleServerFeedDispatch_writtenFrom {self : NimbleServer}
    {transportConnection : NimbleServerTransportConnection} {cmd : UInt8} {inStream : FldInStream}
    {outStream : FldOutStream} {request : NimbleServerReqResult}
    (h : nimbleServerFeedDispatch nbsWindowSize self transportConnection cmd inStream outStream =
      some request) :
    outStream.WrittenFrom request.outStream := by
  unfold nimbleServerFeedDispatch at h
  split_ifs at h <;> cases h
  · exact nimbleServerReqGameStep_writtenFrom _ _ _ _ _ _
  · exact nbdReqGameJoin_writtenFrom _ _ _ _
  · exact nbdReqDownloadGameState_writtenFrom _ _ _ _

/-! ## The blob stream's chunks -/

theorem blobStreamChunks_length_le (fuel : Nat) (octets : List UInt8) :
    ∀ chunk ∈ blobStreamChunks fuel octets, chunk.length ≤ blobStreamChunkSize := by
  induction fuel generalizing octets with
  | zero => simp [blobStreamChunks]
  | succ fuel ih =>
      cases octets with
      | nil => simp [blobStreamChunks]
      | cons octet rest =>
          simp only [blobStreamChunks, List.mem_cons, forall_eq_or_imp, List.length_take]
          exact ⟨Nat.min_le_left _ _, ih _⟩

/-- A chunk datagram is the chunk behind a nine-octet frame. -/
theorem blobStreamChunkDatagram_length (outLogic : OrderedDatagramOutLogic) (channel : BitVec 16)
    (chunkId : Nat) (chunk : List UInt8) :
    (blobStreamChunkDatagram outLogic channel chunkId chunk).length = 9 + chunk.length := by
  simp only [blobStreamChunkDatagram, List.length_append, encodeBigEndian_length,
    List.length_singleton]

theorem blobStreamSendChunks_length_le (transportOut : DatagramTransportOut) (channel : BitVec 16)
    (outLogic : OrderedDatagramOutLogic) (chunkId : Nat) {chunks : List (List UInt8)}
    (hchunks : ∀ chunk ∈ chunks, chunk.length ≤ blobStreamChunkSize) :
    ∀ datagram ∈ (blobStreamSendChunks transportOut channel outLogic chunkId chunks).2.1,
      datagram.length ≤ 9 + blobStreamChunkSize := by
  induction chunks generalizing outLogic chunkId with
  | nil => simp [blobStreamSendChunks]
  | cons chunk rest ih =>
      simp only [List.mem_cons, forall_eq_or_imp] at hchunks
      have hfirst : (blobStreamChunkDatagram outLogic channel chunkId chunk).length ≤
          9 + blobStreamChunkSize := by
        rw [blobStreamChunkDatagram_length]
        omega
      simp only [blobStreamSendChunks]
      split
      · simpa using hfirst
      · simp only [List.mem_cons, forall_eq_or_imp]
        exact ⟨hfirst, ih _ _ hchunks.2⟩

theorem nbdReqDownloadGameStateAck_fit (transportConnection : NimbleServerTransportConnection)
    (inStream : FldInStream) (transportOut : DatagramTransportOut) :
    ∀ datagram ∈ (nbdReqDownloadGameStateAck transportConnection inStream transportOut).2.1,
      datagram.length ≤ udpMaxSize := by
  intro datagram hdatagram
  have hbound : 9 + blobStreamChunkSize ≤ udpMaxSize := by decide
  unfold nbdReqDownloadGameStateAck at hdatagram
  repeat' split at hdatagram
  all_goals first
    | cases hdatagram
    | exact (blobStreamSendChunks_length_le _ _ _ _ (fun chunk hchunk =>
        blobStreamChunks_length_le _ _ chunk (List.mem_of_mem_drop hchunk)) datagram hdatagram).trans
          hbound

/-! ## The feed and the drain -/

theorem nimbleServerFeed_sent_fit {context : NimbleServerFeedContext} {self : NimbleServer}
    {connectionIndex : UInt8} {data : List UInt8} {response : DatagramTransportOut}
    {fed : NimbleServerFeedResult}
    (h : nimbleServerFeed nbsWindowSize context self connectionIndex data response = .ok fed) :
    ∀ datagram ∈ fed.sent, datagram.length ≤ udpMaxSize := by
  rcases nimbleServerFeed_eq_ok h with ⟨-, rfl⟩ | ⟨slot, transportConnection, -, hcases⟩
  · nofun
  dsimp only at hcases
  rcases hcases with ⟨-, rfl⟩ | ⟨-, request, hdispatch, rfl⟩ | ⟨-, -, rfl⟩
  · exact nbdReqDownloadGameStateAck_fit _ _ _
  · have hwritten := nimbleServerFeedDispatch_writtenFrom hdispatch
    obtain ⟨hsize, hfits⟩ := nimbleServerFeedOutStream_fits transportConnection.orderedDatagramOutLogic
    intro datagram hdatagram
    unfold nimbleServerFeedReply at hdatagram
    dsimp only at hdatagram
    split_ifs at hdatagram
    · cases hdatagram
    · cases hdatagram
    · rw [List.mem_singleton.mp hdatagram, ← hsize, ← hwritten.size_eq]
      exact hwritten.fits hfits
  · nofun

/-- **Every datagram the server sends fits `UDP_MAX_SIZE`.**  Whatever the transport queued, a
drain only appends to the transport's sent datagrams, and every datagram it appends, replies and
blob-stream chunks alike, is at most `UDP_MAX_SIZE` octets long. -/
theorem nimbleServerReadFromMultiTransport_sent_fit (context : NimbleServerFeedContext)
    {self after : NimbleServer} {transport transport' : DatagramTransportMulti} {result : Int}
    (h : nimbleServerReadFromMultiTransport nbsWindowSize context self transport =
      .ok (after, transport', result)) :
    ∃ fresh, transport'.sent = transport.sent ++ fresh ∧
      ∀ sent ∈ fresh, sent.2.length ≤ udpMaxSize := by
  suffices hloop : ∀ rounds self transport, nimbleServerReadFromMultiTransportLoop nbsWindowSize
      context rounds self transport = .ok (after, transport', result) →
      ∃ fresh, transport'.sent = transport.sent ++ fresh ∧
        ∀ sent ∈ fresh, sent.2.length ≤ udpMaxSize from hloop 32 self transport h
  intro rounds
  induction rounds with
  | zero =>
      intro self transport h
      cases h
      exact ⟨[], by simp, nofun⟩
  | succ rounds ih =>
      intro self transport h
      rcases nimbleServerReadFromMultiTransportLoop_succ_eq_ok h with
        ⟨-, -, rfl⟩ | ⟨slot, connected, fed, -, -, -, -, hfed, hnext⟩
      · exact ⟨[], by simp, nofun⟩
      have hfit : ∀ sent ∈ fed.sent.map ((slot.val : Int), ·), sent.2.length ≤ udpMaxSize := by
        simpa using nimbleServerFeed_sent_fit hfed
      rcases hnext with ⟨-, -, rfl⟩ | ⟨-, hrest⟩
      · exact ⟨_, by simp, hfit⟩
      · obtain ⟨more, hmore, hmoreFit⟩ := ih _ _ hrest
        refine ⟨fed.sent.map ((slot.val : Int), ·) ++ more, by simp [hmore], fun sent hsent => ?_⟩
        rcases List.mem_append.mp hsent with hnow | hlater
        · exact hfit sent hnow
        · exact hmoreFit sent hlater

/-- Slot 0 in use; the transport queues a join, a download request, and the status that asks for
the game state's chunks from the first: the drain sends three datagrams. -/
theorem joined_download_sends_fitting_datagrams :
    let transport : DatagramTransportMulti :=
      ⟨[.datagram 0 [0, 0, 1, 1, 0], .datagram 0 [0, 1, 3, 5],
          .datagram 0 [0, 2, 4, 0, 127, 0, 0, 0, 0]],
        fun _ octets => octets.length, []⟩
    ∃ connected after transport' result,
      nimbleServerRun 90 [.reInitWithGame [0xAA] 0 0, .connectionConnected 0]
          (nimbleServerInit NimbleServer.zeroed ⟨2, 4, 2, 4, 100, 0⟩).1 = some connected ∧
      nimbleServerReadFromMultiTransport 90 ⟨false, false, 0⟩ connected transport =
        .ok (after, transport', result) ∧
      transport'.sent.length = 3 ∧
      ∃ fresh, transport'.sent = transport.sent ++ fresh ∧
        ∀ sent ∈ fresh, sent.2.length ≤ udpMaxSize :=
  ⟨_, _, _, _, rfl, (fun hdrain => ⟨hdrain, by exact rfl,
    nimbleServerReadFromMultiTransport_sent_fit ⟨false, false, 0⟩ hdrain⟩) rfl⟩

end NimbleServerLib
