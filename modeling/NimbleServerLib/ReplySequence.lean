import NimbleServerLib.Feed

/-!
# The ordered-datagram ids of a slot's replies

A reply carries the slot's next ordered-datagram id in its first two octets, and the client's
ordered-in logic uses it to drop duplicates and late replies.  `nimbleServerFeed` prepares the id
before it dispatches, and commits it, moving the slot to the next id, exactly when it hands a
reply to the transport: never for a failed handler, an unknown command or a reply of only the
header (`nimbleServerFeed_sequence`).  Only the status of a blob stream, which sends its chunks
itself, is left out.

Along any run of feeds on one slot the replies therefore carry consecutive ids
(`nimbleServerFeedRun_reply_ids`).  The ids are sixteen bits wide, so they are consecutive modulo
`2^16`: any `2^16` replies in a row carry distinct ids, and the reply after them reuses the id of
the first (`reply_ids_repeat_after_65536`).
-/

namespace NimbleServerLib

variable {nbsWindowSize : Nat}

/-! ## The command octet -/

/-- The ordered-in logic reads the same header whatever it expects. -/
theorem orderedDatagramInLogicReceive_inStream (self other : OrderedDatagramInLogic)
    (inStream : FldInStream) :
    (orderedDatagramInLogicReceive self inStream).2.2 =
      (orderedDatagramInLogicReceive other inStream).2.2 := by
  unfold orderedDatagramInLogicReceive
  split
  · rfl
  · repeat' split
    all_goals rfl

/-- The command octet `nimbleServerFeed` reads from a datagram: the octet after the header, or the
indeterminate `cmd` when the read fails.  It does not depend on the slot. -/
def nimbleServerFeedCmd (context : NimbleServerFeedContext) (data : List UInt8) : UInt8 :=
  (nimbleServerFeedReadCmd context
    (orderedDatagramInLogicReceive orderedDatagramInLogicInit (fldInStreamInit data)).2.2).1

/-! ## One feed -/

/-- **A feed commits exactly the id of the reply it sends.**  Unless the datagram is the status of
a blob stream, a feed on a slot either sends nothing and leaves the slot's sending half as it was,
or sends one reply that carries the slot's next id and commits that id. -/
theorem nimbleServerFeed_sequence {context : NimbleServerFeedContext} {self : NimbleServer}
    {connectionIndex : UInt8} {data : List UInt8} {response : DatagramTransportOut}
    {fed : NimbleServerFeedResult} {slot : TransportSlot} (hslot : slot.val = connectionIndex.toNat)
    (hcmd : nimbleServerFeedCmd context data ≠ nimbleSerializeCmdDownloadGameStateStatus)
    (h : nimbleServerFeed nbsWindowSize context self connectionIndex data response = .ok fed) :
    (fed.sent = [] ∧ (fed.server.transportConnections slot).orderedDatagramOutLogic =
        (self.transportConnections slot).orderedDatagramOutLogic) ∨
      ∃ reply, fed.sent = [reply] ∧
        orderedDatagramSequenceIdOf reply =
          (self.transportConnections slot).orderedDatagramOutLogic.sequenceToSend ∧
        (fed.server.transportConnections slot).orderedDatagramOutLogic =
          orderedDatagramOutLogicCommit (self.transportConnections slot).orderedDatagramOutLogic := by
  rcases nimbleServerFeed_eq_ok h with ⟨-, rfl⟩ | ⟨slot', transportConnection, hat, hcases⟩
  · exact .inl ⟨rfl, rfl⟩
  obtain ⟨hindex, rfl⟩ := transportConnectionAt_eq_ok.mp hat
  obtain rfl : slot' = slot := Fin.ext (by omega)
  have hread : (nimbleServerFeedReadCmd context (orderedDatagramInLogicReceive
      (self.transportConnections slot').orderedDatagramInLogic (fldInStreamInit data)).2.2).1 =
        nimbleServerFeedCmd context data := by
    rw [nimbleServerFeedCmd, orderedDatagramInLogicReceive_inStream _ orderedDatagramInLogicInit]
  dsimp only at hcases
  rw [hread] at hcases
  rcases hcases with ⟨hack, -⟩ | ⟨-, request, hdispatch, rfl⟩ | ⟨-, -, rfl⟩
  · exact absurd hack hcmd
  · have hreplies := nimbleServerFeedDispatch_replies hdispatch
    unfold nimbleServerFeedReply
    dsimp only
    split
    · exact .inl ⟨rfl, by simpa using hreplies.outLogic_eq⟩
    split
    · exact .inl ⟨rfl, by simpa using hreplies.outLogic_eq⟩
    · refine .inr ⟨_, rfl, ?_, by simp [hreplies.outLogic_eq]⟩
      obtain ⟨extra, hextra⟩ := hreplies.octets_prefix
      rw [← hextra, nimbleServerFeedOutStream_octets, orderedDatagramSequenceIdOf_prepare]
  · exact .inl ⟨rfl, by simp⟩

/-! ## Runs of feeds on one slot -/

/-- Datagrams fed one after another on the slot `connectionIndex`, each with its context and its
reply transport: the server after them and the replies handed to the transports, in order. -/
def nimbleServerFeedRun (nbsWindowSize : Nat) (connectionIndex : UInt8) :
    List (NimbleServerFeedContext × List UInt8 × DatagramTransportOut) → NimbleServer →
      Except NimbleServerFault (NimbleServer × List (List UInt8))
  | [], self => .ok (self, [])
  | (context, data, response) :: feeds, self =>
      match nimbleServerFeed nbsWindowSize context self connectionIndex data response with
      | .error fault => .error fault
      | .ok fed =>
        match nimbleServerFeedRun nbsWindowSize connectionIndex feeds fed.server with
        | .error fault => .error fault
        | .ok (after, replies) => .ok (after, fed.sent ++ replies)

theorem nimbleServerFeedRun_cons {connectionIndex : UInt8} {context : NimbleServerFeedContext}
    {data : List UInt8} {response : DatagramTransportOut}
    {feeds : List (NimbleServerFeedContext × List UInt8 × DatagramTransportOut)}
    {self after : NimbleServer} {replies : List (List UInt8)}
    (h : nimbleServerFeedRun nbsWindowSize connectionIndex ((context, data, response) :: feeds) self =
      .ok (after, replies)) :
    ∃ fed rest, nimbleServerFeed nbsWindowSize context self connectionIndex data response = .ok fed ∧
      nimbleServerFeedRun nbsWindowSize connectionIndex feeds fed.server = .ok (after, rest) ∧
      replies = fed.sent ++ rest := by
  unfold nimbleServerFeedRun at h
  split at h
  · cases h
  rename_i fed hfed
  split at h
  · cases h
  · cases h
    exact ⟨fed, _, hfed, ‹_›, rfl⟩

/-- Along a run of feeds on one slot, none of them the status of a blob stream, the replies carry
the ids that follow the slot's next id one by one, and the slot ends at the id after the last. -/
theorem nimbleServerFeedRun_sequence {connectionIndex : UInt8}
    {feeds : List (NimbleServerFeedContext × List UInt8 × DatagramTransportOut)}
    {self after : NimbleServer} {replies : List (List UInt8)} {slot : TransportSlot}
    (hslot : slot.val = connectionIndex.toNat)
    (hcmd : ∀ feed ∈ feeds, nimbleServerFeedCmd feed.1 feed.2.1 ≠
      nimbleSerializeCmdDownloadGameStateStatus)
    (h : nimbleServerFeedRun nbsWindowSize connectionIndex feeds self = .ok (after, replies)) :
    replies.map orderedDatagramSequenceIdOf =
        stepIdsFrom (self.transportConnections slot).orderedDatagramOutLogic.sequenceToSend
          replies.length ∧
      (after.transportConnections slot).orderedDatagramOutLogic.sequenceToSend =
        (self.transportConnections slot).orderedDatagramOutLogic.sequenceToSend +
          BitVec.ofNat 16 replies.length := by
  induction feeds generalizing self replies with
  | nil =>
      cases h
      simp [stepIdsFrom]
  | cons feed feeds ih =>
      obtain ⟨context, data, response⟩ := feed
      obtain ⟨fed, rest, hfed, hrest, rfl⟩ := nimbleServerFeedRun_cons h
      obtain ⟨hids, hnext⟩ := ih (fun feed hfeed => hcmd feed (List.mem_cons_of_mem _ hfeed)) hrest
      rcases nimbleServerFeed_sequence hslot (hcmd _ (List.mem_cons_self _ _)) hfed with
        ⟨hsent, hsame⟩ | ⟨reply, hsent, hid, hcommit⟩
      · -- nothing sent, nothing committed
        rw [hsame] at hids hnext
        simpa [hsent] using ⟨hids, hnext⟩
      · -- one reply, one commit
        rw [hcommit] at hids hnext
        refine ⟨by simp [hsent, hid, hids, stepIdsFrom, orderedDatagramOutLogicCommit], ?_⟩
        rw [hnext, hsent]
        simp only [orderedDatagramOutLogicCommit, List.singleton_append, List.length_cons]
        exact ofNat_succ_eq _ _

/-- **The replies of a slot carry consecutive ids, modulo `2^16`.**  Along any run of feeds on one
slot, none of them the status of a blob stream, the replies carry the ids that follow the slot's
next id one by one, the slot ends up at the id after the last reply, and two replies carry the
same id exactly when the run sent more than `2^16` of them. -/
theorem nimbleServerFeedRun_reply_ids {connectionIndex : UInt8}
    {feeds : List (NimbleServerFeedContext × List UInt8 × DatagramTransportOut)}
    {self after : NimbleServer} {replies : List (List UInt8)} {slot : TransportSlot}
    (hslot : slot.val = connectionIndex.toNat)
    (hcmd : ∀ feed ∈ feeds, nimbleServerFeedCmd feed.1 feed.2.1 ≠
      nimbleSerializeCmdDownloadGameStateStatus)
    (h : nimbleServerFeedRun nbsWindowSize connectionIndex feeds self = .ok (after, replies)) :
    replies.map orderedDatagramSequenceIdOf =
        stepIdsFrom (self.transportConnections slot).orderedDatagramOutLogic.sequenceToSend
          replies.length ∧
      (after.transportConnections slot).orderedDatagramOutLogic.sequenceToSend =
        (self.transportConnections slot).orderedDatagramOutLogic.sequenceToSend +
          BitVec.ofNat 16 replies.length ∧
      ((replies.map orderedDatagramSequenceIdOf).Nodup ↔ replies.length ≤ 2 ^ 16) := by
  obtain ⟨hids, hnext⟩ := nimbleServerFeedRun_sequence hslot hcmd h
  exact ⟨hids, hnext, by rw [hids, stepIdsFrom_nodup_iff]⟩

/-- Two download requests on slot 0 of a zeroed server get the ids 0 and 1. -/
theorem nimbleServerFeedRun_reply_ids_two_downloads :
    let download : NimbleServerFeedContext × List UInt8 × DatagramTransportOut :=
      (⟨false, false, 0⟩, [0, 0, 3, 0], ⟨fun octets => octets.length⟩)
    ∃ after replies,
      ((0 : TransportSlot).val = (0 : UInt8).toNat ∧
        (∀ feed ∈ [download, download], nimbleServerFeedCmd feed.1 feed.2.1 ≠
          nimbleSerializeCmdDownloadGameStateStatus) ∧
        nimbleServerFeedRun 90 0 [download, download] NimbleServer.zeroed = .ok (after, replies)) ∧
      replies.map orderedDatagramSequenceIdOf =
          stepIdsFrom (NimbleServer.zeroed.transportConnections 0).orderedDatagramOutLogic.sequenceToSend
            replies.length ∧
        (after.transportConnections 0).orderedDatagramOutLogic.sequenceToSend =
          (NimbleServer.zeroed.transportConnections 0).orderedDatagramOutLogic.sequenceToSend +
            BitVec.ofNat 16 replies.length ∧
        ((replies.map orderedDatagramSequenceIdOf).Nodup ↔ replies.length ≤ 2 ^ 16) := by
  intro download
  exact ⟨_, _, ⟨rfl, by decide, rfl⟩,
    @nimbleServerFeedRun_reply_ids 90 0 [download, download] NimbleServer.zeroed _ _ 0 rfl
      (by decide) rfl⟩

/-! ## A slot that replies to every datagram -/

/-- A download request whose client request id can be read is answered with a fourteen-octet reply
and no failure. -/
theorem nbdReqDownloadGameState_answers (transportConnection : NimbleServerTransportConnection)
    (foundGame : NimbleServerGame) (outLogic : OrderedDatagramOutLogic)
    {inStream rest : FldInStream} {clientRequestId : UInt8}
    (hread : fldInStreamReadUInt8 inStream = .ok (clientRequestId, rest)) :
    let download := nbdReqDownloadGameState transportConnection foundGame inStream
      (nimbleServerFeedOutStream outLogic)
    download.2.2.2 = 0 ∧ download.2.2.1.pos = 14 := by
  have hwrite : fldOutStreamWriteOctets (nimbleServerFeedOutStream outLogic)
      (downloadGameStateResponseOctets clientRequestId foundGame.latestState
        transportConnection.nextBlobStreamOutChannel) =
      .ok ⟨encodeBigEndian 2 outLogic.sequenceToSend.toNat ++
        downloadGameStateResponseOctets clientRequestId foundGame.latestState
          transportConnection.nextBlobStreamOutChannel, udpMaxSize⟩ := by
    rw [nimbleServerFeedOutStream_eq]
    exact fldOutStreamWriteOctets_eq_ok.mpr ⟨by simp [downloadGameStateResponseOctets, udpMaxSize], rfl⟩
  simp only [nbdReqDownloadGameState, hread, hwrite]
  simp [FldOutStream.pos, downloadGameStateResponseOctets]

/-- The same download request fed on slot 0 is answered every time, whatever the slot's ordered-in
logic says of it. -/
theorem nimbleServerFeed_downloadRequest (self : NimbleServer) (context : NimbleServerFeedContext)
    (response : DatagramTransportOut) :
    ∃ fed, nimbleServerFeed nbsWindowSize context self 0 [0, 0, 3, 0] response = .ok fed ∧
      fed.sent.length = 1 := by
  have hat : self.transportConnectionAt (0 : UInt8).toNat = .ok (0, self.transportConnections 0) :=
    transportConnectionAt_eq_ok.mpr ⟨rfl, rfl⟩
  have hheader (inLogic : OrderedDatagramInLogic) :
      (orderedDatagramInLogicReceive inLogic (fldInStreamInit [0, 0, 3, 0])).2.2 =
        ⟨[0, 0, 3, 0], 2⟩ := by
    rw [orderedDatagramInLogicReceive_inStream _ orderedDatagramInLogicInit]
    rfl
  have hcmd : nimbleServerFeedReadCmd context ⟨[0, 0, 3, 0], 2⟩ = (3, ⟨[0, 0, 3, 0], 3⟩) := rfl
  have hread : fldInStreamReadUInt8 ⟨[0, 0, 3, 0], 3⟩ = .ok (0, ⟨[0, 0, 3, 0], 4⟩) := rfl
  have hnotAck : (3 : UInt8) ≠ nimbleSerializeCmdDownloadGameStateStatus := by decide
  unfold nimbleServerFeed
  rw [if_neg (by simp), if_neg (by decide), hat]
  dsimp only
  rw [hheader, hcmd, if_neg hnotAck]
  simp [nimbleServerFeedDispatch, nimbleSerializeCmdGameStep, nimbleSerializeCmdJoinGameRequest,
    nimbleSerializeCmdDownloadGameStateRequest, nimbleServerFeedReply,
    nbdReqDownloadGameState_answers _ _ _ hread]

theorem nimbleServerFeedRun_downloadRequests (context : NimbleServerFeedContext)
    (response : DatagramTransportOut) (count : Nat) (self : NimbleServer) :
    ∃ after replies, nimbleServerFeedRun nbsWindowSize 0
        (List.replicate count (context, [0, 0, 3, 0], response)) self = .ok (after, replies) ∧
      replies.length = count := by
  induction count generalizing self with
  | zero => exact ⟨self, [], rfl, rfl⟩
  | succ count ih =>
      obtain ⟨fed, hfed, hsent⟩ := @nimbleServerFeed_downloadRequest nbsWindowSize self context
        response
      obtain ⟨after, replies, hrun, hlength⟩ := ih fed.server
      refine ⟨after, fed.sent ++ replies, ?_, by simp [hsent, hlength]; omega⟩
      simp [List.replicate_succ, nimbleServerFeedRun, hfed, hrun]

/-- **The 65537th reply reuses the first reply's id.**  A client that sends the same download
request 65537 times on slot 0 of a zeroed server is answered 65537 times, and the answers carry
the ids `0, 1, …, 65535, 0`. -/
theorem reply_ids_repeat_after_65536 :
    ∃ after replies, nimbleServerFeedRun 90 0
        (List.replicate 65537 (⟨false, false, 0⟩, [0, 0, 3, 0], ⟨fun octets => octets.length⟩))
        NimbleServer.zeroed = .ok (after, replies) ∧
      replies.length = 65537 ∧ ¬ (replies.map orderedDatagramSequenceIdOf).Nodup := by
  obtain ⟨after, replies, hrun, hlength⟩ := nimbleServerFeedRun_downloadRequests
    ⟨false, false, 0⟩ ⟨fun octets => octets.length⟩ 65537 NimbleServer.zeroed
  have hcmd : ∀ feed ∈ List.replicate 65537 ((⟨false, false, 0⟩ : NimbleServerFeedContext),
      [(0 : UInt8), 0, 3, 0], (⟨fun octets => octets.length⟩ : DatagramTransportOut)),
      nimbleServerFeedCmd feed.1 feed.2.1 ≠ nimbleSerializeCmdDownloadGameStateStatus := by
    intro feed hfeed
    rw [(List.mem_replicate.mp hfeed).2]
    decide
  refine ⟨after, replies, hrun, hlength, ?_⟩
  rw [(@nimbleServerFeedRun_sequence 90 0 _ _ _ _ 0 rfl hcmd hrun).1, stepIdsFrom_nodup_iff,
    hlength]
  decide

end NimbleServerLib
