import NimbleServerLib.AuthoritativeRing
import NimbleServerLib.ReplySequence
import NimbleServerLib.Run

/-!
# How datagrams reach the slots

Datagrams reach a slot through `nimbleServerFeed`, called by the host or by the drain
`nimbleServerReadFromMultiTransport`.  Several of the drain's and the feed's checks do not do what
they are there for, or are missing:

* the feed tests `connectionIndex > 64` where the array has 64 slots, so index 64 reads past the
  array (`nimbleServerFeed_past_last_slot`), and an index at or past the pool's capacity is only
  logged and then served;
* the drain indexes the slot array with the transport's `int` id before any range check, so an id
  outside the array reads past it (`nimbleServerReadFromMultiTransportLoop_id_out_of_range`);
* the feed throws away the ordered-in verdict, so a duplicate or late datagram is handed to its
  handler like a new one (`duplicate_datagram_dispatched`);
* the feed does not check that it read a header and a command octet either.  A datagram of none,
  one or two octets is still dispatched, on its first octet or on the indeterminate `cmd`; the
  handler fails on the empty rest, but the slot keeps the ordered-in logic of a header that was
  read and a GameStep command still trims the ring (`nimbleServerFeed_short_datagram`,
  `headerless_gameStep_trims_ring`).  Under verbose logging the feed reads the third octet before
  it knows there is one;
* the drain returns at the first feed that fails, whatever the failure, so one client's malformed
  datagram leaves every datagram queued behind it unread
  (`nimbleServerReadFromMultiTransportLoop_stops_at_failed_feed`).
-/

namespace NimbleServerLib

variable {nbsWindowSize : Nat}

/-! ## Indices past the array -/

/-- **Index 64 reads past the slot array.**  Unless the datagram is a short one under verbose
logging, a feed on index 64 indexes the 64-slot array at 64, and only indices from 65 are refused
with `-13`. -/
theorem nimbleServerFeed_past_last_slot (context : NimbleServerFeedContext) (self : NimbleServer)
    (connectionIndex : UInt8) (data : List UInt8) (response : DatagramTransportOut)
    (hlogged : context.verboseLogging = false ∨ 2 < data.length) :
    (connectionIndex.toNat = 64 →
        nimbleServerFeed nbsWindowSize context self connectionIndex data response =
          .error (.transportConnectionOutOfRange 64)) ∧
      (64 < connectionIndex.toNat →
        nimbleServerFeed nbsWindowSize context self connectionIndex data response =
          .ok ⟨self, -13, []⟩) := by
  have hshort : (context.verboseLogging && decide (data.length ≤ 2)) = false := by
    rcases hlogged with hverbose | hlong
    · simp [hverbose]
    · simp; omega
  refine ⟨fun hlast => ?_, fun hpast => ?_⟩
  · simp [nimbleServerFeed, hshort, hlast, NimbleServer.transportConnectionAt,
      nbdServerMaxTransportConnections]
  · simp [nimbleServerFeed, hshort, hpast]

/-- A feed on slot 64 of a freshly initialised server with a pool of two, and one on slot 2, past
the pool: the first reads past the slot array, the second is answered. -/
theorem feed_past_pool_and_array :
    (nimbleServerInit NimbleServer.zeroed ⟨2, 4, 2, 4, 100, 0⟩).1.connections.capacityCount = 2 ∧
      ((⟨false, false, 0⟩ : NimbleServerFeedContext).verboseLogging = false ∨
          2 < [(0 : UInt8), 0, 3, 0].length) ∧
      nimbleServerFeed 90 ⟨false, false, 0⟩ (nimbleServerInit NimbleServer.zeroed ⟨2, 4, 2, 4, 100, 0⟩).1
          64 [0, 0, 3, 0] ⟨fun octets => octets.length⟩ =
        .error (.transportConnectionOutOfRange 64) ∧
      ∃ fed, nimbleServerFeed 90 ⟨false, false, 0⟩
          (nimbleServerInit NimbleServer.zeroed ⟨2, 4, 2, 4, 100, 0⟩).1 2 [0, 0, 3, 0]
          ⟨fun octets => octets.length⟩ = .ok fed ∧ fed.sent ≠ [] :=
  ⟨rfl, .inl rfl,
    (nimbleServerFeed_past_last_slot _ _ 64 [0, 0, 3, 0] _ (.inl rfl)).1 rfl, _, rfl, by decide⟩

/-- The drain indexes the slot array with the transport's id before it checks anything: a datagram
from an id outside `[0, 64)` reads past the array. -/
theorem nimbleServerReadFromMultiTransportLoop_id_out_of_range (context : NimbleServerFeedContext)
    (rounds : Nat) (self : NimbleServer) (transport : DatagramTransportMulti)
    {connectionId : Int} {octets : List UInt8} {rest : List DatagramReceive}
    (hincoming : transport.incoming = .datagram connectionId octets :: rest) (hoctets : octets ≠ [])
    (hid : connectionId < 0 ∨ 64 ≤ connectionId) :
    nimbleServerReadFromMultiTransportLoop nbsWindowSize context (rounds + 1) self transport =
      .error (.transportConnectionOutOfRange connectionId) := by
  have hlength : 0 < octets.length := List.length_pos.mpr hoctets
  have hat : self.transportConnectionAt connectionId = .error (.transportConnectionOutOfRange connectionId) := by
    unfold NimbleServer.transportConnectionAt nbdServerMaxTransportConnections
    rw [dif_neg (by omega)]
  simp [nimbleServerReadFromMultiTransportLoop, DatagramTransportMulti.receiveFrom, hincoming, hat,
    hlength.ne', Int.not_lt.mpr (Int.ofNat_nonneg _)]

/-! ## The ordered-in verdict is ignored -/

/-- **A duplicate is handled like a new datagram.**  A client on slot 0 sends a download request
and the network delivers it twice.  The ordered-in logic rejects the second copy, yet the feed
answers it and opens another blob stream channel. -/
theorem duplicate_datagram_dispatched :
    ∃ connected first second,
      nimbleServerConnectionConnected (nimbleServerInit NimbleServer.zeroed ⟨2, 4, 2, 4, 100, 0⟩).1 0 =
          .ok (connected, 0) ∧
        nimbleServerFeed 90 ⟨false, false, 0⟩ connected 0 [0, 0, 3, 0] ⟨fun octets => octets.length⟩ =
          .ok first ∧
        nimbleServerFeed 90 ⟨false, false, 0⟩ first.server 0 [0, 0, 3, 0]
          ⟨fun octets => octets.length⟩ = .ok second ∧
        (orderedDatagramInLogicReceive (first.server.transportConnections 0).orderedDatagramInLogic
          (fldInStreamInit [0, 0, 3, 0])).1 < 0 ∧
        second.sent ≠ [] ∧
        (second.server.transportConnections 0).nextBlobStreamOutChannel =
          (first.server.transportConnections 0).nextBlobStreamOutChannel + 1 :=
  ⟨_, _, _, rfl, rfl, rfl, by decide, by decide, by decide⟩

/-! ## The drain stops at the first failure -/

/-- **One failed feed ends the drain.**  When the next datagram comes from a slot in use and its
feed fails, for whatever reason, the drain returns that failure and leaves every later datagram in
the transport. -/
theorem nimbleServerReadFromMultiTransportLoop_stops_at_failed_feed
    (context : NimbleServerFeedContext) (rounds : Nat) {self : NimbleServer}
    {transport : DatagramTransportMulti} {connectionId : Int} {octets : List UInt8}
    {rest : List DatagramReceive} {slot : TransportSlot} {fed : NimbleServerFeedResult}
    (hincoming : transport.incoming = .datagram connectionId octets :: rest) (hoctets : octets ≠ [])
    (hat : self.transportConnectionAt connectionId = .ok (slot, self.transportConnections slot))
    (hused : (self.transportConnections slot).isUsed = true)
    (hfeed : nimbleServerFeed nbsWindowSize context self (UInt8.ofNat connectionId.toNat) octets
      (sendOnlyToSpecifiedTransport { transport with incoming := rest } connectionId) = .ok fed)
    (hfailed : fed.result < 0) :
    nimbleServerReadFromMultiTransportLoop nbsWindowSize context (rounds + 1) self transport =
      .ok (fed.server, { transport with
        incoming := rest
        sent := transport.sent ++ fed.sent.map (connectionId, ·) }, fed.result) := by
  have hlength : 0 < octets.length := List.length_pos.mpr hoctets
  simp [nimbleServerReadFromMultiTransportLoop, DatagramTransportMulti.receiveFrom, hincoming, hat,
    hlength.ne', Int.not_lt.mpr (Int.ofNat_nonneg _), hused, hfeed, hfailed]

/-- A client on slot 0 that has not joined sends a GameStep; behind it in the transport waits a
download request from slot 1.  The GameStep fails, the drain returns its failure, and the request
stays unread. -/
theorem failed_feed_holds_back_queue :
    let transport : DatagramTransportMulti :=
      ⟨[.datagram 0 [0, 0, 2], .datagram 1 [0, 0, 3, 0]], fun _ octets => octets.length, []⟩
    ∃ connected fed,
      nimbleServerRun 90 [.reInitWithGame [0xAA] 0 0, .connectionConnected 0]
          (nimbleServerInit NimbleServer.zeroed ⟨2, 4, 2, 4, 100, 0⟩).1 = some connected ∧
        (connected.transportConnections 0).isUsed = true ∧
        nimbleServerFeed 90 ⟨false, false, 0⟩ connected 0 [0, 0, 2]
          (sendOnlyToSpecifiedTransport { transport with incoming := [.datagram 1 [0, 0, 3, 0]] } 0) =
            .ok fed ∧
        fed.result < 0 ∧
        nimbleServerReadFromMultiTransport 90 ⟨false, false, 0⟩ connected transport =
          .ok (fed.server, { transport with
            incoming := [.datagram 1 [0, 0, 3, 0]]
            sent := transport.sent ++ fed.sent.map ((0 : Int), ·) }, fed.result) := by
  intro transport
  refine ⟨_, _, rfl, rfl, rfl, by decide, ?_⟩
  exact @nimbleServerReadFromMultiTransportLoop_stops_at_failed_feed 90 ⟨false, false, 0⟩ 31 _ _ 0
    _ _ 0 _ rfl (by decide) (transportConnectionAt_eq_ok.mpr ⟨rfl, rfl⟩) rfl rfl (by decide)

/-! ## The header and command reads are ignored -/

/-- The feed's two reads consume the whole of a datagram shorter than a header and a command:
none, one or two octets. -/
theorem nimbleServerFeedReadCmd_short (context : NimbleServerFeedContext)
    (inLogic : OrderedDatagramInLogic) {data : List UInt8} (hshort : data.length ≤ 2) :
    (nimbleServerFeedReadCmd context
      (orderedDatagramInLogicReceive inLogic (fldInStreamInit data)).2.2).2 = ⟨data, data.length⟩ := by
  rw [orderedDatagramInLogicReceive_inStream inLogic orderedDatagramInLogicInit]
  match data, hshort with
  | [], _ => rfl
  | [_], _ => rfl
  | [_, _], _ => rfl

/-- **What a feed does with a datagram too short for a header and a command.**  Whatever command
octet the feed ends up with, its handler, if it has one, finds nothing to read and fails, so
nothing is sent and the pool is left alone.  The slot still keeps the ordered-in logic of a header
that was read, and a GameStep command still trims the authoritative ring. -/
theorem nimbleServerFeed_short_datagram {context : NimbleServerFeedContext} {self : NimbleServer}
    {connectionIndex : UInt8} {data : List UInt8} {response : DatagramTransportOut}
    {fed : NimbleServerFeedResult} {slot : TransportSlot} (hslot : slot.val = connectionIndex.toNat)
    (hshort : data.length ≤ 2)
    (h : nimbleServerFeed nbsWindowSize context self connectionIndex data response = .ok fed) :
    fed.sent = [] ∧
      fed.server = { self.setTransportConnection slot { self.transportConnections slot with
          orderedDatagramInLogic := (orderedDatagramInLogicReceive
            (self.transportConnections slot).orderedDatagramInLogic (fldInStreamInit data)).2.1 } with
        game := if nimbleServerFeedCmd context data = nimbleSerializeCmdGameStep then
            { self.game with
              authoritativeSteps := self.game.authoritativeSteps.keepNewest (nbsWindowSize / 3) }
          else self.game } := by
  rcases nimbleServerFeed_eq_ok h with ⟨hpast, -⟩ | ⟨slot', transportConnection, hat, hcases⟩
  · exact absurd hpast (by have := slot.isLt; simp only [nbdServerMaxTransportConnections] at this; omega)
  obtain ⟨hindex, rfl⟩ := transportConnectionAt_eq_ok.mp hat
  obtain rfl : slot = slot' := Fin.ext (by omega)
  have hcmd : (nimbleServerFeedReadCmd context (orderedDatagramInLogicReceive
      (self.transportConnections slot).orderedDatagramInLogic (fldInStreamInit data)).2.2).1 =
        nimbleServerFeedCmd context data := by
    rw [nimbleServerFeedCmd, orderedDatagramInLogicReceive_inStream _ orderedDatagramInLogicInit]
  have hout : (⟨data, data.length⟩ : FldInStream).octets.length ≤ data.length := le_rfl
  dsimp only at hcases
  rw [hcmd, nimbleServerFeedReadCmd_short context _ hshort] at hcases
  rcases hcases with ⟨hack, rfl⟩ | ⟨-, request, hdispatch, rfl⟩ | ⟨-, hnone, rfl⟩
  · rw [nbdReqDownloadGameStateAck_exhausted _ _ hout, hack, if_neg (by decide)]
    exact ⟨rfl, rfl⟩
  · obtain ⟨hneg, hconnections, htc, hstat, hgame⟩ := nimbleServerFeedDispatch_exhausted hdispatch hout
    rw [nimbleServerFeedReply_of_neg response hneg, hconnections, htc, hstat, hgame,
      discardAuthoritativeStepsIfBufferGettingFull_eq]
    exact ⟨rfl, rfl⟩
  · have hnotStep : nimbleServerFeedCmd context data ≠ nimbleSerializeCmdGameStep := fun hstep => by
      simp [nimbleServerFeedDispatch, hstep] at hnone
    rw [if_neg hnotStep]
    exact ⟨rfl, rfl⟩

/-- **A lone command octet is handled.**  The one-octet datagram holding the GameStep command is
too short for an ordered-datagram header, whatever the slot's ordered-in logic.  Under verbose
logging the feed reads its third octet, past its end.  Otherwise the feed reads the octet as the
command, hands the datagram to the GameStep handler, and the handler's backpressure trim drops
all but the newest `NBS_WINDOW_SIZE / 3` authoritative steps before its first read fails. -/
theorem headerless_gameStep_trims_ring (context : NimbleServerFeedContext) (self : NimbleServer)
    (connectionIndex : UInt8) (response : DatagramTransportOut)
    (hindex : connectionIndex.toNat < nbdServerMaxTransportConnections) :
    (context.verboseLogging = true →
        nimbleServerFeed nbsWindowSize context self connectionIndex [nimbleSerializeCmdGameStep]
          response = .error (.datagramOutOfRange 2)) ∧
      (∀ inLogic, (orderedDatagramInLogicReceive inLogic
        (fldInStreamInit [nimbleSerializeCmdGameStep])).1 < 0) ∧
      (context.verboseLogging = false → ∃ fed,
        nimbleServerFeed nbsWindowSize context self connectionIndex [nimbleSerializeCmdGameStep]
          response = .ok fed ∧ fed.sent = [] ∧
        fed.server.game = { self.game with
          authoritativeSteps := self.game.authoritativeSteps.keepNewest (nbsWindowSize / 3) }) := by
  have hreceive (inLogic : OrderedDatagramInLogic) :
      orderedDatagramInLogicReceive inLogic (fldInStreamInit [nimbleSerializeCmdGameStep]) =
        (fldInStreamErrReadPastEnd, inLogic, fldInStreamInit [nimbleSerializeCmdGameStep]) :=
    orderedDatagramInLogicReceive_of_lt (by decide)
  refine ⟨fun hverbose => by simp [nimbleServerFeed, hverbose],
    fun inLogic => by rw [hreceive]; exact show fldInStreamErrReadPastEnd < 0 by decide,
    fun hquiet => ?_⟩
  let slot : TransportSlot := ⟨connectionIndex.toNat, hindex⟩
  have hat : self.transportConnectionAt connectionIndex.toNat =
      .ok (slot, self.transportConnections slot) := transportConnectionAt_eq_ok.mpr ⟨rfl, rfl⟩
  have hinside : ¬ 64 < connectionIndex.toNat := by
    simp only [nbdServerMaxTransportConnections] at hindex
    omega
  have hcmd : nimbleServerFeedReadCmd context (fldInStreamInit [nimbleSerializeCmdGameStep]) =
      (nimbleSerializeCmdGameStep, ⟨[nimbleSerializeCmdGameStep], 1⟩) := rfl
  have hfed : ∃ fed, nimbleServerFeed nbsWindowSize context self connectionIndex
      [nimbleSerializeCmdGameStep] response = .ok fed := by
    have hnotAck : nimbleSerializeCmdGameStep ≠ nimbleSerializeCmdDownloadGameStateStatus := by decide
    simp [nimbleServerFeed, hquiet, hinside, hat, hreceive, hcmd, hnotAck, nimbleServerFeedDispatch]
  obtain ⟨fed, hfed⟩ := hfed
  have hslot : slot.val = connectionIndex.toNat := rfl
  obtain ⟨hsent, hserver⟩ := nimbleServerFeed_short_datagram hslot (by decide) hfed
  refine ⟨fed, hfed, hsent, ?_⟩
  rw [hserver]
  dsimp only
  exact if_pos rfl

/-- A client joins on slot 0 and sends 31 steps in one GameStep, which the server composes at once.
The lone GameStep octet that then arrives on slot 0 cuts the ring of 31 authoritative steps to
the newest 30. -/
theorem headerless_gameStep_after_burst :
    let start := (nimbleServerReInitWithGame
      (nimbleServerInit NimbleServer.zeroed ⟨2, 4, 2, 4, 100, 0⟩).1 [0xAA] 0 0).1
    let context : NimbleServerFeedContext := ⟨false, false, 0⟩
    let response : DatagramTransportOut := ⟨fun octets => octets.length⟩
    ∃ self, nimbleServerRun 90 [.connectionConnected 0, .feed context 0 [0, 0, 1, 1, 0] response,
        .feed context 0 ([0, 1, 2, 0, 0, 0, 0, 0, 0, 0, 0, 31] ++ (List.replicate 31 [1, 7]).flatten)
          response] start = some self ∧
      self.game.authoritativeSteps.stepsCount = 31 ∧
      (0 : UInt8).toNat < nbdServerMaxTransportConnections ∧
      (context.verboseLogging = true →
        nimbleServerFeed 90 context self 0 [nimbleSerializeCmdGameStep] response =
          .error (.datagramOutOfRange 2)) ∧
      (∀ inLogic, (orderedDatagramInLogicReceive inLogic
        (fldInStreamInit [nimbleSerializeCmdGameStep])).1 < 0) ∧
      (context.verboseLogging = false → ∃ fed,
        nimbleServerFeed 90 context self 0 [nimbleSerializeCmdGameStep] response = .ok fed ∧
          fed.sent = [] ∧
          fed.server.game = { self.game with
            authoritativeSteps := self.game.authoritativeSteps.keepNewest (90 / 3) }) :=
  ⟨_, rfl, by decide, by decide,
    @headerless_gameStep_trims_ring 90 ⟨false, false, 0⟩ _ 0 ⟨fun octets => octets.length⟩
      (by decide)⟩

end NimbleServerLib
