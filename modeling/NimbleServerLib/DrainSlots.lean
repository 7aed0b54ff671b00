import NimbleServerLib.FeedSlots
import NimbleServerLib.Run

/-!
# The drain, slot by slot

`nimbleServerReadFromMultiTransport` feeds the datagrams of many clients in the order the
transport returns them, so the feeds of different slots interleave.  Every round reads one result
from the transport, connects the slot implicitly when it is unused, feeds the datagram on the slot
the transport named, and appends what the feed sent, tagged with that slot, to the transport's
sent datagrams (`nimbleServerReadFromMultiTransportLoop_succ_eq_ok`).

Taken slot by slot, the interleaving does not matter:

* the datagrams a drain sends to a slot in use carry the consecutive ordered-datagram ids from
  the slot's next one, whatever the other slots' datagrams in between, and the slot ends at the id
  after the last (`nimbleServerReadFromMultiTransport_sent_ids`);
* a slot that none of the queued results names is left as it was
  (`nimbleServerReadFromMultiTransportLoop_quiet`).

A slot that is not in use is connected by the drain's first datagram for it, and
`transportConnectionInit` starts its ids again at 0; the first result is about slots in use.
-/

namespace NimbleServerLib

variable {nbsWindowSize : Nat}

/-! ## The transport -/

/-- The connection id `receiveFrom` reports with a queued result; a failure reports
connection 0. -/
def DatagramReceive.connectionId : DatagramReceive → Int
  | .datagram connectionId _ => connectionId
  | .failure _ => 0

@[simp] theorem receiveFrom_sent (transport : DatagramTransportMulti) :
    transport.receiveFrom.2.2.2.sent = transport.sent := by
  unfold DatagramTransportMulti.receiveFrom
  split <;> rfl

@[simp] theorem receiveFrom_sendTo (transport : DatagramTransportMulti) :
    transport.receiveFrom.2.2.2.sendTo = transport.sendTo := by
  unfold DatagramTransportMulti.receiveFrom
  split <;> rfl

/-- A positive octet count comes with the first queued result, which `receiveFrom` takes off the
queue. -/
theorem receiveFrom_of_pos {transport : DatagramTransportMulti} (h : 0 < transport.receiveFrom.1) :
    ∃ received rest, transport.incoming = received :: rest ∧
      transport.receiveFrom.2.1 = received.connectionId ∧ transport.receiveFrom.2.2.2.incoming = rest := by
  unfold DatagramTransportMulti.receiveFrom at h ⊢
  split at h <;> rename_i hincoming
  · exact absurd h (lt_irrefl 0)
  all_goals exact ⟨_, _, hincoming, rfl, rfl⟩

/-! ## One round -/

/-- **One round of the drain.**  Either the transport returned no datagram and the drain stops
with the server as it was, or the transport named a slot inside the array: the drain connected it
if it was unused, fed the datagram on it, and appended the feed's datagrams, tagged with the slot;
a failed feed then ends the drain, any other result goes on to the next round. -/
theorem nimbleServerReadFromMultiTransportLoop_succ_eq_ok {context : NimbleServerFeedContext}
    {rounds : Nat} {self after : NimbleServer} {transport transport' : DatagramTransportMulti}
    {result : Int}
    (h : nimbleServerReadFromMultiTransportLoop nbsWindowSize context (rounds + 1) self transport =
      .ok (after, transport', result)) :
    let received := transport.receiveFrom
    (received.1 ≤ 0 ∧ after = self ∧ transport' = received.2.2.2) ∨
    ∃ (slot : TransportSlot) (connected : NimbleServer) (fed : NimbleServerFeedResult),
      0 < received.1 ∧ received.2.1 = slot.val ∧
      (connected = self ∨ ∃ connectResult,
        nimbleServerConnectionConnected self (UInt8.ofNat slot.val) = .ok (connected, connectResult)) ∧
      ((self.transportConnections slot).isUsed = true → connected = self) ∧
      nimbleServerFeed nbsWindowSize context connected (UInt8.ofNat slot.val) received.2.2.1
        (sendOnlyToSpecifiedTransport received.2.2.2 slot.val) = .ok fed ∧
      let fedTransport := { received.2.2.2 with
        sent := received.2.2.2.sent ++ fed.sent.map ((slot.val : Int), ·) }
      (fed.result < 0 ∧ after = fed.server ∧ transport' = fedTransport ∨
        0 ≤ fed.result ∧ nimbleServerReadFromMultiTransportLoop nbsWindowSize context rounds
          fed.server fedTransport = .ok (after, transport', result)) := by
  unfold nimbleServerReadFromMultiTransportLoop at h
  dsimp only at h
  split at h
  · cases h
    exact .inl ⟨by omega, rfl, rfl⟩
  split at h
  · cases h
    exact .inl ⟨by omega, rfl, rfl⟩
  split at h
  · cases h
  rename_i slot _ hat
  obtain ⟨hindex, rfl⟩ := transportConnectionAt_eq_ok.mp hat
  simp only [hindex, Int.toNat_ofNat] at h
  split at h
  · cases h
  rename_i connected hconnected
  have hused : (self.transportConnections slot).isUsed = true → connected = self := fun hused => by
    simpa [hused] using hconnected.symm
  split at h
  · cases h
  rename_i fed hfed
  refine .inr ⟨slot, connected, fed, by omega, hindex, implicitConnect_eq_ok hconnected, hused, hfed, ?_⟩
  split at h
  · cases h
    exact .inl ⟨‹_›, rfl, rfl⟩
  · exact .inr ⟨by omega, h⟩

/-! ## The datagrams one slot is sent -/

/-- The ordered-datagram ids of the datagrams in `sent` that went to `slot`, in the order they
were sent. -/
def sentIdsTo (slot : TransportSlot) (sent : List (Int × List UInt8)) : List (BitVec 16) :=
  (sent.filter fun entry => entry.1 = (slot.val : Int)).map fun entry => orderedDatagramSequenceIdOf entry.2

@[simp] theorem sentIdsTo_nil (slot : TransportSlot) : sentIdsTo slot [] = [] := rfl

@[simp] theorem sentIdsTo_append (slot : TransportSlot) (sent more : List (Int × List UInt8)) :
    sentIdsTo slot (sent ++ more) = sentIdsTo slot sent ++ sentIdsTo slot more := by
  simp [sentIdsTo]

theorem sentIdsTo_tagged_same (slot : TransportSlot) (sent : List (List UInt8)) :
    sentIdsTo slot (sent.map ((slot.val : Int), ·)) = sent.map orderedDatagramSequenceIdOf := by
  simp [sentIdsTo, List.filter_map, Function.comp_def]

theorem sentIdsTo_tagged_other {slot other : TransportSlot} (hother : other ≠ slot)
    (sent : List (List UInt8)) : sentIdsTo slot (sent.map ((other.val : Int), ·)) = [] := by
  have hval : other.val ≠ slot.val := fun heq => hother (Fin.ext heq)
  simp [sentIdsTo, List.filter_map, Function.comp_def, hval]

/-- What a stretch of the drain did on `slot`, with `fresh` the datagrams it appended to the
transport: those that went to `slot` carry the consecutive ids from the slot's next one, the slot
ends at the id after the last, and its use flag is as it was. -/
structure SlotSends (slot : TransportSlot) (before after : NimbleServer)
    (fresh : List (Int × List UInt8)) : Prop where
  ids_eq : sentIdsTo slot fresh =
    stepIdsFrom (before.transportConnections slot).orderedDatagramOutLogic.sequenceToSend
      (sentIdsTo slot fresh).length
  next_eq : (after.transportConnections slot).orderedDatagramOutLogic.sequenceToSend =
    (before.transportConnections slot).orderedDatagramOutLogic.sequenceToSend +
      BitVec.ofNat 16 (sentIdsTo slot fresh).length
  isUsed_eq : (after.transportConnections slot).isUsed = (before.transportConnections slot).isUsed

theorem SlotSends.refl (slot : TransportSlot) (self : NimbleServer) : SlotSends slot self self [] :=
  ⟨rfl, by simp, rfl⟩

theorem SlotSends.of_eq {slot : TransportSlot} {before after : NimbleServer}
    {fresh : List (Int × List UInt8)}
    (h : after.transportConnections slot = before.transportConnections slot)
    (hnone : sentIdsTo slot fresh = []) : SlotSends slot before after fresh :=
  ⟨by rw [hnone]; rfl, by simp [h, hnone], by rw [h]⟩

theorem SlotSends.append {slot : TransportSlot} {first middle last : NimbleServer}
    {fresh more : List (Int × List UInt8)} (h₁ : SlotSends slot first middle fresh)
    (h₂ : SlotSends slot middle last more) : SlotSends slot first last (fresh ++ more) := by
  refine ⟨?_, ?_, h₂.isUsed_eq.trans h₁.isUsed_eq⟩
  · rw [sentIdsTo_append, List.length_append, stepIdsFrom_add, ← h₁.next_eq, ← h₁.ids_eq,
      ← h₂.ids_eq]
  · rw [h₂.next_eq, h₁.next_eq, sentIdsTo_append, List.length_append, BitVec.ofNat_add,
      BitVec.add_assoc]

theorem slot_toNat_ofNat (slot : TransportSlot) : (UInt8.ofNat slot.val).toNat = slot.val := by
  have := slot.isLt
  simp only [nbdServerMaxTransportConnections] at this
  simp [UInt8.toNat, UInt8.ofNat, Fin.ofNat, Nat.mod_eq_of_lt (show slot.val < 256 by omega)]

/-- One round on `slot`: a feed on the slot itself, which is in use and so not connected again,
or a connect and a feed on another slot, which leave `slot` alone. -/
theorem SlotSends.round {context : NimbleServerFeedContext} {self connected : NimbleServer}
    {slot fedSlot : TransportSlot} {data : List UInt8} {response : DatagramTransportOut}
    {fed : NimbleServerFeedResult} (hused : (self.transportConnections slot).isUsed = true)
    (hconnected : connected = self ∨ ∃ connectResult,
      nimbleServerConnectionConnected self (UInt8.ofNat fedSlot.val) = .ok (connected, connectResult))
    (hkept : (self.transportConnections fedSlot).isUsed = true → connected = self)
    (hfed : nimbleServerFeed nbsWindowSize context connected (UInt8.ofNat fedSlot.val) data response =
      .ok fed) :
    SlotSends slot self fed.server (fed.sent.map ((fedSlot.val : Int), ·)) := by
  by_cases hsame : fedSlot = slot
  case pos =>
    subst hsame
    obtain rfl := hkept hused
    have hslot := (slot_toNat_ofNat fedSlot).symm
    obtain ⟨hids, hnext⟩ := nimbleServerFeed_sent_ids hfed hslot
    refine ⟨?_, ?_, (nimbleServerFeed_keeps hfed hslot).isUsed_eq⟩
    all_goals simp only [sentIdsTo_tagged_same, List.length_map]
    exacts [hids, hnext]
  case neg =>
    have hother : slot.val ≠ (UInt8.ofNat fedSlot.val).toNat := by
      rw [slot_toNat_ofNat]
      exact fun heq => hsame (Fin.ext heq).symm
    have hkeep : connected.transportConnections slot = self.transportConnections slot := by
      rcases hconnected with rfl | ⟨_, hconnect⟩
      · rfl
      · exact nimbleServerConnectionConnected_other hconnect hother
    exact .of_eq ((nimbleServerFeed_other hfed hother).trans hkeep) (sentIdsTo_tagged_other hsame _)

/-- Over the rounds of a drain, the datagrams sent to a slot in use follow its ids. -/
theorem nimbleServerReadFromMultiTransportLoop_slotSends {context : NimbleServerFeedContext}
    {rounds : Nat} {self after : NimbleServer} {transport transport' : DatagramTransportMulti}
    {result : Int}
    (h : nimbleServerReadFromMultiTransportLoop nbsWindowSize context rounds self transport =
      .ok (after, transport', result))
    {slot : TransportSlot} (hused : (self.transportConnections slot).isUsed = true) :
    ∃ fresh, transport'.sent = transport.sent ++ fresh ∧ SlotSends slot self after fresh := by
  induction rounds generalizing self transport with
  | zero =>
      cases h
      exact ⟨[], by simp, .refl _ _⟩
  | succ rounds ih =>
      rcases nimbleServerReadFromMultiTransportLoop_succ_eq_ok h with
        ⟨-, rfl, rfl⟩ | ⟨fedSlot, connected, fed, -, -, hconnected, hkept, hfed, hnext⟩
      · exact ⟨[], by simp, .refl _ _⟩
      have hround := SlotSends.round hused hconnected hkept hfed
      rcases hnext with ⟨-, rfl, rfl⟩ | ⟨-, hrest⟩
      · exact ⟨_, by simp, hround⟩
      · obtain ⟨more, hmore, hslot⟩ := ih hrest (hround.isUsed_eq.trans hused)
        exact ⟨_, by simp [hmore], hround.append hslot⟩

/-- **The replies to one slot keep their order across a drain.**  However the transport
interleaves the datagrams of different clients, the datagrams a drain sends to a slot that is in
use carry the consecutive ordered-datagram ids from the slot's next one, a blob stream's chunks
included, and the slot ends at the id after the last. -/
theorem nimbleServerReadFromMultiTransport_sent_ids (context : NimbleServerFeedContext)
    {self after : NimbleServer} {transport transport' : DatagramTransportMulti} {result : Int}
    (h : nimbleServerReadFromMultiTransport nbsWindowSize context self transport =
      .ok (after, transport', result))
    {slot : TransportSlot} (hused : (self.transportConnections slot).isUsed = true) :
    ∃ fresh, transport'.sent = transport.sent ++ fresh ∧
      sentIdsTo slot fresh =
        stepIdsFrom (self.transportConnections slot).orderedDatagramOutLogic.sequenceToSend
          (sentIdsTo slot fresh).length ∧
      (after.transportConnections slot).orderedDatagramOutLogic.sequenceToSend =
        (self.transportConnections slot).orderedDatagramOutLogic.sequenceToSend +
          BitVec.ofNat 16 (sentIdsTo slot fresh).length := by
  obtain ⟨fresh, hsent, hslot⟩ := nimbleServerReadFromMultiTransportLoop_slotSends h hused
  exact ⟨fresh, hsent, hslot.ids_eq, hslot.next_eq⟩

/-- Slots 0 and 1 in use; the transport interleaves two download requests from slot 0 with one
from slot 1 between them. -/
theorem interleaved_downloads_sent_ids :
    let transport : DatagramTransportMulti :=
      ⟨[.datagram 0 [0, 0, 3, 0], .datagram 1 [0, 0, 3, 0], .datagram 0 [0, 1, 3, 1]],
        fun _ octets => octets.length, []⟩
    ∃ connected after transport' result,
      nimbleServerRun 90 [.reInitWithGame [0xAA] 0 0, .connectionConnected 0, .connectionConnected 1]
          (nimbleServerInit NimbleServer.zeroed ⟨2, 4, 2, 4, 100, 0⟩).1 = some connected ∧
      nimbleServerReadFromMultiTransport 90 ⟨false, false, 0⟩ connected transport =
        .ok (after, transport', result) ∧
      (connected.transportConnections 0).isUsed = true ∧
      ∃ fresh, transport'.sent = transport.sent ++ fresh ∧
        sentIdsTo 0 fresh =
          stepIdsFrom (connected.transportConnections 0).orderedDatagramOutLogic.sequenceToSend
            (sentIdsTo 0 fresh).length ∧
        (after.transportConnections 0).orderedDatagramOutLogic.sequenceToSend =
          (connected.transportConnections 0).orderedDatagramOutLogic.sequenceToSend +
            BitVec.ofNat 16 (sentIdsTo 0 fresh).length :=
  ⟨_, _, _, _, rfl, rfl, rfl, @nimbleServerReadFromMultiTransport_sent_ids 90 ⟨false, false, 0⟩ _ _ _ _ _
    (by exact rfl) 0 (by exact rfl)⟩

/-! ## Slots the queue does not name -/

/-- **A drain leaves alone the slots its queue does not name.**  When no queued result names a
slot, the drain neither connects it nor feeds it. -/
theorem nimbleServerReadFromMultiTransportLoop_quiet (context : NimbleServerFeedContext)
    {rounds : Nat} {self after : NimbleServer} {transport transport' : DatagramTransportMulti}
    {result : Int}
    (h : nimbleServerReadFromMultiTransportLoop nbsWindowSize context rounds self transport =
      .ok (after, transport', result))
    {slot : TransportSlot} (hquiet : ∀ received ∈ transport.incoming, received.connectionId ≠ slot.val) :
    after.transportConnections slot = self.transportConnections slot := by
  induction rounds generalizing self transport with
  | zero => cases h; rfl
  | succ rounds ih =>
      rcases nimbleServerReadFromMultiTransportLoop_succ_eq_ok h with
        ⟨-, rfl, rfl⟩ | ⟨fedSlot, connected, fed, hpos, hid, hconnected, -, hfed, hnext⟩
      · rfl
      obtain ⟨received, rest, hincoming, hreceived, hrest⟩ := receiveFrom_of_pos hpos
      have hother : slot.val ≠ (UInt8.ofNat fedSlot.val).toNat := by
        rw [slot_toNat_ofNat]
        intro heq
        exact hquiet received (hincoming ▸ List.mem_cons_self _ _) (by rw [← hreceived, hid, heq])
      have hkeep : fed.server.transportConnections slot = self.transportConnections slot := by
        rw [nimbleServerFeed_other hfed hother]
        rcases hconnected with rfl | ⟨_, hconnect⟩
        · rfl
        · exact nimbleServerConnectionConnected_other hconnect hother
      rcases hnext with ⟨-, rfl, -⟩ | ⟨-, hnext⟩
      · exact hkeep
      · refine (ih hnext fun queued hqueued => hquiet queued ?_).trans hkeep
        rw [hincoming]
        exact List.mem_cons_of_mem _ (by simpa [hrest] using hqueued)

end NimbleServerLib
