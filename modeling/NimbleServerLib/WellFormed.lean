import NimbleServerLib.SlotIsolation
import NimbleServerLib.ReInit

/-!
# The indices the server stores stay inside their arrays

The server stores indices in two places.  Each transport slot keeps its own index as
`transportConnectionId`, which a JoinGameRequest copies into the participant connection it hands
out.  A slot that joined keeps the index of its participant connection in the pool as
`assignedParticipantConnection`, the C code's non-owning pointer, which every GameStep from the
slot follows.  `NimbleServer.WellFormed` says that both are in range and that the pool holds
exactly `capacityCount` connections, at most one per transport slot.

* `nimbleServerInit_wellFormed`: a successful `nimbleServerInit` leaves a well-formed server.
* One lemma per call keeps the invariant.  Only a JoinGameRequest writes a pointer, and it takes
  it from `nbdParticipantConnectionsFindFree`, an index of the pool; every other call keeps the
  pool's size.
* `wellFormed_of_reachable`: every reachable state is well formed, so the GameStep handler always
  finds the participant connection its slot points at (`NimbleServer.WellFormed.assigned_get?`).

The pointer is in range, not necessarily current: a disconnect frees the connection and leaves
the pointer, and a later join on another slot may hand the same connection out again.
-/

namespace NimbleServerLib

variable {nbsWindowSize : Nat}

/-! ## The invariant -/

/-- The indices a server stores are inside their arrays. -/
structure NimbleServer.WellFormed (server : NimbleServer) : Prop where
  transportConnectionId_eq : ∀ slot : TransportSlot,
    (server.transportConnections slot).transportConnectionId = slot.val
  length_eq : server.connections.connections.length = server.connections.capacityCount
  capacityCount_le : server.connections.capacityCount ≤ nbdServerMaxTransportConnections
  assigned_lt : ∀ (slot : TransportSlot) (index : Nat),
    (server.transportConnections slot).assignedParticipantConnection = some index →
      index < server.connections.capacityCount

/-- The participant connection a slot points at is in the pool. -/
theorem NimbleServer.WellFormed.assigned_get? {self : NimbleServer} (hwf : self.WellFormed)
    {slot : TransportSlot} {index : Nat}
    (h : (self.transportConnections slot).assignedParticipantConnection = some index) :
    ∃ participantConnection, self.connections.connections.get? index = some participantConnection :=
  ⟨_, by rw [List.get?_eq_getElem?,
    List.getElem?_eq_getElem (hwf.length_eq ▸ hwf.assigned_lt slot index h)]⟩

/-! ## The pool's size -/

/-- Two pools of the same size: as many connections, and the same capacity. -/
structure NimbleServerParticipantConnections.SameSize
    (before after : NimbleServerParticipantConnections) : Prop where
  length_eq : after.connections.length = before.connections.length
  capacityCount_eq : after.capacityCount = before.capacityCount

namespace NimbleServerParticipantConnections

theorem SameSize.refl (pool : NimbleServerParticipantConnections) : pool.SameSize pool :=
  ⟨rfl, rfl⟩

theorem SameSize.trans {first middle last : NimbleServerParticipantConnections}
    (h₁ : first.SameSize middle) (h₂ : middle.SameSize last) : first.SameSize last :=
  ⟨h₂.length_eq.trans h₁.length_eq, h₂.capacityCount_eq.trans h₁.capacityCount_eq⟩

theorem sameSize_modify (pool : NimbleServerParticipantConnections) (index : Nat)
    (f : NimbleServerParticipantConnection → NimbleServerParticipantConnection) :
    pool.SameSize (pool.modify index f) :=
  ⟨modify_length _ _ _, rfl⟩

theorem sameSize_map (pool : NimbleServerParticipantConnections)
    (f : NimbleServerParticipantConnection → NimbleServerParticipantConnection) :
    pool.SameSize { pool with connections := pool.connections.map f } :=
  ⟨List.length_map _ _, rfl⟩

end NimbleServerParticipantConnections

open NimbleServerParticipantConnections

theorem nimbleServerHandleIncomingSteps_sameSize (foundGame : NimbleServerGame)
    (connections : NimbleServerParticipantConnections) (inStream : FldInStream)
    (transportConnection : NimbleServerTransportConnection) :
    connections.SameSize (nimbleServerHandleIncomingSteps nbsWindowSize foundGame connections inStream
      transportConnection).connections := by
  unfold nimbleServerHandleIncomingSteps
  repeat' split
  all_goals first | exact .refl _ | exact sameSize_modify _ _ _

theorem nimbleServerComposeLoop_sameSize (fuel : Nat) (game : NimbleServerGame)
    (connections : NimbleServerParticipantConnections) (count : Nat) :
    connections.SameSize (nimbleServerComposeLoop nbsWindowSize fuel game connections count).2.1 := by
  obtain ⟨f, -, hdrained⟩ := nimbleServerComposeLoop_drained nbsWindowSize fuel game connections count
  rw [hdrained]
  exact sameSize_map _ _

/-- A property of the pool that holds of the pool a GameStep's ingest is given, of the pool the
ingest leaves and of the pool the composer then leaves, holds after the ingest and compose. -/
theorem readIncomingStepsAndCreateAuthoritativeSteps_pool
    {P : NimbleServerParticipantConnections → Prop} (foundGame : NimbleServerGame)
    (connections : NimbleServerParticipantConnections) (inStream : FldInStream)
    (transportConnection : NimbleServerTransportConnection) (stat : StatsIntPerSecond)
    (hgiven : P connections)
    (hreceived : ∀ trimmed, P (nimbleServerHandleIncomingSteps nbsWindowSize trimmed connections
      inStream transportConnection).connections)
    (hcomposed : ∀ trimmed, P (nimbleServerComposeLoop nbsWindowSize (nbsWindowSize + 1) trimmed
      (nimbleServerHandleIncomingSteps nbsWindowSize trimmed connections inStream
        transportConnection).connections 0).2.1) :
    P (readIncomingStepsAndCreateAuthoritativeSteps nbsWindowSize foundGame connections inStream
      transportConnection stat).connections := by
  unfold readIncomingStepsAndCreateAuthoritativeSteps nimbleServerComposeAuthoritativeSteps
  generalize discardAuthoritativeStepsIfBufferGettingFull nbsWindowSize foundGame = trimmed
  obtain ⟨trimmed, discardErr⟩ := trimmed
  dsimp only
  split_ifs
  · exact hgiven
  · exact hreceived trimmed
  · exact hcomposed trimmed
  · exact hcomposed trimmed
  · exact hreceived trimmed

theorem readIncomingStepsAndCreateAuthoritativeSteps_sameSize (foundGame : NimbleServerGame)
    (connections : NimbleServerParticipantConnections) (inStream : FldInStream)
    (transportConnection : NimbleServerTransportConnection) (stat : StatsIntPerSecond) :
    connections.SameSize (readIncomingStepsAndCreateAuthoritativeSteps nbsWindowSize foundGame
      connections inStream transportConnection stat).connections := by
  refine readIncomingStepsAndCreateAuthoritativeSteps_pool foundGame connections inStream
    transportConnection stat (.refl _) (fun _ => nimbleServerHandleIncomingSteps_sameSize _ _ _ _)
    fun _ => ?_
  exact (nimbleServerHandleIncomingSteps_sameSize _ _ _ _).trans (nimbleServerComposeLoop_sameSize _ _ _ _)

/-! ## What a request does to the pool -/

/-- What a request handler does to the pool and to the slot's pointer into it: the pool keeps its
size, and the pointer is the one the slot had or an index of the pool. -/
structure NimbleServerReqResult.KeepsPool (connections : NimbleServerParticipantConnections)
    (transportConnection : NimbleServerTransportConnection) (request : NimbleServerReqResult) :
    Prop where
  sameSize : connections.SameSize request.connections
  assigned : request.transportConnection.assignedParticipantConnection =
      transportConnection.assignedParticipantConnection ∨
    ∃ index, request.transportConnection.assignedParticipantConnection = some index ∧
      index < connections.connections.length

theorem nimbleServerReqGameStep_keepsPool (foundGame : NimbleServerGame)
    (connections : NimbleServerParticipantConnections)
    (transportConnection : NimbleServerTransportConnection) (stat : StatsIntPerSecond)
    (inStream : FldInStream) (outStream : FldOutStream) :
    (nimbleServerReqGameStep nbsWindowSize foundGame connections transportConnection stat inStream
      outStream).KeepsPool connections transportConnection := by
  obtain ⟨_, _, _, h⟩ := @nimbleServerReqGameStep_frame nbsWindowSize foundGame connections
    transportConnection stat inStream outStream
  refine ⟨?_, .inl (by rw [h])⟩
  rw [nimbleServerReqGameStep_connections]
  exact readIncomingStepsAndCreateAuthoritativeSteps_sameSize _ _ _ _ _

/-- A join points the slot at the connection `nbdParticipantConnectionsFindFree` found, or leaves
the pointer alone. -/
theorem nbdReqGameJoin_keepsPool (self : NimbleServer)
    (transportConnection : NimbleServerTransportConnection) (inStream : FldInStream)
    (outStream : FldOutStream) :
    (nbdReqGameJoin self transportConnection inStream outStream).KeepsPool self.connections
      transportConnection := by
  unfold nbdReqGameJoin
  dsimp only
  repeat' split
  all_goals first
    | exact ⟨.refl _, .inl rfl⟩
    | exact ⟨sameSize_modify _ _ _,
        .inr ⟨_, rfl, (List.findIdx?_eq_some_iff_findIdx_eq.mp ‹_›).1⟩⟩

theorem nbdReqDownloadGameState_assigned (transportConnection : NimbleServerTransportConnection)
    (foundGame : NimbleServerGame) (inStream : FldInStream) (outStream : FldOutStream) :
    (nbdReqDownloadGameState transportConnection foundGame inStream outStream).1.assignedParticipantConnection =
      transportConnection.assignedParticipantConnection := by
  unfold nbdReqDownloadGameState transportConnectionSetGameStateTickId
  dsimp only
  repeat' split
  all_goals rfl

theorem nbdReqDownloadGameStateAck_assigned (transportConnection : NimbleServerTransportConnection)
    (inStream : FldInStream) (transportOut : DatagramTransportOut) :
    (nbdReqDownloadGameStateAck transportConnection inStream transportOut).1.assignedParticipantConnection =
      transportConnection.assignedParticipantConnection := by
  unfold nbdReqDownloadGameStateAck
  repeat' split
  all_goals rfl

theorem nimbleServerFeedDispatch_keepsPool {self : NimbleServer}
    {transportConnection : NimbleServerTransportConnection} {cmd : UInt8} {inStream : FldInStream}
    {outStream : FldOutStream} {request : NimbleServerReqResult}
    (h : nimbleServerFeedDispatch nbsWindowSize self transportConnection cmd inStream outStream =
      some request) :
    request.KeepsPool self.connections transportConnection := by
  unfold nimbleServerFeedDispatch at h
  split_ifs at h <;> cases h
  · exact nimbleServerReqGameStep_keepsPool _ _ _ _ _ _
  · exact nbdReqGameJoin_keepsPool _ _ _ _
  · exact ⟨.refl _, .inl (nbdReqDownloadGameState_assigned _ _ _ _)⟩

theorem nimbleServerFeedReply_pool (self : NimbleServer) (slot : TransportSlot)
    (request : NimbleServerReqResult) (response : DatagramTransportOut) :
    (nimbleServerFeedReply self slot request response).server.connections = request.connections ∧
      ((nimbleServerFeedReply self slot request response).server.transportConnections slot).assignedParticipantConnection =
        request.transportConnection.assignedParticipantConnection := by
  unfold nimbleServerFeedReply
  dsimp only
  split_ifs <;> simp

/-- A feed keeps the pool's size, and its slot's pointer is the one it had or an index of the
pool. -/
theorem nimbleServerFeed_pool {context : NimbleServerFeedContext} {self : NimbleServer}
    {connectionIndex : UInt8} {data : List UInt8} {response : DatagramTransportOut}
    {fed : NimbleServerFeedResult}
    (h : nimbleServerFeed nbsWindowSize context self connectionIndex data response = .ok fed)
    {slot : TransportSlot} (hslot : slot.val = connectionIndex.toNat) :
    self.connections.SameSize fed.server.connections ∧
      ((fed.server.transportConnections slot).assignedParticipantConnection =
          (self.transportConnections slot).assignedParticipantConnection ∨
        ∃ index, (fed.server.transportConnections slot).assignedParticipantConnection = some index ∧
          index < self.connections.connections.length) := by
  obtain ⟨_, hat, rfl⟩ := nimbleServerFeed_slot h hslot
  rcases nimbleServerFeed_eq_ok h with ⟨-, rfl⟩ | ⟨slot', transportConnection, hat', hcases⟩
  · exact ⟨.refl _, .inl rfl⟩
  obtain ⟨rfl, rfl⟩ := Prod.mk.inj (Except.ok.inj (hat.symm.trans hat'))
  dsimp only at hcases
  rcases hcases with ⟨-, rfl⟩ | ⟨-, request, hdispatch, rfl⟩ | ⟨-, -, rfl⟩
  · simp only [setTransportConnection_same, setTransportConnection_connections]
    exact ⟨.refl _, .inl (nbdReqDownloadGameStateAck_assigned _ _ _)⟩
  · obtain ⟨hconnections, hassigned⟩ := nimbleServerFeedReply_pool self slot request response
    obtain ⟨hsize, hpointer⟩ := nimbleServerFeedDispatch_keepsPool hdispatch
    rw [hconnections, hassigned]
    exact ⟨hsize, hpointer⟩
  · simp only [setTransportConnection_same, setTransportConnection_connections]
    exact ⟨.refl _, .inl trivial⟩

/-! ## Every call keeps the invariant -/

/-- One slot written and the pool of the same size: the invariant holds again when the slot
keeps its id and points where it pointed or into the pool. -/
theorem NimbleServer.WellFormed.of_slot {self after : NimbleServer} (hwf : self.WellFormed)
    (slot : TransportSlot) (hsize : self.connections.SameSize after.connections)
    (hother : ∀ other, other ≠ slot → after.transportConnections other = self.transportConnections other)
    (hid : (after.transportConnections slot).transportConnectionId =
      (self.transportConnections slot).transportConnectionId)
    (hassigned : (after.transportConnections slot).assignedParticipantConnection =
        (self.transportConnections slot).assignedParticipantConnection ∨
      ∃ index, (after.transportConnections slot).assignedParticipantConnection = some index ∧
        index < self.connections.connections.length) :
    after.WellFormed := by
  have hcapacity := hsize.capacityCount_eq
  refine ⟨fun other => ?_, by rw [hsize.length_eq, hcapacity, hwf.length_eq],
    hcapacity ▸ hwf.capacityCount_le, fun other index hindex => hcapacity ▸ ?_⟩
  all_goals by_cases hsame : other = slot
  case pos =>
    subst hsame
    rw [hid, hwf.transportConnectionId_eq]
  case neg =>
    rw [hother other hsame, hwf.transportConnectionId_eq]
  case pos =>
    subst hsame
    rcases hassigned with hkept | ⟨_, hnew, hlt⟩
    · exact hwf.assigned_lt other index (hkept ▸ hindex)
    · rw [hnew, Option.some.injEq] at hindex
      exact hindex ▸ hwf.length_eq ▸ hlt
  case neg =>
    exact hwf.assigned_lt other index (hother other hsame ▸ hindex)

/-- The pool of the same size and the slots as they were. -/
theorem NimbleServer.WellFormed.of_pool {self after : NimbleServer} (hwf : self.WellFormed)
    (hsize : self.connections.SameSize after.connections)
    (hslots : after.transportConnections = self.transportConnections) : after.WellFormed :=
  hwf.of_slot 0 hsize (fun other _ => congrFun hslots other) (by rw [hslots]) (.inl (by rw [hslots]))

theorem nimbleServerFeed_wellFormed {context : NimbleServerFeedContext} {self : NimbleServer}
    {connectionIndex : UInt8} {data : List UInt8} {response : DatagramTransportOut}
    {fed : NimbleServerFeedResult} (hwf : self.WellFormed)
    (h : nimbleServerFeed nbsWindowSize context self connectionIndex data response = .ok fed) :
    fed.server.WellFormed := by
  by_cases hinside : connectionIndex.toNat < nbdServerMaxTransportConnections
  case neg =>
    rcases nimbleServerFeed_eq_ok h with ⟨-, rfl⟩ | ⟨slot, _, hat, -⟩
    · exact hwf
    · have := (transportConnectionAt_eq_ok.mp hat).1
      exact absurd (by omega) hinside
  let slot : TransportSlot := ⟨_, hinside⟩
  have hslot : slot.val = connectionIndex.toNat := rfl
  obtain ⟨hsize, hassigned⟩ := nimbleServerFeed_pool h hslot
  exact hwf.of_slot slot hsize (fun other hne => nimbleServerFeed_other h fun heq => hne (Fin.ext heq))
    (nimbleServerFeed_keeps h hslot).transportConnectionId_eq hassigned

theorem nimbleServerConnectionConnected_wellFormed {self after : NimbleServer}
    {connectionIndex : UInt8} {result : Int} (hwf : self.WellFormed)
    (h : nimbleServerConnectionConnected self connectionIndex = .ok (after, result)) :
    after.WellFormed := by
  obtain ⟨slot, -, ⟨-, rfl, -⟩ | ⟨-, -, rfl⟩⟩ := nimbleServerConnectionConnected_eq_ok h
  · exact hwf
  · exact hwf.of_slot slot (.refl _) (fun _ hne => setTransportConnection_other _ _ _ hne)
      (by rw [setTransportConnection_same]; rfl) (.inl (by rw [setTransportConnection_same]; rfl))

theorem nimbleServerConnectionDisconnected_wellFormed {self after : NimbleServer}
    {connectionIndex : UInt8} {result : Int} (hwf : self.WellFormed)
    (h : nimbleServerConnectionDisconnected self connectionIndex = .ok (after, result)) :
    after.WellFormed := by
  rcases nimbleServerConnectionDisconnected_eq_ok h with ⟨rfl, -⟩ | ⟨_, slot, -, -, -, rfl⟩
  · exact hwf
  · exact hwf.of_slot slot (sameSize_modify _ _ _) (fun _ hne => setTransportConnection_other _ _ _ hne)
      (by simp) (.inl (by simp))

theorem nimbleServerReadFromMultiTransport_wellFormed (context : NimbleServerFeedContext)
    {self after : NimbleServer} {transport transport' : DatagramTransportMulti} {result : Int}
    (hwf : self.WellFormed)
    (h : nimbleServerReadFromMultiTransport nbsWindowSize context self transport =
      .ok (after, transport', result)) :
    after.WellFormed :=
  nimbleServerReadFromMultiTransportLoop_induction context
    (fun server after => server.WellFormed → after.WellFormed) (fun _ => id)
    (fun _ _ _ h₁ h₂ => h₂ ∘ h₁)
    (fun _ _ _ _ hc hwf => nimbleServerConnectionConnected_wellFormed hwf hc)
    (fun _ _ _ _ _ hfed hwf => nimbleServerFeed_wellFormed hwf hfed) h hwf

theorem NimbleServerEvent.apply_wellFormed {event : NimbleServerEvent} {self after : NimbleServer}
    (hwf : self.WellFormed) (h : event.apply nbsWindowSize self = some after) : after.WellFormed := by
  cases event with
  | feed =>
      obtain ⟨fed, hfed, rfl⟩ := except_toOption_map_eq_some.mp h
      exact nimbleServerFeed_wellFormed hwf hfed
  | connectionConnected =>
      obtain ⟨⟨_, _⟩, hconnected, rfl⟩ := except_toOption_map_eq_some.mp h
      exact nimbleServerConnectionConnected_wellFormed hwf hconnected
  | connectionDisconnected =>
      obtain ⟨⟨_, _⟩, hdisconnected, rfl⟩ := except_toOption_map_eq_some.mp h
      exact nimbleServerConnectionDisconnected_wellFormed hwf hdisconnected
  | readFromMultiTransport context =>
      obtain ⟨⟨_, _, _⟩, hdrained, rfl⟩ := except_toOption_map_eq_some.mp h
      exact nimbleServerReadFromMultiTransport_wellFormed context hwf hdrained
  | update context =>
      obtain ⟨⟨_, _, _⟩, hupdated, rfl⟩ := except_toOption_map_eq_some.mp h
      obtain ⟨_, _, hdrained, rfl⟩ := nimbleServerUpdate_eq_ok hupdated
      exact (nimbleServerReadFromMultiTransport_wellFormed context hwf hdrained).of_pool (.refl _) rfl
  | reInitWithGame =>
      cases h
      exact hwf.of_pool (sameSize_map _ _) rfl
  | setGameState =>
      cases h
      unfold nimbleServerSetGameState
      split <;> exact hwf.of_pool (.refl _) rfl
  | setDebugIsFrozen =>
      cases h
      exact hwf.of_pool (.refl _) rfl

/-- A successful `nimbleServerInit` starts a pool of unused connections. -/
theorem nimbleServerInit_connections {memory : NimbleServer} {setup : NimbleServerSetup}
    (h : (nimbleServerInit memory setup).2 = 0) :
    (nimbleServerInit memory setup).1.connections = nbdParticipantConnectionsInit
      setup.maxConnectionCount setup.maxParticipantCountForEachConnection
      setup.maxSingleParticipantStepOctetCount := by
  unfold nimbleServerInit at h ⊢
  split_ifs at h ⊢ <;> first | rfl | simp at h

theorem nimbleServerInit_wellFormed {memory : NimbleServer} {setup : NimbleServerSetup}
    (h : (nimbleServerInit memory setup).2 = 0) : (nimbleServerInit memory setup).1.WellFormed := by
  unfold nimbleServerInit at h ⊢
  split_ifs at h ⊢ with hcount
  all_goals first
    | exact ⟨fun _ => rfl, by simp [nbdParticipantConnectionsInit], Nat.not_lt.mp hcount,
        fun _ _ hassigned => Option.noConfusion hassigned⟩
    | simp at h

/-- **The indices the server stores stay inside their arrays.**  In every state a successful
`nimbleServerInit` and any run after it reach, each transport slot holds its own index, the pool
holds exactly `capacityCount ≤ 64` participant connections, and every slot's pointer to a
participant connection is an index of the pool. -/
theorem wellFormed_of_reachable {setup : NimbleServerSetup} {self : NimbleServer}
    (h : NimbleServerReachable nbsWindowSize setup self) : self.WellFormed := by
  obtain ⟨memory, events, hinit, hrun⟩ := h
  exact nimbleServerRun_invariant NimbleServer.WellFormed
    (fun _ _ _ hwf happly => NimbleServerEvent.apply_wellFormed hwf happly) events
    (nimbleServerInit_wellFormed hinit) hrun

/-- A client joins on slot 0, leaves, and a second client joins on slot 1: both slots point at
participant connection 0, inside the pool. -/
theorem rejoined_server_wellFormed :
    ∃ self, nimbleServerRun 90 [.reInitWithGame [0xAA] 0 0, .connectionConnected 0,
        .feed ⟨false, false, 0⟩ 0 [0, 0, 1, 1, 0] ⟨fun octets => octets.length⟩,
        .connectionDisconnected 0, .connectionConnected 1,
        .feed ⟨false, false, 0⟩ 1 [0, 0, 1, 1, 0] ⟨fun octets => octets.length⟩]
        (nimbleServerInit NimbleServer.zeroed ⟨2, 4, 2, 4, 100, 0⟩).1 = some self ∧
      self.WellFormed :=
  ⟨_, (fun hrun => ⟨hrun, wellFormed_of_reachable ⟨NimbleServer.zeroed, _, by exact rfl, hrun⟩⟩) rfl⟩

end NimbleServerLib
