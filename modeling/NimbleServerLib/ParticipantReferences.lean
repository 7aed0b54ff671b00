import NimbleServerLib.ParticipantRegistry
import NimbleServerLib.WellFormed
import NimbleServerLib.Composer

/-!
# Each participant id belongs to one participant connection

A participant connection (`participant_connection.h`) keeps the ids of the participants it
speaks for in `participantReferences`, and `nbdParticipantConnectionHasParticipantId` scans them.
The references are written in three places only:

* a join (`nbdReqGameJoin`, modelled from the spec) hands out a connection with the ids of the
  participants it has just registered as its references, each id new to the registry;
* `nbdParticipantConnectionsReset`, from `nimbleServerReInitWithGame`, and
  `nbdParticipantConnectionsInit`, from `nimbleServerInit`, clear them;
* nothing else: the ingest and the composer write only the rings, and
  `nimbleServerConnectionDisconnected` (`server.c:214`) only the use flag and the id.

So every reference of a connection is the id of a participant, and every participant with that
id is owned by that connection (`ReferencesOwned`).  **Each participant id belongs to one
connection** (`participantId_held_by_one_connection`): in every reachable state, at most one
connection of the pool, in use or freed, has a given participant id, and it is the connection
that owns the participants with that id.  This holds whatever game the memory held before the
first `nimbleServerReInitWithGame`: the smallest free id is never an id the registry has.
-/

namespace NimbleServerLib

variable {nbsWindowSize : Nat}

/-! ## The invariant -/

/-- The participant ids each connection of the pool references, in pool order. -/
def NimbleServerParticipantConnections.references (pool : NimbleServerParticipantConnections) :
    List (List Nat) :=
  pool.connections.map (·.participantReferences)

/-- Every id a connection of the pool references is the id of a participant, and every participant
with that id is owned by that connection. -/
def NimbleServerParticipantConnections.ReferencesOwned (pool : NimbleServerParticipantConnections)
    (participants : List NimbleServerParticipant) : Prop :=
  ∀ index references, pool.references[index]? = some references →
    ∀ participantId ∈ references,
      (∃ participant ∈ participants, participant.participantId = participantId) ∧
      ∀ participant ∈ participants, participant.participantId = participantId →
        participant.participantConnectionIndex = index

/-- The invariant of a server: its pool's references are owned by its game's participants. -/
def NimbleServer.ReferencesOwned (server : NimbleServer) : Prop :=
  server.connections.ReferencesOwned server.game.participants

open NimbleServerParticipantConnections

/-- A pool whose connections reference nothing owes the registry nothing. -/
theorem referencesOwned_of_nil {pool : NimbleServerParticipantConnections}
    (participants : List NimbleServerParticipant)
    (hnil : ∀ connection ∈ pool.connections, connection.participantReferences = []) :
    pool.ReferencesOwned participants := by
  intro index references hreferences participantId hmem
  obtain ⟨connection, hconnection, rfl⟩ := Option.map_eq_some'.mp
    ((List.getElem?_map _ _ _).symm.trans hreferences)
  rw [hnil connection (List.getElem?_mem hconnection)] at hmem
  cases hmem

theorem NimbleServerParticipantConnections.ReferencesOwned.of_references_eq
    {pool pool' : NimbleServerParticipantConnections} {participants : List NimbleServerParticipant}
    (h : pool.ReferencesOwned participants) (hreferences : pool'.references = pool.references) :
    pool'.ReferencesOwned participants :=
  fun index references => hreferences ▸ h index references

/-- A connection that has a participant id owns every participant with that id, and there is one. -/
theorem NimbleServerParticipantConnections.ReferencesOwned.owner
    {pool : NimbleServerParticipantConnections} {participants : List NimbleServerParticipant}
    (h : pool.ReferencesOwned participants) {index : Nat}
    {connection : NimbleServerParticipantConnection}
    (hconnection : pool.connections[index]? = some connection) {participantId : Nat}
    (hid : nbdParticipantConnectionHasParticipantId connection participantId = true) :
    (∃ participant ∈ participants, participant.participantId = participantId) ∧
      ∀ participant ∈ participants, participant.participantId = participantId →
        participant.participantConnectionIndex = index :=
  h index _ (by rw [references, List.getElem?_map, hconnection]; rfl) participantId
    (by simpa [nbdParticipantConnectionHasParticipantId] using hid)

/-- Writing one connection of the pool writes its references alone. -/
theorem references_modify (pool : NimbleServerParticipantConnections) (index : Nat)
    {f : NimbleServerParticipantConnection → NimbleServerParticipantConnection}
    {g : List Nat → List Nat}
    (hf : ∀ connection, (f connection).participantReferences = g connection.participantReferences) :
    (pool.modify index f).references = pool.references.modify g index := by
  refine List.ext_getElem? fun position => ?_
  simp only [references, NimbleServerParticipantConnections.modify, List.getElem?_map,
    List.getElem?_modify, Option.map_map]
  by_cases hindex : index = position <;> simp [hindex, Function.comp_def, hf]

/-- A write that keeps every connection's references keeps the pool's references. -/
theorem references_modify_of_keeps (pool : NimbleServerParticipantConnections) (index : Nat)
    {f : NimbleServerParticipantConnection → NimbleServerParticipantConnection}
    (hf : ∀ connection, (f connection).participantReferences = connection.participantReferences) :
    (pool.modify index f).references = pool.references :=
  (@references_modify pool index _ id hf).trans (List.modify_id _ _)

/-! ## The ingest and the composer -/

theorem nimbleServerHandleIncomingSteps_references (foundGame : NimbleServerGame)
    (connections : NimbleServerParticipantConnections) (inStream : FldInStream)
    (transportConnection : NimbleServerTransportConnection) :
    (nimbleServerHandleIncomingSteps nbsWindowSize foundGame connections inStream
      transportConnection).connections.references = connections.references := by
  simp only [nimbleServerHandleIncomingSteps]
  repeat' split
  all_goals first | rfl | exact references_modify_of_keeps _ _ fun _ => rfl

/-- The composer drains the pool in place and keeps every connection's references. -/
theorem nimbleServerComposeLoop_references (fuel : Nat) (game : NimbleServerGame)
    (connections : NimbleServerParticipantConnections) (count : Nat) :
    (nimbleServerComposeLoop nbsWindowSize fuel game connections count).2.1.references =
      connections.references := by
  obtain ⟨f, hf, hdrained⟩ := nimbleServerComposeLoop_drained nbsWindowSize fuel game connections count
  rw [hdrained]
  simp only [references, List.map_map]
  exact List.map_congr_left fun connection _ =>
    @NimbleServerParticipantConnection.Drained.preserves
      (fun drained => drained.participantReferences = connection.participantReferences)
      (fun _ => id) (fun _ _ => id) _ _ (hf connection) rfl

theorem readIncomingStepsAndCreateAuthoritativeSteps_references (foundGame : NimbleServerGame)
    (connections : NimbleServerParticipantConnections) (inStream : FldInStream)
    (transportConnection : NimbleServerTransportConnection) (stat : StatsIntPerSecond) :
    (readIncomingStepsAndCreateAuthoritativeSteps nbsWindowSize foundGame connections inStream
      transportConnection stat).connections.references = connections.references :=
  @readIncomingStepsAndCreateAuthoritativeSteps_pool nbsWindowSize
    (fun pool => pool.references = connections.references) foundGame connections inStream
    transportConnection stat rfl
    (fun _ => nimbleServerHandleIncomingSteps_references _ _ _ _)
    fun _ => (nimbleServerComposeLoop_references _ _ _ _).trans
      (nimbleServerHandleIncomingSteps_references _ _ _ _)

/-! ## A join -/

/-- The id `nbdParticipantsFreeId` settles on is no participant's.  It tries `1, 2, …` and stops at
the first free one; when it runs out of fuel at `n + 1`, the `n` participants already have the `n`
ids before it, so `n + 1` is free. -/
theorem nbdParticipantsFreeId_not_mem (participants : List NimbleServerParticipant) :
    nbdParticipantsFreeId participants participants.length 1 ∉
      participants.map (·.participantId) := by
  suffices h : ∀ fuel candidate,
      (∀ id, 1 ≤ id → id < candidate → id ∈ participants.map (·.participantId)) →
      candidate + fuel = participants.length + 1 →
      nbdParticipantsFreeId participants fuel candidate ∉ participants.map (·.participantId) from
    h _ _ (fun _ hpos hlt => absurd hlt (by omega)) (Nat.add_comm _ _)
  intro fuel
  induction fuel with
  | zero =>
      intro candidate htaken hcandidate hmem
      have hall : List.range' 1 (participants.length + 1) ⊆ participants.map (·.participantId) := by
        intro id hid
        rw [List.mem_range'_1] at hid
        rcases Nat.lt_or_ge id candidate with hlt | hge
        · exact htaken id hid.1 hlt
        · exact (show id = candidate by omega) ▸ hmem
      have hcount := ((List.nodup_range' 1 (participants.length + 1)).subperm hall).length_le
      rw [List.length_range', List.length_map] at hcount
      omega
  | succ fuel ih =>
      intro candidate htaken hcandidate
      rw [nbdParticipantsFreeId]
      split
      case isTrue hany =>
        refine ih _ (fun id hpos hlt => ?_) (by omega)
        rcases Nat.lt_or_ge id candidate with hlt' | hge
        · exact htaken id hpos hlt'
        · obtain ⟨participant, hmem, hid⟩ := List.any_eq_true.mp hany
          exact List.mem_map.mpr ⟨participant, hmem, by simpa [show id = candidate by omega] using hid⟩
      case isFalse hany =>
        intro hmem
        obtain ⟨participant, hparticipant, hid⟩ := List.mem_map.mp hmem
        exact hany (List.any_eq_true.mpr ⟨participant, hparticipant, by simp [hid]⟩)

/-- A join appends participants that the connection it hands out owns, each with an id new to the
registry it found. -/
theorem nbdParticipantsJoin_eq_append (participants : List NimbleServerParticipant) (index : Nat)
    (localIndices : List Nat) :
    ∃ joined, nbdParticipantsJoin participants index localIndices = participants ++ joined ∧
      ∀ participant ∈ joined, participant.participantConnectionIndex = index ∧
        participant.participantId ∉ participants.map (·.participantId) := by
  induction localIndices generalizing participants with
  | nil => exact ⟨[], (List.append_nil _).symm, fun _ hmem => absurd hmem (List.not_mem_nil _)⟩
  | cons localIndex rest ih =>
      obtain ⟨joined, hjoin, hjoined⟩ := ih (participants ++
        [⟨nbdParticipantsFreeId participants participants.length 1, localIndex, index⟩])
      refine ⟨_ :: joined, by rw [nbdParticipantsJoin, hjoin, List.append_assoc,
        List.singleton_append], fun participant hmem => ?_⟩
      rcases List.mem_cons.mp hmem with rfl | hmem
      · exact ⟨rfl, nbdParticipantsFreeId_not_mem participants⟩
      · obtain ⟨hindex, hfresh⟩ := hjoined participant hmem
        exact ⟨hindex, fun hold => hfresh (List.map_append _ _ _ ▸ List.mem_append_left _ hold)⟩

/-- A join keeps the references owned: the connection it hands out references exactly the
participants it appends, whose ids no participant had, so the references of every other
connection still name participants of theirs alone. -/
theorem NimbleServerParticipantConnections.ReferencesOwned.join
    {pool : NimbleServerParticipantConnections} {participants : List NimbleServerParticipant}
    (h : pool.ReferencesOwned participants) (index : Nat) (localIndices : List Nat)
    {f : NimbleServerParticipantConnection → NimbleServerParticipantConnection}
    (hf : ∀ connection, (f connection).participantReferences =
      ((nbdParticipantsJoin participants index localIndices).drop participants.length).map
        (·.participantId)) :
    (pool.modify index f).ReferencesOwned (nbdParticipantsJoin participants index localIndices) := by
  obtain ⟨joined, hjoin, hjoined⟩ := nbdParticipantsJoin_eq_append participants index localIndices
  rw [hjoin, List.drop_left] at hf
  rw [hjoin]
  intro position references hreferences participantId hmem
  rw [@references_modify pool index f (fun _ => joined.map (·.participantId)) hf,
    List.getElem?_modify] at hreferences
  obtain ⟨before, hbefore, rfl⟩ := Option.map_eq_some'.mp hreferences
  split at hmem
  case isTrue hindex =>
    obtain ⟨participant, hparticipant, rfl⟩ := List.mem_map.mp hmem
    refine ⟨⟨participant, List.mem_append_right _ hparticipant, rfl⟩, fun other hother hid => ?_⟩
    rcases List.mem_append.mp hother with hold | hnew
    · exact absurd (hid ▸ List.mem_map_of_mem _ hold) (hjoined participant hparticipant).2
    · exact hindex ▸ (hjoined other hnew).1
  case isFalse =>
    obtain ⟨⟨owner, howner, hid⟩, hall⟩ := h position before hbefore participantId hmem
    refine ⟨⟨owner, List.mem_append_left _ howner, hid⟩, fun other hother hid' => ?_⟩
    rcases List.mem_append.mp hother with hold | hnew
    · exact hall other hold hid'
    · exact absurd (hid'.trans hid.symm ▸ List.mem_map_of_mem _ howner) (hjoined other hnew).2

theorem nbdReqGameJoin_referencesOwned (self : NimbleServer)
    (transportConnection : NimbleServerTransportConnection) (inStream : FldInStream)
    (outStream : FldOutStream) (hv : self.ReferencesOwned) :
    let request := nbdReqGameJoin self transportConnection inStream outStream
    request.connections.ReferencesOwned request.game.participants := by
  unfold nbdReqGameJoin
  dsimp only
  repeat' split
  all_goals first | exact hv | exact hv.join _ _ fun _ => rfl

/-! ## Every call -/

theorem nimbleServerFeedDispatch_referencesOwned {self : NimbleServer}
    {transportConnection : NimbleServerTransportConnection} {cmd : UInt8} {inStream : FldInStream}
    {outStream : FldOutStream} {request : NimbleServerReqResult} (hv : self.ReferencesOwned)
    (h : nimbleServerFeedDispatch nbsWindowSize self transportConnection cmd inStream outStream =
      some request) :
    request.connections.ReferencesOwned request.game.participants := by
  unfold nimbleServerFeedDispatch at h
  split_ifs at h <;> cases h
  · rw [(nimbleServerReqGameStep_ring self.game self.connections transportConnection
      self.authoritativeStepsPerSecondStat inStream outStream).2.1, nimbleServerReqGameStep_connections]
    exact hv.of_references_eq (readIncomingStepsAndCreateAuthoritativeSteps_references _ _ _ _ _)
  · exact nbdReqGameJoin_referencesOwned _ _ _ _ hv
  · exact hv

theorem nimbleServerFeed_referencesOwned {context : NimbleServerFeedContext} {self : NimbleServer}
    {connectionIndex : UInt8} {data : List UInt8} {response : DatagramTransportOut}
    {fed : NimbleServerFeedResult} (hv : self.ReferencesOwned)
    (h : nimbleServerFeed nbsWindowSize context self connectionIndex data response = .ok fed) :
    fed.server.ReferencesOwned := by
  rcases nimbleServerFeed_eq_ok h with ⟨-, rfl⟩ | ⟨slot, _, -, hcases⟩
  · exact hv
  dsimp only at hcases
  rcases hcases with ⟨-, rfl⟩ | ⟨-, request, hdispatch, rfl⟩ | ⟨-, -, rfl⟩
  · exact hv
  · unfold NimbleServer.ReferencesOwned
    rw [(nimbleServerFeedReply_pool self slot request response).1, nimbleServerFeedReply_game]
    exact nimbleServerFeedDispatch_referencesOwned hv hdispatch
  · exact hv

theorem nimbleServerConnectionConnected_referencesOwned {self after : NimbleServer}
    {connectionIndex : UInt8} {result : Int} (hv : self.ReferencesOwned)
    (h : nimbleServerConnectionConnected self connectionIndex = .ok (after, result)) :
    after.ReferencesOwned := by
  obtain ⟨slot, -, ⟨-, rfl, -⟩ | ⟨-, -, rfl⟩⟩ := nimbleServerConnectionConnected_eq_ok h <;> exact hv

theorem nimbleServerReadFromMultiTransport_referencesOwned (context : NimbleServerFeedContext)
    {self after : NimbleServer} {transport transport' : DatagramTransportMulti} {result : Int}
    (hv : self.ReferencesOwned)
    (h : nimbleServerReadFromMultiTransport nbsWindowSize context self transport =
      .ok (after, transport', result)) :
    after.ReferencesOwned :=
  nimbleServerReadFromMultiTransportLoop_induction context
    (fun server after => server.ReferencesOwned → after.ReferencesOwned) (fun _ => id)
    (fun _ _ _ h₁ h₂ => h₂ ∘ h₁)
    (fun _ _ _ _ hc hv => nimbleServerConnectionConnected_referencesOwned hv hc)
    (fun _ _ _ _ _ hfed hv => nimbleServerFeed_referencesOwned hv hfed) h hv

/-- `nimbleServerReInitWithGame` clears every connection's references. -/
theorem nimbleServerReInitWithGame_referencesOwned (self : NimbleServer) (gameState : List UInt8)
    (stepId : StepId) (now : Nat) :
    (nimbleServerReInitWithGame self gameState stepId now).1.ReferencesOwned :=
  referencesOwned_of_nil _ fun _ hconnection => by
    obtain ⟨_, -, rfl⟩ := List.mem_map.mp hconnection
    rfl

theorem NimbleServerEvent.apply_referencesOwned {event : NimbleServerEvent}
    {self after : NimbleServer} (hv : self.ReferencesOwned)
    (h : event.apply nbsWindowSize self = some after) : after.ReferencesOwned := by
  cases event with
  | feed =>
      obtain ⟨fed, hfed, rfl⟩ := except_toOption_map_eq_some.mp h
      exact nimbleServerFeed_referencesOwned hv hfed
  | connectionConnected =>
      obtain ⟨⟨_, _⟩, hconnected, rfl⟩ := except_toOption_map_eq_some.mp h
      exact nimbleServerConnectionConnected_referencesOwned hv hconnected
  | connectionDisconnected =>
      obtain ⟨⟨_, _⟩, hdisconnected, rfl⟩ := except_toOption_map_eq_some.mp h
      rcases nimbleServerConnectionDisconnected_eq_ok hdisconnected with ⟨rfl, -⟩ | ⟨_, _, -, -, -, rfl⟩
      · exact hv
      · exact hv.of_references_eq (references_modify_of_keeps _ _ fun _ => rfl)
  | readFromMultiTransport context =>
      obtain ⟨⟨_, _, _⟩, hdrained, rfl⟩ := except_toOption_map_eq_some.mp h
      exact nimbleServerReadFromMultiTransport_referencesOwned context hv hdrained
  | update context =>
      obtain ⟨⟨_, _, _⟩, hupdated, rfl⟩ := except_toOption_map_eq_some.mp h
      obtain ⟨_, _, hdrained, rfl⟩ := nimbleServerUpdate_eq_ok hupdated
      exact (nimbleServerReadFromMultiTransport_referencesOwned context hv hdrained :)
  | reInitWithGame =>
      cases h
      exact nimbleServerReInitWithGame_referencesOwned _ _ _ _
  | setGameState =>
      cases h
      unfold nimbleServerSetGameState
      split
      · rename_i hset
        obtain ⟨-, rfl⟩ := nbdGameSetGameState_eq_ok.mp hset
        exact hv
      · exact hv
  | setDebugIsFrozen => cases h; exact hv

theorem nimbleServerInit_referencesOwned {memory : NimbleServer} {setup : NimbleServerSetup}
    (h : (nimbleServerInit memory setup).2 = 0) : (nimbleServerInit memory setup).1.ReferencesOwned := by
  unfold NimbleServer.ReferencesOwned
  rw [nimbleServerInit_connections h]
  exact referencesOwned_of_nil _ fun _ hconnection => by
    obtain ⟨_, -, rfl⟩ := List.mem_map.mp hconnection
    rfl

theorem referencesOwned_of_reachable {setup : NimbleServerSetup} {self : NimbleServer}
    (h : NimbleServerReachable nbsWindowSize setup self) : self.ReferencesOwned := by
  obtain ⟨memory, events, hinit, hrun⟩ := h
  exact nimbleServerRun_invariant NimbleServer.ReferencesOwned
    (fun _ _ _ hv happly => NimbleServerEvent.apply_referencesOwned hv happly) events
    (nimbleServerInit_referencesOwned hinit) hrun

/-- **Each participant id belongs to one connection.**  In every state that a successful
`nimbleServerInit` and any run after it reach, a participant id that a participant connection of
the pool has (`nbdParticipantConnectionHasParticipantId`) is had by no other connection of the
pool, in use or freed; it is the id of a participant, and every participant with that id is owned
by that connection. -/
theorem participantId_held_by_one_connection {setup : NimbleServerSetup} {self : NimbleServer}
    (h : NimbleServerReachable nbsWindowSize setup self) (participantId : Nat) :
    ∀ index connection, self.connections.connections[index]? = some connection →
      nbdParticipantConnectionHasParticipantId connection participantId = true →
      (∀ index' connection', self.connections.connections[index']? = some connection' →
          nbdParticipantConnectionHasParticipantId connection' participantId = true → index' = index) ∧
        ∃ participant ∈ self.game.participants, participant.participantId = participantId ∧
          ∀ participant ∈ self.game.participants, participant.participantId = participantId →
            participant.participantConnectionIndex = index := by
  intro index connection hconnection hid
  have howned := referencesOwned_of_reachable h
  obtain ⟨⟨participant, hmem, hpid⟩, howner⟩ := howned.owner hconnection hid
  refine ⟨fun index' connection' hconnection' hid' => ?_, participant, hmem, hpid, howner⟩
  rw [← howner participant hmem hpid]
  exact ((howned.owner hconnection' hid').2 participant hmem hpid).symm

/-- A client joins on slot 0 with one participant and leaves; a second client joins on slot 1 and
gets the freed connection 0, which now has the second client's participant, id 2. -/
theorem rejoined_connection_holds_new_participant :
    ∃ self connection, nimbleServerRun 90 [.reInitWithGame [0xAA] 0 0, .connectionConnected 0,
        .feed ⟨false, false, 0⟩ 0 [0, 0, 1, 1, 0] ⟨fun octets => octets.length⟩,
        .connectionDisconnected 0, .connectionConnected 1,
        .feed ⟨false, false, 0⟩ 1 [0, 0, 1, 1, 0] ⟨fun octets => octets.length⟩]
        (nimbleServerInit NimbleServer.zeroed ⟨2, 4, 2, 4, 100, 0⟩).1 = some self ∧
      self.connections.connections[0]? = some connection ∧
      nbdParticipantConnectionHasParticipantId connection 2 = true ∧
      (∀ index' connection', self.connections.connections[index']? = some connection' →
          nbdParticipantConnectionHasParticipantId connection' 2 = true → index' = 0) ∧
        ∃ participant ∈ self.game.participants, participant.participantId = 2 ∧
          ∀ participant ∈ self.game.participants, participant.participantId = 2 →
            participant.participantConnectionIndex = 0 :=
  ⟨_, _, (fun hrun => ⟨hrun, by exact rfl, by decide,
    participantId_held_by_one_connection ⟨NimbleServer.zeroed, _, by exact rfl, hrun⟩ 2 0 _
      (by exact rfl) (by decide)⟩) rfl⟩

end NimbleServerLib
