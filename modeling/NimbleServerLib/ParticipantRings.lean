import NimbleServerLib.WellFormed

/-!
# Every participant connection's ring holds consecutive steps

Each participant connection buffers the steps its client predicts in its own `NbsSteps` ring,
and the composer reads the head of every ring in use to build the next authoritative step.  The
rings are written in four places only:

* the ingest of a GameStep appends with `nbsStepsWrite`, at the ring's next id;
* the composer takes the oldest step out of every ring in use with `nbsStepsRead`;
* a join starts the ring of the connection it hands out with `nbsStepsReInit`;
* `nimbleServerInit` starts every ring empty.

Each keeps `NbsSteps.Valid`, so in every reachable state every ring of the pool holds exactly the
consecutive ids from its read id up to its write id, and no more than the window
(`participantRings_valid_of_reachable`).  The head the composer compares with the tick is then
the step at the ring's read id.
-/

namespace NimbleServerLib

variable {nbsWindowSize : Nat}

/-- Every participant connection of the pool has a valid ring. -/
def NimbleServerParticipantConnections.RingsValid (nbsWindowSize : Nat)
    (pool : NimbleServerParticipantConnections) : Prop :=
  ∀ connection ∈ pool.connections, connection.steps.Valid nbsWindowSize

open NimbleServerParticipantConnections

/-- What holds of every element and survives `f` holds of every element after `List.modify`. -/
theorem forall_mem_modify {α : Type} {P : α → Prop} {l : List α} {f : α → α} {index : Nat}
    (hl : ∀ x ∈ l, P x) (hf : ∀ x ∈ l, P x → P (f x)) : ∀ x ∈ l.modify f index, P x := by
  intro x hx
  obtain ⟨position, hposition⟩ := List.mem_iff_getElem?.mp hx
  rw [List.getElem?_modify] at hposition
  obtain ⟨y, hy, rfl⟩ := Option.map_eq_some'.mp hposition
  have hmem := List.getElem?_mem hy
  split
  · exact hf y hmem (hl y hmem)
  · exact hl y hmem

theorem NimbleServerParticipantConnections.RingsValid.modify {pool : NimbleServerParticipantConnections} (hv : pool.RingsValid nbsWindowSize)
    {index : Nat} {f : NimbleServerParticipantConnection → NimbleServerParticipantConnection}
    (hf : ∀ connection ∈ pool.connections, connection.steps.Valid nbsWindowSize →
      (f connection).steps.Valid nbsWindowSize) :
    (pool.modify index f).RingsValid nbsWindowSize :=
  forall_mem_modify hv hf

theorem NimbleServerParticipantConnections.RingsValid.map {pool : NimbleServerParticipantConnections} (hv : pool.RingsValid nbsWindowSize)
    {f : NimbleServerParticipantConnection → NimbleServerParticipantConnection}
    (hf : ∀ connection ∈ pool.connections, connection.steps.Valid nbsWindowSize →
      (f connection).steps.Valid nbsWindowSize) :
    ({ pool with connections := pool.connections.map f } : NimbleServerParticipantConnections).RingsValid
      nbsWindowSize := by
  intro connection hconnection
  obtain ⟨original, hmem, rfl⟩ := List.mem_map.mp hconnection
  exact hf original hmem (hv original hmem)

/-! ## The ingest -/

theorem nimbleServerIngestStep_valid (maxOctetCount : Nat) (stepId : StepId)
    {incoming : IncomingSteps} (hv : incoming.steps.Valid nbsWindowSize) :
    (nimbleServerIngestStep nbsWindowSize maxOctetCount stepId incoming).1.steps.Valid nbsWindowSize := by
  simp only [nimbleServerIngestStep]
  repeat' split
  all_goals first | exact hv | exact hv.write ‹_›

theorem nimbleServerIngestSteps_valid (maxOctetCount count : Nat) (stepId : StepId)
    {incoming : IncomingSteps} (hv : incoming.steps.Valid nbsWindowSize) :
    (nimbleServerIngestSteps nbsWindowSize maxOctetCount count stepId incoming).1.steps.Valid
      nbsWindowSize := by
  induction count generalizing stepId incoming with
  | zero => exact hv
  | succ count ih =>
      have hstep := nimbleServerIngestStep_valid maxOctetCount stepId hv
      simp only [nimbleServerIngestSteps]
      generalize nimbleServerIngestStep nbsWindowSize maxOctetCount stepId incoming = step at hstep ⊢
      split
      · exact hstep
      · exact ih _ hstep

theorem nimbleServerHandleIncomingSteps_ringsValid (foundGame : NimbleServerGame)
    {connections : NimbleServerParticipantConnections} (inStream : FldInStream)
    (transportConnection : NimbleServerTransportConnection)
    (hv : connections.RingsValid nbsWindowSize) :
    (nimbleServerHandleIncomingSteps nbsWindowSize foundGame connections inStream
      transportConnection).connections.RingsValid nbsWindowSize := by
  simp only [nimbleServerHandleIncomingSteps]
  repeat' split
  all_goals first
    | exact hv
    | exact hv.modify fun _ _ _ => nimbleServerIngestSteps_valid _ _ _ (hv _ (List.get?_mem ‹_›))

/-! ## The composer -/

theorem nbdParticipantConnectionPopStep_valid {connection : NimbleServerParticipantConnection}
    (hv : connection.steps.Valid nbsWindowSize) :
    (nbdParticipantConnectionPopStep connection).steps.Valid nbsWindowSize := by
  unfold nbdParticipantConnectionPopStep
  cases hread : nbsStepsRead connection.steps with
  | none => exact hv
  | some read => exact (hv.read hread).1

theorem nimbleServerComposeLoop_ringsValid (fuel : Nat) (game : NimbleServerGame)
    {connections : NimbleServerParticipantConnections} (count : Nat)
    (hv : connections.RingsValid nbsWindowSize) :
    (nimbleServerComposeLoop nbsWindowSize fuel game connections count).2.1.RingsValid nbsWindowSize := by
  obtain ⟨f, hf, hdrained⟩ := nimbleServerComposeLoop_drained nbsWindowSize fuel game connections count
  rw [hdrained]
  exact hv.map fun connection _ hvalid =>
    @NimbleServerParticipantConnection.Drained.preserves (fun drained => drained.steps.Valid nbsWindowSize)
      (fun _ => nbdParticipantConnectionPopStep_valid) (fun _ _ => id) _ _ (hf connection) hvalid

theorem readIncomingStepsAndCreateAuthoritativeSteps_ringsValid (foundGame : NimbleServerGame)
    {connections : NimbleServerParticipantConnections} (inStream : FldInStream)
    (transportConnection : NimbleServerTransportConnection) (stat : StatsIntPerSecond)
    (hv : connections.RingsValid nbsWindowSize) :
    (readIncomingStepsAndCreateAuthoritativeSteps nbsWindowSize foundGame connections inStream
      transportConnection stat).connections.RingsValid nbsWindowSize := by
  exact readIncomingStepsAndCreateAuthoritativeSteps_pool foundGame connections inStream
    transportConnection stat hv (fun _ => nimbleServerHandleIncomingSteps_ringsValid _ _ _ hv)
    fun _ => nimbleServerComposeLoop_ringsValid _ _ _ (nimbleServerHandleIncomingSteps_ringsValid _ _ _ hv)

/-! ## The requests and the calls -/

theorem nimbleServerFeedDispatch_ringsValid {self : NimbleServer}
    {transportConnection : NimbleServerTransportConnection} {cmd : UInt8} {inStream : FldInStream}
    {outStream : FldOutStream} {request : NimbleServerReqResult}
    (hv : self.connections.RingsValid nbsWindowSize)
    (h : nimbleServerFeedDispatch nbsWindowSize self transportConnection cmd inStream outStream =
      some request) :
    request.connections.RingsValid nbsWindowSize := by
  unfold nimbleServerFeedDispatch at h
  split_ifs at h <;> cases h
  · rw [nimbleServerReqGameStep_connections]
    exact readIncomingStepsAndCreateAuthoritativeSteps_ringsValid _ _ _ _ hv
  · unfold nbdReqGameJoin
    dsimp only
    repeat' split
    all_goals first
      | exact hv
      | exact hv.modify fun _ _ _ => nbsStepsReInit_valid _ _
  · exact hv

theorem nimbleServerFeed_ringsValid {context : NimbleServerFeedContext} {self : NimbleServer}
    {connectionIndex : UInt8} {data : List UInt8} {response : DatagramTransportOut}
    {fed : NimbleServerFeedResult} (hv : self.connections.RingsValid nbsWindowSize)
    (h : nimbleServerFeed nbsWindowSize context self connectionIndex data response = .ok fed) :
    fed.server.connections.RingsValid nbsWindowSize := by
  rcases nimbleServerFeed_eq_ok h with ⟨-, rfl⟩ | ⟨slot, _, -, hcases⟩
  · exact hv
  dsimp only at hcases
  rcases hcases with ⟨-, rfl⟩ | ⟨-, request, hdispatch, rfl⟩ | ⟨-, -, rfl⟩
  · exact hv
  · rw [(nimbleServerFeedReply_pool self slot request response).1]
    exact nimbleServerFeedDispatch_ringsValid hv hdispatch
  · exact hv

theorem nimbleServerConnectionConnected_ringsValid {self after : NimbleServer}
    {connectionIndex : UInt8} {result : Int} (hv : self.connections.RingsValid nbsWindowSize)
    (h : nimbleServerConnectionConnected self connectionIndex = .ok (after, result)) :
    after.connections.RingsValid nbsWindowSize := by
  obtain ⟨slot, -, ⟨-, rfl, -⟩ | ⟨-, -, rfl⟩⟩ := nimbleServerConnectionConnected_eq_ok h <;> exact hv

theorem nimbleServerReadFromMultiTransport_ringsValid (context : NimbleServerFeedContext)
    {self after : NimbleServer} {transport transport' : DatagramTransportMulti} {result : Int}
    (hv : self.connections.RingsValid nbsWindowSize)
    (h : nimbleServerReadFromMultiTransport nbsWindowSize context self transport =
      .ok (after, transport', result)) :
    after.connections.RingsValid nbsWindowSize :=
  nimbleServerReadFromMultiTransportLoop_induction context
    (fun server after => server.connections.RingsValid nbsWindowSize →
      after.connections.RingsValid nbsWindowSize) (fun _ => id)
    (fun _ _ _ h₁ h₂ => h₂ ∘ h₁)
    (fun _ _ _ _ hc hv => nimbleServerConnectionConnected_ringsValid hv hc)
    (fun _ _ _ _ _ hfed hv => nimbleServerFeed_ringsValid hv hfed) h hv

theorem NimbleServerEvent.apply_ringsValid {event : NimbleServerEvent} {self after : NimbleServer}
    (hv : self.connections.RingsValid nbsWindowSize) (h : event.apply nbsWindowSize self = some after) :
    after.connections.RingsValid nbsWindowSize := by
  cases event with
  | feed =>
      obtain ⟨fed, hfed, rfl⟩ := except_toOption_map_eq_some.mp h
      exact nimbleServerFeed_ringsValid hv hfed
  | connectionConnected =>
      obtain ⟨⟨_, _⟩, hconnected, rfl⟩ := except_toOption_map_eq_some.mp h
      exact nimbleServerConnectionConnected_ringsValid hv hconnected
  | connectionDisconnected =>
      obtain ⟨⟨_, _⟩, hdisconnected, rfl⟩ := except_toOption_map_eq_some.mp h
      rcases nimbleServerConnectionDisconnected_eq_ok hdisconnected with ⟨rfl, -⟩ | ⟨_, _, -, -, -, rfl⟩
      · exact hv
      · exact hv.modify fun _ _ hvalid => hvalid
  | readFromMultiTransport context =>
      obtain ⟨⟨_, _, _⟩, hdrained, rfl⟩ := except_toOption_map_eq_some.mp h
      exact nimbleServerReadFromMultiTransport_ringsValid context hv hdrained
  | update context =>
      obtain ⟨⟨_, _, _⟩, hupdated, rfl⟩ := except_toOption_map_eq_some.mp h
      obtain ⟨_, _, hdrained, rfl⟩ := nimbleServerUpdate_eq_ok hupdated
      exact (nimbleServerReadFromMultiTransport_ringsValid context hv hdrained :)
  | reInitWithGame =>
      cases h
      exact hv.map fun _ _ hvalid => hvalid
  | setGameState =>
      cases h
      unfold nimbleServerSetGameState
      split <;> exact hv
  | setDebugIsFrozen => cases h; exact hv

theorem nimbleServerInit_ringsValid {memory : NimbleServer} {setup : NimbleServerSetup}
    (h : (nimbleServerInit memory setup).2 = 0) :
    (nimbleServerInit memory setup).1.connections.RingsValid nbsWindowSize := by
  rw [nimbleServerInit_connections h]
  intro connection hconnection
  obtain ⟨_, -, rfl⟩ := List.mem_map.mp hconnection
  exact nbsStepsReInit_valid _ _

/-- **Every participant connection's ring holds consecutive steps.**  In every state that a
successful `nimbleServerInit` and any run after it reach, the predicted-step ring of every
participant connection of the pool, in use or not, holds exactly the consecutive ids from its
read id up to its write id, and no more than the window. -/
theorem participantRings_valid_of_reachable {setup : NimbleServerSetup} {self : NimbleServer}
    (h : NimbleServerReachable nbsWindowSize setup self) :
    ∀ connection ∈ self.connections.connections, connection.steps.Valid nbsWindowSize := by
  obtain ⟨memory, events, hinit, hrun⟩ := h
  exact nimbleServerRun_invariant (fun server => server.connections.RingsValid nbsWindowSize)
    (fun _ _ _ hv happly => NimbleServerEvent.apply_ringsValid hv happly) events
    (nimbleServerInit_ringsValid hinit) hrun

/-- A client joins on slot 0 and sends a GameStep with two predicted steps. -/
theorem joined_client_rings_valid :
    ∃ self, nimbleServerRun 90 [.reInitWithGame [0xAA] 0 0, .connectionConnected 0,
        .feed ⟨false, false, 0⟩ 0 [0, 0, 1, 1, 0] ⟨fun octets => octets.length⟩,
        .feed ⟨false, false, 0⟩ 0 [0, 1, 2, 0, 0, 0, 0, 0, 0, 0, 0, 2, 1, 7, 1, 8]
          ⟨fun octets => octets.length⟩]
        (nimbleServerInit NimbleServer.zeroed ⟨2, 4, 2, 4, 100, 0⟩).1 = some self ∧
      ∀ connection ∈ self.connections.connections, connection.steps.Valid 90 :=
  ⟨_, (fun hrun => ⟨hrun, participantRings_valid_of_reachable
    ⟨NimbleServer.zeroed, _, by exact rfl, hrun⟩⟩) rfl⟩

end NimbleServerLib
