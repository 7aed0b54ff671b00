import NimbleServerLib.RingRuns
import NimbleServerLib.SlotIsolation
import NimbleServerLib.ReInit

/-!
# The participant registry

A join (`nbdReqGameJoin`, modelled from the spec) registers one participant for each of the
client's local players, each with the smallest id from 1 that no participant has.  Nothing but
`nimbleServerReInitWithGame` removes a participant: `nimbleServerConnectionDisconnected`
(`server.c:214`) frees the participant connection and leaves the game alone.

**The registry along runs** (`participantRegistry_along_runs`): from a state whose registry is
well formed (`NimbleServerGame.RegistryValid`), as every state right after
`nimbleServerReInitWithGame` is, every run keeps the participant ids `1, 2, …, n` in join order
with `n` at most the game's `maxParticipantCount`, and a run that does not start the game over
only appends participants.  The participants of a client that disconnected keep their ids and
their places in the count.
-/

namespace NimbleServerLib

variable {nbsWindowSize : Nat}

/-- The registry a join keeps: the ids `1, 2, …` in join order, and no more participants than the
game allows. -/
structure NimbleServerGame.RegistryValid (game : NimbleServerGame) : Prop where
  ids_eq : game.participants.map (·.participantId) = List.range' 1 game.participants.length
  length_le : game.participants.length ≤ game.maxParticipantCount

/-- Whether the event starts the game over: `nimbleServerReInitWithGame`. -/
def NimbleServerEvent.startsGameOver : NimbleServerEvent → Bool
  | .reInitWithGame .. => true
  | _ => false

/-- One step of the registry: a well-formed registry stays well formed, the participants before
are the first participants after, and the limit stays. -/
structure NimbleServerGame.KeepsRegistry (game after : NimbleServerGame) : Prop where
  valid : game.RegistryValid → after.RegistryValid
  isPrefix : game.participants <+: after.participants
  max_eq : after.maxParticipantCount = game.maxParticipantCount

theorem NimbleServerGame.KeepsRegistry.refl (game : NimbleServerGame) : game.KeepsRegistry game :=
  ⟨id, List.prefix_refl _, rfl⟩

theorem NimbleServerGame.KeepsRegistry.trans {game middle after : NimbleServerGame}
    (h₁ : game.KeepsRegistry middle) (h₂ : middle.KeepsRegistry after) : game.KeepsRegistry after :=
  ⟨h₂.valid ∘ h₁.valid, h₁.isPrefix.trans h₂.isPrefix, h₂.max_eq.trans h₁.max_eq⟩

/-- A write that leaves the participants and the limit alone keeps the registry. -/
theorem NimbleServerGame.KeepsRegistry.of_eq {game after : NimbleServerGame}
    (hparticipants : after.participants = game.participants)
    (hmax : after.maxParticipantCount = game.maxParticipantCount) : game.KeepsRegistry after :=
  ⟨fun hv => ⟨by rw [hparticipants]; exact hv.ids_eq, by rw [hparticipants, hmax]; exact hv.length_le⟩,
    hparticipants ▸ List.prefix_refl _, hmax⟩

/-! ## A join -/

/-- With the ids `1, …, n` taken, the smallest free id is `n + 1`. -/
theorem nbdParticipantsFreeId_of_ids {participants : List NimbleServerParticipant}
    (hids : participants.map (·.participantId) = List.range' 1 participants.length) :
    nbdParticipantsFreeId participants participants.length 1 = participants.length + 1 := by
  suffices h : ∀ fuel candidate, 1 ≤ candidate → candidate + fuel = participants.length + 1 →
      nbdParticipantsFreeId participants fuel candidate = participants.length + 1 from
    h _ _ le_rfl (Nat.add_comm _ _)
  intro fuel
  induction fuel with
  | zero => intro candidate _ h; simpa [nbdParticipantsFreeId] using h
  | succ fuel ih =>
      intro candidate hpos h
      have hmem : candidate ∈ participants.map (·.participantId) := by
        rw [hids, List.mem_range'_1]
        omega
      obtain ⟨participant, hparticipant, hid⟩ := List.mem_map.mp hmem
      rw [nbdParticipantsFreeId, if_pos (List.any_eq_true.mpr ⟨participant, hparticipant, by simp [hid]⟩)]
      exact ih _ (by omega) (by omega)

/-- A join appends one participant per local player. -/
theorem nbdParticipantsJoin_prefix (participants : List NimbleServerParticipant) (index : Nat)
    (localIndices : List Nat) :
    participants <+: nbdParticipantsJoin participants index localIndices ∧
      (nbdParticipantsJoin participants index localIndices).length =
        participants.length + localIndices.length := by
  induction localIndices generalizing participants with
  | nil => exact ⟨List.prefix_refl _, rfl⟩
  | cons localIndex rest ih =>
      obtain ⟨hinitial, hlength⟩ := ih (participants ++
        [⟨nbdParticipantsFreeId participants participants.length 1, localIndex, index⟩])
      refine ⟨(List.prefix_append _ _).trans hinitial, ?_⟩
      rw [nbdParticipantsJoin, hlength, List.length_append, List.length_singleton, List.length_cons]
      omega

/-- A join gives the participants it appends the next ids. -/
theorem nbdParticipantsJoin_ids {participants : List NimbleServerParticipant}
    (hids : participants.map (·.participantId) = List.range' 1 participants.length)
    (index : Nat) (localIndices : List Nat) :
    (nbdParticipantsJoin participants index localIndices).map (·.participantId) =
      List.range' 1 (nbdParticipantsJoin participants index localIndices).length := by
  induction localIndices generalizing participants with
  | nil => exact hids
  | cons localIndex rest ih =>
      rw [nbdParticipantsJoin, nbdParticipantsFreeId_of_ids hids]
      exact ih (by simp [hids, List.range'_concat, Nat.add_comm])

/-- A join that the game has room for keeps the registry. -/
theorem NimbleServerGame.KeepsRegistry.join {game : NimbleServerGame} {index : Nat}
    {localIndices : List Nat}
    (hroom : game.participants.length + localIndices.length ≤ game.maxParticipantCount) :
    game.KeepsRegistry
      { game with participants := nbdParticipantsJoin game.participants index localIndices } := by
  obtain ⟨hinitial, hlength⟩ := nbdParticipantsJoin_prefix game.participants index localIndices
  exact ⟨fun hv => ⟨nbdParticipantsJoin_ids hv.ids_eq index localIndices, by
    dsimp only
    omega⟩, hinitial, rfl⟩

theorem nbdReqGameJoin_keepsRegistry (self : NimbleServer)
    (transportConnection : NimbleServerTransportConnection) (inStream : FldInStream)
    (outStream : FldOutStream) :
    self.game.KeepsRegistry (nbdReqGameJoin self transportConnection inStream outStream).game := by
  unfold nbdReqGameJoin
  dsimp only
  repeat' split
  all_goals first
    | exact .refl _
    | apply NimbleServerGame.KeepsRegistry.join
      have := fldInStreamReadOctets_length (by assumption)
      simp only [List.length_map]
      omega

/-! ## Every call -/

theorem nimbleServerFeedDispatch_keepsRegistry {self : NimbleServer}
    {transportConnection : NimbleServerTransportConnection} {cmd : UInt8} {inStream : FldInStream}
    {outStream : FldOutStream} {request : NimbleServerReqResult}
    (h : nimbleServerFeedDispatch nbsWindowSize self transportConnection cmd inStream outStream =
      some request) :
    self.game.KeepsRegistry request.game := by
  unfold nimbleServerFeedDispatch at h
  split_ifs at h <;> cases h
  · have hgame := (@nimbleServerReqGameStep_ring nbsWindowSize self.game self.connections
      transportConnection self.authoritativeStepsPerSecondStat inStream outStream).2.1
    exact .of_eq (by rw [hgame]) (by rw [hgame])
  · exact nbdReqGameJoin_keepsRegistry _ _ _ _
  · exact .refl _

theorem nimbleServerFeed_keepsRegistry {context : NimbleServerFeedContext} {self : NimbleServer}
    {connectionIndex : UInt8} {data : List UInt8} {response : DatagramTransportOut}
    {fed : NimbleServerFeedResult}
    (h : nimbleServerFeed nbsWindowSize context self connectionIndex data response = .ok fed) :
    self.game.KeepsRegistry fed.server.game := by
  rcases nimbleServerFeed_eq_ok h with ⟨-, rfl⟩ | ⟨slot, transportConnection, -, hcases⟩
  · exact .refl _
  dsimp only at hcases
  rcases hcases with ⟨-, rfl⟩ | ⟨-, request, hdispatch, rfl⟩ | ⟨-, -, rfl⟩
  · exact .refl _
  · rw [nimbleServerFeedReply_game]
    exact nimbleServerFeedDispatch_keepsRegistry hdispatch
  · exact .refl _

theorem nimbleServerReadFromMultiTransportLoop_keepsRegistry (context : NimbleServerFeedContext)
    {rounds : Nat} {self after : NimbleServer} {transport transport' : DatagramTransportMulti}
    {result : Int}
    (h : nimbleServerReadFromMultiTransportLoop nbsWindowSize context rounds self transport =
      .ok (after, transport', result)) :
    self.game.KeepsRegistry after.game :=
  nimbleServerReadFromMultiTransportLoop_induction context
    (fun server after => server.game.KeepsRegistry after.game) (fun _ => .refl _)
    (fun _ _ _ h₁ h₂ => h₁.trans h₂)
    (fun _ _ _ _ h => by dsimp only; rw [nimbleServerConnectionConnected_game h]; exact .refl _)
    (fun _ _ _ _ _ h => nimbleServerFeed_keepsRegistry h) h

/-- Every call but `nimbleServerReInitWithGame` keeps the registry. -/
theorem NimbleServerEvent.apply_keepsRegistry {event : NimbleServerEvent} {self after : NimbleServer}
    (hstarts : event.startsGameOver = false) (h : event.apply nbsWindowSize self = some after) :
    self.game.KeepsRegistry after.game := by
  cases event with
  | feed =>
      obtain ⟨fed, hfed, rfl⟩ := except_toOption_map_eq_some.mp h
      exact nimbleServerFeed_keepsRegistry hfed
  | connectionConnected =>
      obtain ⟨⟨_, _⟩, hconnected, rfl⟩ := except_toOption_map_eq_some.mp h
      rw [nimbleServerConnectionConnected_game hconnected]
      exact .refl _
  | connectionDisconnected =>
      obtain ⟨⟨_, _⟩, hdisconnected, rfl⟩ := except_toOption_map_eq_some.mp h
      rw [nimbleServerConnectionDisconnected_game hdisconnected]
      exact .refl _
  | reInitWithGame => cases hstarts
  | setGameState gameState stepId =>
      cases h
      unfold nimbleServerSetGameState
      split
      · rename_i game hset
        obtain ⟨-, rfl⟩ := nbdGameSetGameState_eq_ok.mp hset
        exact .of_eq rfl rfl
      · exact .refl _
  | readFromMultiTransport context =>
      obtain ⟨⟨_, _, _⟩, hdrained, rfl⟩ := except_toOption_map_eq_some.mp h
      exact @nimbleServerReadFromMultiTransportLoop_keepsRegistry nbsWindowSize context 32 _ _ _ _ _
        hdrained
  | update context =>
      obtain ⟨⟨_, _, _⟩, hupdated, rfl⟩ := except_toOption_map_eq_some.mp h
      obtain ⟨drained, _, hdrained, rfl⟩ := nimbleServerUpdate_eq_ok hupdated
      exact @nimbleServerReadFromMultiTransportLoop_keepsRegistry nbsWindowSize context 32 _ drained _ _
        _ hdrained
  | setDebugIsFrozen =>
      cases h
      exact .of_eq rfl rfl

/-- `nimbleServerReInitWithGame` starts an empty registry. -/
theorem nimbleServerReInitWithGame_registryValid (self : NimbleServer) (gameState : List UInt8)
    (stepId : StepId) (now : Nat) :
    (nimbleServerReInitWithGame self gameState stepId now).1.game.RegistryValid := by
  rw [nimbleServerReInitWithGame_game]
  exact ⟨rfl, Nat.zero_le _⟩

/-- Every call keeps a well-formed registry well formed. -/
theorem NimbleServerEvent.apply_registryValid {event : NimbleServerEvent} {self after : NimbleServer}
    (hv : self.game.RegistryValid) (h : event.apply nbsWindowSize self = some after) :
    after.game.RegistryValid := by
  cases hstarts : event.startsGameOver
  · exact (NimbleServerEvent.apply_keepsRegistry hstarts h).valid hv
  · cases event with
    | reInitWithGame =>
        cases h
        exact nimbleServerReInitWithGame_registryValid _ _ _ _
    | _ => cases hstarts

/-! ## Runs -/

/-- A run that does not start the game over keeps the registry. -/
theorem nimbleServerRun_keepsRegistry {events : List NimbleServerEvent} {start after : NimbleServer}
    (hall : events.all (!·.startsGameOver))
    (hrun : nimbleServerRun nbsWindowSize events start = some after) :
    start.game.KeepsRegistry after.game := by
  induction events generalizing start with
  | nil =>
      cases hrun
      exact .refl _
  | cons event events ih =>
      obtain ⟨middle, hmiddle, hrest⟩ := nimbleServerRun_cons hrun
      simp only [List.all_cons, Bool.and_eq_true, Bool.not_eq_true'] at hall
      exact (NimbleServerEvent.apply_keepsRegistry hall.1 hmiddle).trans (ih hall.2 hrest)

/-- **The participant registry along runs.**  From a state whose registry is well formed, as every
state right after `nimbleServerReInitWithGame` is, every run reaches a state whose participants
have the ids `1, 2, …, n` in join order with `n` at most the game's `maxParticipantCount`; and when
the run does not start the game over, the participants it started with are the first ones it ends
with, with the same ids: a disconnect releases none of them. -/
theorem participantRegistry_along_runs {events : List NimbleServerEvent}
    {start after : NimbleServer} (hstart : start.game.RegistryValid)
    (hrun : nimbleServerRun nbsWindowSize events start = some after) :
    after.game.RegistryValid ∧
      (events.all (!·.startsGameOver) → start.game.participants <+: after.game.participants) :=
  ⟨nimbleServerRun_invariant (fun server => server.game.RegistryValid)
      (fun _ _ _ hv h => NimbleServerEvent.apply_registryValid hv h) events hstart hrun,
    fun hall => (nimbleServerRun_keepsRegistry hall hrun).isPrefix⟩

/-- **A full registry stays full.**  Once the registry holds `maxParticipantCount` participants, no
run that does not start the game over changes them: no client, new or returning, adds a
participant, and the participants of the clients that left keep their places. -/
theorem full_registry_admits_no_one {events : List NimbleServerEvent}
    {start after : NimbleServer} (hstart : start.game.RegistryValid)
    (hfull : start.game.participants.length = start.game.maxParticipantCount)
    (hall : events.all (!·.startsGameOver))
    (hrun : nimbleServerRun nbsWindowSize events start = some after) :
    after.game.participants = start.game.participants := by
  have hkeeps := nimbleServerRun_keepsRegistry hall hrun
  have hbound := (hkeeps.valid hstart).length_le
  rw [hkeeps.max_eq, ← hfull] at hbound
  exact (hkeeps.isPrefix.eq_of_length (le_antisymm hkeeps.isPrefix.length_le hbound)).symm

/-- On a new game a client joins on slot 0 with one participant.  From there the client
disconnects, and a second client connects on slot 1 and joins with one participant: the first
participant keeps its place and id, and the newcomer is the second. -/
theorem departed_participant_keeps_id :
    ∃ (events : List NimbleServerEvent) (start after : NimbleServer),
      nimbleServerRun 90 [.reInitWithGame [0xAA] 0 0, .connectionConnected 0,
          .feed ⟨false, false, 0⟩ 0 [0, 0, 1, 1, 0] ⟨fun octets => octets.length⟩]
        (nimbleServerInit NimbleServer.zeroed ⟨2, 4, 2, 4, 100, 0⟩).1 = some start ∧
      events = [.connectionDisconnected 0, .connectionConnected 1,
        .feed ⟨false, false, 0⟩ 1 [0, 0, 1, 1, 0] ⟨fun octets => octets.length⟩] ∧
      start.game.participants.length = 1 ∧
      start.game.RegistryValid ∧
      nimbleServerRun 90 events start = some after ∧
      after.game.participants.length = 2 ∧
      after.game.RegistryValid ∧
      (events.all (!·.startsGameOver) → start.game.participants <+: after.game.participants) :=
  ⟨_, _, _, rfl, rfl, by decide, ⟨rfl, by decide⟩,
    (fun hrun => ⟨hrun, by decide, participantRegistry_along_runs ⟨rfl, by decide⟩ hrun⟩) rfl⟩

/-- On a game for one participant a client joins on slot 0 and disconnects; a second client then
connects on slot 1 and asks to join. -/
theorem departed_client_blocks_newcomer :
    ∃ (events : List NimbleServerEvent) (start after : NimbleServer),
      nimbleServerRun 90 [.reInitWithGame [0xAA] 0 0, .connectionConnected 0,
          .feed ⟨false, false, 0⟩ 0 [0, 0, 1, 1, 0] ⟨fun octets => octets.length⟩]
        (nimbleServerInit NimbleServer.zeroed ⟨2, 1, 2, 4, 100, 0⟩).1 = some start ∧
      events = [.connectionDisconnected 0, .connectionConnected 1,
        .feed ⟨false, false, 0⟩ 1 [0, 0, 1, 1, 0] ⟨fun octets => octets.length⟩] ∧
      start.game.RegistryValid ∧
      start.game.participants.length = start.game.maxParticipantCount ∧
      events.all (!·.startsGameOver) ∧
      nimbleServerRun 90 events start = some after ∧
      after.game.participants = start.game.participants :=
  ⟨_, _, _, rfl, rfl, ⟨rfl, by decide⟩, by decide, rfl,
    (fun hrun => ⟨hrun, full_registry_admits_no_one ⟨rfl, by decide⟩ (by decide) (by decide) hrun⟩) rfl⟩

end NimbleServerLib
