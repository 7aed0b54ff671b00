import NimbleServerLib.Run
import NimbleServerLib.Feed
import NimbleServerLib.AuthoritativeRing

/-!
# The authoritative ring along runs

Of all the server's calls only a GameStep request writes the authoritative ring, and only
`nimbleServerReInitWithGame` and `nimbleServerSetGameState` write the latest game state.  This
file proves it for every event, through the relation `NimbleServerGame.Advances`: the game after
an event is the game before it after some GameStep requests and some writes that leave the ring
and the latest game state alone (a join's participants, the host's `debugIsFrozen`).

From it follow the two facts later files use: a run keeps the ring well formed
(`NimbleServerGame.Advances.valid`), and a run that sets no new game state moves the write id
only by the steps its requests composed (`NimbleServerGame.Advances.composedFrom`).
-/

namespace NimbleServerLib

variable {nbsWindowSize : Nat}

/-- The game after GameStep requests and writes that leave the ring and the latest game state
alone. -/
inductive NimbleServerGame.Advances (nbsWindowSize : Nat) :
    NimbleServerGame → NimbleServerGame → Prop
  | keep {game after : NimbleServerGame}
      (hring : after.authoritativeSteps = game.authoritativeSteps)
      (hstate : after.latestState = game.latestState) : Advances nbsWindowSize game after
  | request (game : NimbleServerGame) (connections : NimbleServerParticipantConnections)
      (transportConnection : NimbleServerTransportConnection) (stat : StatsIntPerSecond)
      (inStream : FldInStream) (outStream : FldOutStream) :
      Advances nbsWindowSize game
        (nimbleServerReqGameStep nbsWindowSize game connections transportConnection stat inStream
          outStream).game
  | trans {first middle last : NimbleServerGame} :
      Advances nbsWindowSize first middle → Advances nbsWindowSize middle last →
        Advances nbsWindowSize first last

theorem NimbleServerGame.Advances.rfl (game : NimbleServerGame) :
    NimbleServerGame.Advances nbsWindowSize game game :=
  .keep (Eq.refl _) (Eq.refl _)

theorem NimbleServerGame.Advances.of_eq {game after : NimbleServerGame} (h : after = game) :
    NimbleServerGame.Advances nbsWindowSize game after :=
  h ▸ .rfl _

/-! ## Each call -/

theorem nbdReqGameJoin_game (self : NimbleServer)
    (transportConnection : NimbleServerTransportConnection) (inStream : FldInStream)
    (outStream : FldOutStream) :
    (nbdReqGameJoin self transportConnection inStream outStream).game =
      { self.game with
        participants := (nbdReqGameJoin self transportConnection inStream outStream).game.participants } := by
  unfold nbdReqGameJoin
  dsimp only
  repeat' split
  all_goals rfl

theorem nimbleServerFeedDispatch_advances {self : NimbleServer}
    {transportConnection : NimbleServerTransportConnection} {cmd : UInt8} {inStream : FldInStream}
    {outStream : FldOutStream} {request : NimbleServerReqResult}
    (h : nimbleServerFeedDispatch nbsWindowSize self transportConnection cmd inStream outStream =
      some request) :
    NimbleServerGame.Advances nbsWindowSize self.game request.game := by
  unfold nimbleServerFeedDispatch at h
  split at h
  · cases h
    exact .request _ _ _ _ _ _
  split at h
  · cases h
    rw [nbdReqGameJoin_game]
    exact .keep (Eq.refl _) (Eq.refl _)
  split at h
  · cases h
    exact .rfl _
  · cases h

@[simp] theorem nimbleServerFeedReply_game (self : NimbleServer) (slot : TransportSlot)
    (request : NimbleServerReqResult) (response : DatagramTransportOut) :
    (nimbleServerFeedReply self slot request response).server.game = request.game := by
  unfold nimbleServerFeedReply
  dsimp only
  split
  · rfl
  split <;> rfl

theorem nimbleServerFeed_advances {context : NimbleServerFeedContext} {self : NimbleServer}
    {connectionIndex : UInt8} {data : List UInt8} {response : DatagramTransportOut}
    {fed : NimbleServerFeedResult}
    (h : nimbleServerFeed nbsWindowSize context self connectionIndex data response = .ok fed) :
    NimbleServerGame.Advances nbsWindowSize self.game fed.server.game := by
  rcases nimbleServerFeed_eq_ok h with ⟨-, rfl⟩ | ⟨slot, transportConnection, -, hcases⟩
  · exact .rfl _
  dsimp only at hcases
  rcases hcases with ⟨-, rfl⟩ | ⟨-, request, hdispatch, rfl⟩ | ⟨-, -, rfl⟩
  · exact .rfl _
  · simpa using nimbleServerFeedDispatch_advances hdispatch
  · exact .rfl _

theorem nimbleServerConnectionConnected_game {self after : NimbleServer} {connectionIndex : UInt8}
    {result : Int} (h : nimbleServerConnectionConnected self connectionIndex = .ok (after, result)) :
    after.game = self.game := by
  obtain ⟨-, -, ⟨-, rfl, -⟩ | ⟨-, -, rfl⟩⟩ := nimbleServerConnectionConnected_eq_ok h <;> rfl

theorem nimbleServerConnectionDisconnected_game {self after : NimbleServer}
    {connectionIndex : UInt8} {result : Int}
    (h : nimbleServerConnectionDisconnected self connectionIndex = .ok (after, result)) :
    after.game = self.game := by
  rcases nimbleServerConnectionDisconnected_eq_ok h with ⟨rfl, -⟩ | ⟨-, -, -, -, -, rfl⟩ <;> rfl

theorem nimbleServerReadFromMultiTransportLoop_advances (context : NimbleServerFeedContext)
    (rounds : Nat) {self after : NimbleServer} {transport transport' : DatagramTransportMulti}
    {result : Int}
    (h : nimbleServerReadFromMultiTransportLoop nbsWindowSize context rounds self transport =
      .ok (after, transport', result)) :
    NimbleServerGame.Advances nbsWindowSize self.game after.game :=
  nimbleServerReadFromMultiTransportLoop_induction context
    (fun server after => NimbleServerGame.Advances nbsWindowSize server.game after.game)
    (fun _ => .rfl _) (fun _ _ _ h₁ h₂ => h₁.trans h₂)
    (fun _ _ _ _ hc => .of_eq (nimbleServerConnectionConnected_game hc))
    (fun _ _ _ _ _ hfed => nimbleServerFeed_advances hfed) h

theorem nimbleServerUpdate_advances (context : NimbleServerFeedContext) {self after : NimbleServer}
    {transport transport' : DatagramTransportMulti} {now : Nat} {result : Int}
    (h : nimbleServerUpdate nbsWindowSize context self transport now = .ok (after, transport', result)) :
    NimbleServerGame.Advances nbsWindowSize self.game after.game := by
  unfold nimbleServerUpdate at h
  split at h
  · cases h
  · rename_i drained hdrained
    cases h
    exact (nimbleServerReadFromMultiTransportLoop_advances context 32 hdrained :)

/-- **Every event that sets no new game state advances the game.** -/
theorem NimbleServerEvent.apply_advances {event : NimbleServerEvent} {self after : NimbleServer}
    (hkeeps : event.keepsGameState = true)
    (h : event.apply nbsWindowSize self = some after) :
    NimbleServerGame.Advances nbsWindowSize self.game after.game := by
  cases event with
  | feed =>
      obtain ⟨fed, hfed, rfl⟩ := except_toOption_map_eq_some.mp h
      exact nimbleServerFeed_advances hfed
  | connectionConnected =>
      obtain ⟨⟨_, _⟩, hconnected, rfl⟩ := except_toOption_map_eq_some.mp h
      exact .of_eq (nimbleServerConnectionConnected_game hconnected)
  | connectionDisconnected =>
      obtain ⟨⟨_, _⟩, hdisconnected, rfl⟩ := except_toOption_map_eq_some.mp h
      exact .of_eq (nimbleServerConnectionDisconnected_game hdisconnected)
  | reInitWithGame => cases hkeeps
  | setGameState => cases hkeeps
  | readFromMultiTransport context =>
      obtain ⟨⟨_, _, _⟩, hdrained, rfl⟩ := except_toOption_map_eq_some.mp h
      exact nimbleServerReadFromMultiTransportLoop_advances context 32 hdrained
  | update context =>
      obtain ⟨⟨_, _, _⟩, hupdated, rfl⟩ := except_toOption_map_eq_some.mp h
      exact nimbleServerUpdate_advances context hupdated
  | setDebugIsFrozen =>
      cases h
      exact .keep (Eq.refl _) (Eq.refl _)

/-! ## The ring along a run -/

/-- `after` comes from `before` through GameStep requests, each of which keeps the newest
`NBS_WINDOW_SIZE / 3` steps and appends what its composer wrote, leaving a well-formed ring: the
appended steps carry the consecutive ids from the write id, at most the window of them.
`composed` counts the appended steps. -/
inductive NbsSteps.ComposedFrom (nbsWindowSize : Nat) : NbsSteps → NbsSteps → Nat → Prop
  | refl (ring : NbsSteps) : ComposedFrom nbsWindowSize ring ring 0
  | request {first middle last : NbsSteps} {composed : Nat} {appended : List NbsStep}
      (hprev : ComposedFrom nbsWindowSize first middle composed)
      (happ : (middle.keepNewest (nbsWindowSize / 3)).AppendedBy last appended)
      (hvalid : last.Valid nbsWindowSize) :
      ComposedFrom nbsWindowSize first last (composed + appended.length)

theorem NbsSteps.ComposedFrom.trans {first middle last : NbsSteps} {composed more : Nat}
    (h₁ : first.ComposedFrom nbsWindowSize middle composed)
    (h₂ : middle.ComposedFrom nbsWindowSize last more) :
    first.ComposedFrom nbsWindowSize last (composed + more) := by
  induction h₂ with
  | refl => exact h₁
  | request _ happ hvalid ih => simpa [Nat.add_assoc] using ih.request happ hvalid

theorem NimbleServerGame.Advances.valid {game after : NimbleServerGame}
    (h : NimbleServerGame.Advances nbsWindowSize game after)
    (hv : game.authoritativeSteps.Valid nbsWindowSize) :
    after.authoritativeSteps.Valid nbsWindowSize := by
  induction h with
  | keep hring => rwa [hring]
  | request => exact (nimbleServerReqGameStep_ring _ _ _ _ _ _).1 hv
  | trans _ _ ih₁ ih₂ => exact ih₂ (ih₁ hv)

theorem nimbleServerSetGameState_authoritativeSteps (self : NimbleServer)
    (gameState : List UInt8) (stepId : StepId) :
    (nimbleServerSetGameState self gameState stepId).game.authoritativeSteps =
      self.game.authoritativeSteps := by
  unfold nimbleServerSetGameState
  split
  · rename_i game hgame
    obtain ⟨-, rfl⟩ := nbdGameSetGameState_eq_ok.mp hgame
    rfl
  · rfl

/-- Every event keeps the authoritative ring well formed. -/
theorem NimbleServerEvent.apply_valid {event : NimbleServerEvent} {self after : NimbleServer}
    (hv : self.game.authoritativeSteps.Valid nbsWindowSize)
    (h : event.apply nbsWindowSize self = some after) :
    after.game.authoritativeSteps.Valid nbsWindowSize := by
  cases hkeeps : event.keepsGameState
  · cases event <;> cases hkeeps <;> cases h
    · exact nbsStepsReInit_valid _ _
    · rwa [nimbleServerSetGameState_authoritativeSteps]
  · exact (NimbleServerEvent.apply_advances hkeeps h).valid hv

/-- The ring a GameStep request leaves, `after`, against the ring it found, `before`: it is well
formed, it starts with the newest `NBS_WINDOW_SIZE / 3` steps of `before` (all of them when there
are fewer) with their ids and octets unchanged, and it ends with the steps the composer appended,
none when the game is frozen.  So the write id moves by exactly the number appended. -/
structure NbsSteps.GameStepOutcome (nbsWindowSize : Nat) (before after : NbsSteps) (frozen : Bool) :
    Prop where
  valid : after.Valid nbsWindowSize
  trimmed_then_appended : ∃ appended : List NbsStep,
    after.steps = before.steps.drop (before.stepsCount - nbsWindowSize / 3) ++ appended ∧
    after.expectedReadId =
      before.expectedReadId + BitVec.ofNat 32 (before.stepsCount - nbsWindowSize / 3) ∧
    after.expectedWriteId = before.expectedWriteId + BitVec.ofNat 32 appended.length ∧
    after.stepsCount = min before.stepsCount (nbsWindowSize / 3) + appended.length ∧
    after.stepsCount ≤ nbsWindowSize / 3 + appended.length ∧
    (frozen = true → appended = [])

theorem nimbleServerReqGameStep_outcome (foundGame : NimbleServerGame)
    (connections : NimbleServerParticipantConnections)
    (transportConnection : NimbleServerTransportConnection) (stat : StatsIntPerSecond)
    (inStream : FldInStream) (outStream : FldOutStream)
    (hv : foundGame.authoritativeSteps.Valid nbsWindowSize) :
    foundGame.authoritativeSteps.GameStepOutcome nbsWindowSize
      (nimbleServerReqGameStep nbsWindowSize foundGame connections transportConnection stat inStream
        outStream).game.authoritativeSteps foundGame.debugIsFrozen := by
  obtain ⟨hv', -, appended, happ, hfrozen⟩ :=
    nimbleServerReqGameStep_ring foundGame connections transportConnection stat inStream outStream
  refine ⟨hv' hv, appended, happ.steps_eq, happ.read_eq, happ.write_eq, ?_, ?_, hfrozen⟩
  · simp [happ.count_eq]
  · simp only [happ.count_eq, NbsSteps.keepNewest_stepsCount]
    omega

/-- **The authoritative ring along every run from `nimbleServerReInitWithGame`.**  In every state
the run reaches, whatever requests on whatever slots it took and whether the game was frozen or
not, the ring holds exactly the consecutive ids from its read id to its write id, at most
`NBS_WINDOW_SIZE` of them; the trim of the next request cannot fail; and the next GameStep request
only trims to the newest `NBS_WINDOW_SIZE / 3` steps, leaving their octets, and then appends the
composed steps. -/
theorem authoritativeRing_along_runs (nbsWindowSize : Nat) (self : NimbleServer)
    (gameState : List UInt8) (stepId : StepId) (now : Nat) (events : List NimbleServerEvent)
    (after : NimbleServer)
    (hrun : nimbleServerRun nbsWindowSize events
      (nimbleServerReInitWithGame self gameState stepId now).1 = some after) :
    after.game.authoritativeSteps.Valid nbsWindowSize ∧
      (discardAuthoritativeStepsIfBufferGettingFull nbsWindowSize after.game).2 = 0 ∧
      ∀ (connections : NimbleServerParticipantConnections)
        (transportConnection : NimbleServerTransportConnection) (stat : StatsIntPerSecond)
        (inStream : FldInStream) (outStream : FldOutStream),
        after.game.authoritativeSteps.GameStepOutcome nbsWindowSize
          (nimbleServerReqGameStep nbsWindowSize after.game connections transportConnection stat
            inStream outStream).game.authoritativeSteps after.game.debugIsFrozen := by
  have hv : after.game.authoritativeSteps.Valid nbsWindowSize :=
    nimbleServerRun_invariant (fun server => server.game.authoritativeSteps.Valid nbsWindowSize)
      (fun _ _ _ hv h => NimbleServerEvent.apply_valid hv h) events
      (nbsStepsReInit_valid nbsWindowSize stepId) hrun
  refine ⟨hv, by rw [discardAuthoritativeStepsIfBufferGettingFull_eq], ?_⟩
  intro connections transportConnection stat inStream outStream
  exact nimbleServerReqGameStep_outcome _ _ _ _ _ _ hv

set_option maxRecDepth 10000 in
/-- A client joins on slot 0 and sends 31 steps in one GameStep, which the game composes at once.
A second GameStep with step 31 then trims the ring to the newest 30 before the composer appends
it, so the ring runs from step 1 to step 31. -/
theorem authoritativeRing_after_burst :
    let context : NimbleServerFeedContext := ⟨false, false, 0⟩
    let response : DatagramTransportOut := ⟨fun octets => octets.length⟩
    let events : List NimbleServerEvent := [.connectionConnected 0,
      .feed context 0 [0, 0, 1, 1, 0] response,
      .feed context 0 ([0, 1, 2, 0, 0, 0, 0, 0, 0, 0, 0, 31] ++ (List.replicate 31 [1, 7]).flatten)
        response,
      .feed context 0 [0, 2, 2, 0, 0, 0, 0, 0, 0, 0, 31, 1, 1, 7] response]
    ∃ after, nimbleServerRun 90 events (nimbleServerReInitWithGame
        (nimbleServerInit NimbleServer.zeroed ⟨2, 4, 2, 4, 100, 0⟩).1 [0xAA] 0 0).1 = some after ∧
      after.game.debugIsFrozen = false ∧
      after.game.authoritativeSteps.expectedReadId = 1 ∧
      after.game.authoritativeSteps.expectedWriteId = 32 ∧
      after.game.authoritativeSteps.Valid 90 ∧
      (discardAuthoritativeStepsIfBufferGettingFull 90 after.game).2 = 0 ∧
      ∀ (connections : NimbleServerParticipantConnections)
        (transportConnection : NimbleServerTransportConnection) (stat : StatsIntPerSecond)
        (inStream : FldInStream) (outStream : FldOutStream),
        after.game.authoritativeSteps.GameStepOutcome 90
          (nimbleServerReqGameStep 90 after.game connections transportConnection stat
            inStream outStream).game.authoritativeSteps after.game.debugIsFrozen :=
  (fun hrun => ⟨_, hrun, by decide, by decide, by decide,
    authoritativeRing_along_runs 90 _ [0xAA] 0 0 _ _ hrun⟩) rfl

end NimbleServerLib
