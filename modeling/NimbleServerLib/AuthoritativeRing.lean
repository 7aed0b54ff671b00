import NimbleServerLib.ReqStep

/-!
# The authoritative ring under a GameStep request

A GameStep request touches the game in exactly one place, the authoritative ring, and only in two
ways: the backpressure trim keeps the newest `NBS_WINDOW_SIZE / 3` steps, and the composer writes
combined steps at the write id.  This file proves that, one stage at a time:

* `discardAuthoritativeStepsIfBufferGettingFull_eq`: the trim never fails and leaves the ring's
  newest `min stepsCount (NBS_WINDOW_SIZE / 3)` steps (`NbsSteps.keepNewest`);
* `nimbleServerComposeLoop_spec`: the composer only appends (`NbsSteps.AppendedBy`), keeps the ring
  well formed, and returns the number it appended when it succeeds;
* `nimbleServerReqGameStep_ring`: the whole request, trim then ingest then compose, leaves the
  trimmed ring with the composed steps appended, and a frozen game's ring only trimmed.

Because the trim runs before the composer within one request, the steps a request composes sit at
the end of the ring its reply is built from.
-/

namespace NimbleServerLib

variable {nbsWindowSize : Nat}

/-! ## Appending to a ring -/

/-- `after` is `before` with the steps `appended` written one after the other at its write id. -/
structure NbsSteps.AppendedBy (before after : NbsSteps) (appended : List NbsStep) : Prop where
  steps_eq : after.steps = before.steps ++ appended
  count_eq : after.stepsCount = before.stepsCount + appended.length
  read_eq : after.expectedReadId = before.expectedReadId
  write_eq : after.expectedWriteId = before.expectedWriteId + BitVec.ofNat 32 appended.length

theorem NbsSteps.AppendedBy.refl (ring : NbsSteps) : ring.AppendedBy ring [] :=
  ⟨by simp, by simp, rfl, by simp⟩

theorem NbsSteps.AppendedBy.trans {first middle last : NbsSteps} {appended more : List NbsStep}
    (h₁ : first.AppendedBy middle appended) (h₂ : middle.AppendedBy last more) :
    first.AppendedBy last (appended ++ more) := by
  refine ⟨by simp [h₂.steps_eq, h₁.steps_eq], by simp [h₂.count_eq, h₁.count_eq]; omega,
    h₂.read_eq.trans h₁.read_eq, ?_⟩
  rw [h₂.write_eq, h₁.write_eq, List.length_append, BitVec.ofNat_add, BitVec.add_assoc]

theorem nbsStepsWrite_appendedBy {before after : NbsSteps} {stepId : StepId}
    {payload : List UInt8} (h : nbsStepsWrite nbsWindowSize before stepId payload = .ok after) :
    before.AppendedBy after [⟨stepId, payload⟩] := by
  obtain ⟨rfl, -, rfl⟩ := nbsStepsWrite_eq_ok.mp h
  exact ⟨rfl, rfl, rfl, by simp⟩

theorem nbsStepsWrite_error_neg {ring : NbsSteps} {stepId : StepId} {payload : List UInt8}
    {err : Int} (h : nbsStepsWrite nbsWindowSize ring stepId payload = .error err) : err < 0 := by
  unfold nbsStepsWrite at h
  split at h
  · cases h; decide
  · split at h <;> cases h; decide

/-! ## The trim -/

/-- The ring with only its newest `keep` steps: the oldest `stepsCount - keep` are dropped and
the read id moves past them. -/
def NbsSteps.keepNewest (ring : NbsSteps) (keep : Nat) : NbsSteps :=
  { ring with
    steps := ring.steps.drop (ring.stepsCount - keep)
    stepsCount := ring.stepsCount - (ring.stepsCount - keep)
    expectedReadId := ring.expectedReadId + BitVec.ofNat 32 (ring.stepsCount - keep) }

theorem NbsSteps.keepNewest_of_le {ring : NbsSteps} {keep : Nat} (h : ring.stepsCount ≤ keep) :
    ring.keepNewest keep = ring := by
  simp [NbsSteps.keepNewest, Nat.sub_eq_zero_of_le h]

@[simp] theorem NbsSteps.keepNewest_stepsCount (ring : NbsSteps) (keep : Nat) :
    (ring.keepNewest keep).stepsCount = min ring.stepsCount keep := by
  simp only [NbsSteps.keepNewest]
  omega

theorem NbsSteps.Valid.keepNewest {ring : NbsSteps} (hv : ring.Valid nbsWindowSize) (keep : Nat) :
    (ring.keepNewest keep).Valid nbsWindowSize :=
  hv.discard (Nat.sub_le _ _)

/-- **The trim never fails**, and it keeps the newest `NBS_WINDOW_SIZE / 3` steps, or all of them
when there are fewer. -/
theorem discardAuthoritativeStepsIfBufferGettingFull_eq (nbsWindowSize : Nat)
    (foundGame : NimbleServerGame) :
    discardAuthoritativeStepsIfBufferGettingFull nbsWindowSize foundGame =
      ({ foundGame with
          authoritativeSteps := foundGame.authoritativeSteps.keepNewest (nbsWindowSize / 3) }, 0) := by
  unfold discardAuthoritativeStepsIfBufferGettingFull
  dsimp only
  split
  · simp only [nbsStepsDiscardCount_of_le (Nat.sub_le _ _)]
    rfl
  · rw [NbsSteps.keepNewest_of_le (by omega)]

/-! ## The composer -/

theorem nimbleServerComposeTick_composed {game game' : NimbleServerGame}
    {connections connections' : NimbleServerParticipantConnections}
    (h : nimbleServerComposeTick nbsWindowSize game connections = .composed game' connections') :
    ∃ payload, nbsStepsWrite nbsWindowSize game.authoritativeSteps
        game.authoritativeSteps.expectedWriteId payload = .ok game'.authoritativeSteps ∧
      game' = { game with authoritativeSteps := game'.authoritativeSteps } := by
  unfold nimbleServerComposeTick at h
  dsimp only at h
  split at h
  · cases h
  split at h
  · cases h
  split at h
  · cases h
  · rename_i hwrite
    cases h
    exact ⟨_, hwrite, rfl⟩

theorem nimbleServerComposeTick_failed {game : NimbleServerGame}
    {connections : NimbleServerParticipantConnections} {err : Int}
    (h : nimbleServerComposeTick nbsWindowSize game connections = .failed err) : err < 0 := by
  unfold nimbleServerComposeTick at h
  dsimp only at h
  split at h
  · cases h
  split at h
  · cases h
  split at h
  · rename_i hwrite
    cases h
    exact nbsStepsWrite_error_neg hwrite
  · cases h

/-- **The composer only appends.**  Whatever its fuel, it changes nothing in the game but the
ring, keeps a well-formed ring well formed, and on success returns how many steps it appended. -/
theorem nimbleServerComposeLoop_spec (fuel : Nat) (game : NimbleServerGame)
    (connections : NimbleServerParticipantConnections) (count : Nat) :
    let composed := nimbleServerComposeLoop nbsWindowSize fuel game connections count
    (game.authoritativeSteps.Valid nbsWindowSize → composed.1.authoritativeSteps.Valid nbsWindowSize) ∧
      composed.1 = { game with authoritativeSteps := composed.1.authoritativeSteps } ∧
      ∃ appended, game.authoritativeSteps.AppendedBy composed.1.authoritativeSteps appended ∧
        (0 ≤ composed.2.2 → composed.2.2 = ↑(count + appended.length)) := by
  induction fuel generalizing game connections count with
  | zero => exact ⟨id, rfl, [], .refl _, by simp [nimbleServerComposeLoop]⟩
  | succ fuel ih =>
    simp only [nimbleServerComposeLoop]
    split
    · exact ⟨id, rfl, [], .refl _, by simp⟩
    · rename_i err htick
      exact ⟨id, rfl, [], .refl _,
        fun h => absurd h (by simpa using nimbleServerComposeTick_failed htick)⟩
    · rename_i game' connections' htick
      obtain ⟨payload, hwrite, hgame'⟩ := nimbleServerComposeTick_composed htick
      obtain ⟨hv', hgame'', appended, happ, hcount⟩ := ih game' connections' (count + 1)
      refine ⟨fun hv => hv' (hv.write hwrite), hgame''.trans (by rw [hgame']), _,
        (nbsStepsWrite_appendedBy hwrite).trans happ, fun h => ?_⟩
      rw [hcount h]
      simp only [List.length_append, List.length_singleton]
      omega

theorem nimbleServerComposeAuthoritativeSteps_spec (game : NimbleServerGame)
    (connections : NimbleServerParticipantConnections) :
    let composed := nimbleServerComposeAuthoritativeSteps nbsWindowSize game connections
    (game.authoritativeSteps.Valid nbsWindowSize → composed.1.authoritativeSteps.Valid nbsWindowSize) ∧
      composed.1 = { game with authoritativeSteps := composed.1.authoritativeSteps } ∧
      ∃ appended, game.authoritativeSteps.AppendedBy composed.1.authoritativeSteps appended ∧
        (0 ≤ composed.2.2 → composed.2.2 = ↑appended.length) := by
  simpa using nimbleServerComposeLoop_spec (nbsWindowSize + 1) game connections 0

/-! ## The request -/

/-- What one GameStep request does to the authoritative ring: the trim keeps the newest
`NBS_WINDOW_SIZE / 3` steps and the composer appends, nothing more; a frozen game's ring is only
trimmed. -/
theorem readIncomingStepsAndCreateAuthoritativeSteps_ring (foundGame : NimbleServerGame)
    (connections : NimbleServerParticipantConnections) (inStream : FldInStream)
    (transportConnection : NimbleServerTransportConnection) (stat : StatsIntPerSecond) :
    let read := readIncomingStepsAndCreateAuthoritativeSteps nbsWindowSize foundGame connections
      inStream transportConnection stat
    (foundGame.authoritativeSteps.Valid nbsWindowSize →
        read.game.authoritativeSteps.Valid nbsWindowSize) ∧
      read.game = { foundGame with authoritativeSteps := read.game.authoritativeSteps } ∧
      ∃ appended, (foundGame.authoritativeSteps.keepNewest (nbsWindowSize / 3)).AppendedBy
          read.game.authoritativeSteps appended ∧
        (foundGame.debugIsFrozen = true → appended = []) := by
  have htrim := fun hv : foundGame.authoritativeSteps.Valid nbsWindowSize =>
    hv.keepNewest (nbsWindowSize / 3)
  simp only [readIncomingStepsAndCreateAuthoritativeSteps,
    discardAuthoritativeStepsIfBufferGettingFull_eq, lt_self_iff_false, ↓reduceIte]
  split
  · -- the ingest failed: the ring is the trimmed one
    exact ⟨htrim, rfl, [], .refl _, fun _ => rfl⟩
  split
  · -- the composer ran on the trimmed ring
    rename_i hfrozen
    obtain ⟨hv', hgame, appended, happ, -⟩ := nimbleServerComposeAuthoritativeSteps_spec
      { foundGame with authoritativeSteps := foundGame.authoritativeSteps.keepNewest (nbsWindowSize / 3) }
      (nimbleServerHandleIncomingSteps nbsWindowSize _ connections inStream transportConnection).connections
    have hnotFrozen : foundGame.debugIsFrozen = false := by simpa using hfrozen
    split <;> exact ⟨fun hv => hv' (htrim hv), hgame.trans (by simp), appended, happ,
      by simp [hnotFrozen]⟩
  · -- frozen: the ring is the trimmed one
    exact ⟨htrim, rfl, [], .refl _, fun _ => rfl⟩

theorem nimbleServerReqGameStep_game (foundGame : NimbleServerGame)
    (connections : NimbleServerParticipantConnections)
    (transportConnection : NimbleServerTransportConnection) (stat : StatsIntPerSecond)
    (inStream : FldInStream) (outStream : FldOutStream) :
    (nimbleServerReqGameStep nbsWindowSize foundGame connections transportConnection stat inStream
      outStream).game = (readIncomingStepsAndCreateAuthoritativeSteps nbsWindowSize foundGame
        connections inStream transportConnection stat).game := by
  unfold nimbleServerReqGameStep
  dsimp only
  split <;> rfl

/-- **A GameStep request only trims and appends.**  The game it leaves behind differs from the
one it found only in the ring, which is the found ring's newest `NBS_WINDOW_SIZE / 3` steps with
the composed steps after them. -/
theorem nimbleServerReqGameStep_ring (foundGame : NimbleServerGame)
    (connections : NimbleServerParticipantConnections)
    (transportConnection : NimbleServerTransportConnection) (stat : StatsIntPerSecond)
    (inStream : FldInStream) (outStream : FldOutStream) :
    let request := nimbleServerReqGameStep nbsWindowSize foundGame connections transportConnection
      stat inStream outStream
    (foundGame.authoritativeSteps.Valid nbsWindowSize →
        request.game.authoritativeSteps.Valid nbsWindowSize) ∧
      request.game = { foundGame with authoritativeSteps := request.game.authoritativeSteps } ∧
      ∃ appended, (foundGame.authoritativeSteps.keepNewest (nbsWindowSize / 3)).AppendedBy
          request.game.authoritativeSteps appended ∧
        (foundGame.debugIsFrozen = true → appended = []) := by
  simpa only [nimbleServerReqGameStep_game] using
    readIncomingStepsAndCreateAuthoritativeSteps_ring foundGame connections inStream
      transportConnection stat

end NimbleServerLib
