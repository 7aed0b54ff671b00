import NimbleServerLib.AuthoritativeRing

/-!
# The composer's lockstep wait

`readIncomingStepsAndCreateAuthoritativeSteps` (`req_step.c`) ends with the composer
`nimbleServerComposeAuthoritativeSteps`, which turns predicted steps into authoritative ones.  A
tick composes when some participant connection in use has its step for the tick and every
responsive one does; the steps of connections that went more than the threshold of ticks without
one are forced.  `nimbleServerComposeLoop_drained` (with the definitions) says what the composer
leaves of the pool: every connection in place, some of its oldest steps taken out.

**When a tick waits** (`nimbleServerComposeTick_waits_iff`): exactly when no connection in use has
its step for the tick, or a responsive one in use has none.

**The composer stops at the lockstep wait** (`readIncomingStepsAndCreateAuthoritativeSteps_waits`):
unless a write fails, the composer ends at a tick that waits.  Its fuel, `NBS_WINDOW_SIZE + 1`
ticks, always suffices: every tick it composes fills one more slot of a ring that holds at most
the window.
-/

namespace NimbleServerLib

variable {nbsWindowSize : Nat}

/-- The participant connections in use, in pool order: the ones a tick looks at. -/
def NimbleServerParticipantConnections.active (pool : NimbleServerParticipantConnections) :
    List NimbleServerParticipantConnection :=
  pool.connections.filter (·.isUsed)

/-! ## The lockstep wait -/

/-- A tick waits exactly when no participant connection in use has its step for the tick at the
authoritative write id, or a responsive one in use has none. -/
theorem nimbleServerComposeTick_waits_iff {game : NimbleServerGame}
    {connections : NimbleServerParticipantConnections} :
    (∃ waited, nimbleServerComposeTick nbsWindowSize game connections = .wait waited) ↔
      (∀ connection ∈ connections.active,
        nbdParticipantConnectionStepFor connection game.authoritativeSteps.expectedWriteId = none) ∨
      ∃ connection ∈ connections.active, nbdParticipantConnectionIsResponsive connection ∧
        nbdParticipantConnectionStepFor connection game.authoritativeSteps.expectedWriteId = none := by
  unfold nimbleServerComposeTick
  dsimp only
  split
  case isTrue hnone =>
    refine iff_of_true ⟨_, rfl⟩ (.inl fun connection hmem => ?_)
    simp only [Bool.not_eq_true', List.any_eq_false] at hnone
    exact Option.not_isSome_iff_eq_none.mp (hnone connection hmem)
  split
  case isTrue hheld =>
    refine iff_of_true ⟨_, rfl⟩ (.inr ?_)
    simp only [Bool.not_eq_true', List.all_eq_false, Bool.or_eq_true, not_or,
      Bool.not_eq_false] at hheld
    obtain ⟨connection, hmem, hnone, hresponsive⟩ := hheld
    exact ⟨connection, hmem, hresponsive, Option.not_isSome_iff_eq_none.mp hnone⟩
  case isFalse hsome hgo =>
    refine iff_of_false (by rintro ⟨_, h⟩; split at h <;> cases h) ?_
    simp only [Bool.not_eq_true', List.any_eq_false, List.all_eq_false] at hsome hgo
    rintro (hnone | ⟨connection, hmem, hresponsive, hnone⟩)
    · exact hsome fun connection hmem => by rw [hnone connection hmem]; decide
    · exact hgo ⟨connection, hmem, by rw [hnone, hresponsive]; decide⟩

/-- The composer runs until a tick waits or a write fails: each tick it composes fills one more
slot of the ring, which holds at most the window, so fuel past the free slots always reaches one
of the two. -/
theorem nimbleServerComposeLoop_waits {fuel : Nat} {game game' : NimbleServerGame}
    {connections connections' : NimbleServerParticipantConnections} {count : Nat} {result : Int}
    (h : nimbleServerComposeLoop nbsWindowSize fuel game connections count =
      (game', connections', result))
    (hcount : game.authoritativeSteps.stepsCount ≤ nbsWindowSize)
    (hfuel : nbsWindowSize < game.authoritativeSteps.stepsCount + fuel) (hresult : 0 ≤ result) :
    ∃ waiting, nimbleServerComposeTick nbsWindowSize game' waiting = .wait connections' := by
  induction fuel generalizing game connections count with
  | zero => omega
  | succ fuel ih =>
    simp only [nimbleServerComposeLoop] at h
    split at h
    case h_1 htick =>
      cases h
      exact ⟨_, htick⟩
    case h_2 err htick =>
      cases h
      exact absurd hresult (by simpa using nimbleServerComposeTick_failed htick)
    case h_3 game'' connections'' htick =>
      obtain ⟨payload, hwrite, -⟩ := nimbleServerComposeTick_composed htick
      obtain ⟨-, hroom, hafter⟩ := nbsStepsWrite_eq_ok.mp hwrite
      have hgrown : game''.authoritativeSteps.stepsCount = game.authoritativeSteps.stepsCount + 1 := by
        rw [hafter]
      exact ih h (by omega) (by omega)

/-- An ingest and compose that does not fail, in a game that is not frozen, leaves the composer
at a tick that waited. -/
theorem readIncomingStepsAndCreateAuthoritativeSteps_waits (foundGame : NimbleServerGame)
    (connections : NimbleServerParticipantConnections) (inStream : FldInStream)
    (transportConnection : NimbleServerTransportConnection) (stat : StatsIntPerSecond)
    (hv : foundGame.authoritativeSteps.Valid nbsWindowSize)
    (hfrozen : foundGame.debugIsFrozen = false) :
    0 ≤ (readIncomingStepsAndCreateAuthoritativeSteps nbsWindowSize foundGame connections inStream
      transportConnection stat).result →
    ∃ waiting, nimbleServerComposeTick nbsWindowSize
      (readIncomingStepsAndCreateAuthoritativeSteps nbsWindowSize foundGame connections inStream
        transportConnection stat).game waiting =
      .wait (readIncomingStepsAndCreateAuthoritativeSteps nbsWindowSize foundGame connections inStream
        transportConnection stat).connections := by
  simp only [readIncomingStepsAndCreateAuthoritativeSteps,
    discardAuthoritativeStepsIfBufferGettingFull_eq, lt_self_iff_false, ↓reduceIte, hfrozen,
    Bool.not_false, nimbleServerComposeAuthoritativeSteps]
  split
  case isTrue hfailed => exact fun h => absurd h (by dsimp only; omega)
  case isFalse =>
    generalize hcomposed : nimbleServerComposeLoop _ _ _ _ _ = composed
    obtain ⟨game', connections', advanceCount⟩ := composed
    have hwait := fun hresult => nimbleServerComposeLoop_waits hcomposed
      (hv.keepNewest (nbsWindowSize / 3)).count_le (by omega) hresult
    split <;> exact hwait

end NimbleServerLib
