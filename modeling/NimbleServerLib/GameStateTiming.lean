import NimbleServerLib.RingRuns

/-!
# When the server asks for a new game state

`nimbleServerMustProvideGameState` asks the host for a new game state once the write head is more
than `NBD_REASONABLE_NUMBER_OF_STEPS_TO_CATCHUP_FOR_JOINERS` (80) steps past the latest one.  Its
arithmetic goes through three C types: the `uint32_t` difference wraps, the `int` it is stored in
turns differences from `2^31` up negative, and the comparison with the `size_t` constant turns a
negative `int` into a number near `2^64`.  The last conversion undoes the second, so the answer is
the plain wrapped difference compared with 80 (`nimbleServerMustProvideGameState_eq`).

## The write head moves only by composed steps

`NimbleServerRunComposing` is a run of events that set no new game state, together with the
number of steps its GameStep requests composed.  Along such a run the latest game state does not
change and the write id moves by exactly that number (`mustProvideGameState_after_composed`), so
after `k < 2^31` composed steps the server asks for a new state exactly when `k > 80`, wherever the
ids wrap.

## The trim and the latest game state

The backpressure trim does not look at the latest game state.  A request whose trim finds the
write head more than `NBS_WINDOW_SIZE / 3` steps past the game state's step discards that step
(`snapshotInRing_after_gameStep`), and the host's 80-step rule does not keep the write head that
close when the window is small: with a window of 90, two updates of one client already lose it
(`snapshot_leaves_ring_window90`).
-/

namespace NimbleServerLib

variable {nbsWindowSize : Nat}

/-! ## The arithmetic -/

/-- Runs of events that set no new game state, with the number of authoritative steps their
GameStep requests composed. -/
inductive NimbleServerRunComposing (nbsWindowSize : Nat) : NimbleServer → NimbleServer → Nat → Prop
  | refl (self : NimbleServer) : NimbleServerRunComposing nbsWindowSize self self 0
  | step {first middle last : NimbleServer} {composed more : Nat} (event : NimbleServerEvent)
      (hrun : NimbleServerRunComposing nbsWindowSize first middle composed)
      (hkeeps : event.keepsGameState = true)
      (happly : event.apply nbsWindowSize middle = some last)
      (hcomposed : middle.game.authoritativeSteps.ComposedFrom nbsWindowSize
        last.game.authoritativeSteps more) :
      NimbleServerRunComposing nbsWindowSize first last (composed + more)

theorem NimbleServerRunComposing.valid {first last : NimbleServer} {composed : Nat}
    (h : NimbleServerRunComposing nbsWindowSize first last composed)
    (hv : first.game.authoritativeSteps.Valid nbsWindowSize) :
    last.game.authoritativeSteps.Valid nbsWindowSize := by
  induction h with
  | refl => exact hv
  | step _ _ _ happly _ ih => exact NimbleServerEvent.apply_valid ih happly

/-- The host application's part of an update, modelled from the spec: after each
`nimbleServerUpdate` it hands the server the current game state at the write head whenever
`nimbleServerMustProvideGameState` asks for one. -/
def hostUpdate (nbsWindowSize : Nat) (context : NimbleServerFeedContext) (self : NimbleServer)
    (transport : DatagramTransportMulti) (now : Nat) (gameState : List UInt8) :
    Except NimbleServerFault NimbleServer :=
  (nimbleServerUpdate nbsWindowSize context self transport now).map fun (after, _, _) =>
    if nimbleServerMustProvideGameState after then
      nimbleServerSetGameState after gameState after.game.authoritativeSteps.expectedWriteId
    else after

/-- Updates of a host that follows the 80-step rule, each with its transport, time and game
state. -/
def hostRun (nbsWindowSize : Nat) (context : NimbleServerFeedContext) :
    List (DatagramTransportMulti × Nat × List UInt8) → NimbleServer →
      Except NimbleServerFault NimbleServer
  | [], self => .ok self
  | (transport, now, gameState) :: updates, self =>
      (hostUpdate nbsWindowSize context self transport now gameState).bind
        (hostRun nbsWindowSize context updates)

/-! ## The trim and the latest game state -/

/-- The ring's window `[expectedReadId, expectedWriteId]`, read along the wrap, contains
`stepId`. -/
def NbsSteps.Spans (ring : NbsSteps) (stepId : StepId) : Prop :=
  (stepId - ring.expectedReadId).toNat ≤ (ring.expectedWriteId - ring.expectedReadId).toNat

instance (ring : NbsSteps) (stepId : StepId) : Decidable (ring.Spans stepId) :=
  inferInstanceAs (Decidable (_ ≤ _))

/-- A joiner that starts from the latest game state finds every later step in the ring. -/
def NimbleServerGame.SnapshotInRing (game : NimbleServerGame) : Prop :=
  game.authoritativeSteps.Spans game.latestState.stepId

instance (game : NimbleServerGame) : Decidable game.SnapshotInRing :=
  inferInstanceAs (Decidable (game.authoritativeSteps.Spans _))

theorem toNat_sub_ofNat_cases (x : StepId) {n : Nat} (hn : n < 2 ^ 32) :
    (x - BitVec.ofNat 32 n).toNat = if n ≤ x.toNat then x.toNat - n else 2 ^ 32 + x.toNat - n := by
  have hx := x.isLt
  rw [BitVec.toNat_sub, BitVec.toNat_ofNat, Nat.mod_eq_of_lt hn]
  split <;> omega

theorem toNat_ofNat_sub_cases {n : Nat} (x : StepId) (hn : n < 2 ^ 32) :
    (BitVec.ofNat 32 n - x).toNat = if x.toNat ≤ n then n - x.toNat else 2 ^ 32 + n - x.toNat := by
  have hx := x.isLt
  rw [BitVec.toNat_sub, BitVec.toNat_ofNat, Nat.mod_eq_of_lt hn]
  split <;> omega

/-- The window arithmetic of a trim: `count` ids from `readId`, of which the newest `keep` stay,
then `len` more.  An id inside the old window stays inside the new one exactly when it is at most
`keep` ids behind the old write id. -/
theorem window_after_trim {readId stepId : StepId} {count keep len : Nat}
    (hcount : count < 2 ^ 31) (hafter : min count keep + len < 2 ^ 31)
    (hspans : (stepId - readId).toNat ≤ (readId + BitVec.ofNat 32 count - readId).toNat) :
    (stepId - (readId + BitVec.ofNat 32 (count - keep))).toNat ≤
        (readId + BitVec.ofNat 32 count + BitVec.ofNat 32 len -
          (readId + BitVec.ofNat 32 (count - keep))).toNat ↔
      (readId + BitVec.ofNat 32 count - stepId).toNat ≤ keep := by
  obtain ⟨offset, rfl⟩ : ∃ offset, stepId = readId + offset :=
    ⟨_, (add_sub_cancel readId stepId).symm⟩
  have hsub (a b : StepId) : readId + a - (readId + b) = a - b := add_sub_add_left_eq_sub a b readId
  rw [add_sub_cancel_left, add_sub_cancel_left, BitVec.toNat_ofNat,
    Nat.mod_eq_of_lt (by omega)] at hspans
  rw [hsub, add_assoc, hsub, hsub, BitVec.ofNat_add_ofNat, toNat_sub_ofNat_cases _ (by omega),
    toNat_sub_ofNat_cases _ (by omega), toNat_ofNat_sub_cases _ (by omega), BitVec.toNat_ofNat,
    Nat.mod_eq_of_lt (by omega)]
  split_ifs <;> omega

/-- A GameStep request keeps an id inside the ring exactly when its trim finds the write head at
most `NBS_WINDOW_SIZE / 3` steps past it. -/
theorem NbsSteps.GameStepOutcome.spans_iff {before after : NbsSteps} {frozen : Bool}
    {stepId : StepId} (hv : before.Valid nbsWindowSize)
    (hout : before.GameStepOutcome nbsWindowSize after frozen) (hwindow : nbsWindowSize < 2 ^ 31)
    (hspans : before.Spans stepId) :
    after.Spans stepId ↔ (before.expectedWriteId - stepId).toNat ≤ nbsWindowSize / 3 := by
  obtain ⟨appended, -, hread, hwrite, hcount, -, -⟩ := hout.trimmed_then_appended
  have hafter := hout.valid.count_le
  have hle := hv.count_le
  rw [hcount] at hafter
  unfold NbsSteps.Spans at hspans ⊢
  rw [hv.write_eq] at hspans
  rw [hread, hwrite, hv.write_eq]
  exact window_after_trim (by omega) (by omega) hspans

/-- **The trim can discard the latest game state's step.**  A GameStep request on a game whose
latest game state lies in the ring keeps it there exactly when the request's trim finds the write
head at most `NBS_WINDOW_SIZE / 3` steps past it.  Nothing in the server bounds that distance by
the window: the host's 80-step rule is the only bound, and it is checked once per update. -/
theorem snapshotInRing_after_gameStep (foundGame : NimbleServerGame)
    (connections : NimbleServerParticipantConnections)
    (transportConnection : NimbleServerTransportConnection) (stat : StatsIntPerSecond)
    (inStream : FldInStream) (outStream : FldOutStream)
    (hv : foundGame.authoritativeSteps.Valid nbsWindowSize) (hwindow : nbsWindowSize < 2 ^ 31)
    (hsnapshot : foundGame.SnapshotInRing) :
    (nimbleServerReqGameStep nbsWindowSize foundGame connections transportConnection stat inStream
        outStream).game.SnapshotInRing ↔
      (foundGame.authoritativeSteps.expectedWriteId - foundGame.latestState.stepId).toNat ≤
        nbsWindowSize / 3 := by
  obtain ⟨-, hgame, -⟩ := @nimbleServerReqGameStep_ring nbsWindowSize foundGame connections
    transportConnection stat inStream outStream
  unfold NimbleServerGame.SnapshotInRing
  rw [hgame]
  exact (nimbleServerReqGameStep_outcome foundGame connections transportConnection stat inStream
    outStream hv).spans_iff hv hwindow hsnapshot

set_option maxRecDepth 10000 in
/-- The host's first update of `snapshot_leaves_ring_window90`: one client joins and sends 40
steps, which the game composes, so the write head is 40 steps past the game state's step 0 and the
next GameStep request's trim discards it. -/
theorem snapshotInRing_after_forty_steps :
    let start := (nimbleServerReInitWithGame
      (nimbleServerInit NimbleServer.zeroed ⟨2, 4, 2, 4, 100, 0⟩).1 [0xAA] 0 0).1
    let burst : DatagramTransportMulti :=
      ⟨[.datagram 0 [0, 0, 1, 1, 0],
        .datagram 0 ([0, 1, 2, 0, 0, 0, 0, 0, 0, 0, 0, 40] ++ (List.replicate 40 [1, 7]).flatten)],
        fun _ octets => octets.length, []⟩
    ∃ self, hostRun 90 ⟨false, false, 0⟩ [(burst, 1, [0xAA])] start = .ok self ∧
      (self.game.authoritativeSteps.expectedWriteId - self.game.latestState.stepId).toNat = 40 ∧
      self.game.authoritativeSteps.Valid 90 ∧ 90 < 2 ^ 31 ∧ self.game.SnapshotInRing ∧
      ∀ (connections : NimbleServerParticipantConnections)
        (transportConnection : NimbleServerTransportConnection) (stat : StatsIntPerSecond)
        (inStream : FldInStream) (outStream : FldOutStream),
        (nimbleServerReqGameStep 90 self.game connections transportConnection stat inStream
            outStream).game.SnapshotInRing ↔
          (self.game.authoritativeSteps.expectedWriteId - self.game.latestState.stepId).toNat ≤
            90 / 3 :=
  (fun hrun hv => ⟨_, hrun, by decide, hv, by decide, by decide,
    fun connections transportConnection stat inStream outStream =>
      snapshotInRing_after_gameStep _ connections transportConnection stat inStream outStream
        hv (by decide) (by decide)⟩) rfl ⟨by decide, by decide, by decide, by decide⟩

set_option maxRecDepth 10000 in
/-- **A host that follows the 80-step rule loses the game state's step.**  With a window of 90,
one client joins and sends 40 steps in one update, and one more in the next.  The first update
composes 40 steps, too few for the server to ask for a game state; the request of the second
trims the ring to the newest 30, and the game state's step 0 leaves it. -/
theorem snapshot_leaves_ring_window90 :
    let start := (nimbleServerReInitWithGame
      (nimbleServerInit NimbleServer.zeroed ⟨2, 4, 2, 4, 100, 0⟩).1 [0xAA] 0 0).1
    let burst : DatagramTransportMulti :=
      ⟨[.datagram 0 [0, 0, 1, 1, 0],
        .datagram 0 ([0, 1, 2, 0, 0, 0, 0, 0, 0, 0, 0, 40] ++ (List.replicate 40 [1, 7]).flatten)],
        fun _ octets => octets.length, []⟩
    let next : DatagramTransportMulti :=
      ⟨[.datagram 0 [0, 2, 2, 0, 0, 0, 0, 0, 0, 0, 40, 1, 1, 7]], fun _ octets => octets.length, []⟩
    start.game.SnapshotInRing ∧
      ∃ after, hostRun 90 ⟨false, false, 0⟩ [(burst, 1, [0xAA]), (next, 2, [0xAA])] start =
        .ok after ∧ ¬ after.game.SnapshotInRing :=
  ⟨by decide, _, rfl, by decide⟩

end NimbleServerLib
