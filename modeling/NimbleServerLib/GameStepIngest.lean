import NimbleServerLib.Composer
import NimbleServerLib.BlobDownload
import NimbleServerLib.WellFormed
import NimbleServerLib.RingRuns

/-!
# A GameStep datagram, end to end

A client sends its predicted steps in GameStep datagrams and, until the server's StepRanges reply
shows them composed, sends them again in the next datagram together with the newer ones.  A
datagram therefore carries a window of consecutive steps that may overlap what the server already
has.  The ingest (`nimbleServerIngestSteps`, modelled from the spec) drops the steps before the
ring's next id and appends the rest.

**Retransmission is idempotent** (`nimbleServerIngestSteps_retransmitted`): when the window
starts at most `2^31` ids before the ring's next id and does not end before it, the ring gains
exactly the window's steps from its next id on, each once, with consecutive ids, and the ingest
reads the whole window.

**A GameStep datagram end to end** (`gameStep_datagram_appends_then_composes`): a GameStep
datagram fed on a transport slot whose participant connection is in the pool appends the new
steps of its window to that connection's ring, and then, unless the game is frozen, the composer
runs on exactly that pool, from the authoritative ring the backpressure trim left.

**The composer ends at the lockstep wait** (`gameStep_leaves_lockstep_wait`): its fuel always
suffices, so a GameStep that does not fail leaves the composer at a tick that waited.
-/

namespace NimbleServerLib

variable {nbsWindowSize : Nat}

/-! ## The client's side of the wire format -/

/-- The octets of predicted steps as a client writes them: each step's octet count in one octet,
then its octets. -/
def predictedStepsOctets (payloads : List (List UInt8)) : List UInt8 :=
  payloads.flatMap fun payload => UInt8.ofNat payload.length :: payload

/-- The body of a GameStep datagram as a client writes it: the id it waits for, the id of its
first predicted step, the step count, and the steps. -/
def gameStepBody (waitingForStepId firstStepId : StepId) (payloads : List (List UInt8)) :
    List UInt8 :=
  encodeBigEndian 4 waitingForStepId.toNat ++ (encodeBigEndian 4 firstStepId.toNat ++
    UInt8.ofNat payloads.length :: predictedStepsOctets payloads)

/-- The steps `payloads` make when written one after the other from the id `first`. -/
def stepsFrom (first : StepId) : List (List UInt8) → List NbsStep
  | [] => []
  | payload :: rest => ⟨first, payload⟩ :: stepsFrom (first + 1) rest

/-- How many steps of a window starting at `firstStepId` a ring whose next id is `writeId`
already holds. -/
def stepsAlreadyHeld (writeId firstStepId : StepId) : Nat :=
  (writeId - firstStepId).toNat

@[simp] theorem predictedStepsOctets_cons (payload : List UInt8) (payloads : List (List UInt8)) :
    predictedStepsOctets (payload :: payloads) =
      UInt8.ofNat payload.length :: (payload ++ predictedStepsOctets payloads) := rfl

/-! ## Step ids of a window -/

theorem stepsAlreadyHeld_succ {writeId first : StepId} (h : 0 < stepsAlreadyHeld writeId first) :
    stepsAlreadyHeld writeId (first + 1) = stepsAlreadyHeld writeId first - 1 := by
  have hw := writeId.isLt
  have hf := first.isLt
  have hone : (1 : StepId).toNat = 1 := rfl
  simp only [stepsAlreadyHeld, BitVec.toNat_sub, BitVec.toNat_add, hone] at h ⊢
  omega

theorem eq_of_stepsAlreadyHeld_eq_zero {writeId first : StepId}
    (h : stepsAlreadyHeld writeId first = 0) : first = writeId := by
  have hw := writeId.isLt
  have hf := first.isLt
  simp only [stepsAlreadyHeld, BitVec.toNat_sub] at h
  exact BitVec.eq_of_toNat_eq (by omega)

theorem stepIdIsBefore_of_stepsAlreadyHeld {writeId first : StepId}
    (hpos : 0 < stepsAlreadyHeld writeId first) (hhalf : stepsAlreadyHeld writeId first < 2 ^ 31) :
    stepIdIsBefore first writeId := by
  have hne : first ≠ writeId := by
    rintro rfl
    simp [stepsAlreadyHeld] at hpos
  simpa [stepIdIsBefore, hne] using hhalf

/-! ## One step -/

/-- A predicted step the stream holds next is read whole: its octet count, then its octets. -/
theorem fldInStreamReadPredictedStep {inStream : FldInStream} {payload rest : List UInt8}
    (hlength : payload.length < 256)
    (h : inStream.octets.drop inStream.pos = UInt8.ofNat payload.length :: (payload ++ rest)) :
    fldInStreamReadUInt8 inStream =
        .ok (UInt8.ofNat payload.length, { inStream with pos := inStream.pos + 1 }) ∧
      fldInStreamReadOctets { inStream with pos := inStream.pos + 1 }
          (UInt8.ofNat payload.length).toNat =
        .ok (payload, { inStream with pos := inStream.pos + 1 + payload.length }) := by
  have hcount : (UInt8.ofNat payload.length).toNat = payload.length := Nat.mod_eq_of_lt hlength
  have hrest := @FldInStream.drop_advance inStream [UInt8.ofNat payload.length] _ h
  refine ⟨fldInStreamReadUInt8_of_drop h, ?_⟩
  rw [hcount]
  exact fldInStreamReadOctets_of_drop (FldInStream.pos_lt_of_drop h) hrest

/-- A step at the ring's next id, small enough and with room in the ring, is appended. -/
theorem nimbleServerIngestStep_write {maxOctetCount : Nat} {incoming : IncomingSteps}
    {payload rest : List UInt8} (hlength : payload.length < 256)
    (hsize : payload.length ≤ maxOctetCount) (hroom : incoming.steps.stepsCount < nbsWindowSize)
    (h : incoming.inStream.octets.drop incoming.inStream.pos =
      UInt8.ofNat payload.length :: (payload ++ rest)) :
    ∃ steps, incoming.steps.AppendedBy steps [⟨incoming.steps.expectedWriteId, payload⟩] ∧
      nimbleServerIngestStep nbsWindowSize maxOctetCount incoming.steps.expectedWriteId incoming =
        (⟨steps, { incoming.inStream with pos := incoming.inStream.pos + 1 + payload.length },
          incoming.receivedCount + 1⟩, 0) := by
  obtain ⟨hcount, hoctets⟩ := fldInStreamReadPredictedStep hlength h
  have hwrite := (@nbsStepsWrite_eq_ok nbsWindowSize incoming.steps _ _ payload).mpr ⟨rfl, hroom, rfl⟩
  refine ⟨_, nbsStepsWrite_appendedBy hwrite, ?_⟩
  simp only [nimbleServerIngestStep, hcount, hoctets, if_neg (Nat.not_lt.mpr hsize), hwrite,
    ite_true]

/-- A step before the ring's next id, within half the id space, is read and dropped. -/
theorem nimbleServerIngestStep_before {maxOctetCount : Nat} {incoming : IncomingSteps}
    {stepId : StepId} {payload rest : List UInt8} (hlength : payload.length < 256)
    (hsize : payload.length ≤ maxOctetCount)
    (hbefore : stepIdIsBefore stepId incoming.steps.expectedWriteId)
    (h : incoming.inStream.octets.drop incoming.inStream.pos =
      UInt8.ofNat payload.length :: (payload ++ rest)) :
    nimbleServerIngestStep nbsWindowSize maxOctetCount stepId incoming =
      ({ incoming with
          inStream := { incoming.inStream with pos := incoming.inStream.pos + 1 + payload.length } },
        0) := by
  obtain ⟨hcount, hoctets⟩ := fldInStreamReadPredictedStep hlength h
  have hne : stepId ≠ incoming.steps.expectedWriteId := by
    rintro rfl
    simp [stepIdIsBefore] at hbefore
  simp only [nimbleServerIngestStep, hcount, hoctets, if_neg (Nat.not_lt.mpr hsize), if_neg hne,
    hbefore, ite_true]

/-! ## A window of steps -/

/-- **Retransmission is idempotent.**  A window of predicted steps from `firstStepId` that starts
at most `2^31` ids before the ring's next id and does not end before it appends exactly its steps
from the ring's next id on, each once and in order; the steps the ring already has are read and
dropped. -/
theorem nimbleServerIngestSteps_retransmitted {maxOctetCount : Nat} (payloads : List (List UInt8))
    {firstStepId : StepId} {incoming : IncomingSteps} {rest : List UInt8}
    (hsizes : ∀ payload ∈ payloads, payload.length ≤ maxOctetCount ∧ payload.length < 256)
    (hheld : stepsAlreadyHeld incoming.steps.expectedWriteId firstStepId ≤ payloads.length)
    (hhalf : stepsAlreadyHeld incoming.steps.expectedWriteId firstStepId < 2 ^ 31)
    (hroom : incoming.steps.stepsCount +
      (payloads.length - stepsAlreadyHeld incoming.steps.expectedWriteId firstStepId) ≤ nbsWindowSize)
    (hstream : incoming.inStream.octets.drop incoming.inStream.pos =
      predictedStepsOctets payloads ++ rest) :
    ∃ steps, incoming.steps.AppendedBy steps (stepsFrom incoming.steps.expectedWriteId
        (payloads.drop (stepsAlreadyHeld incoming.steps.expectedWriteId firstStepId))) ∧
      nimbleServerIngestSteps nbsWindowSize maxOctetCount payloads.length firstStepId incoming =
        (⟨steps, { incoming.inStream with
            pos := incoming.inStream.pos + (predictedStepsOctets payloads).length },
          incoming.receivedCount +
            (payloads.length - stepsAlreadyHeld incoming.steps.expectedWriteId firstStepId)⟩, 0) := by
  induction payloads generalizing firstStepId incoming with
  | nil =>
      refine ⟨incoming.steps, by rw [List.drop_nil]; exact .refl _, ?_⟩
      simp [nimbleServerIngestSteps, predictedStepsOctets]
  | cons payload payloads ih =>
      obtain ⟨hsize, hlength⟩ := hsizes payload (List.mem_cons_self _ _)
      have hsizes' := fun p hp => hsizes p (List.mem_cons_of_mem _ hp)
      rw [List.length_cons] at hheld hroom
      rw [predictedStepsOctets_cons, List.cons_append, List.append_assoc] at hstream
      have hnext := @FldInStream.drop_advance incoming.inStream
        (UInt8.ofNat payload.length :: payload) _ hstream
      rw [List.length_cons, Nat.add_comm payload.length 1, ← Nat.add_assoc] at hnext
      by_cases hnew : stepsAlreadyHeld incoming.steps.expectedWriteId firstStepId = 0
      · -- the window reaches the ring's next id: the step is appended
        obtain rfl := eq_of_stepsAlreadyHeld_eq_zero hnew
        rw [hnew, Nat.sub_zero] at hroom
        obtain ⟨written, hwritten, hstep⟩ :=
          @nimbleServerIngestStep_write nbsWindowSize _ _ _ _ hlength hsize (by omega) hstream
        have hheld' : stepsAlreadyHeld written.expectedWriteId (incoming.steps.expectedWriteId + 1) = 0 := by
          simp [stepsAlreadyHeld, hwritten.write_eq]
        obtain ⟨steps, happended, hsteps⟩ := @ih (incoming.steps.expectedWriteId + 1)
          ⟨written, { incoming.inStream with pos := incoming.inStream.pos + 1 + payload.length },
            incoming.receivedCount + 1⟩ hsizes' (by rw [hheld']; omega) (by rw [hheld']; omega)
          (by rw [hheld', hwritten.count_eq, List.length_singleton]; omega) hnext
        dsimp only at happended hsteps
        rw [hheld', hwritten.write_eq] at happended
        rw [hheld'] at hsteps
        refine ⟨steps, ?_, ?_⟩
        · simpa [hnew, stepsFrom] using hwritten.trans happended
        · simp only [List.length_cons, nimbleServerIngestSteps, hstep, lt_self_iff_false, if_false,
            hsteps, hnew, predictedStepsOctets_cons, List.length_append, Nat.sub_zero, Prod.mk.injEq,
            IncomingSteps.mk.injEq, FldInStream.mk.injEq, true_and, and_true]
          omega
      · -- a step the ring already has: it is read and dropped
        have hpos := Nat.pos_of_ne_zero hnew
        have hstep := @nimbleServerIngestStep_before nbsWindowSize _ _ _ _ _ hlength hsize
          (stepIdIsBefore_of_stepsAlreadyHeld hpos hhalf) hstream
        have hheld' := stepsAlreadyHeld_succ hpos
        obtain ⟨steps, happended, hsteps⟩ := @ih (firstStepId + 1)
          { incoming with inStream := { incoming.inStream with
              pos := incoming.inStream.pos + 1 + payload.length } } hsizes'
          (by simp only [hheld']; omega) (by simp only [hheld']; omega)
          (by simp only [hheld']; omega) hnext
        simp only [hheld'] at happended hsteps
        refine ⟨steps, ?_, ?_⟩
        · obtain ⟨held, hheldEq⟩ : ∃ held, stepsAlreadyHeld incoming.steps.expectedWriteId firstStepId =
              held + 1 := ⟨_, (Nat.succ_pred_eq_of_pos hpos).symm⟩
          rw [hheldEq, List.drop_succ_cons]
          simpa [hheldEq] using happended
        · simp only [List.length_cons, nimbleServerIngestSteps, hstep, lt_self_iff_false, if_false,
            hsteps, predictedStepsOctets_cons, List.length_append, Prod.mk.injEq,
            IncomingSteps.mk.injEq, FldInStream.mk.injEq, true_and, and_true]
          omega

/-! ## The GameStep body -/

/-- The ingest of a GameStep body on a slot that points at a participant connection of the pool:
the id the client waits for is read, and the window of steps is appended to that connection's
ring as `nimbleServerIngestSteps_retransmitted` says. -/
theorem nimbleServerHandleIncomingSteps_body {foundGame : NimbleServerGame}
    {connections : NimbleServerParticipantConnections} {inStream : FldInStream}
    {transportConnection : NimbleServerTransportConnection} {index : Nat}
    {participantConnection : NimbleServerParticipantConnection}
    (hassigned : transportConnection.assignedParticipantConnection = some index)
    (hconnection : connections.connections[index]? = some participantConnection)
    {waitingForStepId firstStepId : StepId} {payloads : List (List UInt8)} {rest : List UInt8}
    (hcount : payloads.length < 256)
    (hsizes : ∀ payload ∈ payloads, payload.length ≤ foundGame.maxSingleParticipantStepOctetCount *
      participantConnection.participantReferences.length ∧ payload.length < 256)
    (hheld : stepsAlreadyHeld participantConnection.steps.expectedWriteId firstStepId ≤ payloads.length)
    (hhalf : stepsAlreadyHeld participantConnection.steps.expectedWriteId firstStepId < 2 ^ 31)
    (hroom : participantConnection.steps.stepsCount + (payloads.length -
      stepsAlreadyHeld participantConnection.steps.expectedWriteId firstStepId) ≤ nbsWindowSize)
    (hstream : inStream.octets.drop inStream.pos =
      gameStepBody waitingForStepId firstStepId payloads ++ rest) :
    ∃ steps, participantConnection.steps.AppendedBy steps
        (stepsFrom participantConnection.steps.expectedWriteId
          (payloads.drop (stepsAlreadyHeld participantConnection.steps.expectedWriteId firstStepId))) ∧
      nimbleServerHandleIncomingSteps nbsWindowSize foundGame connections inStream transportConnection =
        ⟨connections.modify index ({ · with steps := steps }),
          { inStream with pos := inStream.pos + (gameStepBody waitingForStepId firstStepId payloads).length },
          waitingForStepId,
          ↑(payloads.length - stepsAlreadyHeld participantConnection.steps.expectedWriteId firstStepId)⟩ := by
  simp only [gameStepBody, List.append_assoc, List.cons_append] at hstream
  have h4 := FldInStream.drop_advance hstream
  rw [encodeBigEndian_length] at h4
  have h8 := @FldInStream.drop_advance ⟨inStream.octets, inStream.pos + 4⟩ _ _ h4
  rw [encodeBigEndian_length] at h8
  have h9 := @FldInStream.drop_advance ⟨inStream.octets, inStream.pos + 4 + 4⟩
    [UInt8.ofNat payloads.length] _ h8
  have hwaiting := fldInStreamReadUInt32_of_drop hstream
  have hfirst := @fldInStreamReadUInt32_of_drop ⟨inStream.octets, inStream.pos + 4⟩ _ _ h4
  have hcountRead := @fldInStreamReadUInt8_of_drop ⟨inStream.octets, inStream.pos + 4 + 4⟩ _ _ h8
  have hcountNat : (UInt8.ofNat payloads.length).toNat = payloads.length := Nat.mod_eq_of_lt hcount
  obtain ⟨steps, happended, hingest⟩ := @nimbleServerIngestSteps_retransmitted nbsWindowSize _ payloads
    firstStepId ⟨participantConnection.steps, ⟨inStream.octets, inStream.pos + 4 + 4 + 1⟩, 0⟩ rest
    hsizes hheld hhalf hroom h9
  refine ⟨steps, happended, ?_⟩
  simp only [nimbleServerHandleIncomingSteps, hassigned, List.get?_eq_getElem?, hconnection, hwaiting,
    hfirst, hcountRead, hcountNat, hingest, lt_self_iff_false, if_false, Nat.zero_add, gameStepBody,
    List.length_append, encodeBigEndian_length, List.length_cons, HandleIncomingStepsResult.mk.injEq,
    FldInStream.mk.injEq, true_and, and_true]
  omega

/-- The trim, the ingest of a GameStep body, and the composer unless the game is frozen. -/
theorem readIncomingStepsAndCreateAuthoritativeSteps_body {foundGame : NimbleServerGame}
    {connections : NimbleServerParticipantConnections} {inStream : FldInStream}
    {transportConnection : NimbleServerTransportConnection} (stat : StatsIntPerSecond) {index : Nat}
    {participantConnection : NimbleServerParticipantConnection}
    (hassigned : transportConnection.assignedParticipantConnection = some index)
    (hconnection : connections.connections[index]? = some participantConnection)
    {waitingForStepId firstStepId : StepId} {payloads : List (List UInt8)} {rest : List UInt8}
    (hcount : payloads.length < 256)
    (hsizes : ∀ payload ∈ payloads, payload.length ≤ foundGame.maxSingleParticipantStepOctetCount *
      participantConnection.participantReferences.length ∧ payload.length < 256)
    (hheld : stepsAlreadyHeld participantConnection.steps.expectedWriteId firstStepId ≤ payloads.length)
    (hhalf : stepsAlreadyHeld participantConnection.steps.expectedWriteId firstStepId < 2 ^ 31)
    (hroom : participantConnection.steps.stepsCount + (payloads.length -
      stepsAlreadyHeld participantConnection.steps.expectedWriteId firstStepId) ≤ nbsWindowSize)
    (hstream : inStream.octets.drop inStream.pos =
      gameStepBody waitingForStepId firstStepId payloads ++ rest) :
    ∃ steps, participantConnection.steps.AppendedBy steps
        (stepsFrom participantConnection.steps.expectedWriteId
          (payloads.drop (stepsAlreadyHeld participantConnection.steps.expectedWriteId firstStepId))) ∧
      (foundGame.debugIsFrozen = true →
        (readIncomingStepsAndCreateAuthoritativeSteps nbsWindowSize foundGame connections inStream
            transportConnection stat).game =
          { foundGame with
            authoritativeSteps := foundGame.authoritativeSteps.keepNewest (nbsWindowSize / 3) } ∧
        (readIncomingStepsAndCreateAuthoritativeSteps nbsWindowSize foundGame connections inStream
            transportConnection stat).connections = connections.modify index ({ · with steps := steps })) ∧
      (foundGame.debugIsFrozen = false →
        (readIncomingStepsAndCreateAuthoritativeSteps nbsWindowSize foundGame connections inStream
            transportConnection stat).game =
          (nimbleServerComposeAuthoritativeSteps nbsWindowSize
            { foundGame with
              authoritativeSteps := foundGame.authoritativeSteps.keepNewest (nbsWindowSize / 3) }
            (connections.modify index ({ · with steps := steps }))).1 ∧
        (readIncomingStepsAndCreateAuthoritativeSteps nbsWindowSize foundGame connections inStream
            transportConnection stat).connections =
          (nimbleServerComposeAuthoritativeSteps nbsWindowSize
            { foundGame with
              authoritativeSteps := foundGame.authoritativeSteps.keepNewest (nbsWindowSize / 3) }
            (connections.modify index ({ · with steps := steps }))).2.1) := by
  obtain ⟨steps, happended, hreceived⟩ := @nimbleServerHandleIncomingSteps_body nbsWindowSize
    { foundGame with
      authoritativeSteps := foundGame.authoritativeSteps.keepNewest (nbsWindowSize / 3) }
    connections inStream transportConnection index participantConnection hassigned hconnection
    waitingForStepId firstStepId payloads rest hcount hsizes hheld hhalf hroom hstream
  refine ⟨steps, happended, ?_⟩
  unfold readIncomingStepsAndCreateAuthoritativeSteps nimbleServerComposeAuthoritativeSteps
  rw [discardAuthoritativeStepsIfBufferGettingFull_eq]
  have hresult : ¬((↑(payloads.length -
      stepsAlreadyHeld participantConnection.steps.expectedWriteId firstStepId) : Int) < 0) := by omega
  simp only [lt_self_iff_false, if_false, hreceived, if_neg hresult]
  cases hfrozen : foundGame.debugIsFrozen
  · refine ⟨nofun, fun _ => ?_⟩
    simp only [Bool.not_false, if_true]
    split <;> exact ⟨rfl, rfl⟩
  · exact ⟨fun _ => ⟨rfl, rfl⟩, nofun⟩

/-! ## The datagram -/

section Feed

variable {context : NimbleServerFeedContext} {self : NimbleServer} {connectionIndex : UInt8}
  {response : DatagramTransportOut} {fed : NimbleServerFeedResult} {slot : TransportSlot}

/-- **A GameStep datagram, end to end.**  A GameStep datagram fed on a transport slot that points
at a participant connection of the pool, carrying a window of predicted steps that starts at most
`2^31` ids before the connection's next id, does not end before it and fits its ring, appends the
window's new steps to that connection's ring, each once and in order.  Then, from the
authoritative ring the backpressure trim left, a frozen game stops there; any other runs the
composer on exactly the pool the ingest left. -/
theorem gameStep_datagram_appends_then_composes (hslot : slot.val = connectionIndex.toNat)
    {header : List UInt8} (hheader : header.length = 2) {index : Nat}
    {participantConnection : NimbleServerParticipantConnection}
    (hassigned : (self.transportConnections slot).assignedParticipantConnection = some index)
    (hconnection : self.connections.connections[index]? = some participantConnection)
    {waitingForStepId firstStepId : StepId} {payloads : List (List UInt8)}
    (hcount : payloads.length < 256)
    (hsizes : ∀ payload ∈ payloads, payload.length ≤ self.game.maxSingleParticipantStepOctetCount *
      participantConnection.participantReferences.length ∧ payload.length < 256)
    (hheld : stepsAlreadyHeld participantConnection.steps.expectedWriteId firstStepId ≤ payloads.length)
    (hhalf : stepsAlreadyHeld participantConnection.steps.expectedWriteId firstStepId < 2 ^ 31)
    (hroom : participantConnection.steps.stepsCount + (payloads.length -
      stepsAlreadyHeld participantConnection.steps.expectedWriteId firstStepId) ≤ nbsWindowSize)
    (h : nimbleServerFeed nbsWindowSize context self connectionIndex
      (header ++ nimbleSerializeCmdGameStep :: gameStepBody waitingForStepId firstStepId payloads)
      response = .ok fed) :
    ∃ steps, participantConnection.steps.AppendedBy steps
        (stepsFrom participantConnection.steps.expectedWriteId
          (payloads.drop (stepsAlreadyHeld participantConnection.steps.expectedWriteId firstStepId))) ∧
      (self.game.debugIsFrozen = true →
        fed.server.game = { self.game with
          authoritativeSteps := self.game.authoritativeSteps.keepNewest (nbsWindowSize / 3) } ∧
        fed.server.connections = self.connections.modify index ({ · with steps := steps })) ∧
      (self.game.debugIsFrozen = false →
        fed.server.game = (nimbleServerComposeAuthoritativeSteps nbsWindowSize
          { self.game with
            authoritativeSteps := self.game.authoritativeSteps.keepNewest (nbsWindowSize / 3) }
          (self.connections.modify index ({ · with steps := steps }))).1 ∧
        fed.server.connections = (nimbleServerComposeAuthoritativeSteps nbsWindowSize
          { self.game with
            authoritativeSteps := self.game.authoritativeSteps.keepNewest (nbsWindowSize / 3) }
          (self.connections.modify index ({ · with steps := steps }))).2.1) := by
  rw [nimbleServerFeed_gameStep_eq hslot hheader h, nimbleServerFeedReply_game,
    (nimbleServerFeedReply_pool _ _ _ _).1, nimbleServerReqGameStep_game,
    nimbleServerReqGameStep_connections]
  exact @readIncomingStepsAndCreateAuthoritativeSteps_body nbsWindowSize _ _ _ _ _ _ _ hassigned
    hconnection _ _ _ [] hcount hsizes hheld hhalf hroom
    ((feedInStream_drop hheader _ _).trans (List.append_nil _).symm)

/-- A GameStep request that does not fail, in a game that is not frozen, leaves the composer at a
tick that waits. -/
theorem nimbleServerReqGameStep_waits (foundGame : NimbleServerGame)
    (connections : NimbleServerParticipantConnections)
    (transportConnection : NimbleServerTransportConnection) (stat : StatsIntPerSecond)
    (inStream : FldInStream) (outStream : FldOutStream)
    (hv : foundGame.authoritativeSteps.Valid nbsWindowSize)
    (hfrozen : foundGame.debugIsFrozen = false)
    (hresult : 0 ≤ (nimbleServerReqGameStep nbsWindowSize foundGame connections transportConnection
      stat inStream outStream).result) :
    ∃ waiting, nimbleServerComposeTick nbsWindowSize
      (nimbleServerReqGameStep nbsWindowSize foundGame connections transportConnection stat inStream
        outStream).game waiting =
      .wait (nimbleServerReqGameStep nbsWindowSize foundGame connections transportConnection stat
        inStream outStream).connections := by
  rw [nimbleServerReqGameStep_game, nimbleServerReqGameStep_connections]
  refine readIncomingStepsAndCreateAuthoritativeSteps_waits _ _ _ _ _ hv hfrozen ?_
  revert hresult
  unfold nimbleServerReqGameStep
  dsimp only
  split_ifs with hfailed
  · exact id
  · exact fun _ => not_lt.mp hfailed

/-- A feed whose reply step did not fail had a request that did not fail. -/
theorem nimbleServerFeedReply_result_nonneg {slot : TransportSlot} {request : NimbleServerReqResult}
    (h : 0 ≤ (nimbleServerFeedReply self slot request response).result) : 0 ≤ request.result := by
  unfold nimbleServerFeedReply at h
  dsimp only at h
  split_ifs at h with hfailed <;> dsimp only at h <;> omega

/-- **A GameStep ends at the lockstep wait.**  The composer's fuel always suffices: a GameStep
datagram fed on a slot of a server whose authoritative ring is well formed and whose game is not
frozen, when the feed does not fail, leaves the composer at a tick that waited, because no
participant connection in use had a predicted step for the next authoritative tick or a
responsive one had none. -/
theorem gameStep_leaves_lockstep_wait (hslot : slot.val = connectionIndex.toNat)
    {header : List UInt8} (hheader : header.length = 2) {body : List UInt8}
    (hv : self.game.authoritativeSteps.Valid nbsWindowSize)
    (hfrozen : self.game.debugIsFrozen = false)
    (h : nimbleServerFeed nbsWindowSize context self connectionIndex
      (header ++ nimbleSerializeCmdGameStep :: body) response = .ok fed)
    (hresult : 0 ≤ fed.result) :
    ∃ waiting, nimbleServerComposeTick nbsWindowSize fed.server.game waiting =
        .wait fed.server.connections ∧
      ((∀ connection ∈ waiting.active, nbdParticipantConnectionStepFor connection
          fed.server.game.authoritativeSteps.expectedWriteId = none) ∨
        ∃ connection ∈ waiting.active, nbdParticipantConnectionIsResponsive connection ∧
          nbdParticipantConnectionStepFor connection
            fed.server.game.authoritativeSteps.expectedWriteId = none) := by
  rw [nimbleServerFeed_gameStep_eq hslot hheader h] at hresult ⊢
  rw [nimbleServerFeedReply_game, (nimbleServerFeedReply_pool _ _ _ _).1]
  obtain ⟨waiting, hwait⟩ := nimbleServerReqGameStep_waits _ _ _ _ _ _ hv hfrozen
    (nimbleServerFeedReply_result_nonneg hresult)
  exact ⟨waiting, hwait, nimbleServerComposeTick_waits_iff.mp ⟨_, hwait⟩⟩

end Feed

/-- Slot 0 joined with one local participant on a server whose ring starts at step 0; the client
then sends its first two predicted steps, `[7]` and `[8]`, from step id 0. -/
theorem joined_client_first_gameStep :
    ∃ self fed participantConnection,
      nimbleServerRun 90 [.reInitWithGame [0xAA] 0 0, .connectionConnected 0,
          .feed ⟨false, false, 0⟩ 0 [0, 0, 1, 1, 0] ⟨fun octets => octets.length⟩]
        (nimbleServerInit NimbleServer.zeroed ⟨2, 4, 2, 4, 100, 0⟩).1 = some self ∧
      self.connections.connections[0]? = some participantConnection ∧
      nimbleServerFeed 90 ⟨false, false, 0⟩ self 0
          ([0, 1] ++ nimbleSerializeCmdGameStep :: gameStepBody 0 0 [[7], [8]])
          ⟨fun octets => octets.length⟩ = .ok fed ∧
      ∃ steps, participantConnection.steps.AppendedBy steps
          (stepsFrom participantConnection.steps.expectedWriteId
            ([[7], [8]].drop (stepsAlreadyHeld participantConnection.steps.expectedWriteId 0))) ∧
        (self.game.debugIsFrozen = true →
          fed.server.game = { self.game with
            authoritativeSteps := self.game.authoritativeSteps.keepNewest (90 / 3) } ∧
          fed.server.connections = self.connections.modify 0 ({ · with steps := steps })) ∧
        (self.game.debugIsFrozen = false →
          fed.server.game = (nimbleServerComposeAuthoritativeSteps 90
            { self.game with authoritativeSteps := self.game.authoritativeSteps.keepNewest (90 / 3) }
            (self.connections.modify 0 ({ · with steps := steps }))).1 ∧
          fed.server.connections = (nimbleServerComposeAuthoritativeSteps 90
            { self.game with authoritativeSteps := self.game.authoritativeSteps.keepNewest (90 / 3) }
            (self.connections.modify 0 ({ · with steps := steps }))).2.1) :=
  ⟨_, _, _, rfl, rfl, rfl, @gameStep_datagram_appends_then_composes 90 ⟨false, false, 0⟩ _ 0
    ⟨fun octets => octets.length⟩ _ 0 rfl [0, 1] rfl 0 _ (by exact rfl) (by exact rfl) 0 0 [[7], [8]]
    (by decide) (by decide) (by decide) (by decide) (by decide) (by exact rfl)⟩

end NimbleServerLib
