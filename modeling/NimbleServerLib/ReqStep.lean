import Mathlib.Data.List.Sort
import NimbleServerLib.Game

/-!
# The GameStep request

`nimbleServerReqGameStep` (`req_step.c`) handles a client's predicted steps in three stages, and
`readIncomingStepsAndCreateAuthoritativeSteps` fixes their order:

1. the backpressure trim `discardAuthoritativeStepsIfBufferGettingFull`, which keeps at most
   `NBS_WINDOW_SIZE / 3` authoritative steps;
2. the ingest `nimbleServerHandleIncomingSteps`, which appends the predicted steps to the ring of
   the participant connection the transport slot points at;
3. unless the game is frozen, the composer `nimbleServerComposeAuthoritativeSteps`, which appends
   one combined step per tick while every participant connection in use has its step for the
   tick.

The reply is built by `nimbleServerSendStepRanges`.  The trim and the two `req_step.c` functions
are translated from the source.  The ingest, the composer and the reply are not under `src/` and
are modelled from the spec (sections 4.5 and 4.6).  Each of them, like the C code, keeps what it
did before an error: a C function that fails half way has already written its state.

## The wire format of the modelled parts

A GameStep body is the step id the client is waiting for (`u32`), the id of its first predicted
step (`u32`), the number of steps (`u8`), and each step as an octet count (`u8`) and the octets.
A StepRanges reply is its command, one range, the range's first step id (`u32`) and step count
(`u8`), and each combined step as an octet count (`u16`) and the octets.
-/

namespace NimbleServerLib

/-! ## Step-id order -/

/-- `a` comes before `b` in the modular order of step ids: within half the id space behind. -/
def stepIdIsBefore (a b : StepId) : Bool :=
  a != b && (b - a).toNat < 2 ^ 31

/-! ## The backpressure trim -/

/-- `discardAuthoritativeStepsIfBufferGettingFull` (`req_step.c`). -/
def discardAuthoritativeStepsIfBufferGettingFull (nbsWindowSize : Nat)
    (foundGame : NimbleServerGame) : NimbleServerGame × Int :=
  let authoritativeStepCount := foundGame.authoritativeSteps.stepsCount
  let maxCapacity := nbsWindowSize / 3
  if maxCapacity < authoritativeStepCount then
    let authoritativeToDrop := authoritativeStepCount - maxCapacity
    match nbsStepsDiscardCount foundGame.authoritativeSteps authoritativeToDrop with
    | .error err => (foundGame, err)
    | .ok steps => ({ foundGame with authoritativeSteps := steps }, 0)
  else (foundGame, 0)

/-! ## The ingest -/

/-- Modelled from the spec: the failure of a GameStep from a slot with no participant
connection. -/
def nimbleServerErrNoParticipantConnection : Int := -20

/-- Modelled from the spec: the failure of a predicted step past the connection's next id. -/
def nimbleServerErrStepGap : Int := -21

/-- Modelled from the spec: the failure of a predicted step larger than its participants allow. -/
def nimbleServerErrStepTooLarge : Int := -22

/-- What the ingest leaves behind: the connection's ring, the stream, and how many steps it
appended so far. -/
structure IncomingSteps where
  steps : NbsSteps
  inStream : FldInStream
  receivedCount : Nat
  deriving DecidableEq, Repr

/-- Modelled from the spec: one predicted step read from the stream.  A step at the ring's next
id is appended, an earlier one is a duplicate and is dropped, a later one is a gap. -/
def nimbleServerIngestStep (nbsWindowSize maxOctetCount : Nat) (stepId : StepId)
    (incoming : IncomingSteps) : IncomingSteps × Int :=
  match fldInStreamReadUInt8 incoming.inStream with
  | .error err => (incoming, err)
  | .ok (octetCount, inStream) =>
    match fldInStreamReadOctets inStream octetCount.toNat with
    | .error err => ({ incoming with inStream := inStream }, err)
    | .ok (payload, inStream) =>
      let incoming := { incoming with inStream := inStream }
      if maxOctetCount < payload.length then (incoming, nimbleServerErrStepTooLarge)
      else if stepId = incoming.steps.expectedWriteId then
        match nbsStepsWrite nbsWindowSize incoming.steps stepId payload with
        | .error err => (incoming, err)
        | .ok steps => ({ incoming with steps := steps, receivedCount := incoming.receivedCount + 1 }, 0)
      else if stepIdIsBefore stepId incoming.steps.expectedWriteId then (incoming, 0)
      else (incoming, nimbleServerErrStepGap)

/-- Modelled from the spec: the predicted steps `stepId, stepId + 1, …` of one datagram, in
order, stopping at the first failure. -/
def nimbleServerIngestSteps (nbsWindowSize maxOctetCount : Nat) :
    Nat → StepId → IncomingSteps → IncomingSteps × Int
  | 0, _, incoming => (incoming, 0)
  | count + 1, stepId, incoming =>
      let (incoming, err) := nimbleServerIngestStep nbsWindowSize maxOctetCount stepId incoming
      if err < 0 then (incoming, err)
      else nimbleServerIngestSteps nbsWindowSize maxOctetCount count (stepId + 1) incoming

/-- What `nimbleServerHandleIncomingSteps` leaves behind. -/
structure HandleIncomingStepsResult where
  connections : NimbleServerParticipantConnections
  inStream : FldInStream
  clientWaitingForStepId : StepId
  result : Int
  deriving DecidableEq, Repr

/-- Modelled from the spec: `nimbleServerHandleIncomingSteps` reads the id the client waits for
and appends its predicted steps to the ring of the participant connection the slot points at.
The result is the number of steps appended, or the failure. -/
def nimbleServerHandleIncomingSteps (nbsWindowSize : Nat) (foundGame : NimbleServerGame)
    (connections : NimbleServerParticipantConnections) (inStream : FldInStream)
    (transportConnection : NimbleServerTransportConnection) : HandleIncomingStepsResult :=
  match transportConnection.assignedParticipantConnection with
  | none => ⟨connections, inStream, 0, nimbleServerErrNoParticipantConnection⟩
  | some index =>
    match connections.connections.get? index with
    | none => ⟨connections, inStream, 0, nimbleServerErrNoParticipantConnection⟩
    | some participantConnection =>
      match fldInStreamReadUInt32 inStream with
      | .error err => ⟨connections, inStream, 0, err⟩
      | .ok (clientWaitingForStepId, inStream) =>
        match fldInStreamReadUInt32 inStream with
        | .error err => ⟨connections, inStream, clientWaitingForStepId, err⟩
        | .ok (firstStepId, inStream) =>
          match fldInStreamReadUInt8 inStream with
          | .error err => ⟨connections, inStream, clientWaitingForStepId, err⟩
          | .ok (stepCount, inStream) =>
            let maxOctetCount := foundGame.maxSingleParticipantStepOctetCount *
              participantConnection.participantReferences.length
            let (incoming, err) := nimbleServerIngestSteps nbsWindowSize maxOctetCount
              stepCount.toNat firstStepId ⟨participantConnection.steps, inStream, 0⟩
            ⟨connections.modify index ({ · with steps := incoming.steps }), incoming.inStream,
              clientWaitingForStepId, if err < 0 then err else incoming.receivedCount⟩

/-! ## The composer -/

/-- The outcome of one composer tick: a wait, with the pool as the wait leaves it, a composed
step, or a failed write. -/
inductive ComposeTick
  | wait (connections : NimbleServerParticipantConnections)
  | composed (game : NimbleServerGame) (connections : NimbleServerParticipantConnections)
  | failed (err : Int)

/-- The participant connection with its oldest predicted step taken out. -/
def nbdParticipantConnectionPopStep (self : NimbleServerParticipantConnection) :
    NimbleServerParticipantConnection :=
  { self with steps := ((nbsStepsRead self.steps).map Prod.snd).getD self.steps }

/-- The predicted step a participant connection has ready for the tick `stepId`. -/
def nbdParticipantConnectionStepFor (self : NimbleServerParticipantConnection) (stepId : StepId) :
    Option NbsStep :=
  self.steps.steps.head?.filter (·.stepId == stepId)

/-- Modelled from the spec: the number of ticks in a row a participant connection may go without
a step and stay responsive.  The spec leaves the threshold open; the model fixes it at 3. -/
def nimbleServerForcedStepThreshold : Nat := 3

/-- Modelled from the spec: a participant connection is responsive until its count of ticks in a
row without a step exceeds the threshold.  The composer waits for responsive connections only. -/
def nbdParticipantConnectionIsResponsive (self : NimbleServerParticipantConnection) : Bool :=
  self.forcedStepInRowCounter ≤ nimbleServerForcedStepThreshold

/-- A participant connection that went one more tick without its step: the composer waited for
it, or forced its step. -/
def nbdParticipantConnectionMissStep (self : NimbleServerParticipantConnection) :
    NimbleServerParticipantConnection :=
  { self with forcedStepInRowCounter := self.forcedStepInRowCounter + 1 }

/-- Modelled from the spec: a participant connection after the tick `stepId` is composed.  Its
step for the tick is taken out and its count cleared; with no step, its step is forced and
counted. -/
def nbdParticipantConnectionAdvance (stepId : StepId) (self : NimbleServerParticipantConnection) :
    NimbleServerParticipantConnection :=
  if (nbdParticipantConnectionStepFor self stepId).isSome then
    { nbdParticipantConnectionPopStep self with forcedStepInRowCounter := 0 }
  else nbdParticipantConnectionMissStep self

/-- Modelled from the spec: what a participant connection adds to the combined step of the tick
`stepId`, its step's octets or the forced step, which is empty. -/
def nbdParticipantConnectionContribution (stepId : StepId)
    (self : NimbleServerParticipantConnection) : List UInt8 :=
  ((nbdParticipantConnectionStepFor self stepId).map (·.payload)).getD []

/-- The lowest participant id of a participant connection.  A connection's step holds the steps
of all its participants, and a join hands out consecutive ids, so ordering the connections by it
orders the contributions by participant id. -/
def nbdParticipantConnectionFirstParticipantId (self : NimbleServerParticipantConnection) : Nat :=
  self.participantReferences.min?.getD 0

/-- Modelled from the spec (section 4.5): one tick of the composer.  It composes when some
participant connection in use has its step for the tick at the authoritative write id and every
responsive one in use does.  The contributions, in ascending participant-id order, are written as
one combined step; each connection in use has its step taken out or forced.  When a responsive
connection in use has no step while another has, the tick waits, and every connection in use
without a step counts one more tick in a row without it: "failure to receive steps manifests as
the composer waiting and the unresponsive-counter rising" (section 5).  With no step at all the
tick waits and counts nothing. -/
def nimbleServerComposeTick (nbsWindowSize : Nat) (game : NimbleServerGame)
    (connections : NimbleServerParticipantConnections) : ComposeTick :=
  let stepId := game.authoritativeSteps.expectedWriteId
  let active := connections.connections.filter (·.isUsed)
  let hasStep := fun c => (nbdParticipantConnectionStepFor c stepId).isSome
  if !active.any hasStep then .wait connections
  else if !active.all fun c => hasStep c || !nbdParticipantConnectionIsResponsive c then
    .wait { connections with connections := connections.connections.map fun c =>
      if c.isUsed && !hasStep c then nbdParticipantConnectionMissStep c else c }
  else
    let ordered := active.insertionSort fun a b =>
      nbdParticipantConnectionFirstParticipantId a ≤ nbdParticipantConnectionFirstParticipantId b
    let combined := ordered.flatMap (nbdParticipantConnectionContribution stepId)
    match nbsStepsWrite nbsWindowSize game.authoritativeSteps stepId combined with
    | .error err => .failed err
    | .ok steps =>
      .composed { game with authoritativeSteps := steps }
        { connections with connections := connections.connections.map fun c =>
            if c.isUsed then nbdParticipantConnectionAdvance stepId c else c }

/-- The composer's loop, with the count of ticks composed so far. -/
def nimbleServerComposeLoop (nbsWindowSize : Nat) :
    Nat → NimbleServerGame → NimbleServerParticipantConnections → Nat →
      NimbleServerGame × NimbleServerParticipantConnections × Int
  | 0, game, connections, count => (game, connections, count)
  | fuel + 1, game, connections, count =>
      match nimbleServerComposeTick nbsWindowSize game connections with
      | .wait connections => (game, connections, count)
      | .failed err => (game, connections, err)
      | .composed game connections =>
          nimbleServerComposeLoop nbsWindowSize fuel game connections (count + 1)

/-- Modelled from the spec: `nimbleServerComposeAuthoritativeSteps` composes ticks until one has
to wait, and returns how many it composed.  Each tick fills one slot of the authoritative ring,
so `NBS_WINDOW_SIZE + 1` rounds always reach a tick that waits or fails. -/
def nimbleServerComposeAuthoritativeSteps (nbsWindowSize : Nat) (foundGame : NimbleServerGame)
    (connections : NimbleServerParticipantConnections) :
    NimbleServerGame × NimbleServerParticipantConnections × Int :=
  nimbleServerComposeLoop nbsWindowSize (nbsWindowSize + 1) foundGame connections 0

/-! ## Ingest and compose -/

/-- What `readIncomingStepsAndCreateAuthoritativeSteps` leaves behind. -/
structure ReadIncomingStepsResult where
  game : NimbleServerGame
  connections : NimbleServerParticipantConnections
  inStream : FldInStream
  stat : StatsIntPerSecond
  clientWaitingForStepId : StepId
  result : Int
  deriving DecidableEq, Repr

/-- `readIncomingStepsAndCreateAuthoritativeSteps` (`req_step.c`): trim, ingest, then compose
unless the game is frozen. -/
def readIncomingStepsAndCreateAuthoritativeSteps (nbsWindowSize : Nat)
    (foundGame : NimbleServerGame) (connections : NimbleServerParticipantConnections)
    (inStream : FldInStream) (transportConnection : NimbleServerTransportConnection)
    (authoritativeStepsPerSecondStat : StatsIntPerSecond) : ReadIncomingStepsResult :=
  let (foundGame, discardErr) := discardAuthoritativeStepsIfBufferGettingFull nbsWindowSize foundGame
  if discardErr < 0 then
    ⟨foundGame, connections, inStream, authoritativeStepsPerSecondStat, 0, discardErr⟩
  else
    let received := nimbleServerHandleIncomingSteps nbsWindowSize foundGame connections inStream
      transportConnection
    if received.result < 0 then
      ⟨foundGame, received.connections, received.inStream, authoritativeStepsPerSecondStat,
        received.clientWaitingForStepId, received.result⟩
    else if !foundGame.debugIsFrozen then
      let (foundGame, connections, advanceCount) :=
        nimbleServerComposeAuthoritativeSteps nbsWindowSize foundGame received.connections
      if advanceCount < 0 then
        ⟨foundGame, connections, received.inStream, authoritativeStepsPerSecondStat,
          received.clientWaitingForStepId, advanceCount⟩
      else
        ⟨foundGame, connections, received.inStream,
          statsIntPerSecondAdd authoritativeStepsPerSecondStat advanceCount.toNat,
          received.clientWaitingForStepId, advanceCount⟩
    else
      ⟨foundGame, received.connections, received.inStream, authoritativeStepsPerSecondStat,
        received.clientWaitingForStepId, 0⟩

/-! ## The reply -/

/-- Modelled from the spec: the command byte of a StepRanges reply. -/
def nimbleSerializeCmdGameStepResponse : UInt8 := 0x12

/-- Modelled from the spec: `nimbleServerTransportConnectionUpdateStats` records how far behind
the write head the client is. -/
def nimbleServerTransportConnectionUpdateStats (transportConnection : NimbleServerTransportConnection)
    (foundGame : NimbleServerGame) (clientWaitingForStepId : StepId) :
    NimbleServerTransportConnection :=
  let stepsBehind := (foundGame.authoritativeSteps.expectedWriteId - clientWaitingForStepId).toNat
  { transportConnection with
    stepsBehindStats := statsIntAdd transportConnection.stepsBehindStats stepsBehind }

/-- The steps that fit in `room` octets, at most `maxCount` of them, each taking its two-octet
count and its octets. -/
def stepRangeEntries : Nat → Nat → List NbsStep → List NbsStep
  | _, 0, _ => []
  | _, _, [] => []
  | room, maxCount + 1, step :: rest =>
      if room < 2 + step.payload.length then []
      else step :: stepRangeEntries (room - (2 + step.payload.length)) maxCount rest

/-- The octets of a StepRanges reply with one range. -/
def stepRangesOctets (startStepId : StepId) (entries : List NbsStep) : List UInt8 :=
  [nimbleSerializeCmdGameStepResponse, 1] ++ encodeBigEndian 4 startStepId.toNat ++
    [UInt8.ofNat entries.length] ++
    entries.flatMap fun step => encodeBigEndian 2 step.payload.length ++ step.payload

/-- Modelled from the spec: `nimbleServerSendStepRanges`.  A client behind the ring's read id gets
nothing; otherwise the reply carries the steps from the later of the client's id and the slot's
cursor, as many as fit, and the cursor moves past them. -/
def nimbleServerSendStepRanges (outStream : FldOutStream)
    (transportConnection : NimbleServerTransportConnection) (foundGame : NimbleServerGame)
    (clientWaitingForStepId : StepId) : NimbleServerTransportConnection × FldOutStream × Int :=
  let steps := foundGame.authoritativeSteps
  if stepIdIsBefore clientWaitingForStepId steps.expectedReadId then (transportConnection, outStream, 0)
  else
    let waitingOffset := (clientWaitingForStepId - steps.expectedReadId).toNat
    let cursorOffset := (transportConnection.nextAuthoritativeStepIdToSend - steps.expectedReadId).toNat
    let startOffset := if cursorOffset ≤ steps.stepsCount then max waitingOffset cursorOffset
      else waitingOffset
    let room := outStream.size - outStream.pos - 7
    let entries := stepRangeEntries room 255 (steps.steps.drop startOffset)
    if entries.isEmpty then
      ({ transportConnection with
          noRangesToSendCounter := transportConnection.noRangesToSendCounter + 1 }, outStream, 0)
    else
      let startStepId := steps.expectedReadId + BitVec.ofNat 32 startOffset
      match fldOutStreamWriteOctets outStream (stepRangesOctets startStepId entries) with
      | .error err => (transportConnection, outStream, err)
      | .ok outStream =>
        ({ transportConnection with
            nextAuthoritativeStepIdToSend := startStepId + BitVec.ofNat 32 entries.length },
          outStream, 0)

/-! ## The request -/

/-- What a request handler leaves behind: the parts of the server it may write, the two streams,
and its result. -/
structure NimbleServerReqResult where
  game : NimbleServerGame
  connections : NimbleServerParticipantConnections
  transportConnection : NimbleServerTransportConnection
  stat : StatsIntPerSecond
  inStream : FldInStream
  outStream : FldOutStream
  result : Int
  deriving DecidableEq, Repr

/-- `nimbleServerReqGameStep` (`req_step.c`). -/
def nimbleServerReqGameStep (nbsWindowSize : Nat) (foundGame : NimbleServerGame)
    (connections : NimbleServerParticipantConnections)
    (transportConnection : NimbleServerTransportConnection)
    (authoritativeStepsPerSecondStat : StatsIntPerSecond) (inStream : FldInStream)
    (outStream : FldOutStream) : NimbleServerReqResult :=
  let read := readIncomingStepsAndCreateAuthoritativeSteps nbsWindowSize foundGame connections
    inStream transportConnection authoritativeStepsPerSecondStat
  if read.result < 0 then
    ⟨read.game, read.connections, transportConnection, read.stat, read.inStream, outStream,
      read.result⟩
  else
    let transportConnection := nimbleServerTransportConnectionUpdateStats transportConnection
      read.game read.clientWaitingForStepId
    let (transportConnection, outStream, result) :=
      nimbleServerSendStepRanges outStream transportConnection read.game read.clientWaitingForStepId
    ⟨read.game, read.connections, transportConnection, read.stat, read.inStream, outStream, result⟩

/-! ## What the composer leaves of the pool -/

/-- How the composer may leave a participant connection: some of its oldest steps taken out and
its count of ticks in a row without a step set anew. -/
def NimbleServerParticipantConnection.Drained (before after : NimbleServerParticipantConnection) :
    Prop :=
  ∃ count missed, after =
    { nbdParticipantConnectionPopStep^[count] before with forcedStepInRowCounter := missed }

/-- How the composer may leave the pool: every connection drained, in place. -/
def NimbleServerParticipantConnections.Drained (before after : NimbleServerParticipantConnections) :
    Prop :=
  ∃ f : NimbleServerParticipantConnection → NimbleServerParticipantConnection,
    (∀ connection : NimbleServerParticipantConnection, connection.Drained (f connection)) ∧
      after = { before with connections := before.connections.map f }

namespace NimbleServerParticipantConnection

theorem iterate_popStep_setCounter (count missed : Nat) (connection : NimbleServerParticipantConnection) :
    nbdParticipantConnectionPopStep^[count] { connection with forcedStepInRowCounter := missed } =
      { nbdParticipantConnectionPopStep^[count] connection with forcedStepInRowCounter := missed } := by
  induction count with
  | zero => rfl
  | succ count ih => rw [Function.iterate_succ_apply', ih, Function.iterate_succ_apply']; rfl

theorem Drained.refl (connection : NimbleServerParticipantConnection) : connection.Drained connection :=
  ⟨0, connection.forcedStepInRowCounter, rfl⟩

theorem Drained.trans {first middle last : NimbleServerParticipantConnection}
    (h₁ : first.Drained middle) (h₂ : middle.Drained last) : first.Drained last := by
  obtain ⟨count, missed, rfl⟩ := h₁
  obtain ⟨more, missed', rfl⟩ := h₂
  refine ⟨more + count, missed', ?_⟩
  rw [iterate_popStep_setCounter, Function.iterate_add_apply]

theorem Drained.of_advance (stepId : StepId) (connection : NimbleServerParticipantConnection) :
    connection.Drained (nbdParticipantConnectionAdvance stepId connection) := by
  unfold nbdParticipantConnectionAdvance
  split
  · exact ⟨1, 0, rfl⟩
  · exact ⟨0, _, rfl⟩

theorem Drained.of_missStep (connection : NimbleServerParticipantConnection) :
    connection.Drained (nbdParticipantConnectionMissStep connection) :=
  ⟨0, _, rfl⟩

/-- What the pop leaves alone, draining leaves alone. -/
theorem Drained.preserves {p : NimbleServerParticipantConnection → Prop}
    (hpop : ∀ connection, p connection → p (nbdParticipantConnectionPopStep connection))
    (hcounter : ∀ connection missed, p connection → p { connection with forcedStepInRowCounter := missed })
    {before after : NimbleServerParticipantConnection} (h : before.Drained after) (hbefore : p before) :
    p after := by
  obtain ⟨count, missed, rfl⟩ := h
  exact hcounter _ _ (Function.Iterate.rec p hpop hbefore count)

end NimbleServerParticipantConnection

namespace NimbleServerParticipantConnections

theorem Drained.refl (pool : NimbleServerParticipantConnections) : pool.Drained pool :=
  ⟨id, NimbleServerParticipantConnection.Drained.refl, by simp⟩

theorem Drained.trans {first middle last : NimbleServerParticipantConnections}
    (h₁ : first.Drained middle) (h₂ : middle.Drained last) : first.Drained last := by
  obtain ⟨f, hf, rfl⟩ := h₁
  obtain ⟨g, hg, rfl⟩ := h₂
  exact ⟨g ∘ f, fun connection => (hf connection).trans (hg _), by simp⟩

/-- Mapping the pool in place through `f` drains it when `f` drains every connection it changes. -/
theorem Drained.map (pool : NimbleServerParticipantConnections)
    {f : NimbleServerParticipantConnection → NimbleServerParticipantConnection}
    (hf : ∀ connection : NimbleServerParticipantConnection, connection.Drained (f connection)) :
    pool.Drained { pool with connections := pool.connections.map f } :=
  ⟨f, hf, rfl⟩

end NimbleServerParticipantConnections

open NimbleServerParticipantConnection in
/-- A tick that waits or composes drains the pool. -/
theorem nimbleServerComposeTick_drained {nbsWindowSize : Nat} {game : NimbleServerGame}
    {connections : NimbleServerParticipantConnections} :
    (∀ {connections'}, nimbleServerComposeTick nbsWindowSize game connections = .wait connections' →
      connections.Drained connections') ∧
    (∀ {game' connections'},
      nimbleServerComposeTick nbsWindowSize game connections = .composed game' connections' →
        connections.Drained connections') := by
  unfold nimbleServerComposeTick
  dsimp only
  split
  · exact ⟨fun h => by cases h; exact .refl _, nofun⟩
  split
  · refine ⟨fun h => ?_, nofun⟩
    cases h
    refine .map _ fun _ => ?_
    split
    · exact .of_missStep _
    · exact .refl _
  split
  · exact ⟨nofun, nofun⟩
  · refine ⟨nofun, fun h => ?_⟩
    cases h
    refine .map _ fun _ => ?_
    split
    · exact .of_advance _ _
    · exact .refl _

/-- **The composer only drains the pool.**  Whatever its fuel, it leaves every participant
connection in place, with some of its oldest steps taken out and its count of ticks in a row
without a step set anew. -/
theorem nimbleServerComposeLoop_drained (nbsWindowSize fuel : Nat) (game : NimbleServerGame)
    (connections : NimbleServerParticipantConnections) (count : Nat) :
    connections.Drained (nimbleServerComposeLoop nbsWindowSize fuel game connections count).2.1 := by
  induction fuel generalizing game connections count with
  | zero => exact .refl _
  | succ fuel ih =>
      simp only [nimbleServerComposeLoop]
      split
      case h_1 htick => exact nimbleServerComposeTick_drained.1 htick
      case h_2 => exact .refl _
      case h_3 htick => exact (nimbleServerComposeTick_drained.2 htick).trans (ih _ _ _)

end NimbleServerLib
