import NimbleServerLib.Requests

/-!
# The server's operations

The public functions of `server.c`, translated one by one: `nimbleServerFeed`, `nimbleServerInit`,
`nimbleServerReInitWithGame`, `nimbleServerConnectionConnected`,
`nimbleServerConnectionDisconnected`, `nimbleServerMustProvideGameState`,
`nimbleServerSetGameState`, `nimbleServerReadFromMultiTransport` and `nimbleServerUpdate`.

Each keeps the C code's order of effects.  Where the C code ignores a result (the ordered-datagram
verdict and the command read in `nimbleServerFeed`, the game-state result in
`nimbleServerReInitWithGame`, the drain result in `nimbleServerUpdate`) the model ignores it too.
An index into `transportConnections` is checked where the C code indexes the array, and one
outside it ends the call with a `NimbleServerFault`.

## C conversions

`nimbleServerMustProvideGameState` subtracts two `uint32_t`, stores the difference in an `int`
(two's complement, as the compilers the project builds with do) and compares that `int` with a
`size_t` constant, which converts the `int` to `size_t` (modulo `2^64`).
-/

namespace NimbleServerLib

/-! ## Feed -/

/-- `UDP_MAX_SIZE`, the size of the reply buffer. -/
def udpMaxSize : Nat := 1200

/-- What `nimbleServerFeed` leaves behind: the server, its result, and the datagrams it handed
to the transport. -/
structure NimbleServerFeedResult where
  server : NimbleServer
  result : Int
  sent : List (List UInt8)

/-- `server.c:67-69`: the command octet, or the indeterminate value of `cmd` when the read
fails. -/
def nimbleServerFeedReadCmd (context : NimbleServerFeedContext) (inStream : FldInStream) :
    UInt8 × FldInStream :=
  match fldInStreamReadUInt8 inStream with
  | .ok (cmd, inStream) => (cmd, inStream)
  | .error _ => (context.uninitializedCmd, inStream)

/-- `server.c:83-99`: the handler a command is dispatched to, or `none` for an unknown command. -/
def nimbleServerFeedDispatch (nbsWindowSize : Nat) (self : NimbleServer)
    (transportConnection : NimbleServerTransportConnection) (cmd : UInt8) (inStream : FldInStream)
    (outStream : FldOutStream) : Option NimbleServerReqResult :=
  if cmd = nimbleSerializeCmdGameStep then
    some (nimbleServerReqGameStep nbsWindowSize self.game self.connections transportConnection
      self.authoritativeStepsPerSecondStat inStream outStream)
  else if cmd = nimbleSerializeCmdJoinGameRequest then
    some (nbdReqGameJoin self transportConnection inStream outStream)
  else if cmd = nimbleSerializeCmdDownloadGameStateRequest then
    let (transportConnection, inStream, outStream, result) :=
      nbdReqDownloadGameState transportConnection self.game inStream outStream
    some ⟨self.game, self.connections, transportConnection, self.authoritativeStepsPerSecondStat,
      inStream, outStream, result⟩
  else none

/-- `server.c:101-117`: a failed handler's result is returned, a reply of at most two octets is
dropped, any other reply is committed and sent. -/
def nimbleServerFeedReply (self : NimbleServer) (slot : TransportSlot)
    (request : NimbleServerReqResult) (response : DatagramTransportOut) : NimbleServerFeedResult :=
  let self := { self.setTransportConnection slot request.transportConnection with
    game := request.game
    connections := request.connections
    authoritativeStepsPerSecondStat := request.stat }
  if request.result < 0 then ⟨self, request.result, []⟩
  else if request.outStream.pos ≤ 2 then ⟨self, 0, []⟩
  else
    let transportConnection := { request.transportConnection with
      orderedDatagramOutLogic := orderedDatagramOutLogicCommit request.transportConnection.orderedDatagramOutLogic }
    ⟨self.setTransportConnection slot transportConnection, response.send request.outStream.octets,
      [request.outStream.octets]⟩

/-- The reply buffer after `orderedDatagramOutLogicPrepare`, whose result `server.c:81` ignores. -/
def nimbleServerFeedOutStream (outLogic : OrderedDatagramOutLogic) : FldOutStream :=
  match orderedDatagramOutLogicPrepare outLogic (fldOutStreamInit udpMaxSize) with
  | .ok outStream => outStream
  | .error _ => fldOutStreamInit udpMaxSize

/-- `nimbleServerFeed` (`server.c:47`). -/
def nimbleServerFeed (nbsWindowSize : Nat) (context : NimbleServerFeedContext) (self : NimbleServer)
    (connectionIndex : UInt8) (data : List UInt8) (response : DatagramTransportOut) :
    Except NimbleServerFault NimbleServerFeedResult :=
  if context.verboseLogging && data.length ≤ 2 then .error (.datagramOutOfRange 2)
  else if 64 < connectionIndex.toNat then .ok ⟨self, -13, []⟩
  else
    match self.transportConnectionAt connectionIndex.toNat with
    | .error fault => .error fault
    | .ok (slot, transportConnection) =>
      let (_, inLogic, inStream) :=
        orderedDatagramInLogicReceive transportConnection.orderedDatagramInLogic (fldInStreamInit data)
      let transportConnection := { transportConnection with orderedDatagramInLogic := inLogic }
      let (cmd, inStream) := nimbleServerFeedReadCmd context inStream
      if cmd = nimbleSerializeCmdDownloadGameStateStatus then
        let (transportConnection, sent, result) :=
          nbdReqDownloadGameStateAck transportConnection inStream response
        .ok ⟨self.setTransportConnection slot transportConnection, result, sent⟩
      else
        let outStream := nimbleServerFeedOutStream transportConnection.orderedDatagramOutLogic
        match nimbleServerFeedDispatch nbsWindowSize self transportConnection cmd inStream outStream with
        | some request => .ok (nimbleServerFeedReply self slot request response)
        | none =>
          if context.softErrorLogging && data.length = 0 then .error (.datagramOutOfRange 0)
          else .ok ⟨self.setTransportConnection slot transportConnection, 0, []⟩

/-! ## Life cycle -/

/-- The largest step octet count `nimbleServerInit` accepts. -/
def maximumSingleStepCountAllowed : Nat := 24

/-- `nimbleServerInit` (`server.c:126`).  It writes the pool, the setup, every transport slot's
id, pointer and use flag, and the statistics; the game and `statsCounter` keep what the memory
held until `nimbleServerReInitWithGame`. -/
def nimbleServerInit (self : NimbleServer) (setup : NimbleServerSetup) : NimbleServer × Int :=
  if nbdServerMaxTransportConnections < setup.maxConnectionCount then (self, -1)
  else if maximumSingleStepCountAllowed < setup.maxSingleParticipantStepOctetCount then (self, -1)
  else if nbdServerMaxTransportConnections < setup.maxParticipantCount then (self, -1)
  else
    ({ self with
      connections := nbdParticipantConnectionsInit setup.maxConnectionCount
        setup.maxParticipantCountForEachConnection setup.maxSingleParticipantStepOctetCount
      setup := setup
      transportConnections := fun slot => { self.transportConnections slot with
        assignedParticipantConnection := none
        transportConnectionId := slot.val
        isUsed := false }
      authoritativeStepsPerSecondStat := statsIntPerSecondInit setup.now 1000 }, 0)

/-- `nimbleServerReInitWithGame` (`server.c:174`): a new game at `stepId` with the given state,
an empty authoritative ring at `stepId`, a reset pool.  The transport slots are not touched. -/
def nimbleServerReInitWithGame (self : NimbleServer) (gameState : List UInt8) (stepId : StepId)
    (now : Nat) : NimbleServer × Int :=
  let game := nbdGameInit self.setup.maxSingleParticipantStepOctetCount
    self.setup.maxGameStateOctetCount self.setup.maxParticipantCount
  let game := match nbdGameSetGameState game stepId gameState with
    | .ok game => game
    | .error _ => game
  ({ self with
    game := { game with authoritativeSteps := nbsStepsReInit stepId }
    authoritativeStepsPerSecondStat := statsIntPerSecondInit now 1000
    connections := nbdParticipantConnectionsReset self.connections
    statsCounter := 0 }, 0)

/-- `nimbleServerConnectionConnected` (`server.c:194`). -/
def nimbleServerConnectionConnected (self : NimbleServer) (connectionIndex : UInt8) :
    Except NimbleServerFault (NimbleServer × Int) :=
  match self.transportConnectionAt connectionIndex.toNat with
  | .error fault => .error fault
  | .ok (slot, transportConnection) =>
    if transportConnection.isUsed then .ok (self, -44)
    else .ok (self.setTransportConnection slot
      (transportConnectionInit { transportConnection with isUsed := true }), 0)

/-- `nimbleServerConnectionDisconnected` (`server.c:214`): frees the participant connection bound
to the slot and makes the slot's ordered-in logic wait for a first datagram again. -/
def nimbleServerConnectionDisconnected (self : NimbleServer) (connectionIndex : UInt8) :
    Except NimbleServerFault (NimbleServer × Int) :=
  match nbdParticipantConnectionsFindConnection self.connections connectionIndex.toNat with
  | none => .ok (self, -2)
  | some index =>
    if !(self.connections.connections.get? index).any (·.isUsed) then .ok (self, -4)
    else
      let connections := self.connections.modify index fun connection =>
        { connection with id := nbdParticipantConnectionFreedId, isUsed := false }
      match self.transportConnectionAt connectionIndex.toNat with
      | .error fault => .error fault
      | .ok (slot, transportConnection) =>
        .ok ({ self.setTransportConnection slot { transportConnection with
            orderedDatagramInLogic := { transportConnection.orderedDatagramInLogic with
              hasReceivedInitialDatagram := false } } with
          connections := connections }, 0)

/-! ## Game state -/

/-- `NBD_REASONABLE_NUMBER_OF_STEPS_TO_CATCHUP_FOR_JOINERS`. -/
def nbdReasonableNumberOfStepsToCatchupForJoiners : Nat := 80

/-- The `size_t` an `int` converts to. -/
def intToSizeT (value : Int) : Nat := (value % 2 ^ 64).toNat

/-- `nimbleServerMustProvideGameState` (`server.c:241`). -/
def nimbleServerMustProvideGameState (self : NimbleServer) : Bool :=
  let deltaTickCountSinceLastGameState : Int :=
    (self.game.authoritativeSteps.expectedWriteId - self.game.latestState.stepId).toInt
  nbdReasonableNumberOfStepsToCatchupForJoiners < intToSizeT deltaTickCountSinceLastGameState

/-- `nimbleServerSetGameState` (`server.c:254`); a refused game state leaves the game as it
was. -/
def nimbleServerSetGameState (self : NimbleServer) (gameState : List UInt8) (stepId : StepId) :
    NimbleServer :=
  match nbdGameSetGameState self.game stepId gameState with
  | .ok game => { self with game := game }
  | .error _ => self

/-! ## The drain -/

/-- Modelled from the spec: one result of `receiveFrom`, a datagram from a connection or a
failure of the transport. -/
inductive DatagramReceive
  | datagram (connectionId : Int) (octets : List UInt8)
  | failure (code : Int)
  deriving DecidableEq, Repr

/-- Modelled from the spec: the multi transport, the results its `receiveFrom` returns next (an
exhausted list returns 0), what `sendTo` returns, and the datagrams sent so far. -/
structure DatagramTransportMulti where
  incoming : List DatagramReceive
  sendTo : Int → List UInt8 → Int
  sent : List (Int × List UInt8)

/-- Modelled from the spec: `receiveFrom`, the octet count (or failure), the connection id and
the octets of the next result. -/
def DatagramTransportMulti.receiveFrom (self : DatagramTransportMulti) :
    Int × Int × List UInt8 × DatagramTransportMulti :=
  match self.incoming with
  | [] => (0, 0, [], self)
  | .datagram connectionId octets :: rest => (octets.length, connectionId, octets, { self with incoming := rest })
  | .failure code :: rest => (code, 0, [], { self with incoming := rest })

/-- `sendOnlyToSpecifiedTransport`: the reply transport of one connection. -/
def sendOnlyToSpecifiedTransport (transport : DatagramTransportMulti) (connectionIndex : Int) :
    DatagramTransportOut :=
  ⟨transport.sendTo connectionIndex⟩

/-- One round of the drain, `server.c:299-325`. -/
def nimbleServerReadFromMultiTransportLoop (nbsWindowSize : Nat) (context : NimbleServerFeedContext) :
    Nat → NimbleServer → DatagramTransportMulti →
      Except NimbleServerFault (NimbleServer × DatagramTransportMulti × Int)
  | 0, self, transport => .ok (self, transport, 0)
  | rounds + 1, self, transport =>
    let (octetCountReceived, connectionId, datagram, transport) := transport.receiveFrom
    if octetCountReceived = 0 then .ok (self, transport, 0)
    else if octetCountReceived < 0 then .ok (self, transport, octetCountReceived)
    else
      match self.transportConnectionAt connectionId with
      | .error fault => .error fault
      | .ok (_, transportConnection) =>
        let connected := if !transportConnection.isUsed then
            (nimbleServerConnectionConnected self (UInt8.ofNat connectionId.toNat)).map Prod.fst
          else .ok self
        match connected with
        | .error fault => .error fault
        | .ok self =>
          match nimbleServerFeed nbsWindowSize context self (UInt8.ofNat connectionId.toNat) datagram
              (sendOnlyToSpecifiedTransport transport connectionId) with
          | .error fault => .error fault
          | .ok fed =>
            let transport := { transport with
              sent := transport.sent ++ fed.sent.map (connectionId, ·) }
            if fed.result < 0 then .ok (fed.server, transport, fed.result)
            else nimbleServerReadFromMultiTransportLoop nbsWindowSize context rounds fed.server transport

/-- `nimbleServerReadFromMultiTransport` (`server.c:288`): at most 32 datagrams. -/
def nimbleServerReadFromMultiTransport (nbsWindowSize : Nat) (context : NimbleServerFeedContext)
    (self : NimbleServer) (transport : DatagramTransportMulti) :
    Except NimbleServerFault (NimbleServer × DatagramTransportMulti × Int) :=
  nimbleServerReadFromMultiTransportLoop nbsWindowSize context 32 self transport

/-- `nimbleServerUpdate` (`server.c:25`): drains the transport, ignoring the drain's result, and
counts the update. -/
def nimbleServerUpdate (nbsWindowSize : Nat) (context : NimbleServerFeedContext)
    (self : NimbleServer) (transport : DatagramTransportMulti) (now : Nat) :
    Except NimbleServerFault (NimbleServer × DatagramTransportMulti × Int) :=
  match nimbleServerReadFromMultiTransport nbsWindowSize context self transport with
  | .error fault => .error fault
  | .ok (self, transport, _) =>
    .ok ({ self with
      authoritativeStepsPerSecondStat := statsIntPerSecondUpdate self.authoritativeStepsPerSecondStat now
      statsCounter := self.statsCounter + 1 }, transport, 0)

end NimbleServerLib
