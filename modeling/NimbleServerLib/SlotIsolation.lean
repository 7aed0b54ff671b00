import NimbleServerLib.DrainSlots

/-!
# Transport slots along whole runs

The server's 64 transport slots share nothing with each other: every call that names a slot
writes that slot only, and a drain writes only the slots its queue names.  Over whole runs this
gives three results about every slot.

* **Isolation.**  A slot that no event of a run names, by its index or by a queued datagram,
  ends the run with the record it started with, whatever the run does to the other slots
  (`transportConnection_untouched_along_runs`).
* **No slot is ever freed.**  Along every run each slot keeps its id, and a slot in use stays in
  use (`transportConnection_evolves_along_runs`).  A disconnect frees the participant connection
  and leaves the slot marked used, so only the first connect of a slot, explicit or the drain's
  implicit one, runs `transportConnectionInit` on it.
* **No slot comes to wait for a reconnect.**  The phase is set to idle by `transportConnectionInit`
  and to the initial state determined by a download request, and by nothing else; a slot that was
  not waiting for a reconnect never comes to (`transportConnection_phase_along_runs`).

The last two come from one lemma, `slotsRelate_along_runs`, for any relation between a slot
and its later self that a receipt, `transportConnectionInit` and every feed keep.
-/

namespace NimbleServerLib

variable {nbsWindowSize : Nat}

/-! ## The slots an event names -/

/-- Whether an event names `slot`: a feed, connect or disconnect at its index, or a drain whose
queue holds a result that `receiveFrom` reports for it. -/
def NimbleServerEvent.names (slot : TransportSlot) : NimbleServerEvent → Bool
  | .feed _ connectionIndex _ _ => connectionIndex.toNat = slot.val
  | .connectionConnected connectionIndex => connectionIndex.toNat = slot.val
  | .connectionDisconnected connectionIndex => connectionIndex.toNat = slot.val
  | .readFromMultiTransport _ transport =>
      transport.incoming.any fun received => received.connectionId = (slot.val : Int)
  | .update _ transport _ =>
      transport.incoming.any fun received => received.connectionId = (slot.val : Int)
  | .reInitWithGame .. | .setGameState .. | .setDebugIsFrozen _ => false

/-- What `nimbleServerUpdate` adds to the drain: the statistics and the update count. -/
theorem nimbleServerUpdate_eq_ok {context : NimbleServerFeedContext} {self after : NimbleServer}
    {transport transport' : DatagramTransportMulti} {now : Nat} {result : Int}
    (h : nimbleServerUpdate nbsWindowSize context self transport now = .ok (after, transport', result)) :
    ∃ drained drainResult,
      nimbleServerReadFromMultiTransport nbsWindowSize context self transport =
        .ok (drained, transport', drainResult) ∧
      after = { drained with
        authoritativeStepsPerSecondStat :=
          statsIntPerSecondUpdate drained.authoritativeStepsPerSecondStat now
        statsCounter := drained.statsCounter + 1 } := by
  unfold nimbleServerUpdate at h
  split at h
  · cases h
  · cases h
    exact ⟨_, _, ‹_›, rfl⟩

theorem quiet_of_any_eq_false {incoming : List DatagramReceive} {slot : TransportSlot}
    (h : (incoming.any fun received => received.connectionId = (slot.val : Int)) = false) :
    ∀ received ∈ incoming, received.connectionId ≠ slot.val := by
  simpa using h

/-- An event that does not name a slot leaves it as it was. -/
theorem NimbleServerEvent.apply_quiet {event : NimbleServerEvent} {self after : NimbleServer}
    {slot : TransportSlot} (hquiet : event.names slot = false)
    (h : event.apply nbsWindowSize self = some after) :
    after.transportConnections slot = self.transportConnections slot := by
  have hother : ∀ connectionIndex : UInt8,
      decide (connectionIndex.toNat = slot.val) = false → slot.val ≠ connectionIndex.toNat :=
    fun _ hne heq => by simp [heq] at hne
  cases event with
  | feed =>
      obtain ⟨fed, hfed, rfl⟩ := except_toOption_map_eq_some.mp h
      exact nimbleServerFeed_other hfed (hother _ hquiet)
  | connectionConnected =>
      obtain ⟨⟨_, _⟩, hconnected, rfl⟩ := except_toOption_map_eq_some.mp h
      exact nimbleServerConnectionConnected_other hconnected (hother _ hquiet)
  | connectionDisconnected =>
      obtain ⟨⟨_, _⟩, hdisconnected, rfl⟩ := except_toOption_map_eq_some.mp h
      exact nimbleServerConnectionDisconnected_other hdisconnected (hother _ hquiet)
  | reInitWithGame => cases h; rfl
  | setGameState =>
      cases h
      unfold nimbleServerSetGameState
      split <;> rfl
  | readFromMultiTransport context =>
      obtain ⟨⟨_, _, _⟩, hdrained, rfl⟩ := except_toOption_map_eq_some.mp h
      exact nimbleServerReadFromMultiTransportLoop_quiet context hdrained (quiet_of_any_eq_false hquiet)
  | update context =>
      obtain ⟨⟨_, _, _⟩, hupdated, rfl⟩ := except_toOption_map_eq_some.mp h
      obtain ⟨_, _, hdrained, rfl⟩ := nimbleServerUpdate_eq_ok hupdated
      exact nimbleServerReadFromMultiTransportLoop_quiet context hdrained (quiet_of_any_eq_false hquiet)
  | setDebugIsFrozen => cases h; rfl

/-! ## Isolation -/

/-- **A slot no event names is isolated from the run.**  Along a run in which no event names a
slot, neither by its index nor by a queued datagram, the slot keeps its record, whatever the
other slots' clients send. -/
theorem transportConnection_untouched_along_runs {events : List NimbleServerEvent}
    {self after : NimbleServer} (hrun : nimbleServerRun nbsWindowSize events self = some after)
    {slot : TransportSlot} (hquiet : ∀ event ∈ events, event.names slot = false) :
    after.transportConnections slot = self.transportConnections slot := by
  induction events generalizing self with
  | nil =>
      cases hrun
      rfl
  | cons event events ih =>
      obtain ⟨middle, hmiddle, hrest⟩ := nimbleServerRun_cons hrun
      rw [ih hrest fun later hlater => hquiet later (List.mem_cons_of_mem _ hlater),
        NimbleServerEvent.apply_quiet (hquiet event (List.mem_cons_self _ _)) hmiddle]

/-- A run on slot 0 (a connect, a download request fed directly and one drained from the
transport) leaves slot 1 as it was. -/
theorem slot_one_untouched_by_slot_zero :
    let start := (nimbleServerReInitWithGame
      (nimbleServerInit NimbleServer.zeroed ⟨2, 4, 2, 4, 100, 0⟩).1 [0xAA] 0 0).1
    ∃ (events : List NimbleServerEvent) (after : NimbleServer),
      events = [.connectionConnected 0,
        .feed ⟨false, false, 0⟩ 0 [0, 0, 3, 0] ⟨fun octets => octets.length⟩,
        .update ⟨false, false, 0⟩ ⟨[.datagram 0 [0, 1, 3, 1]], fun _ octets => octets.length, []⟩ 1] ∧
      nimbleServerRun 90 events start = some after ∧
      (∀ event ∈ events, event.names 1 = false) ∧
      after.transportConnections 1 = start.transportConnections 1 :=
  ⟨_, _, rfl, (fun hrun => ⟨hrun, by decide, transportConnection_untouched_along_runs hrun (by decide)⟩) rfl⟩

/-! ## Slots in use -/

/-- How a slot may change from one state to a later one: it keeps its id, and once in use it
stays in use. -/
structure NimbleServerTransportConnection.Evolves (before after : NimbleServerTransportConnection) :
    Prop where
  transportConnectionId_eq : after.transportConnectionId = before.transportConnectionId
  isUsed_of_isUsed : before.isUsed = true → after.isUsed = true

namespace NimbleServerTransportConnection

theorem Evolves.refl (transportConnection : NimbleServerTransportConnection) :
    transportConnection.Evolves transportConnection :=
  ⟨rfl, id⟩

theorem Evolves.trans {first middle last : NimbleServerTransportConnection}
    (h₁ : first.Evolves middle) (h₂ : middle.Evolves last) : first.Evolves last :=
  ⟨h₂.transportConnectionId_eq.trans h₁.transportConnectionId_eq,
    h₂.isUsed_of_isUsed ∘ h₁.isUsed_of_isUsed⟩

theorem Keeps.evolves {before after : NimbleServerTransportConnection} (h : before.Keeps after) :
    before.Evolves after :=
  ⟨h.transportConnectionId_eq, fun hused => h.isUsed_eq.trans hused⟩

end NimbleServerTransportConnection

open NimbleServerTransportConnection

/-! ## Relations every call keeps slot by slot -/

/-- Each slot of one server is related by `R` to the same slot of another. -/
def NimbleServer.SlotsRelate (R : NimbleServerTransportConnection → NimbleServerTransportConnection → Prop)
    (before after : NimbleServer) : Prop :=
  ∀ slot, R (before.transportConnections slot) (after.transportConnections slot)

section SlotsRelate

variable {R : NimbleServerTransportConnection → NimbleServerTransportConnection → Prop}

theorem NimbleServer.SlotsRelate.refl (hrefl : ∀ transportConnection, R transportConnection transportConnection)
    (server : NimbleServer) : server.SlotsRelate R server :=
  fun _ => hrefl _

/-- A disconnect writes only the ordered-in logic of the slot it names. -/
theorem nimbleServerConnectionDisconnected_slotsRelate
    (hrefl : ∀ transportConnection, R transportConnection transportConnection)
    (hreceived : ∀ transportConnection inLogic,
      R transportConnection { transportConnection with orderedDatagramInLogic := inLogic })
    {self after : NimbleServer} {connectionIndex : UInt8} {result : Int}
    (h : nimbleServerConnectionDisconnected self connectionIndex = .ok (after, result)) :
    self.SlotsRelate R after := by
  rcases nimbleServerConnectionDisconnected_eq_ok h with ⟨rfl, -⟩ | ⟨-, disconnected, -, -, -, rfl⟩
  · exact .refl hrefl _
  intro slot
  by_cases hsame : slot = disconnected
  · subst hsame
    rw [setTransportConnection_same]
    exact hreceived _ _
  · rw [setTransportConnection_other _ _ _ hsame]
    exact hrefl _

/-- A connect writes only the slot it initialises. -/
theorem nimbleServerConnectionConnected_slotsRelate
    (hrefl : ∀ transportConnection, R transportConnection transportConnection)
    (hinit : ∀ transportConnection,
      R transportConnection (transportConnectionInit { transportConnection with isUsed := true }))
    {self after : NimbleServer} {connectionIndex : UInt8} {result : Int}
    (h : nimbleServerConnectionConnected self connectionIndex = .ok (after, result)) :
    self.SlotsRelate R after := by
  obtain ⟨connected, -, ⟨-, rfl, -⟩ | ⟨-, -, rfl⟩⟩ := nimbleServerConnectionConnected_eq_ok h
  · exact .refl hrefl _
  intro slot
  by_cases hsame : slot = connected
  · subst hsame
    rw [setTransportConnection_same]
    exact hinit _
  · rw [setTransportConnection_other _ _ _ hsame]
    exact hrefl _

/-- A drain is a sequence of connects and feeds. -/
theorem nimbleServerReadFromMultiTransport_slotsRelate (context : NimbleServerFeedContext)
    (hrefl : ∀ transportConnection, R transportConnection transportConnection)
    (htrans : ∀ first middle last, R first middle → R middle last → R first last)
    (hinit : ∀ transportConnection,
      R transportConnection (transportConnectionInit { transportConnection with isUsed := true }))
    (hfeed : ∀ context self connectionIndex data response fed,
      nimbleServerFeed nbsWindowSize context self connectionIndex data response = .ok fed →
        self.SlotsRelate R fed.server)
    {self after : NimbleServer} {transport transport' : DatagramTransportMulti} {result : Int}
    (h : nimbleServerReadFromMultiTransport nbsWindowSize context self transport =
      .ok (after, transport', result)) :
    self.SlotsRelate R after :=
  nimbleServerReadFromMultiTransportLoop_induction context (NimbleServer.SlotsRelate R) (.refl hrefl)
    (fun _ _ _ h₁ h₂ slot => htrans _ _ _ (h₁ slot) (h₂ slot))
    (fun _ _ _ _ => nimbleServerConnectionConnected_slotsRelate hrefl hinit) (hfeed context) h

/-- **Every event keeps a slot relation that a receipt, `transportConnectionInit` and every feed
keep.**  Only a connect, a disconnect and a feed write a slot (a drain through the first and the
last); a connect initialises the slot, a disconnect writes only its ordered-in logic, and a
re-init or a new game state writes no slot. -/
theorem NimbleServerEvent.apply_slotsRelate
    (hrefl : ∀ transportConnection, R transportConnection transportConnection)
    (htrans : ∀ first middle last, R first middle → R middle last → R first last)
    (hreceived : ∀ transportConnection inLogic,
      R transportConnection { transportConnection with orderedDatagramInLogic := inLogic })
    (hinit : ∀ transportConnection,
      R transportConnection (transportConnectionInit { transportConnection with isUsed := true }))
    (hfeed : ∀ context self connectionIndex data response fed,
      nimbleServerFeed nbsWindowSize context self connectionIndex data response = .ok fed →
        self.SlotsRelate R fed.server)
    {event : NimbleServerEvent} {self after : NimbleServer}
    (h : event.apply nbsWindowSize self = some after) : self.SlotsRelate R after := by
  cases event with
  | feed =>
      obtain ⟨fed, hfed, rfl⟩ := except_toOption_map_eq_some.mp h
      exact hfeed _ _ _ _ _ _ hfed
  | connectionConnected =>
      obtain ⟨⟨_, _⟩, hconnected, rfl⟩ := except_toOption_map_eq_some.mp h
      exact nimbleServerConnectionConnected_slotsRelate hrefl hinit hconnected
  | connectionDisconnected =>
      obtain ⟨⟨_, _⟩, hdisconnected, rfl⟩ := except_toOption_map_eq_some.mp h
      exact nimbleServerConnectionDisconnected_slotsRelate hrefl hreceived hdisconnected
  | readFromMultiTransport context =>
      obtain ⟨⟨_, _, _⟩, hdrained, rfl⟩ := except_toOption_map_eq_some.mp h
      exact nimbleServerReadFromMultiTransport_slotsRelate context hrefl htrans hinit hfeed hdrained
  | update context =>
      obtain ⟨⟨_, _, _⟩, hupdated, rfl⟩ := except_toOption_map_eq_some.mp h
      obtain ⟨_, _, hdrained, rfl⟩ := nimbleServerUpdate_eq_ok hupdated
      exact (nimbleServerReadFromMultiTransport_slotsRelate context hrefl htrans hinit hfeed hdrained :)
  | reInitWithGame | setDebugIsFrozen => cases h; exact .refl hrefl _
  | setGameState =>
      cases h
      unfold nimbleServerSetGameState
      split <;> exact .refl hrefl _

/-- Along every run, each slot is related by `R` to its start, for a slot relation every call
keeps. -/
theorem slotsRelate_along_runs
    (hrefl : ∀ transportConnection, R transportConnection transportConnection)
    (htrans : ∀ first middle last, R first middle → R middle last → R first last)
    (hreceived : ∀ transportConnection inLogic,
      R transportConnection { transportConnection with orderedDatagramInLogic := inLogic })
    (hinit : ∀ transportConnection,
      R transportConnection (transportConnectionInit { transportConnection with isUsed := true }))
    (hfeed : ∀ context self connectionIndex data response fed,
      nimbleServerFeed nbsWindowSize context self connectionIndex data response = .ok fed →
        self.SlotsRelate R fed.server)
    {events : List NimbleServerEvent} {self after : NimbleServer}
    (hrun : nimbleServerRun nbsWindowSize events self = some after) : self.SlotsRelate R after :=
  nimbleServerRun_invariant (self.SlotsRelate R)
    (fun _ _ _ hrelate happly slot => htrans _ _ _ (hrelate slot)
      (NimbleServerEvent.apply_slotsRelate hrefl htrans hreceived hinit hfeed happly slot))
    events (.refl hrefl _) hrun

end SlotsRelate

/-! ## No slot is freed -/

theorem nimbleServerFeed_evolves {context : NimbleServerFeedContext} {self : NimbleServer}
    {connectionIndex : UInt8} {data : List UInt8} {response : DatagramTransportOut}
    {fed : NimbleServerFeedResult}
    (h : nimbleServerFeed nbsWindowSize context self connectionIndex data response = .ok fed) :
    self.SlotsRelate Evolves fed.server := by
  intro slot
  by_cases hslot : slot.val = connectionIndex.toNat
  · exact (nimbleServerFeed_keeps h hslot).evolves
  · rw [nimbleServerFeed_other h hslot]
    exact .refl _

/-- **No slot is ever freed.**  Along every run, every slot keeps its id, and a slot in use stays
in use: no event, a disconnect included, marks a slot unused again. -/
theorem transportConnection_evolves_along_runs {events : List NimbleServerEvent}
    {self after : NimbleServer} (hrun : nimbleServerRun nbsWindowSize events self = some after)
    (slot : TransportSlot) :
    (self.transportConnections slot).Evolves (after.transportConnections slot) :=
  slotsRelate_along_runs Evolves.refl (fun _ _ _ => Evolves.trans)
    (fun _ _ => (Keeps.received _ _).evolves) (fun _ => ⟨rfl, fun _ => rfl⟩)
    (fun _ _ _ _ _ _ => nimbleServerFeed_evolves) hrun slot

/-- Slot 0 connected, joined and disconnected: it is still in use. -/
theorem slot_zero_evolves_through_disconnect :
    let start := (nimbleServerReInitWithGame
      (nimbleServerInit NimbleServer.zeroed ⟨2, 4, 2, 4, 100, 0⟩).1 [0xAA] 0 0).1
    ∃ after, nimbleServerRun 90 [.connectionConnected 0,
        .feed ⟨false, false, 0⟩ 0 [0, 0, 1, 1, 0] ⟨fun octets => octets.length⟩,
        .connectionDisconnected 0] start = some after ∧
      (start.transportConnections 0).Evolves (after.transportConnections 0) :=
  ⟨_, (fun hrun => ⟨hrun, transportConnection_evolves_along_runs hrun 0⟩) rfl⟩

/-! ## The phase -/

/-- The phases a slot may move to: it keeps its phase, or one of the only two writes of the phase
sets it, `transportConnectionInit` to idle and `transportConnectionSetGameStateTickId` to the
initial state determined. -/
def NbTransportConnectionPhase.Reaches (before after : NbTransportConnectionPhase) : Prop :=
  after = before ∨ after = .idle ∨ after = .initialStateDetermined

instance : DecidableRel NbTransportConnectionPhase.Reaches :=
  fun _ _ => inferInstanceAs (Decidable (_ ∨ _))

namespace NbTransportConnectionPhase

theorem Reaches.refl (phase : NbTransportConnectionPhase) : phase.Reaches phase :=
  .inl rfl

theorem Reaches.trans {first middle last : NbTransportConnectionPhase}
    (h₁ : first.Reaches middle) (h₂ : middle.Reaches last) : first.Reaches last := by
  rcases h₂ with rfl | h₂ | h₂
  · exact h₁
  · exact .inr (.inl h₂)
  · exact .inr (.inr h₂)

/-- Only a slot already waiting for a reconnect reaches that phase. -/
theorem Reaches.ne_waitingForReconnect {before after : NbTransportConnectionPhase}
    (h : before.Reaches after) (hbefore : before ≠ .waitingForReconnect) :
    after ≠ .waitingForReconnect := by
  rcases h with rfl | rfl | rfl
  · exact hbefore
  all_goals exact nofun

end NbTransportConnectionPhase

open NbTransportConnectionPhase

/-- A download request that reads its request id fixes the slot's phase at the initial state
determined. -/
theorem nbdReqDownloadGameState_phase (transportConnection : NimbleServerTransportConnection)
    (foundGame : NimbleServerGame) (inStream : FldInStream) (outStream : FldOutStream) :
    transportConnection.phase.Reaches
      (nbdReqDownloadGameState transportConnection foundGame inStream outStream).1.phase := by
  rcases nbdReqDownloadGameState_frame transportConnection foundGame inStream outStream with
    hframe | ⟨_, hframe⟩ <;> rw [hframe]
  · exact .refl _
  · exact .inr (.inr rfl)

/-- A GameStep request and a join keep the slot's phase; a download request may fix it at the
initial state determined. -/
theorem nimbleServerFeedDispatch_phase {self : NimbleServer}
    {transportConnection : NimbleServerTransportConnection} {cmd : UInt8} {inStream : FldInStream}
    {outStream : FldOutStream} {request : NimbleServerReqResult}
    (h : nimbleServerFeedDispatch nbsWindowSize self transportConnection cmd inStream outStream =
      some request) :
    transportConnection.phase.Reaches request.transportConnection.phase := by
  unfold nimbleServerFeedDispatch at h
  split_ifs at h <;> cases h
  · obtain ⟨_, _, _, hframe⟩ := nimbleServerReqGameStep_frame self.game self.connections
      transportConnection self.authoritativeStepsPerSecondStat inStream outStream
    rw [hframe]
    exact .refl _
  · rcases nbdReqGameJoin_frame self transportConnection inStream outStream with
      hframe | ⟨_, hframe⟩ <;> rw [hframe] <;> exact .refl _
  · exact nbdReqDownloadGameState_phase _ _ _ _

theorem nimbleServerFeedReply_phase (self : NimbleServer) (slot : TransportSlot)
    (request : NimbleServerReqResult) (response : DatagramTransportOut) :
    ((nimbleServerFeedReply self slot request response).server.transportConnections slot).phase =
      request.transportConnection.phase := by
  unfold nimbleServerFeedReply
  dsimp only
  split_ifs <;> simp

/-- A feed moves only its own slot's phase, and only through a download request. -/
theorem nimbleServerFeed_phase {context : NimbleServerFeedContext} {self : NimbleServer}
    {connectionIndex : UInt8} {data : List UInt8} {response : DatagramTransportOut}
    {fed : NimbleServerFeedResult}
    (h : nimbleServerFeed nbsWindowSize context self connectionIndex data response = .ok fed) :
    self.SlotsRelate (fun before after => before.phase.Reaches after.phase) fed.server := by
  intro slot
  by_cases hslot : slot.val = connectionIndex.toNat
  case neg =>
    rw [nimbleServerFeed_other h hslot]
    exact .refl _
  obtain ⟨_, hat, rfl⟩ := nimbleServerFeed_slot h hslot
  rcases nimbleServerFeed_eq_ok h with ⟨-, rfl⟩ | ⟨slot', transportConnection, hat', hcases⟩
  · exact .refl _
  obtain ⟨rfl, rfl⟩ := Prod.mk.inj (Except.ok.inj (hat.symm.trans hat'))
  dsimp only at hcases
  rcases hcases with ⟨-, rfl⟩ | ⟨-, request, hdispatch, rfl⟩ | ⟨-, -, rfl⟩
  · obtain ⟨_, hack⟩ := nbdReqDownloadGameStateAck_frame _ _ _
    rw [setTransportConnection_same, hack]
    exact .refl _
  · rw [nimbleServerFeedReply_phase]
    exact (nimbleServerFeedDispatch_phase hdispatch :)
  · rw [setTransportConnection_same]
    exact .refl _

/-- **No slot comes to wait for a reconnect.**  The phase of a slot is written in two places
only, to idle by `transportConnectionInit` on a connect and to the initial state determined by
`transportConnectionSetGameStateTickId` on a download request; a disconnect leaves it as it was.
So along every run each slot ends in the phase it started in, idle, or the initial state
determined, and a slot that was not waiting for a reconnect never comes to. -/
theorem transportConnection_phase_along_runs {events : List NimbleServerEvent}
    {self after : NimbleServer} (hrun : nimbleServerRun nbsWindowSize events self = some after)
    (slot : TransportSlot) :
    (self.transportConnections slot).phase.Reaches (after.transportConnections slot).phase ∧
      ((self.transportConnections slot).phase ≠ .waitingForReconnect →
        (after.transportConnections slot).phase ≠ .waitingForReconnect) := by
  have hreaches := @slotsRelate_along_runs nbsWindowSize
    (fun before after => before.phase.Reaches after.phase) (fun _ => .refl _)
    (fun _ _ _ => Reaches.trans) (fun _ _ => .refl _)
    (fun _ => .inr (.inl rfl))
    (fun _ _ _ _ _ _ => nimbleServerFeed_phase) events self after hrun
  exact ⟨hreaches slot, (hreaches slot).ne_waitingForReconnect⟩

/-- Slot 0 connects, joins, asks for the game state and disconnects: it does not come to wait for
a reconnect. -/
theorem slot_zero_keeps_phase_through_disconnect :
    let start := (nimbleServerReInitWithGame
      (nimbleServerInit NimbleServer.zeroed ⟨2, 4, 2, 4, 100, 0⟩).1 [0xAA] 0 0).1
    ∃ after, nimbleServerRun 90 [.connectionConnected 0,
        .feed ⟨false, false, 0⟩ 0 [0, 0, 1, 1, 0] ⟨fun octets => octets.length⟩,
        .feed ⟨false, false, 0⟩ 0 [0, 1, 3, 0] ⟨fun octets => octets.length⟩,
        .connectionDisconnected 0] start = some after ∧
      ((start.transportConnections 0).phase.Reaches (after.transportConnections 0).phase ∧
        ((start.transportConnections 0).phase ≠ .waitingForReconnect →
          (after.transportConnections 0).phase ≠ .waitingForReconnect)) :=
  ⟨_, (fun hrun => ⟨hrun, transportConnection_phase_along_runs hrun 0⟩) rfl⟩

end NimbleServerLib
