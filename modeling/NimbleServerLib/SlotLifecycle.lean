import NimbleServerLib.Feed
import NimbleServerLib.Run

/-!
# Transport slots across connects and disconnects

A transport slot is the server's record of one client address.  `nimbleServerConnectionConnected`
initialises an unused slot and marks it used; a datagram on an unused slot does the same through
the drain.  `nimbleServerConnectionDisconnected` is meant to undo it, but it only frees the
participant connection bound to the slot and makes the slot's ordered-in logic wait for a first
datagram again (`nimbleServerConnectionDisconnected_slot`):

* the slot stays in use, keeps its phase and its step cursor, and a later connect on it is refused
  with `-44`, so the next client on that address is served from the previous client's slot
  (`disconnect_keeps_slot_in_use`);
* the slot keeps its pointer to the participant connection it just freed, which the pool hands to
  the next joiner on another slot, so two slots then point to one participant connection
  (`two_slots_share_participant_connection`).
-/

namespace NimbleServerLib

/-! ## What a disconnect writes -/

/-- A disconnect leaves every slot in use as it was, in its phase, at its step cursor and with its
participant connection. -/
theorem nimbleServerConnectionDisconnected_slot {self after : NimbleServer}
    {connectionIndex : UInt8} {result : Int}
    (h : nimbleServerConnectionDisconnected self connectionIndex = .ok (after, result))
    (slot : TransportSlot) :
    (after.transportConnections slot).isUsed = (self.transportConnections slot).isUsed ∧
      (after.transportConnections slot).phase = (self.transportConnections slot).phase ∧
      (after.transportConnections slot).nextAuthoritativeStepIdToSend =
        (self.transportConnections slot).nextAuthoritativeStepIdToSend ∧
      (after.transportConnections slot).assignedParticipantConnection =
        (self.transportConnections slot).assignedParticipantConnection := by
  rcases nimbleServerConnectionDisconnected_eq_ok h with ⟨rfl, -⟩ | ⟨index, disconnected, -, -, -, rfl⟩
  · exact ⟨rfl, rfl, rfl, rfl⟩
  · by_cases hslot : slot = disconnected
    · subst hslot
      simp
    · simp [setTransportConnection_other _ _ _ hslot]

/-! ## Runs that break the slot invariants -/

/-- **A disconnected slot stays in use.**  A client connects on slot 0, joins and asks for the game
state; the disconnect succeeds, yet the slot is still in use, still past its initial state with its
step cursor at the game state's step, and a new connect on it is refused with `-44`. -/
theorem disconnect_keeps_slot_in_use :
    (nimbleServerInit NimbleServer.zeroed ⟨2, 4, 2, 4, 100, 0⟩).2 = 0 ∧
      ∃ joined after,
        nimbleServerRun 90
            [.reInitWithGame [0xAA] 0 0, .connectionConnected 0,
              .feed ⟨false, false, 0⟩ 0 [0, 0, 1, 1, 0] ⟨fun octets => octets.length⟩,
              .feed ⟨false, false, 0⟩ 0 [0, 1, 3, 0] ⟨fun octets => octets.length⟩]
            (nimbleServerInit NimbleServer.zeroed ⟨2, 4, 2, 4, 100, 0⟩).1 = some joined ∧
        nimbleServerConnectionDisconnected joined 0 = .ok (after, 0) ∧
        (after.transportConnections 0).isUsed = true ∧
        (after.transportConnections 0).phase = .initialStateDetermined ∧
        (after.transportConnections 0).nextAuthoritativeStepIdToSend = 0 ∧
        nimbleServerConnectionConnected after 0 = .ok (after, -44) :=
  ⟨rfl, _, _, rfl, rfl, rfl, rfl, rfl, rfl⟩

/-- **Two slots point to one participant connection.**  A client joins on slot 0 and disconnects;
the pool frees participant connection 0 but slot 0 keeps pointing to it.  A client on slot 1 then
joins and is given participant connection 0, now bound to slot 1, while slot 0 still points to
it. -/
theorem two_slots_share_participant_connection :
    (nimbleServerInit NimbleServer.zeroed ⟨2, 4, 2, 4, 100, 0⟩).2 = 0 ∧
      ∃ self,
        nimbleServerRun 90
            [.reInitWithGame [0xAA] 0 0, .connectionConnected 0,
              .feed ⟨false, false, 0⟩ 0 [0, 0, 1, 1, 0] ⟨fun octets => octets.length⟩,
              .connectionDisconnected 0, .connectionConnected 1,
              .feed ⟨false, false, 0⟩ 1 [0, 0, 1, 1, 0] ⟨fun octets => octets.length⟩]
            (nimbleServerInit NimbleServer.zeroed ⟨2, 4, 2, 4, 100, 0⟩).1 = some self ∧
        (self.transportConnections 0).assignedParticipantConnection = some 0 ∧
        (self.transportConnections 1).assignedParticipantConnection = some 0 ∧
        (self.connections.connections.get? 0).map (·.transportConnectionId) = some (some 1) :=
  ⟨rfl, _, rfl, rfl, rfl, rfl⟩

end NimbleServerLib
