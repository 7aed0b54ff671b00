import Mathlib.Data.BitVec

/-!
# The step ring of nimble-steps

`NbsSteps` is the ring of consecutively numbered steps that the server keeps in two places: one
per participant connection, for the predicted steps its client sends, and one in the game, for the
authoritative steps the server composes.  The nimble-steps library is not under `src/`, so its
operations are modelled from the spec (section 4.1): `append` fails unless the step id is the
expected write id and the ring has room, `discardCount` advances the read id and fails past the
stored count, and `reInit` empties the ring at a start id.

## The ring as a list

The model keeps the stored steps oldest first, each with the id it was written at.  The invariant
`NbsSteps.Valid` then says what the ring holds and not only how many: exactly the ids
`expectedReadId, expectedReadId + 1, …` up to `expectedWriteId`, and at most `NBS_WINDOW_SIZE` of
them.  The window size is a constant of nimble-steps that the spec leaves open, so every operation
that needs it takes it as the parameter `nbsWindowSize`.

Step ids are `uint32_t` and their arithmetic wraps, so they are `BitVec 32` here and a run of ids
may cross `2^32`.
-/

namespace NimbleServerLib

/-- `StepId`, the 32-bit tick index of nimble-steps; its arithmetic wraps. -/
abbrev StepId := BitVec 32

/-- One stored step: the id it was written at and its octets. -/
structure NbsStep where
  stepId : StepId
  payload : List UInt8
  deriving DecidableEq, Repr

/-- Modelled from the spec: the `NbsSteps` ring of nimble-steps, which is not under `src/`.
`steps` lists the stored steps oldest first. -/
structure NbsSteps where
  steps : List NbsStep
  stepsCount : Nat
  expectedReadId : StepId
  expectedWriteId : StepId
  deriving DecidableEq, Repr

namespace NbsSteps

/-- The failure of `nbsStepsWrite` when the step id is not the expected write id. -/
def errWrongStepId : Int := -1

/-- The failure of `nbsStepsWrite` when the ring is full. -/
def errFull : Int := -2

/-- The failure of `nbsStepsDiscardCount` when fewer steps are stored than asked for. -/
def errDiscardTooMany : Int := -3

end NbsSteps

open NbsSteps

/-- Modelled from the spec: `nbsStepsReInit`, an empty ring whose next id is `initialId`. -/
def nbsStepsReInit (initialId : StepId) : NbsSteps :=
  ⟨[], 0, initialId, initialId⟩

/-- Modelled from the spec: `nbsStepsWrite` appends a step at the expected write id, and only
when the ring has room. -/
def nbsStepsWrite (nbsWindowSize : Nat) (self : NbsSteps) (stepId : StepId)
    (payload : List UInt8) : Except Int NbsSteps :=
  if stepId ≠ self.expectedWriteId then .error errWrongStepId
  else if nbsWindowSize ≤ self.stepsCount then .error errFull
  else .ok { self with
    steps := self.steps ++ [⟨stepId, payload⟩]
    stepsCount := self.stepsCount + 1
    expectedWriteId := self.expectedWriteId + 1 }

/-- Modelled from the spec: `nbsStepsDiscardCount` drops the `count` oldest steps and advances the
read id by `count`. -/
def nbsStepsDiscardCount (self : NbsSteps) (count : Nat) : Except Int NbsSteps :=
  if self.stepsCount < count then .error errDiscardTooMany
  else .ok { self with
    steps := self.steps.drop count
    stepsCount := self.stepsCount - count
    expectedReadId := self.expectedReadId + BitVec.ofNat 32 count }

/-- Modelled from the spec: `nbsStepsRead` takes the oldest step out of the ring. -/
def nbsStepsRead (self : NbsSteps) : Option (NbsStep × NbsSteps) :=
  match self.steps with
  | [] => none
  | step :: rest => some (step, { self with
      steps := rest
      stepsCount := self.stepsCount - 1
      expectedReadId := self.expectedReadId + 1 })

/-! ### What a well-formed ring holds -/

/-- The ids `first, first + 1, …` of `count` consecutive steps, wrapping at `2^w`: `2^32` for step
ids, `2^16` for the ids of ordered datagrams. -/
def stepIdsFrom {w : Nat} (first : BitVec w) : Nat → List (BitVec w)
  | 0 => []
  | count + 1 => first :: stepIdsFrom (first + 1) count

/-- The ring holds exactly the consecutive ids from `expectedReadId` up to `expectedWriteId`, and
no more than the window. -/
structure NbsSteps.Valid (nbsWindowSize : Nat) (ring : NbsSteps) : Prop where
  count_eq : ring.steps.length = ring.stepsCount
  ids_eq : ring.steps.map NbsStep.stepId = stepIdsFrom ring.expectedReadId ring.stepsCount
  write_eq : ring.expectedWriteId = ring.expectedReadId + BitVec.ofNat 32 ring.stepsCount
  count_le : ring.stepsCount ≤ nbsWindowSize

@[simp] theorem stepIdsFrom_length {w : Nat} (first : BitVec w) (count : Nat) :
    (stepIdsFrom first count).length = count := by
  induction count generalizing first with
  | zero => rfl
  | succ count ih => simp [stepIdsFrom, ih]

theorem ofNat_succ_eq {w : Nat} (first : BitVec w) (count : Nat) :
    first + 1 + BitVec.ofNat w count = first + BitVec.ofNat w (count + 1) := by
  rw [BitVec.ofNat_add, BitVec.add_assoc, BitVec.add_comm 1]
  rfl

theorem stepIdsFrom_succ {w : Nat} (first : BitVec w) (count : Nat) :
    stepIdsFrom first (count + 1) = stepIdsFrom first count ++ [first + BitVec.ofNat w count] := by
  induction count generalizing first with
  | zero => simp [stepIdsFrom]
  | succ count ih =>
      rw [stepIdsFrom, ih, stepIdsFrom, ofNat_succ_eq]
      rfl

theorem stepIdsFrom_add {w : Nat} (first : BitVec w) (count more : Nat) :
    stepIdsFrom first (count + more) =
      stepIdsFrom first count ++ stepIdsFrom (first + BitVec.ofNat w count) more := by
  induction count generalizing first with
  | zero => simp [stepIdsFrom]
  | succ count ih => rw [Nat.succ_add, stepIdsFrom, stepIdsFrom, ih, ofNat_succ_eq]; rfl

theorem stepIdsFrom_eq_map {w : Nat} (first : BitVec w) (count : Nat) :
    stepIdsFrom first count = (List.range count).map (first + BitVec.ofNat w ·) := by
  induction count with
  | zero => rfl
  | succ count ih => rw [stepIdsFrom_succ, ih, List.range_succ, List.map_append]; rfl

/-- Consecutive ids repeat exactly when there are more of them than the id space holds. -/
theorem stepIdsFrom_nodup_iff {w : Nat} (first : BitVec w) (count : Nat) :
    (stepIdsFrom first count).Nodup ↔ count ≤ 2 ^ w := by
  rw [stepIdsFrom_eq_map]
  constructor
  · intro hnodup
    by_contra hmore
    have hpos := Nat.two_pow_pos w
    have hwrap : first + BitVec.ofNat w 0 = first + BitVec.ofNat w (2 ^ w) :=
      congrArg (first + ·) (BitVec.eq_of_toNat_eq (by simp))
    have := List.inj_on_of_nodup_map hnodup (by simp; omega) (by simp; omega) hwrap
    exact absurd this hpos.ne
  · intro hle
    refine (List.nodup_range count).map_on fun i hi j hj hij => ?_
    have hij' := congrArg BitVec.toNat (add_left_cancel hij)
    simp only [BitVec.toNat_ofNat, List.mem_range] at hij' hi hj
    rwa [Nat.mod_eq_of_lt (by omega), Nat.mod_eq_of_lt (by omega)] at hij'

theorem stepIdsFrom_drop {w : Nat} (first : BitVec w) (count dropped : Nat) :
    (stepIdsFrom first count).drop dropped =
      stepIdsFrom (first + BitVec.ofNat w dropped) (count - dropped) := by
  induction dropped generalizing first count with
  | zero => simp
  | succ dropped ih =>
      cases count with
      | zero => simp [stepIdsFrom]
      | succ count =>
          rw [stepIdsFrom, List.drop_succ_cons, ih, ofNat_succ_eq, Nat.succ_sub_succ]

@[simp] theorem nbsStepsReInit_valid (nbsWindowSize : Nat) (initialId : StepId) :
    (nbsStepsReInit initialId).Valid nbsWindowSize :=
  ⟨rfl, rfl, by simp [nbsStepsReInit], Nat.zero_le _⟩

/-! ### One lemma per operation -/

theorem nbsStepsWrite_eq_ok {nbsWindowSize : Nat} {self after : NbsSteps} {stepId : StepId}
    {payload : List UInt8} :
    nbsStepsWrite nbsWindowSize self stepId payload = .ok after ↔
      stepId = self.expectedWriteId ∧ self.stepsCount < nbsWindowSize ∧
        after = { self with
          steps := self.steps ++ [⟨stepId, payload⟩]
          stepsCount := self.stepsCount + 1
          expectedWriteId := self.expectedWriteId + 1 } := by
  unfold nbsStepsWrite
  by_cases hid : stepId = self.expectedWriteId <;> by_cases hfull : nbsWindowSize ≤ self.stepsCount <;>
    simp [hid, hfull, eq_comm]
  omega

theorem nbsStepsDiscardCount_of_le {self : NbsSteps} {count : Nat} (h : count ≤ self.stepsCount) :
    nbsStepsDiscardCount self count = .ok { self with
      steps := self.steps.drop count
      stepsCount := self.stepsCount - count
      expectedReadId := self.expectedReadId + BitVec.ofNat 32 count } := by
  simp [nbsStepsDiscardCount, Nat.not_lt.mpr h]

theorem NbsSteps.Valid.write {nbsWindowSize : Nat} {self after : NbsSteps} {stepId : StepId}
    {payload : List UInt8} (hv : self.Valid nbsWindowSize)
    (h : nbsStepsWrite nbsWindowSize self stepId payload = .ok after) :
    after.Valid nbsWindowSize := by
  obtain ⟨rfl, hroom, rfl⟩ := nbsStepsWrite_eq_ok.mp h
  refine ⟨by simp [hv.count_eq], ?_, by rw [hv.write_eq, BitVec.ofNat_add, BitVec.add_assoc]; rfl, hroom⟩
  simp [stepIdsFrom_succ, hv.ids_eq, hv.write_eq]

theorem NbsSteps.Valid.discard {nbsWindowSize : Nat} {self : NbsSteps} {count : Nat}
    (hv : self.Valid nbsWindowSize) (h : count ≤ self.stepsCount) :
    { self with
      steps := self.steps.drop count
      stepsCount := self.stepsCount - count
      expectedReadId := self.expectedReadId + BitVec.ofNat 32 count }.Valid nbsWindowSize := by
  refine ⟨by simp [hv.count_eq], ?_, ?_, Nat.le_trans (Nat.sub_le _ _) hv.count_le⟩
  · simp only [List.map_drop, hv.ids_eq, stepIdsFrom_drop]
  · simp only [hv.write_eq]
    rw [BitVec.add_assoc, ← BitVec.ofNat_add, Nat.add_sub_cancel' h]

theorem NbsSteps.Valid.read {nbsWindowSize : Nat} {self after : NbsSteps} {step : NbsStep}
    (hv : self.Valid nbsWindowSize) (h : nbsStepsRead self = some (step, after)) :
    after.Valid nbsWindowSize ∧ step.stepId = self.expectedReadId := by
  unfold nbsStepsRead at h
  split at h
  · cases h
  · rename_i first rest hsteps
    obtain ⟨rfl, rfl⟩ := Option.some.inj h |> Prod.mk.inj
    have hcount : self.stepsCount = rest.length + 1 := by simp [← hv.count_eq, hsteps]
    have hids := hv.ids_eq
    rw [hsteps, hcount, stepIdsFrom, List.map_cons, List.cons.injEq] at hids
    refine ⟨⟨by simp only; omega, by simpa [hcount] using hids.2, ?_,
      Nat.le_trans (Nat.sub_le _ _) hv.count_le⟩, hids.1⟩
    simp only [hv.write_eq, hcount]
    rw [Nat.add_sub_cancel, ofNat_succ_eq]

end NimbleServerLib
