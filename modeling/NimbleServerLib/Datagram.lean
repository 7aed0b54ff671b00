import NimbleServerLib.Steps

/-!
# Octet streams and ordered datagrams

`nimbleServerFeed` reads a datagram through a flood `FldInStream`, writes its reply through a
`FldOutStream`, and frames both with the ordered-datagram logic of the transport slot.  Neither
flood nor ordered-datagram is under `src/`; both are modelled from the spec.

* A stream read past the end fails and leaves the stream where it was; multi-octet values are
  big-endian.
* The ordered-datagram header is two octets, a 16-bit sequence id: `server.c` reads the command
  at `data[2]` and treats a reply of at most two octets as header only.  The receiving side
  accepts the first datagram and then any datagram whose id is not behind the expected one, and
  drops the rest (spec section 4.7, "drops out-of-order/duplicate"); the sending side writes its
  id on prepare and moves to the next id on commit.

`decodeBigEndian_encodeBigEndian` is the round trip the two sides of a stream rely on.
-/

namespace NimbleServerLib

/-! ### Big-endian octets -/

/-- The value of octets read most significant first. -/
def decodeBigEndian (octets : List UInt8) : Nat :=
  octets.foldl (fun value octet => value * 256 + octet.toNat) 0

/-- The `count` low octets of `value`, most significant first. -/
def encodeBigEndian : Nat → Nat → List UInt8
  | 0, _ => []
  | count + 1, value => encodeBigEndian count (value / 256) ++ [UInt8.ofNat (value % 256)]

@[simp] theorem encodeBigEndian_length (count value : Nat) :
    (encodeBigEndian count value).length = count := by
  induction count generalizing value with
  | zero => rfl
  | succ count ih => simp [encodeBigEndian, ih]

theorem decodeBigEndian_append_octet (octets : List UInt8) (octet : UInt8) :
    decodeBigEndian (octets ++ [octet]) = decodeBigEndian octets * 256 + octet.toNat := by
  simp [decodeBigEndian]

theorem decodeBigEndian_encodeBigEndian (count value : Nat) :
    decodeBigEndian (encodeBigEndian count value) = value % 256 ^ count := by
  induction count generalizing value with
  | zero => simp [encodeBigEndian, decodeBigEndian, Nat.mod_one]
  | succ count ih =>
      have hoctet : (UInt8.ofNat (value % 256)).toNat = value % 256 := by
        simp [UInt8.toNat, UInt8.ofNat, Fin.ofNat, UInt8.size]
      rw [encodeBigEndian, decodeBigEndian_append_octet, ih, hoctet, Nat.pow_succ', Nat.mod_mul]
      omega

/-! ### Flood streams -/

/-- Modelled from the spec: flood's `FldInStream`, the datagram and the read position. -/
structure FldInStream where
  octets : List UInt8
  pos : Nat
  deriving DecidableEq, Repr

/-- The failure of a flood read past the end of the stream. -/
def fldInStreamErrReadPastEnd : Int := -1

/-- The failure of a flood write past the end of the buffer. -/
def fldOutStreamErrWritePastEnd : Int := -1

/-- Modelled from the spec: `fldInStreamInit` starts reading at the first octet. -/
def fldInStreamInit (data : List UInt8) : FldInStream := ⟨data, 0⟩

/-- The `count` octets at the read position; past the end the read fails and the stream is left
where it was. -/
def fldInStreamReadOctets (self : FldInStream) (count : Nat) :
    Except Int (List UInt8 × FldInStream) :=
  if self.octets.length < self.pos + count then .error fldInStreamErrReadPastEnd
  else .ok ((self.octets.drop self.pos).take count, { self with pos := self.pos + count })

/-- Modelled from the spec: `fldInStreamReadUInt8`. -/
def fldInStreamReadUInt8 (self : FldInStream) : Except Int (UInt8 × FldInStream) := do
  let (octets, rest) ← fldInStreamReadOctets self 1
  pure (UInt8.ofNat (decodeBigEndian octets), rest)

/-- Modelled from the spec: `fldInStreamReadUInt16`. -/
def fldInStreamReadUInt16 (self : FldInStream) : Except Int (BitVec 16 × FldInStream) := do
  let (octets, rest) ← fldInStreamReadOctets self 2
  pure (BitVec.ofNat 16 (decodeBigEndian octets), rest)

/-- Modelled from the spec: `fldInStreamReadUInt32`. -/
def fldInStreamReadUInt32 (self : FldInStream) : Except Int (BitVec 32 × FldInStream) := do
  let (octets, rest) ← fldInStreamReadOctets self 4
  pure (BitVec.ofNat 32 (decodeBigEndian octets), rest)

/-- A read of more octets than the stream has left fails. -/
theorem fldInStreamReadOctets_of_lt {self : FldInStream} {count : Nat}
    (h : self.octets.length < self.pos + count) :
    fldInStreamReadOctets self count = .error fldInStreamErrReadPastEnd :=
  if_pos h

theorem fldInStreamReadUInt8_of_lt {self : FldInStream} (h : self.octets.length < self.pos + 1) :
    fldInStreamReadUInt8 self = .error fldInStreamErrReadPastEnd := by
  rw [fldInStreamReadUInt8, fldInStreamReadOctets_of_lt h]
  rfl

theorem fldInStreamReadUInt16_of_lt {self : FldInStream} (h : self.octets.length < self.pos + 2) :
    fldInStreamReadUInt16 self = .error fldInStreamErrReadPastEnd := by
  rw [fldInStreamReadUInt16, fldInStreamReadOctets_of_lt h]
  rfl

theorem fldInStreamReadUInt32_of_lt {self : FldInStream} (h : self.octets.length < self.pos + 4) :
    fldInStreamReadUInt32 self = .error fldInStreamErrReadPastEnd := by
  rw [fldInStreamReadUInt32, fldInStreamReadOctets_of_lt h]
  rfl

/-! ### Reading the field the stream has next

A reader that knows what the stream holds from its position on, `field ++ rest`, reads `field`
back and is left with `rest`: the round trip of a writer's fields through the stream. -/

theorem FldInStream.drop_advance {self : FldInStream} {field rest : List UInt8}
    (h : self.octets.drop self.pos = field ++ rest) :
    self.octets.drop (self.pos + field.length) = rest := by
  rw [← List.drop_drop, h, List.drop_left]

/-- A stream with an octet next is not past its end. -/
theorem FldInStream.pos_lt_of_drop {self : FldInStream} {octet : UInt8} {rest : List UInt8}
    (h : self.octets.drop self.pos = octet :: rest) : self.pos < self.octets.length := by
  have hlength := congrArg List.length h
  rw [List.length_drop, List.length_cons] at hlength
  omega

theorem fldInStreamReadOctets_of_drop {self : FldInStream} {field rest : List UInt8}
    (hpos : self.pos ≤ self.octets.length) (h : self.octets.drop self.pos = field ++ rest) :
    fldInStreamReadOctets self field.length =
      .ok (field, { self with pos := self.pos + field.length }) := by
  have hlength := congrArg List.length h
  rw [List.length_drop, List.length_append] at hlength
  rw [fldInStreamReadOctets, if_neg (by omega), h, List.take_left]

/-- A read of `count` octets that succeeds returns `count` octets. -/
theorem fldInStreamReadOctets_length {self rest : FldInStream} {count : Nat} {octets : List UInt8}
    (h : fldInStreamReadOctets self count = .ok (octets, rest)) : octets.length = count := by
  unfold fldInStreamReadOctets at h
  split at h
  · cases h
  · cases h
    simp only [List.length_take, List.length_drop]
    omega

theorem fldInStreamReadUInt8_of_drop {self : FldInStream} {octet : UInt8} {rest : List UInt8}
    (h : self.octets.drop self.pos = octet :: rest) :
    fldInStreamReadUInt8 self = .ok (octet, { self with pos := self.pos + 1 }) := by
  have hoctet : UInt8.ofNat octet.toNat = octet :=
    UInt8.eq_of_val_eq (Fin.ext (Nat.mod_eq_of_lt octet.val.isLt))
  have hread := @fldInStreamReadOctets_of_drop self [octet] rest
    (FldInStream.pos_lt_of_drop h).le h
  simp only [List.length_singleton] at hread
  simp [fldInStreamReadUInt8, hread, decodeBigEndian, hoctet]

theorem fldInStreamReadUInt16_of_drop {self : FldInStream} {value : BitVec 16} {rest : List UInt8}
    (h : self.octets.drop self.pos = encodeBigEndian 2 value.toNat ++ rest) :
    fldInStreamReadUInt16 self = .ok (value, { self with pos := self.pos + 2 }) := by
  have hread := fldInStreamReadOctets_of_drop
    (FldInStream.pos_lt_of_drop (by simpa [encodeBigEndian] using h)).le h
  have hvalue : BitVec.ofNat 16 (value.toNat % 65536) = value :=
    BitVec.eq_of_toNat_eq (by simpa using value.isLt)
  rw [encodeBigEndian_length] at hread
  simp [fldInStreamReadUInt16, hread, decodeBigEndian_encodeBigEndian, hvalue]

theorem fldInStreamReadUInt32_of_drop {self : FldInStream} {value : BitVec 32} {rest : List UInt8}
    (h : self.octets.drop self.pos = encodeBigEndian 4 value.toNat ++ rest) :
    fldInStreamReadUInt32 self = .ok (value, { self with pos := self.pos + 4 }) := by
  have hread := fldInStreamReadOctets_of_drop
    (FldInStream.pos_lt_of_drop (by simpa [encodeBigEndian] using h)).le h
  have hvalue : BitVec.ofNat 32 (value.toNat % 4294967296) = value :=
    BitVec.eq_of_toNat_eq (by simpa using value.isLt)
  rw [encodeBigEndian_length] at hread
  simp [fldInStreamReadUInt32, hread, decodeBigEndian_encodeBigEndian, hvalue]

/-- Modelled from the spec: flood's `FldOutStream`, the octets written so far into a buffer of
`size` octets.  Its `pos` is the number written. -/
structure FldOutStream where
  octets : List UInt8
  size : Nat
  deriving DecidableEq, Repr

/-- The write position of an out stream. -/
def FldOutStream.pos (self : FldOutStream) : Nat := self.octets.length

/-- Modelled from the spec: `fldOutStreamInit` over a buffer of `size` octets. -/
def fldOutStreamInit (size : Nat) : FldOutStream := ⟨[], size⟩

/-- Appends octets, failing when the buffer has no room for them. -/
def fldOutStreamWriteOctets (self : FldOutStream) (data : List UInt8) : Except Int FldOutStream :=
  if self.size < self.octets.length + data.length then .error fldOutStreamErrWritePastEnd
  else .ok { self with octets := self.octets ++ data }

/-- Modelled from the spec: `fldOutStreamWriteUInt8`. -/
def fldOutStreamWriteUInt8 (self : FldOutStream) (value : UInt8) : Except Int FldOutStream :=
  fldOutStreamWriteOctets self [value]

/-- Modelled from the spec: `fldOutStreamWriteUInt16`. -/
def fldOutStreamWriteUInt16 (self : FldOutStream) (value : BitVec 16) : Except Int FldOutStream :=
  fldOutStreamWriteOctets self (encodeBigEndian 2 value.toNat)

/-- Modelled from the spec: `fldOutStreamWriteUInt32`. -/
def fldOutStreamWriteUInt32 (self : FldOutStream) (value : BitVec 32) : Except Int FldOutStream :=
  fldOutStreamWriteOctets self (encodeBigEndian 4 value.toNat)

theorem fldOutStreamWriteOctets_eq_ok {self after : FldOutStream} {data : List UInt8} :
    fldOutStreamWriteOctets self data = .ok after ↔
      self.octets.length + data.length ≤ self.size ∧ after = { self with octets := self.octets ++ data } := by
  unfold fldOutStreamWriteOctets
  split <;> simp_all [eq_comm]

/-! ### Ordered datagrams -/

/-- Modelled from the spec: the receiving half of ordered-datagram. -/
structure OrderedDatagramInLogic where
  hasReceivedInitialDatagram : Bool
  hiddenExpectedSequenceId : BitVec 16
  deriving DecidableEq, Repr

/-- Modelled from the spec: the sending half of ordered-datagram. -/
structure OrderedDatagramOutLogic where
  sequenceToSend : BitVec 16
  deriving DecidableEq, Repr

/-- The verdict of `orderedDatagramInLogicReceive` on a datagram that is behind the expected
one: a duplicate or a late datagram. -/
def orderedDatagramInErrOutOfOrder : Int := -2

/-- Modelled from the spec: `orderedDatagramInLogicInit`, waiting for a first datagram. -/
def orderedDatagramInLogicInit : OrderedDatagramInLogic := ⟨false, 0⟩

/-- Modelled from the spec: `orderedDatagramOutLogicInit`, starting at sequence id zero. -/
def orderedDatagramOutLogicInit : OrderedDatagramOutLogic := ⟨0⟩

/-- The sequence ids that `expected` accepts: itself and the next half of the id space, so that
lost datagrams may be skipped but none behind is taken. -/
def orderedDatagramIsNotBehind (expected sequenceId : BitVec 16) : Bool :=
  (sequenceId - expected).toNat < 32768

/-- Modelled from the spec: `orderedDatagramInLogicReceive` reads the header and returns its
verdict, the new logic and the stream after the header.  A non-negative verdict accepts the
datagram (it is the number of datagrams skipped); a negative one drops it and keeps the logic. -/
def orderedDatagramInLogicReceive (self : OrderedDatagramInLogic) (inStream : FldInStream) :
    Int × OrderedDatagramInLogic × FldInStream :=
  match fldInStreamReadUInt16 inStream with
  | .error err => (err, self, inStream)
  | .ok (sequenceId, rest) =>
      if !self.hasReceivedInitialDatagram then (0, ⟨true, sequenceId + 1⟩, rest)
      else if orderedDatagramIsNotBehind self.hiddenExpectedSequenceId sequenceId then
        ((sequenceId - self.hiddenExpectedSequenceId).toNat, ⟨true, sequenceId + 1⟩, rest)
      else (orderedDatagramInErrOutOfOrder, self, rest)

/-- With fewer than two octets left there is no header: the read fails and neither the logic nor
the stream moves. -/
theorem orderedDatagramInLogicReceive_of_lt {self : OrderedDatagramInLogic} {inStream : FldInStream}
    (h : inStream.octets.length < inStream.pos + 2) :
    orderedDatagramInLogicReceive self inStream = (fldInStreamErrReadPastEnd, self, inStream) := by
  rw [orderedDatagramInLogicReceive, fldInStreamReadUInt16_of_lt h]

/-- Modelled from the spec: `orderedDatagramOutLogicPrepare` writes the id of the next reply. -/
def orderedDatagramOutLogicPrepare (self : OrderedDatagramOutLogic) (outStream : FldOutStream) :
    Except Int FldOutStream :=
  fldOutStreamWriteUInt16 outStream self.sequenceToSend

/-- Modelled from the spec: `orderedDatagramOutLogicCommit` moves to the next id. -/
def orderedDatagramOutLogicCommit (self : OrderedDatagramOutLogic) : OrderedDatagramOutLogic :=
  ⟨self.sequenceToSend + 1⟩

/-- The sequence id a datagram carries in its ordered-datagram header. -/
def orderedDatagramSequenceIdOf (datagram : List UInt8) : BitVec 16 :=
  BitVec.ofNat 16 (decodeBigEndian (datagram.take 2))

theorem orderedDatagramSequenceIdOf_prepare (self : OrderedDatagramOutLogic) (rest : List UInt8) :
    orderedDatagramSequenceIdOf (encodeBigEndian 2 self.sequenceToSend.toNat ++ rest) =
      self.sequenceToSend := by
  rw [orderedDatagramSequenceIdOf, List.take_append_of_le_length (by simp),
    List.take_of_length_le (by simp), decodeBigEndian_encodeBigEndian]
  exact BitVec.eq_of_toNat_eq (by simpa using self.sequenceToSend.isLt)

end NimbleServerLib
