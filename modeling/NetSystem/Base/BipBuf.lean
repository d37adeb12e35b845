import NetSystem.Foundation.BoundedFifo
import Mathlib.Tactic.Ring

namespace NetSystem

/-!
# The receive buffer `bip_buf`

A translation of `bip_buf.c`.  The buffer owns a storage of twice its
capacity.  Region A, from `aStart` to `aEnd`, holds the committed bytes as one
contiguous block; the reserved region, from `rStart` to `rEnd`, is what has
been handed out for writing.  When the tail of the storage is too short for
the next reservation, region A is first moved to the front.

Sizes and positions are natural numbers for `size_t`: `malloc` is taken to
return the `2 * capacity` bytes it is asked for, and all positions stay inside
them.  `next_power_of_two` works on 32 bits in the source and so it does here.
A returned pointer is an offset into the storage, and `none` stands for `NULL`.
Each call to `memcpy` is reported, so that its operands can be spoken about.
-/

/-- A reported `memcpy`: inside one storage, or into a newly obtained one. -/
inductive BufferCopy where
  | wrap (target source size : Nat)
  | grow (source size : Nat)

/-- The fields of `struct bip_buf_s`. -/
structure BipBuf where
  buffer : Memory UInt8
  availableCapacity : Nat
  committedSum : Int
  aStart : Nat
  aEnd : Nat
  rStart : Nat
  rEnd : Nat

namespace BipBuf

/-- What `bip_buf_reserve` and `bip_buf_force_reserve` leave behind: the
buffer, the returned pointer, the size of the region, and the copy made. -/
structure Reservation where
  bb : BipBuf
  pointer : Option Nat
  size : Nat
  copied : Option BufferCopy

/-- One doubling step of `next_power_of_two`. -/
def smear (shift value : UInt32) : UInt32 := value ||| (value >>> shift)

/-- Round up to the next power of two, in 32-bit arithmetic. -/
def nextPowerOfTwo (value : UInt32) : UInt32 :=
  smear 16 (smear 8 (smear 4 (smear 2 (smear 1 (value - 1))))) + 1

def reset (bb : BipBuf) : BipBuf :=
  { bb with aStart := 0, aEnd := 0, rStart := 0, rEnd := 0 }

/-- `bip_buf_create`; the storage starts with whatever `malloc` returned. -/
def create (capacity : Nat) (uninitialised : Memory UInt8) : BipBuf :=
  reset ⟨uninitialised, capacity, 0, 0, 0, 0, 0⟩

def getCapacity (bb : BipBuf) : Nat := bb.availableCapacity

def getCommittedSize (bb : BipBuf) : Nat := bb.aEnd - bb.aStart

def isEmpty (bb : BipBuf) : Bool := bb.getCommittedSize == 0

def isFull (bb : BipBuf) : Bool := bb.getCapacity == bb.getCommittedSize

/-- The statistics counter, cleared on request. -/
def getCommittedSum (bb : BipBuf) (reset : Int) : Int × BipBuf :=
  (bb.committedSum, { bb with committedSum := if reset > 0 then 0 else bb.committedSum })

def getReservationSize (bb : BipBuf) : Nat := bb.rEnd - bb.rStart

/-- The position of region A in the storage. -/
def getContiguousBlock (bb : BipBuf) : Nat := bb.aStart

/-- The committed bytes, as a caller reads them through
`bip_buf_get_contiguous_block` and `bip_buf_get_committed_size`. -/
def committed (bb : BipBuf) : List UInt8 :=
  bb.buffer.read bb.getContiguousBlock bb.getCommittedSize

/-- The current contents of the reserved region. -/
def reserved (bb : BipBuf) : List UInt8 :=
  bb.buffer.read bb.rStart bb.getReservationSize

/-- Open the reserved region right behind region A. -/
def openRegion (bb : BipBuf) (size : Nat) : BipBuf :=
  { bb with rStart := bb.aEnd, rEnd := bb.aEnd + size }

/-- Make room for `size` bytes behind region A without changing the storage's
size: an empty region A starts over, and one too close to the end is moved. -/
def wrapForSize (bb : BipBuf) (size : Nat) : BipBuf × Option BufferCopy :=
  if bb.getCommittedSize = 0 then
    ({ bb with aStart := 0, aEnd := 0 }, none)
  else if bb.availableCapacity + bb.availableCapacity - bb.aEnd < size then
    ({ bb with
        buffer := bb.buffer.write 0 (bb.buffer.read bb.aStart bb.getCommittedSize)
        aStart := 0
        aEnd := bb.getCommittedSize },
      some (.wrap 0 bb.aStart bb.getCommittedSize))
  else (bb, none)

/-- Replace the storage by a larger one and move region A into it. -/
def growForSize (bb : BipBuf) (size : Nat) (fresh : Memory UInt8) : BipBuf × Option BufferCopy :=
  let capacity := (nextPowerOfTwo (UInt32.ofNat (bb.availableCapacity + size))).toNat
  if bb.getCommittedSize = 0 then
    ({ bb with buffer := fresh, availableCapacity := capacity, aStart := 0, aEnd := 0 }, none)
  else
    ({ bb with
        buffer := fresh.write 0 (bb.buffer.read bb.aStart bb.getCommittedSize)
        availableCapacity := capacity
        aStart := 0
        aEnd := bb.getCommittedSize },
      some (.grow bb.aStart bb.getCommittedSize))

/-- `bip_buf_reserve`: all free space is reserved, or nothing when a
reservation is already open or no space is left. -/
def reserve (bb : BipBuf) : Reservation :=
  if 0 < bb.getReservationSize then ⟨bb, none, 0, none⟩
  else
    let freespace := bb.availableCapacity - bb.getCommittedSize
    if freespace = 0 then ⟨bb, none, 0, none⟩
    else
      let wrapped := bb.wrapForSize freespace
      ⟨wrapped.1.openRegion freespace, some wrapped.1.aEnd, freespace, wrapped.2⟩

/-- `bip_buf_force_reserve`: exactly `size` bytes, growing the storage when
the free space is too small.  A full buffer is refused. -/
def forceReserve (bb : BipBuf) (size : Nat) (fresh : Memory UInt8) : Reservation :=
  if 0 < bb.getReservationSize ∨ size = 0 then ⟨bb, none, 0, none⟩
  else
    let freespace := bb.availableCapacity - bb.getCommittedSize
    if freespace = 0 then ⟨bb, none, 0, none⟩
    else
      let placed :=
        if freespace < size then bb.growForSize size fresh else bb.wrapForSize size
      ⟨placed.1.openRegion size, some placed.1.aEnd, size, placed.2⟩

/-- `bip_buf_commit`: a commit beyond the reservation is clipped to it, and
the reservation is released in any case.  The statistics counter is an `int`
and counts the size as given when nothing was reserved. -/
def commit (bb : BipBuf) (size : Nat) : BipBuf :=
  let reservationSize := bb.getReservationSize
  let clipped := if size > reservationSize then reservationSize else size
  let taken := if reservationSize > 0 then clipped else size
  { bb with
    aEnd := if reservationSize > 0 then bb.rStart + clipped else bb.aEnd
    rStart := 0
    rEnd := 0
    committedSum := (bb.committedSum + taken).bmod (2 ^ 32) }

/-- `bip_buf_decommit`, with the number of bytes it returns. -/
def decommit (bb : BipBuf) (size : Nat) : BipBuf × Nat :=
  let bytes := if size ≥ bb.getCommittedSize then bb.getCommittedSize else size
  ({ bb with aStart := bb.aStart + bytes }, bytes)

/-- A caller writing into the region it was given. -/
def writeReserved (bb : BipBuf) (offset : Nat) (values : List UInt8) : BipBuf :=
  { bb with buffer := bb.buffer.write (bb.rStart + offset) values }

/-- One operation on a buffer.  Writes stay inside the reserved region, and
growth is asked for only where `next_power_of_two` has a 32-bit result. -/
def perform (bb : BipBuf) : FifoOp UInt8 -> Option BipBuf
  | .reserve => some bb.reserve.bb
  | .forceReserve size fresh =>
      if bb.availableCapacity + size ≤ 2 ^ 31 then some (bb.forceReserve size fresh).bb else none
  | .write offset values =>
      if offset + values.length ≤ bb.getReservationSize then
        some (bb.writeReserved offset values)
      else none
  | .commit size => some (bb.commit size)
  | .decommit size => some (bb.decommit size).1
  | .reset => some bb.reset

/-- The steps of a buffer under its callers' discipline. -/
def Step (bb : BipBuf) (op : FifoOp UInt8) (next : BipBuf) : Prop :=
  bb.perform op = some next

end BipBuf
end NetSystem
