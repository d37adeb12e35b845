import NetSystem.Foundation.Memory
import NetSystem.Foundation.LittleEndian

namespace NetSystem

/-!
# The wire format

The declarations of `tcp_packet_def.h`.  A full packet travels as one or more
frame pages.  A page is a two-byte leading followed by its data; the data of
the pages of one packet, put together, is a packet leading, the type name and
the body.

Two classes share this scheme.  `CTcpInnerPacket` uses a leading of sixteen
bytes that carries a 64-bit uuid, `CTcpOuterPacket` one of two bytes.  They
also differ in how many receive buffers they obtain at a time and in the test
they make on the result of `ConsumePacket`.  A `Codec` names one of them.

The layouts are those of the packed structures on a little-endian machine: the
bit-fields of the page leading fill a 16-bit word from its low end, and the
name length and serial number are the first two bytes of either leading.
-/

/-- `TCP_STREAM_READ_SIZE`. -/
def tcpStreamReadSize : Nat := 8192

/-- `PER_FRAME_PAGE_SIZE_MAX`, leading included. -/
def perFramePageSizeMax : Nat := tcpStreamReadSize

/-- `FULL_PACKET_MAX_SIZE_HINT`, buffer entry header included. -/
def fullPacketMaxSizeHint : Nat := 0xF0000

/-- `SIZE_OF_FRAME_PAGE_LEADING`. -/
def sizeOfFramePageLeading : Nat := 2

/-- The two pointer widths the library is built for. -/
inductive Abi where
  | pointer32
  | pointer64
deriving DecidableEq

/-- `sizeof(packet_buffer_t)`: two pointers and two `size_t`. -/
def Abi.sizeOfPacketBuffer : Abi -> Nat
  | .pointer32 => 16
  | .pointer64 => 32

inductive PacketKind where
  | inner
  | outer
deriving DecidableEq

/-- One of the two packet classes, on one of the two pointer widths. -/
structure Codec where
  kind : PacketKind
  abi : Abi
deriving DecidableEq

namespace Codec

/-- `SIZE_OF_TCP_INNER_PACKET_LEADING` and `SIZE_OF_TCP_OUTER_PACKET_LEADING`. -/
def leadingSize (codec : Codec) : Nat :=
  match codec.kind with
  | .inner => 16
  | .outer => 2

/-- How many receive buffers are obtained when the free list is empty. -/
def recvNumHint (codec : Codec) : Nat :=
  match codec.kind with
  | .inner => 1
  | .outer => 64

/-- The test on the result of `ConsumePacket`: `rc < 0` in the inner class,
`0 != rc` in the outer one. -/
def rejects (codec : Codec) (rc : Int) : Bool :=
  match codec.kind with
  | .inner => decide (rc < 0)
  | .outer => decide (0 ≠ rc)

/-- The `cap_size` of a buffer obtained with a capacity hint. -/
def capSizeOf (codec : Codec) (capacityHint : Nat) : Nat :=
  capacityHint - codec.abi.sizeOfPacketBuffer

/-- The `cap_size` of a receive buffer. -/
def recvCapSize (codec : Codec) : Nat := codec.capSizeOf fullPacketMaxSizeHint

theorem leadingSize_cases (codec : Codec) : codec.leadingSize = 16 ∨ codec.leadingSize = 2 := by
  unfold leadingSize
  cases codec.kind
  · exact Or.inl rfl
  · exact Or.inr rfl

theorem recvNumHint_inner {codec : Codec} (inner : codec.kind = .inner) :
    codec.recvNumHint = 1 := by
  rw [recvNumHint, inner]

theorem recvNumHint_outer {codec : Codec} (outer : codec.kind = .outer) :
    codec.recvNumHint = 64 := by
  rw [recvNumHint, outer]

theorem recvNumHint_pos (codec : Codec) : 0 < codec.recvNumHint := by
  unfold recvNumHint
  cases codec.kind <;> decide

theorem recvCapSize_cases (codec : Codec) :
    codec.recvCapSize = 983024 ∨ codec.recvCapSize = 983008 := by
  unfold recvCapSize capSizeOf
  cases codec.abi
  · exact Or.inl rfl
  · exact Or.inr rfl

theorem rejects_zero (codec : Codec) : codec.rejects 0 = false := by
  unfold rejects
  cases codec.kind <;> rfl

/-- On the results `ConsumePacket` can give, none of them positive, both tests
agree. -/
theorem rejects_of_neg (codec : Codec) {rc : Int} (negative : rc < 0) :
    codec.rejects rc = true := by
  unfold rejects
  cases codec.kind
  · exact decide_eq_true negative
  · exact decide_eq_true (by omega)

end Codec

/-! ## The page leading -/

/-- `tcp_frame_page_leading_t`. -/
structure PageLeading where
  pageStart : Bool
  pageEnd : Bool
  dataSize : BitVec 14
deriving DecidableEq

namespace PageLeading

/-- The 16-bit word of the bit-fields. -/
def word (leading : PageLeading) : Nat :=
  leading.pageStart.toNat + 2 * leading.pageEnd.toNat + 4 * leading.dataSize.toNat

def ofWord (word : Nat) : PageLeading :=
  ⟨decide (word % 2 = 1), decide (word / 2 % 2 = 1), BitVec.ofNat 14 (word / 4)⟩

/-- The two bytes of a leading. -/
def bytes (leading : PageLeading) : List UInt8 := littleEndian 2 leading.word

/-- The leading in the first two bytes of a list. -/
def ofBytes (bytes : List UInt8) : PageLeading := ofWord (fromLittleEndian (bytes.take 2))

/-- Read the leading at an address. -/
def load (memory : Memory UInt8) (address : Nat) : PageLeading := ofBytes (memory.read address 2)

/-- Write the leading at an address. -/
def store (leading : PageLeading) (memory : Memory UInt8) (address : Nat) : Memory UInt8 :=
  memory.write address leading.bytes

@[simp] theorem length_bytes (leading : PageLeading) : leading.bytes.length = 2 :=
  length_littleEndian 2 _

theorem word_lt (leading : PageLeading) : leading.word < 256 ^ 2 := by
  have size := leading.dataSize.isLt
  have first := Bool.toNat_le leading.pageStart
  have second := Bool.toNat_le leading.pageEnd
  unfold word
  omega

theorem ofWord_word (leading : PageLeading) : ofWord leading.word = leading := by
  rcases leading with ⟨start, finish, size⟩
  have bound := size.isLt
  have quarter : (start.toNat + 2 * finish.toNat + 4 * size.toNat) / 4 = size.toNat := by
    have first := Bool.toNat_le start
    have second := Bool.toNat_le finish
    omega
  unfold ofWord word
  rw [quarter, BitVec.ofNat_toNat, BitVec.setWidth_eq]
  congr 1
  · cases start <;> simp <;> omega
  · cases start <;> cases finish <;> simp <;> omega

theorem ofBytes_append (leading : PageLeading) (rest : List UInt8) :
    ofBytes (leading.bytes ++ rest) = leading := by
  have front : (leading.bytes ++ rest).take 2 = leading.bytes := by
    rw [List.take_append_of_le_length (by rw [length_bytes])]
    exact List.take_of_length_le (by rw [length_bytes])
  unfold ofBytes
  rw [front, bytes, fromLittleEndian_of_lt leading.word_lt, ofWord_word]

/-- Two bytes are the leading they spell. -/
theorem bytes_ofBytes {list : List UInt8} (length : list.length = 2) :
    (ofBytes list).bytes = list := by
  match list, length with
  | [low, high], _ =>
      have lowBound := low.toNat_lt
      have highBound := high.toNat_lt
      have value : fromLittleEndian [low, high] = low.toNat + 256 * high.toNat := rfl
      have same : (ofWord (low.toNat + 256 * high.toNat)).word = low.toNat + 256 * high.toNat := by
        have odd : (decide ((low.toNat + 256 * high.toNat) % 2 = 1)).toNat =
            (low.toNat + 256 * high.toNat) % 2 := by
          rcases Nat.mod_two_eq_zero_or_one (low.toNat + 256 * high.toNat) with bit | bit <;>
            simp [bit]
        have second : (decide ((low.toNat + 256 * high.toNat) / 2 % 2 = 1)).toNat =
            (low.toNat + 256 * high.toNat) / 2 % 2 := by
          rcases Nat.mod_two_eq_zero_or_one ((low.toNat + 256 * high.toNat) / 2) with bit | bit <;>
            simp [bit]
        simp only [word, ofWord, odd, second, BitVec.toNat_ofNat]
        omega
      unfold ofBytes bytes
      change littleEndian 2 (ofWord (fromLittleEndian [low, high])).word = _
      rw [value, same]
      simp only [littleEndian, List.cons.injEq, and_true]
      constructor
      · apply UInt8.toNat_inj.mp
        rw [UInt8.toNat_ofNat']
        omega
      · apply UInt8.toNat_inj.mp
        rw [UInt8.toNat_ofNat']
        omega

theorem ofBytes_take {list : List UInt8} : ofBytes (list.take 2) = ofBytes list := by
  unfold ofBytes
  rw [List.take_take]
  rfl

end PageLeading

/-! ## Packets -/

/-- `packet_content_t`: what is passed to `Post`. -/
structure PacketContent where
  innerUuid : UInt64
  serialNo : UInt8
  typeName : List UInt8
  body : List UInt8
deriving DecidableEq

/-- What `OnGotPacket` hands on.  Only the inner class knows the uuid. -/
structure GotPacket where
  innerUuid : Option UInt64
  serialNo : UInt8
  typeName : List UInt8
  body : List UInt8
deriving DecidableEq

namespace Codec

/-- The name length field of the leading at an address. -/
def nameLen (memory : Memory UInt8) (address : Nat) : Nat := (memory address).toNat

/-- The assignments `EncodeStream` makes to the packet leading.  In the inner
leading the bytes between the serial number and the uuid are skipped: they keep
what the send buffer held before. -/
def storeLeading (codec : Codec) (memory : Memory UInt8) (address : Nat)
    (content : PacketContent) : Memory UInt8 :=
  let named := memory.write address [UInt8.ofNat content.typeName.length]
  let numbered := named.write (address + 1) [content.serialNo]
  match codec.kind with
  | .inner => numbered.write (address + 8) (littleEndian 8 content.innerUuid.toNat)
  | .outer => numbered

/-- `OnGotPacket` on the `len` bytes it is given: the leading, the type name
behind it, and the rest as the body.  The body's length is the difference the
source computes. -/
def onGotPacket (codec : Codec) (buffer : List UInt8) : GotPacket :=
  let nameLen := (buffer[0]?.getD 0).toNat
  let bodyLen := buffer.length - nameLen - codec.leadingSize
  { innerUuid :=
      match codec.kind with
      | .inner => some (UInt64.ofNat (fromLittleEndian ((buffer.drop 8).take 8)))
      | .outer => none
    serialNo := buffer[1]?.getD 0
    typeName := (buffer.drop codec.leadingSize).take nameLen
    body := (buffer.drop (codec.leadingSize + nameLen)).take bodyLen }

/-- What the peer is told of a posted packet. -/
def expected (codec : Codec) (content : PacketContent) : GotPacket :=
  { innerUuid :=
      match codec.kind with
      | .inner => some content.innerUuid
      | .outer => none
    serialNo := content.serialNo
    typeName := content.typeName
    body := content.body }

end Codec
end NetSystem
