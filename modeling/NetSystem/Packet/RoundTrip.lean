import NetSystem.Packet.Post
import NetSystem.Packet.ReceiverTracking

namespace NetSystem

/-!
# From `Post` to the got-packet callback

The two directions meet at `Paginated`, the shape of the pages of one packet:
full pages and a last one, the start flag on the first and the end flag on the
last.  The loop of `Post` sends such pages (`postLoop_paginates`), the packet's
leading and name in front of the first; and a decoder that holds nothing
reassembles them and holds nothing afterwards (`Paginated.received`).  How the
stream is cut is no concern here: it is settled by `Tracks`.
-/

open Receiver

/-! ## The pages of one packet -/

/-- The pages in which `front` and then `rest` are sent, all but the last as
large as a page may be; `start` is the start flag of the first one. -/
inductive Paginated : Bool -> List UInt8 -> List UInt8 -> List Page -> Prop
  | last {start : Bool} {front rest : List UInt8} {page : Page}
      (starts : page.pageStart = start) (ends : page.pageEnd = true)
      (data : page.data = front ++ rest)
      (fits : sizeOfFramePageLeading + front.length + rest.length ≤ perFramePageSizeMax) :
      Paginated start front rest [page]
  | more {start : Bool} {front now later : List UInt8} {page : Page} {pages : List Page}
      (starts : page.pageStart = start) (goesOn : page.pageEnd = false)
      (data : page.data = front ++ now)
      (full : sizeOfFramePageLeading + front.length + now.length = perFramePageSizeMax)
      (nonempty : later ≠ []) (others : Paginated false [] later pages) :
      Paginated start front (now ++ later) (page :: pages)

/-- Every page fits the buffer of the peer. -/
theorem Paginated.fits {start : Bool} {front rest : List UInt8} {pages : List Page}
    (paginated : Paginated start front rest pages) :
    forall page, page ∈ pages -> page.Fits tcpStreamReadSize := by
  induction paginated with
  | last _ _ data fits =>
      intro page member
      rw [List.mem_singleton.mp member, Page.Fits, data, List.length_append, ← Nat.add_assoc]
      exact fits
  | more _ _ data full _ _ inductionHypothesis =>
      intro page member
      rcases List.mem_cons.mp member with rfl | later
      · rw [Page.Fits, data, List.length_append, ← Nat.add_assoc]
        exact Nat.le_of_eq full
      · exact inductionHypothesis page later

/-- Pages that continue a packet complete it. -/
theorem Paginated.received_more {codec : Codec} {front rest : List UInt8} {pages : List Page}
    {start : Bool} (paginated : Paginated start front rest pages) (continues : start = false)
    (bare : front = []) (nonempty : rest ≠ []) (bytes : List UInt8)
    (room : bytes.length + rest.length ≤ codec.recvCapSize)
    (accepted : codec.Accepts (bytes ++ rest)) :
    receivePages codec tcpStreamReadSize (some bytes) pages = .ok (none, [bytes ++ rest]) := by
  have allFit := paginated.fits
  induction paginated generalizing bytes with
  | @last start front rest page starts ends data _ =>
      subst bare
      rw [List.nil_append] at data
      have once : receivePage codec tcpStreamReadSize (some bytes) page =
          .ok (none, some (bytes ++ rest)) := by
        rw [receivePage, if_neg (data ▸ nonempty), if_pos (allFit page (List.mem_singleton_self page))]
        simp only [assemble, starts, continues, ends, data, Bool.false_eq_true, false_and, if_false,
          if_true, if_pos room, if_pos accepted]
      rw [receivePages_cons_ok once]
      rfl
  | @more start front now later page pages starts goesOn data full laterNonempty _
      inductionHypothesis =>
      subst bare
      rw [List.nil_append] at data
      rw [List.length_append] at room
      have nowNonempty : now ≠ [] := by
        apply List.length_pos_iff.mp
        unfold sizeOfFramePageLeading perFramePageSizeMax tcpStreamReadSize at full
        simp only [List.length_nil] at full
        omega
      have once : receivePage codec tcpStreamReadSize (some bytes) page =
          .ok (some (bytes ++ now), none) := by
        rw [receivePage, if_neg (data ▸ nowNonempty), if_pos (allFit page (List.mem_cons_self ..))]
        simp only [assemble, starts, continues, goesOn, data, Bool.false_eq_true, false_and, if_false]
        exact if_pos (by omega)
      have rest := inductionHypothesis rfl rfl laterNonempty (bytes ++ now)
        (by rw [List.length_append]; omega) (by rw [List.append_assoc]; exact accepted)
        (fun other member => allFit other (List.mem_cons_of_mem _ member))
      rw [receivePages_cons_ok once, rest, List.append_assoc]
      rfl

/-- The pages of a packet are received as that packet. -/
theorem Paginated.received {codec : Codec} {front rest : List UInt8} {pages : List Page}
    (paginated : Paginated true front rest pages) (nonempty : front ≠ [])
    (room : (front ++ rest).length ≤ codec.recvCapSize) (accepted : codec.Accepts (front ++ rest)) :
    receivePages codec tcpStreamReadSize none pages = .ok (none, [front ++ rest]) := by
  have allFit := paginated.fits
  cases paginated with
  | @last _ _ _ page starts ends data _ =>
      have once : receivePage codec tcpStreamReadSize none page =
          .ok (none, some (front ++ rest)) := by
        rw [receivePage, if_neg (by rw [data]; simp [nonempty]),
          if_pos (allFit page (List.mem_singleton_self page))]
        simp only [assemble, starts, ends, data, and_self, if_true, if_pos accepted]
      rw [receivePages_cons_ok once]
      rfl
  | @more _ _ now later page pages starts goesOn data full laterNonempty others =>
      rw [← List.append_assoc] at room accepted ⊢
      have once : receivePage codec tcpStreamReadSize none page =
          .ok (some (front ++ now), none) := by
        rw [receivePage, if_neg (by rw [data]; simp [nonempty]),
          if_pos (allFit page (List.mem_cons_self ..))]
        simp only [assemble, starts, goesOn, data, Bool.false_eq_true, and_false, if_false, if_true]
        exact if_pos (by rw [List.length_append] at room; omega)
      have tail := others.received_more rfl rfl laterNonempty (front ++ now)
        (by rw [List.length_append] at room; exact room) accepted
      rw [receivePages_cons_ok once, tail]
      rfl

/-! ## The loop of `Post` -/

/-- The loop is about to fill a page that has `front` behind its leading, and
`rest` of the body is left. -/
structure Filling (body : List UInt8) (cursor : PostCursor) (start : Bool)
    (front rest : List UInt8) : Prop where
  starts : cursor.pageLeading.pageStart = start
  goesOn : cursor.pageLeading.pageEnd = false
  front_eq : cursor.buffer.data.read 2 front.length = front
  offset : cursor.nOffset = 2 + front.length
  room : 2 + front.length < perFramePageSizeMax
  rest_eq : body.drop cursor.ptr = rest
  remains : cursor.nremains = rest.length
  capacity : perFramePageSizeMax ≤ cursor.buffer.capSize
  faultless : cursor.fault = false

section Pass

variable {sendRaw : List UInt8 -> Nat} {body : List UInt8} {cursor : PostCursor} {start : Bool}
  {front rest : List UInt8}

/-- How much of the rest goes into the page. -/
def sentNow (front rest : List UInt8) : Nat :=
  min (perFramePageSizeMax - (2 + front.length)) rest.length

theorem Filling.nsends_eq (filling : Filling body cursor start front rest) :
    cursor.nsends = (sentNow front rest : Int) := by
  have room := filling.room
  rw [PostCursor.nsends, filling.offset, filling.remains, sentNow]
  omega

theorem Filling.pageSize_eq (filling : Filling body cursor start front rest) :
    cursor.pageSize = 2 + (front.length + sentNow front rest) := by
  rw [PostCursor.pageSize, filling.nsends_eq, filling.offset]
  omega

theorem Filling.length_taken :
    (rest.take (sentNow front rest)).length = sentNow front rest := by
  rw [List.length_take, sentNow]
  omega

theorem Filling.copied_eq (filling : Filling body cursor start front rest) :
    cursor.copied body =
      cursor.buffer.data.write (2 + front.length) (rest.take (sentNow front rest)) := by
  rw [PostCursor.copied, filling.nsends_eq, filling.offset, filling.rest_eq, Int.toNat_natCast]
  rfl

/-- What the page is sent with behind its leading. -/
theorem Filling.copied_read (filling : Filling body cursor start front rest) :
    (cursor.copied body).read 2 (front.length + sentNow front rest) =
      front ++ rest.take (sentNow front rest) := by
  have extended := Memory.read_write_extend cursor.buffer.data 2 front.length
    (rest.take (sentNow front rest))
  rw [Filling.length_taken, filling.front_eq] at extended
  rw [filling.copied_eq]
  exact extended

theorem Filling.copied_load (filling : Filling body cursor start front rest) :
    PageLeading.load (cursor.copied body) 0 = cursor.pageLeading := by
  rw [filling.copied_eq, PageLeading.load, PostCursor.pageLeading, PageLeading.load,
    Memory.read_write_disjoint _ (Or.inl (by omega))]

/-- The page that is sent. -/
theorem Filling.page_eq (filling : Filling body cursor start front rest) :
    Exists fun page : Page =>
      page.pageStart = start ∧ page.pageEnd = decide (rest.length ≤ sentNow front rest) ∧
      page.data = front ++ rest.take (sentNow front rest) ∧
      (cursor.page body).read 0 cursor.pageSize = page.bytes := by
  have length : (front ++ rest.take (sentNow front rest)).length =
      front.length + sentNow front rest := by
    rw [List.length_append, Filling.length_taken]
  have bounded : (front ++ rest.take (sentNow front rest)).length < 2 ^ 14 := by
    have room := filling.room
    rw [length, sentNow]
    unfold perFramePageSizeMax tcpStreamReadSize at *
    omega
  refine ⟨⟨start, decide (rest.length ≤ sentNow front rest),
    front ++ rest.take (sentNow front rest), bounded⟩, rfl, rfl, rfl, ?_⟩
  have leading : cursor.sentLeading body = Page.leading ⟨start,
      decide (rest.length ≤ sentNow front rest), front ++ rest.take (sentNow front rest),
      bounded⟩ := by
    rw [PostCursor.sentLeading, filling.copied_load, filling.nsends_eq, filling.pageSize_eq,
      filling.remains, filling.starts, Page.leading]
    simp only [length]
    congr 1
    · exact decide_eq_decide.mpr (by omega)
    · rw [← BitVec.ofInt_natCast]
      congr 1
      unfold sizeOfFramePageLeading
      omega
  have stored := Memory.read_write_self (cursor.copied body) 0 (cursor.sentLeading body).bytes
  rw [PageLeading.length_bytes] at stored
  rw [filling.pageSize_eq, Memory.read_add, PostCursor.page, PageLeading.store, stored,
    Memory.read_write_disjoint _ (Or.inr (by rw [PageLeading.length_bytes])), filling.copied_read,
    leading]
  rfl

theorem Filling.turn_eq (filling : Filling body cursor start front rest) :
    postTurn sendRaw body cursor = .again (cursor.sendPage sendRaw body) := by
  have room := filling.room
  have capacity := filling.capacity
  have fits : cursor.CopyFits := by
    unfold PostCursor.CopyFits
    rw [filling.nsends_eq, filling.offset, sentNow]
    omega
  rw [postTurn, if_neg (by rw [filling.goesOn]; exact Bool.false_ne_true), if_pos fits]

/-- The end flag has been set once the rest of the body is in the page. -/
theorem Filling.sent_last (filling : Filling body cursor start front rest)
    (small : rest.length ≤ sentNow front rest) :
    postTurn sendRaw body (cursor.sendPage sendRaw body) =
      .halt (cursor.sendPage sendRaw body) := by
  have ends : (cursor.sendPage sendRaw body).pageLeading.pageEnd = true := by
    rw [sendPage_pageLeading]
    change decide (cursor.nremains - cursor.nsends ≤ 0) = true
    rw [filling.nsends_eq, filling.remains]
    exact decide_eq_true (by omega)
  rw [postTurn, if_pos ends]

/-- Otherwise the loop is about to fill a page that has only its leading. -/
theorem Filling.sent_more (filling : Filling body cursor start front rest)
    (large : sentNow front rest < rest.length) :
    Filling body (cursor.sendPage sendRaw body) false [] (rest.drop (sentNow front rest)) := by
  have leading := sendPage_pageLeading sendRaw body cursor
  refine ⟨?_, ?_, rfl, rfl, ?_, ?_, ?_, filling.capacity, filling.faultless⟩
  · rw [leading]
  · rw [leading]
    change decide (cursor.nremains - cursor.nsends ≤ 0) = false
    rw [filling.nsends_eq, filling.remains]
    exact decide_eq_false (by omega)
  · decide
  · change body.drop (cursor.ptr + cursor.nsends.toNat) = _
    rw [filling.nsends_eq, Int.toNat_natCast, ← List.drop_drop, filling.rest_eq]
  · change cursor.nremains - cursor.nsends = _
    rw [filling.nsends_eq, filling.remains, List.length_drop]
    omega

/-- The loop sends the pages of the packet. -/
theorem postLoop_paginates (sendRaw : List UInt8 -> Nat)
    (filling : Filling body cursor start front rest) :
    Exists fun pages => Paginated start front rest pages ∧
      ((postLoop sendRaw body).exec cursor).pages = cursor.pages ++ pages.map Page.bytes ∧
      ((postLoop sendRaw body).exec cursor).fault = false ∧
      ((postLoop sendRaw body).exec cursor).buffer.capSize = cursor.buffer.capSize := by
  generalize left : rest.length = size
  induction size using Nat.strongRecOn generalizing cursor start front rest with
  | ind size inductionHypothesis =>
      have room := filling.room
      have turn : (postLoop sendRaw body).turn cursor = .again (cursor.sendPage sendRaw body) :=
        filling.turn_eq
      rcases filling.page_eq with ⟨page, starts, ends, data, bytes⟩
      have pages : (cursor.sendPage sendRaw body).pages = cursor.pages ++ [page.bytes] := by
        rw [← bytes]
        rfl
      rw [(postLoop sendRaw body).exec_of_again turn]
      by_cases small : rest.length ≤ sentNow front rest
      · have stop : (postLoop sendRaw body).turn (cursor.sendPage sendRaw body) =
            .halt (cursor.sendPage sendRaw body) := filling.sent_last small
        rw [(postLoop sendRaw body).exec_of_halt stop]
        refine ⟨[page], .last starts (ends.trans (decide_eq_true small)) ?_ ?_, pages,
          filling.faultless, rfl⟩
        · rw [data, List.take_of_length_le small]
        · rw [sentNow] at small
          unfold sizeOfFramePageLeading
          omega
      · have large : sentNow front rest < rest.length := Nat.lt_of_not_le small
        have full : sentNow front rest = perFramePageSizeMax - (2 + front.length) := by
          rw [sentNow] at large ⊢
          omega
        have later : (rest.drop (sentNow front rest)).length < size := by
          rw [List.length_drop]
          omega
        rcases inductionHypothesis _ later (filling.sent_more large) rfl with
          ⟨others, paginated, sent, faultless, capacity⟩
        refine ⟨page :: others, ?_, ?_, faultless, capacity⟩
        · have split := Paginated.more starts (ends.trans (decide_eq_false small)) data (by
            rw [Filling.length_taken, full]
            unfold sizeOfFramePageLeading
            omega) (by
            apply List.length_pos_iff.mp
            rw [List.length_drop]
            omega) paginated
          rwa [List.take_append_drop] at split
        · rw [sent, pages, List.append_assoc]
          rfl

end Pass
/-! ## The packet leading -/

/-- The bytes of a packet leading, as far as they are determined: in the inner
leading the six bytes behind the serial number are not. -/
structure LeadingBytes (codec : Codec) (content : PacketContent) (bytes : List UInt8) : Prop where
  length : bytes.length = codec.leadingSize
  name : bytes[0]? = some (UInt8.ofNat content.typeName.length)
  serial : bytes[1]? = some content.serialNo
  uuid : codec.kind = .inner ->
    (bytes.drop 8).take 8 = littleEndian 8 content.innerUuid.toNat

/-- The uuid does not touch the first bytes of the leading. -/
theorem storeLeading_of_lt (codec : Codec) (memory : Memory UInt8) {address target : Nat}
    (content : PacketContent) (front : target < address + 8) :
    codec.storeLeading memory address content target =
      ((memory.write address [UInt8.ofNat content.typeName.length]).write (address + 1)
        [content.serialNo]) target := by
  cases kind : codec.kind with
  | inner =>
      simp only [Codec.storeLeading, kind]
      exact Memory.write_of_lt _ _ _ front
  | outer => simp only [Codec.storeLeading, kind]

theorem storeLeading_bytes (codec : Codec) (memory : Memory UInt8) (address : Nat)
    (content : PacketContent) :
    LeadingBytes codec content
      ((codec.storeLeading memory address content).read address codec.leadingSize) := by
  have two : 2 ≤ codec.leadingSize := by
    rcases codec.leadingSize_cases with same | same <;> omega
  have name : codec.storeLeading memory address content address =
      UInt8.ofNat content.typeName.length := by
    rw [storeLeading_of_lt codec memory content (by omega), Memory.write_of_lt _ _ _ (by omega)]
    exact Memory.write_add memory address _ 0
  have serial : codec.storeLeading memory address content (address + 1) = content.serialNo := by
    rw [storeLeading_of_lt codec memory content (by omega)]
    exact Memory.write_add _ (address + 1) _ 0
  refine ⟨Memory.length_read _ _ _, ?_, ?_, ?_⟩
  · rw [Memory.getElem?_read, if_pos (by omega), Nat.add_zero, name]
  · rw [Memory.getElem?_read, if_pos (by omega), serial]
  · intro inner
    have size : codec.leadingSize = 16 := by
      rw [Codec.leadingSize, inner]
    have back := Memory.read_write_self
      ((memory.write address [UInt8.ofNat content.typeName.length]).write (address + 1)
        [content.serialNo]) (address + 8) (littleEndian 8 content.innerUuid.toNat)
    rw [length_littleEndian] at back
    rw [size, Memory.drop_read, Memory.take_read]
    simp only [Codec.storeLeading, inner]
    exact back

namespace LeadingBytes

variable {codec : Codec} {content : PacketContent} {bytes : List UInt8}

/-- The packet that is sent: its leading, the type name and the body. -/
def packet (content : PacketContent) (bytes : List UInt8) : List UInt8 :=
  bytes ++ content.typeName ++ content.body

theorem nameLen_packet (leading : LeadingBytes codec content bytes)
    (short : content.typeName.length ≤ 255) :
    ((packet content bytes)[0]?.getD 0).toNat = content.typeName.length := by
  have positive : 0 < bytes.length := by
    rw [leading.length]
    rcases codec.leadingSize_cases with same | same <;> omega
  rw [packet, List.append_assoc, List.getElem?_append_left positive, leading.name, Option.getD_some,
    UInt8.toNat_ofNat']
  omega

theorem length_packet (leading : LeadingBytes codec content bytes) :
    (packet content bytes).length =
      codec.leadingSize + content.typeName.length + content.body.length := by
  rw [packet, List.length_append, List.length_append, leading.length]

theorem accepts (leading : LeadingBytes codec content bytes) (named : 1 ≤ content.typeName.length)
    (short : content.typeName.length ≤ 255) : codec.Accepts (packet content bytes) := by
  rw [Codec.Accepts, leading.nameLen_packet short, leading.length_packet]
  omega

/-- `OnGotPacket` reads a packet as it was posted. -/
theorem onGotPacket_eq (leading : LeadingBytes codec content bytes)
    (short : content.typeName.length ≤ 255) :
    codec.onGotPacket (packet content bytes) = codec.expected content := by
  have two : 2 ≤ bytes.length := by
    rw [leading.length]
    rcases codec.leadingSize_cases with same | same <;> omega
  have behind : (packet content bytes).drop codec.leadingSize = content.typeName ++ content.body := by
    rw [packet, List.append_assoc, ← leading.length, List.drop_left]
  have uuid : codec.kind = .inner -> ((packet content bytes).drop 8).take 8 =
      littleEndian 8 content.innerUuid.toNat := by
    intro inner
    have sixteen : bytes.length = 16 := by
      rw [leading.length, Codec.leadingSize, inner]
    rw [packet, List.append_assoc, List.drop_append_of_le_length (by omega),
      List.take_append_of_le_length (by rw [List.length_drop]; omega), leading.uuid inner]
  have serial : (packet content bytes)[1]?.getD 0 = content.serialNo := by
    rw [packet, List.append_assoc, List.getElem?_append_left (by omega), leading.serial]
    rfl
  have name : ((packet content bytes).drop codec.leadingSize).take content.typeName.length =
      content.typeName := by
    rw [behind, List.take_left]
  have body : ((packet content bytes).drop (codec.leadingSize + content.typeName.length)).take
      ((packet content bytes).length - content.typeName.length - codec.leadingSize) =
      content.body := by
    rw [← List.drop_drop, behind, List.drop_left]
    exact List.take_of_length_le (by rw [leading.length_packet]; omega)
  simp only [Codec.onGotPacket, Codec.expected, leading.nameLen_packet short, serial, name, body]
  cases kind : codec.kind with
  | inner =>
      simp only [uuid kind]
      rw [fromLittleEndian_of_lt (Nat.lt_of_lt_of_le content.innerUuid.toNat_lt (by decide)),
        UInt64.ofNat_toNat]
  | outer => rfl

end LeadingBytes
/-! ## One packet -/

/-- What may be posted: a name the leading can count, and no more bytes than a
receive buffer holds. -/
structure Postable (codec : Codec) (content : PacketContent) : Prop where
  named : 1 ≤ content.typeName.length
  short : content.typeName.length ≤ 255
  bounded : codec.leadingSize + content.typeName.length + content.body.length ≤ codec.recvCapSize

/-- Bytes in front of the packet leading are not touched. -/
theorem storeLeading_read_front (codec : Codec) (memory : Memory UInt8) (content : PacketContent)
    {address first count : Nat} (front : first + count ≤ address) :
    (codec.storeLeading memory address content).read first count = memory.read first count := by
  apply Memory.read_congr
  intro index inside
  rw [storeLeading_of_lt codec memory content (by omega), Memory.write_of_lt _ _ _ (by omega),
    Memory.write_of_lt _ _ _ (by omega)]

/-- The page leading `EncodeStream` writes, for a packet of any size. -/
theorem postStart_pageLeading (codec : Codec) (buffer : PacketBuffer) (content : PacketContent) :
    (postStart codec buffer content).pageLeading = ⟨true, false, BitVec.ofInt 14 (toInt32
      (codec.leadingSize + content.typeName.length + content.body.length))⟩ := by
  generalize framed_eq : PageLeading.store ⟨true, false, BitVec.ofInt 14 (toInt32
    (codec.leadingSize + content.typeName.length + content.body.length))⟩ buffer.data 0 = framed
  have data : (postStart codec buffer content).buffer.data =
      (codec.storeLeading framed 2 content).write (2 + codec.leadingSize) content.typeName := by
    rw [← framed_eq]
    rfl
  rw [PostCursor.pageLeading, data, PageLeading.load,
    Memory.read_write_disjoint _ (Or.inl (by omega)),
    storeLeading_read_front codec framed content (by omega), ← framed_eq]
  exact PageLeading.load_store _ _ _

/-- `EncodeStream` prepares the first page. -/
theorem postStart_filling {codec : Codec} {content : PacketContent}
    (postable : Postable codec content) (buffer : PacketBuffer)
    (capacity : perFramePageSizeMax ≤ buffer.capSize) :
    Exists fun bytes => LeadingBytes codec content bytes ∧
      Filling content.body (postStart codec buffer content) true (bytes ++ content.typeName)
        content.body := by
  have named := postable.named
  have short := postable.short
  have bounded := postable.bounded
  have small : codec.recvCapSize < 2 ^ 31 := by
    rcases codec.recvCapSize_cases with same | same <;> rw [same] <;> decide
  have header : codec.leadingSize ≤ 16 := by
    rcases codec.leadingSize_cases with same | same <;> omega
  have offset : toInt32 (sizeOfFramePageLeading + codec.leadingSize + content.typeName.length) =
      ((2 + (codec.leadingSize + content.typeName.length) : Nat) : Int) := by
    rw [toInt32_of_lt (by unfold sizeOfFramePageLeading; omega)]
    unfold sizeOfFramePageLeading
    omega
  generalize framed_eq : PageLeading.store ⟨true, false, BitVec.ofInt 14 (toInt32
    (codec.leadingSize + content.typeName.length + content.body.length))⟩ buffer.data 0 = framed
  generalize led_eq : codec.storeLeading framed 2 content = led
  have leading : LeadingBytes codec content (led.read 2 codec.leadingSize) := by
    rw [← led_eq]
    exact storeLeading_bytes codec framed 2 content
  have length : (led.read 2 codec.leadingSize ++ content.typeName).length =
      codec.leadingSize + content.typeName.length := by
    rw [List.length_append, Memory.length_read]
  have data : (postStart codec buffer content).buffer.data =
      led.write (2 + codec.leadingSize) content.typeName := by
    rw [← led_eq, ← framed_eq]
    rfl
  refine ⟨led.read 2 codec.leadingSize, leading, ?_, ?_, ?_, ?_, ?_, rfl, ?_, capacity, rfl⟩
  · rw [postStart_pageLeading]
  · rw [postStart_pageLeading]
  · rw [length, data]
    exact Memory.read_write_extend led 2 codec.leadingSize content.typeName
  · rw [length, postStart, encodeStream]
    simp only [offset]
    omega
  · rw [length]
    unfold perFramePageSizeMax tcpStreamReadSize
    omega
  · rw [postStart, toInt32_of_lt (by omega)]

theorem Codec.perFramePageSizeMax_le_sendCapSize (codec : Codec) :
    perFramePageSizeMax ≤ codec.sendCapSize := by
  unfold Codec.sendCapSize Codec.capSizeOf
  cases codec.abi <;> decide

/-- A posted packet is sent in the pages of its leading, name and body. -/
theorem post_paginates {codec : Codec} {content : PacketContent} {state : PacketState}
    (sendRaw : List UInt8 -> Nat) (postable : Postable codec content)
    (formed : state.sendPool.WellFormed codec.sendCapSize) :
    Exists fun bytes => Exists fun pages => LeadingBytes codec content bytes ∧
      Paginated true (bytes ++ content.typeName) content.body pages ∧
      (post codec true sendRaw state content).pages = pages.map Page.bytes ∧
      (post codec true sendRaw state content).fault = false ∧
      (post codec true sendRaw state content).state.sendPool.WellFormed codec.sendCapSize := by
  rcases BufferPool.packetBufferAlloc_spec formed Nat.one_pos with ⟨entry, taken, alloc, allocates⟩
  have capacity : (taken.entries entry).capSize = codec.sendCapSize :=
    allocates.formed.sized entry allocates.below
  have enough : perFramePageSizeMax ≤ (taken.entries entry).capSize := by
    rw [capacity]
    exact codec.perFramePageSizeMax_le_sendCapSize
  rcases postStart_filling postable (taken.entries entry) enough with ⟨bytes, leading, filling⟩
  have inside : (postStart codec (taken.entries entry) content).nOffset <
      (taken.entries entry).capSize := by
    have offset := filling.offset
    have room := filling.room
    omega
  rcases postLoop_paginates sendRaw filling with ⟨pages, paginated, sent, faultless, kept⟩
  refine ⟨bytes, pages, leading, paginated, ?_, ?_, ?_⟩
  · simp only [post, alloc, if_true, if_pos inside]
    exact sent
  · simp only [post, alloc, if_true, if_pos inside]
    exact faultless
  · simp only [post, alloc, if_true, if_pos inside]
    exact BufferPool.packetBufferFree_wellFormed
      (BufferPool.set_wellFormed allocates.formed (kept.trans capacity)) allocates.below
      allocates.fresh

/-! ## Any number of packets, cut in any way -/

theorem flatten_map_bytes (pages : List Page) : (pages.map Page.bytes).flatten = wireBytes pages :=
  List.flatMap_def.symm

/-- What is sent for one packet, as pages, and how a decoder that holds nothing
receives them. -/
theorem post_received {codec : Codec} (sendRaw : List UInt8 -> Nat) {content : PacketContent}
    {state : PacketState} (postable : Postable codec content)
    (formed : state.sendPool.WellFormed codec.sendCapSize) :
    Exists fun pages : List Page => Exists fun packet : List UInt8 =>
      (post codec true sendRaw state content).pages = pages.map Page.bytes ∧
      (post codec true sendRaw state content).fault = false ∧
      (post codec true sendRaw state content).state.sendPool.WellFormed codec.sendCapSize ∧
      (forall page, page ∈ pages -> page.Fits tcpStreamReadSize) ∧
      receivePages codec tcpStreamReadSize none pages = .ok (none, [packet]) ∧
      codec.onGotPacket packet = codec.expected content := by
  rcases post_paginates sendRaw postable formed with
    ⟨bytes, pages, leading, paginated, sent, faultless, nextFormed⟩
  have nonempty : bytes ++ content.typeName ≠ [] := by
    have named := postable.named
    apply List.length_pos_iff.mp
    rw [List.length_append]
    omega
  have once := paginated.received nonempty
    (by rw [show bytes ++ content.typeName ++ content.body = LeadingBytes.packet content bytes
          from rfl, leading.length_packet]
        exact postable.bounded)
    (leading.accepts postable.named postable.short)
  exact ⟨pages, LeadingBytes.packet content bytes, sent, faultless, nextFormed, paginated.fits,
    once, leading.onGotPacket_eq postable.short⟩

/-- The same for packets posted one by one. -/
theorem postAll_received {codec : Codec} (sendRaw : List UInt8 -> Nat)
    {contents : List PacketContent} {state : PacketState}
    (postable : forall content, content ∈ contents -> Postable codec content)
    (formed : state.sendPool.WellFormed codec.sendCapSize) :
    Exists fun pages : List Page => Exists fun packets : List (List UInt8) =>
      (postAll codec true sendRaw state contents).pages.flatten = wireBytes pages ∧
      (postAll codec true sendRaw state contents).fault = false ∧
      (forall page, page ∈ pages -> page.Fits tcpStreamReadSize) ∧
      receivePages codec tcpStreamReadSize none pages = .ok (none, packets) ∧
      packets.map codec.onGotPacket = contents.map codec.expected := by
  induction contents generalizing state with
  | nil =>
      refine ⟨[], [], rfl, rfl, ?_, rfl, rfl⟩
      intro page impossible
      cases impossible
  | cons content contents inductionHypothesis =>
      rcases post_received sendRaw (postable content (List.mem_cons_self ..)) formed with
        ⟨pages, packet, sent, faultless, nextFormed, first, once, read⟩
      rcases inductionHypothesis (fun other member => postable other (List.mem_cons_of_mem _ member))
        nextFormed with ⟨others, packets, stream, quiet, fits, received, delivered⟩
      refine ⟨pages ++ others, packet :: packets, ?_, ?_, ?_, ?_, ?_⟩
      · rw [postAll, List.flatten_append, sent, flatten_map_bytes, stream, wireBytes_append]
      · rw [postAll, faultless, quiet]
        rfl
      · intro page member
        rcases List.mem_append.mp member with here | later
        · exact first page here
        · exact fits page later
      · rw [receivePages_append others once, received]
        rfl
      · rw [List.map_cons, List.map_cons, read, delivered]

/-- Pages that fit and decode, read by a new connection in chunks that fit:
their packets are delivered, and the connection is as it was. -/
theorem feedAll_received {codec : Codec} {pages : List Page} {packets : List (List UInt8)}
    (fits : forall page, page ∈ pages -> page.Fits tcpStreamReadSize)
    (received : receivePages codec tcpStreamReadSize none pages = .ok (none, packets))
    {recvPool : BufferPool} (formed : recvPool.WellFormed codec.recvCapSize)
    (sendPool : BufferPool) (uninitialised : Memory UInt8) {chunks : List (List UInt8)}
    (whole : chunks.flatten = wireBytes pages)
    (fit : (Receiver.fresh recvPool sendPool uninitialised).feedAll codec chunks ≠ .refused) :
    Exists fun receiver : Receiver =>
      (Receiver.fresh recvPool sendPool uninitialised).feedAll codec chunks = .decoded receiver ∧
      packetsOf receiver.events = packets ∧
      receiver.state.packet.eRecvPageState = .receiveLeading ∧
      receiver.state.packet.refRecvBuf = none ∧ receiver.bb.committed = [] := by
  have tracks := tracks_fresh formed sendPool uninitialised
  have decodable : Decodable codec ([] ++ chunks).flatten := by
    rw [List.nil_append, whole]
    exact decodable_wireBytes received
  rcases tracks.feedAll_decodes decodable fit with ⟨receiver, fed⟩
  rcases (tracks.feedAll fed).whole_pages whole with
    ⟨taken, left, split, committed, waiting, result, behind⟩
  have nothing : left = [] := by
    rcases behind with nothing | ⟨_, big, member, oversize⟩
    · exact nothing
    · exact absurd (fits big (by rw [split]; exact List.mem_append_left _ member)) oversize
  rw [nothing, List.append_nil] at split
  rw [← split, received] at result
  injection result with pairs
  have empty : receiver.state.held = none := (congrArg Prod.fst pairs).symm
  refine ⟨receiver, fed, (congrArg Prod.snd pairs).symm, waiting, ?_, ?_⟩
  · rw [PacketState.held] at empty
    exact Option.map_eq_none_iff.mp empty
  · rw [committed, nothing]
    rfl

/-- The round trip.  Packets that may be posted, posted one by one on a ready
connection, and the bytes handed to `SendRaw` read by the peer in chunks that
fit its buffer, however they are cut: no call fails on either side, the peer
is given exactly the posted packets in order, and at the end it waits for a
leading, holds no receive buffer, and its buffer is empty. -/
theorem wire_round_trip (codec : Codec) (sendRaw : List UInt8 -> Nat) {sender : PacketState}
    (sendFormed : sender.sendPool.WellFormed codec.sendCapSize) {contents : List PacketContent}
    (postable : forall content, content ∈ contents ->
      1 ≤ content.typeName.length ∧ content.typeName.length ≤ 255 ∧
      codec.leadingSize + content.typeName.length + content.body.length ≤
        fullPacketMaxSizeHint - codec.abi.sizeOfPacketBuffer)
    {recvPool : BufferPool} (recvFormed : recvPool.WellFormed codec.recvCapSize)
    (sendPool : BufferPool) (uninitialised : Memory UInt8) {chunks : List (List UInt8)}
    (cut : chunks.flatten = (postAll codec true sendRaw sender contents).pages.flatten)
    (fit : (Receiver.fresh recvPool sendPool uninitialised).feedAll codec chunks ≠ .refused) :
    (postAll codec true sendRaw sender contents).fault = false ∧
    Exists fun receiver : Receiver =>
      (Receiver.fresh recvPool sendPool uninitialised).feedAll codec chunks = .decoded receiver ∧
      receiver.delivered codec = contents.map codec.expected ∧
      receiver.state.packet.eRecvPageState = .receiveLeading ∧
      receiver.state.packet.refRecvBuf = none ∧ receiver.bb.committed = [] := by
  rcases postAll_received sendRaw
    (fun content member => ⟨(postable content member).1, (postable content member).2.1,
      (postable content member).2.2⟩) sendFormed with
    ⟨pages, packets, stream, faultless, fits, received, delivered⟩
  rcases feedAll_received fits received recvFormed sendPool uninitialised (cut.trans stream) fit with
    ⟨receiver, fed, got, waiting, nothing, empty⟩
  refine ⟨faultless, receiver, fed, ?_, waiting, nothing, empty⟩
  rw [Receiver.delivered, got, delivered]

/-- A packet with the name `A` and one byte of body. -/
def samplePacket : PacketContent := ⟨7, 3, [65], [9]⟩

/-- A packet of three pages. -/
def longPacket : PacketContent := ⟨9, 4, [66, 67], List.replicate 20000 5⟩

theorem longPacket_postable :
    1 ≤ longPacket.typeName.length ∧ longPacket.typeName.length ≤ 255 ∧
      Codec.leadingSize ⟨.inner, .pointer32⟩ + longPacket.typeName.length +
        longPacket.body.length ≤ fullPacketMaxSizeHint - Abi.sizeOfPacketBuffer .pointer32 := by
  have body : longPacket.body.length = 20000 := List.length_replicate
  rw [body]
  decide

/-- A sender whose pools are unused. -/
def sampleSender : PacketState :=
  ⟨.initial fun _ _ => 0, .initial fun _ _ => 0, TcpPacket.initial⟩

/-- What is sent for a long packet between two short ones, byte by byte. -/
def sampleChunks : List (List UInt8) :=
  (postAll ⟨.inner, .pointer32⟩ true List.length sampleSender
    [samplePacket, longPacket, samplePacket]).pages.flatten.map fun byte => [byte]

theorem wire_round_trip_sample :
    Exists fun receiver : Receiver =>
      (Receiver.fresh (.initial fun _ _ => 0) (.initial fun _ _ => 0) fun _ => 0).feedAll
        ⟨.inner, .pointer32⟩ sampleChunks = .decoded receiver ∧
      receiver.delivered ⟨.inner, .pointer32⟩ =
        [⟨some 7, 3, [65], [9]⟩, ⟨some 9, 4, [66, 67], List.replicate 20000 5⟩,
          ⟨some 7, 3, [65], [9]⟩] := by
  have formed : (BufferPool.initial fun _ _ => 0).WellFormed
      (Codec.recvCapSize ⟨.inner, .pointer32⟩) := BufferPool.initial_wellFormed _ _
  have postable : forall content, content ∈ [samplePacket, longPacket, samplePacket] ->
      1 ≤ content.typeName.length ∧ content.typeName.length ≤ 255 ∧
      Codec.leadingSize ⟨.inner, .pointer32⟩ + content.typeName.length + content.body.length ≤
        fullPacketMaxSizeHint - Abi.sizeOfPacketBuffer .pointer32 := by
    intro content member
    simp only [List.mem_cons, List.not_mem_nil, or_false] at member
    rcases member with rfl | rfl | rfl
    · decide
    · exact longPacket_postable
    · decide
  have cut : sampleChunks.flatten = (postAll ⟨.inner, .pointer32⟩ true List.length sampleSender
      [samplePacket, longPacket, samplePacket]).pages.flatten := by
    rw [sampleChunks, ← List.flatMap_def, List.flatMap_singleton']
  have fit := (tracks_fresh formed (.initial fun _ _ => 0) fun _ => 0).feedAll_singletons
    (postAll ⟨.inner, .pointer32⟩ true List.length sampleSender
      [samplePacket, longPacket, samplePacket]).pages.flatten
  rcases (wire_round_trip ⟨.inner, .pointer32⟩ List.length
    (show sampleSender.sendPool.WellFormed _ from
      BufferPool.initial_wellFormed (fun _ _ => 0) _) postable formed (.initial fun _ _ => 0)
    (fun _ => 0) cut fit).2 with ⟨receiver, fed, delivered, _⟩
  exact ⟨receiver, fed, delivered⟩

end NetSystem
