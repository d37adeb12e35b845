import NetSystem.Packet.RoundTrip

namespace NetSystem

/-!
# `Post` while the connection dies

On a Uv connection `SendRaw` can dispose of the connection: when `uv_write`
does not start, it calls `DisposeConnection`, which deletes the packet object.
The destructor runs `Clear`, and `Clear` gives the send buffer back.  But
`SendRaw` is called by the loop of that object's `Post`, which goes on writing
to the buffer, reads the member `_ref_send_buf` again and gives the buffer back
a second time.

Here `Post` runs with what `Packet/Post` leaves out: whether the object is
still there, the member that owns the send buffer, and the outcome of each
`uv_write`.  The first access to what has been released ends the call; what
happens from there on is undefined.
-/

/-- `Post` of a packet object on a Uv connection.  The bytes of the send buffer
are those of the cursor. -/
structure UvPosting where
  cursor : PostCursor
  state : PacketState
  packetAlive : Bool
  disposed : Bool
  writes : List Bool
  misused : Bool

namespace UvPosting

/-- `DisposeConnection`, as far as the packet object is concerned. -/
def disposeConnection (posting : UvPosting) : UvPosting :=
  if posting.disposed then posting
  else { posting with disposed := true, state := posting.state.clear, packetAlive := false }

/-- `SendRaw`: the pattern says whether `uv_write` starts. -/
def sendRaw (uvWrite : Nat -> Bool) (posting : UvPosting) : UvPosting :=
  let started := uvWrite posting.writes.length
  let written := { posting with writes := posting.writes ++ [started] }
  if started then written else written.disposeConnection

/-- An assertion that fails, or a copy that leaves the send buffer. -/
def fail (posting : UvPosting) : UvPosting :=
  { posting with cursor := { posting.cursor with fault := true } }

end UvPosting

/-- One pass of the `while` loop. -/
def uvPostTurn (uvWrite : Nat -> Bool) (body : List UInt8) (posting : UvPosting) :
    Turn UvPosting :=
  if posting.cursor.pageLeading.pageEnd then .halt posting
  else if posting.cursor.CopyFits then
    let sent := posting.sendRaw uvWrite
    -- the next assignment is to the leading in the send buffer
    if sent.packetAlive then
      .again { sent with cursor := posting.cursor.sendPage List.length body }
    else .halt { sent with misused := true }
  else .halt posting.fail

/-- A pass that goes on is a pass of `Post` on a connection whose `SendRaw`
takes the whole page. -/
theorem uvPostTurn_again {uvWrite : Nat -> Bool} {body : List UInt8} {posting next : UvPosting}
    (pass : uvPostTurn uvWrite body posting = .again next) :
    postTurn List.length body posting.cursor = .again next.cursor := by
  unfold uvPostTurn at pass
  unfold postTurn
  split at pass
  · cases pass
  · rename_i more
    rw [if_neg more]
    split at pass
    · rename_i fits
      rw [if_pos fits]
      dsimp only at pass
      split at pass
      · cases pass
        rfl
      · cases pass
    · cases pass

/-- So is one that ends the loop, unless it ends in a misuse. -/
theorem uvPostTurn_halt {uvWrite : Nat -> Bool} {body : List UInt8} {posting last : UvPosting}
    (pass : uvPostTurn uvWrite body posting = .halt last) (unharmed : last.misused = false) :
    postTurn List.length body posting.cursor = .halt last.cursor := by
  unfold uvPostTurn at pass
  unfold postTurn
  split at pass
  · rename_i ended
    cases pass
    exact if_pos ended
  · rename_i more
    rw [if_neg more]
    split at pass
    · dsimp only at pass
      split at pass
      · cases pass
      · cases pass
        cases unharmed
    · rename_i stuck
      cases pass
      exact if_neg stuck

theorem uvPostTurn_decreases (uvWrite : Nat -> Bool) (body : List UInt8)
    (posting next : UvPosting) (pass : uvPostTurn uvWrite body posting = .again next) :
    postMeasure next.cursor < postMeasure posting.cursor :=
  postTurn_decreases List.length body _ _ (uvPostTurn_again pass)

/-- The `while` loop of `Post` on a Uv connection. -/
def uvPostLoop (uvWrite : Nat -> Bool) (body : List UInt8) : Loop UvPosting where
  turn := uvPostTurn uvWrite body
  measure := fun posting => postMeasure posting.cursor
  decreases := uvPostTurn_decreases uvWrite body

/-- What `Post` enters its loop with, once it has its send buffer. -/
def uvPostStart (codec : Codec) (state : PacketState) (content : PacketContent) (entry : Nat)
    (pool : BufferPool) : UvPosting :=
  ⟨postStart codec (pool.entries entry) content,
    { state with
      sendPool := pool
      packet := { state.packet with refSendBuf := some entry } }, true, false, [], false⟩

/-- The end of `Post`: the send buffer is given back. -/
def UvPosting.giveBack (entry : Nat) (posting : UvPosting) : UvPosting :=
  { posting with
    state := { posting.state with
      sendPool := (posting.state.sendPool.set entry posting.cursor.buffer).packetBufferFree entry
      packet := { posting.state.packet with refSendBuf := none } } }

/-- `Post` on a ready Uv connection: the send buffer it obtained, and how it
ends. -/
def uvPost (codec : Codec) (uvWrite : Nat -> Bool) (state : PacketState)
    (content : PacketContent) : Option (Nat × UvPosting) :=
  match state.sendPool.packetBufferAlloc codec.sendCapSize 1 with
  | none => none
  | some (entry, pool) =>
      let start := uvPostStart codec state content entry pool
      if start.cursor.nOffset < (pool.entries entry).capSize then
        let last := (uvPostLoop uvWrite content.body).exec start
        if last.misused || last.cursor.fault then some (entry, last)
        else some (entry, last.giveBack entry)
      else some (entry, start.fail)

/-- What is asked of a call: nothing is used after it has been released, no
page is sent after one that failed, and the send buffer is free once at the
end. -/
structure UvPosting.Survives (entry : Nat) (posting : UvPosting) : Prop where
  unharmed : posting.misused = false
  stops : forall before after, posting.writes = before ++ false :: after -> after = []
  returned : posting.state.sendPool.freeList.count entry = 1

/-! ## How many pages a packet has -/

/-- The lengths of a packet that `Post` can encode, as the `int` variables see
them: the name fits the first page and the body has a size. -/
structure Encodable (codec : Codec) (content : PacketContent) : Prop where
  positive : 0 ≤ toInt32 (sizeOfFramePageLeading + codec.leadingSize + content.typeName.length)
  inside : toInt32 (sizeOfFramePageLeading + codec.leadingSize + content.typeName.length) ≤
    perFramePageSizeMax
  sized : 0 ≤ toInt32 content.body.length

/-- The first page, and a page for every `PER_FRAME_PAGE_SIZE_MAX` bytes, less
their leading, of what is left of the body. -/
def pagesFor (nOffset nremains : Int) : Nat :=
  1 + ((nremains - (perFramePageSizeMax - nOffset)).toNat +
    (perFramePageSizeMax - sizeOfFramePageLeading - 1)) /
      (perFramePageSizeMax - sizeOfFramePageLeading)

def pageCount (codec : Codec) (content : PacketContent) : Nat :=
  pagesFor (toInt32 (sizeOfFramePageLeading + codec.leadingSize + content.typeName.length))
    (toInt32 content.body.length)

theorem pagesFor_last {nOffset nremains : Int} (small : nremains ≤ perFramePageSizeMax - nOffset) :
    pagesFor nOffset nremains = 1 := by
  unfold pagesFor perFramePageSizeMax tcpStreamReadSize sizeOfFramePageLeading at *
  omega

theorem pagesFor_more {nOffset nremains : Int} (large : perFramePageSizeMax - nOffset < nremains) :
    pagesFor nOffset nremains =
      1 + pagesFor sizeOfFramePageLeading (nremains - (perFramePageSizeMax - nOffset)) := by
  unfold pagesFor perFramePageSizeMax tcpStreamReadSize sizeOfFramePageLeading at *
  omega

/-! ## The loop -/

/-- The loop is about to send a page. -/
structure UvPosting.Going (posting : UvPosting) : Prop where
  goesOn : posting.cursor.pageLeading.pageEnd = false
  positive : 0 ≤ posting.cursor.nOffset
  inside : posting.cursor.nOffset ≤ perFramePageSizeMax
  remains : 0 ≤ posting.cursor.nremains
  capacity : perFramePageSizeMax ≤ posting.cursor.buffer.capSize
  faultless : posting.cursor.fault = false
  alive : posting.packetAlive = true
  open_ : posting.disposed = false
  unharmed : posting.misused = false

/-- How many pages are left. -/
def UvPosting.pagesLeft (posting : UvPosting) : Nat :=
  pagesFor posting.cursor.nOffset posting.cursor.nremains

section Pass

variable {uvWrite : Nat -> Bool} {body : List UInt8} {posting : UvPosting}

theorem UvPosting.Going.fits (going : posting.Going) : posting.cursor.CopyFits := by
  have positive := going.positive
  have inside := going.inside
  have remains := going.remains
  have capacity := going.capacity
  unfold PostCursor.CopyFits PostCursor.nsends
  omega

/-- What a page that is sent leaves the loop with. -/
def UvPosting.sent (body : List UInt8) (posting : UvPosting) : UvPosting :=
  { posting with
    writes := posting.writes ++ [true]
    cursor := posting.cursor.sendPage List.length body }

/-- A page whose `uv_write` starts. -/
theorem UvPosting.Going.turn_sent (going : posting.Going)
    (starts : uvWrite posting.writes.length = true) :
    (uvPostLoop uvWrite body).turn posting = .again (posting.sent body) := by
  have sent : posting.sendRaw uvWrite = { posting with writes := posting.writes ++ [true] } := by
    unfold UvPosting.sendRaw
    rw [starts]
    rfl
  change uvPostTurn uvWrite body posting = _
  rw [uvPostTurn, if_neg (by rw [going.goesOn]; exact Bool.false_ne_true), if_pos going.fits, sent]
  exact if_pos going.alive

/-- A page whose `uv_write` does not start ends the call: the leading that is
written next has been given back. -/
theorem UvPosting.Going.turn_failed (going : posting.Going)
    (fails : uvWrite posting.writes.length = false) :
    ((uvPostLoop uvWrite body).exec posting).misused = true := by
  have dead : (posting.sendRaw uvWrite).packetAlive = false := by
    unfold UvPosting.sendRaw UvPosting.disposeConnection
    rw [fails, going.open_]
    rfl
  have turn : (uvPostLoop uvWrite body).turn posting =
      .halt { posting.sendRaw uvWrite with misused := true } := by
    change uvPostTurn uvWrite body posting = _
    rw [uvPostTurn, if_neg (by rw [going.goesOn]; exact Bool.false_ne_true), if_pos going.fits]
    exact if_neg (by rw [dead]; exact Bool.false_ne_true)
  rw [(uvPostLoop uvWrite body).exec_of_halt turn]

theorem UvPosting.sent_pageEnd :
    (posting.sent body).cursor.pageLeading.pageEnd =
      decide (posting.cursor.nremains - posting.cursor.nsends ≤ 0) := by
  change (posting.cursor.sendPage List.length body).pageLeading.pageEnd = _
  rw [sendPage_pageLeading]
  rfl

/-- The page just sent was the last one. -/
theorem UvPosting.Going.sent_last
    (small : posting.cursor.nremains ≤ perFramePageSizeMax - posting.cursor.nOffset) :
    (uvPostLoop uvWrite body).turn (posting.sent body) = .halt (posting.sent body) := by
  have ends : (posting.sent body).cursor.pageLeading.pageEnd = true := by
    rw [UvPosting.sent_pageEnd]
    unfold PostCursor.nsends
    exact decide_eq_true (by omega)
  exact if_pos ends

/-- More of the body is left for a page that has only its leading. -/
theorem UvPosting.Going.sent_more (going : posting.Going)
    (large : perFramePageSizeMax - posting.cursor.nOffset < posting.cursor.nremains) :
    (posting.sent body).Going ∧ posting.pagesLeft = 1 + (posting.sent body).pagesLeft := by
  have inside := going.inside
  have sends : posting.cursor.nsends = perFramePageSizeMax - posting.cursor.nOffset := by
    unfold PostCursor.nsends
    omega
  have remains : (posting.sent body).cursor.nremains =
      posting.cursor.nremains - (perFramePageSizeMax - posting.cursor.nOffset) := by
    rw [← sends]
    rfl
  constructor
  · refine ⟨?_, Int.natCast_nonneg _,
      show ((2 : Nat) : Int) ≤ ((8192 : Nat) : Int) by decide, ?_, going.capacity, going.faultless,
      going.alive, going.open_, going.unharmed⟩
    · rw [UvPosting.sent_pageEnd, sends]
      exact decide_eq_false (by omega)
    · rw [remains]
      omega
  · rw [UvPosting.pagesLeft, UvPosting.pagesLeft, pagesFor_more large, remains]
    rfl

/-- Where every `uv_write` starts, the loop sends all pages and ends. -/
theorem UvPosting.Going.all_sent (going : posting.Going) (body : List UInt8)
    (starts : forall index, index < posting.pagesLeft ->
      uvWrite (posting.writes.length + index) = true) :
    ((uvPostLoop uvWrite body).exec posting).misused = false ∧
    ((uvPostLoop uvWrite body).exec posting).cursor.fault = false ∧
    ((uvPostLoop uvWrite body).exec posting).state = posting.state ∧
    Exists fun count => ((uvPostLoop uvWrite body).exec posting).writes =
      posting.writes ++ List.replicate count true := by
  generalize left : posting.pagesLeft = size
  induction size using Nat.strongRecOn generalizing posting with
  | ind size inductionHypothesis =>
      have positive : 0 < posting.pagesLeft :=
        Nat.lt_of_lt_of_le Nat.one_pos (Nat.le_add_right 1 _)
      rw [(uvPostLoop uvWrite body).exec_of_again (going.turn_sent (starts 0 positive))]
      by_cases small : posting.cursor.nremains ≤ perFramePageSizeMax - posting.cursor.nOffset
      · rw [(uvPostLoop uvWrite body).exec_of_halt (Going.sent_last small)]
        exact ⟨going.unharmed, going.faultless, rfl, 1, rfl⟩
      · have large : perFramePageSizeMax - posting.cursor.nOffset < posting.cursor.nremains := by
          omega
        have more : (posting.sent body).Going ∧ posting.pagesLeft = 1 + (posting.sent body).pagesLeft :=
          going.sent_more large
        rcases more with ⟨next, pages⟩
        have nextStarts : forall index, index < (posting.sent body).pagesLeft ->
            uvWrite ((posting.sent body).writes.length + index) = true := by
          intro index below
          have started := starts (1 + index) (by rw [pages]; omega)
          rw [← Nat.add_assoc] at started
          change uvWrite ((posting.writes ++ [true]).length + index) = true
          rw [List.length_append]
          exact started
        rcases inductionHypothesis _ (by omega) next nextStarts rfl with
          ⟨unharmed, faultless, state, count, writes⟩
        refine ⟨unharmed, faultless, state, count + 1, ?_⟩
        rw [writes]
        change posting.writes ++ [true] ++ _ = _
        rw [List.append_assoc, List.replicate_succ]
        rfl

/-- Where one of them does not, something is used after its release. -/
theorem UvPosting.Going.some_failed (going : posting.Going) {index : Nat}
    (below : index < posting.pagesLeft)
    (fails : uvWrite (posting.writes.length + index) = false) :
    ((uvPostLoop uvWrite body).exec posting).misused = true := by
  induction index generalizing posting with
  | zero => exact going.turn_failed fails
  | succ index inductionHypothesis =>
      cases first : uvWrite posting.writes.length with
      | false => exact going.turn_failed first
      | true =>
          have large : perFramePageSizeMax - posting.cursor.nOffset < posting.cursor.nremains := by
            by_contra small
            rw [UvPosting.pagesLeft, pagesFor_last (by omega)] at below
            omega
          have more : (posting.sent body).Going ∧
              posting.pagesLeft = 1 + (posting.sent body).pagesLeft := going.sent_more large
          rcases more with ⟨next, pages⟩
          rw [(uvPostLoop uvWrite body).exec_of_again (going.turn_sent first)]
          refine inductionHypothesis next (by omega) ?_
          change uvWrite ((posting.writes ++ [true]).length + index) = false
          rw [List.length_append, Nat.add_assoc, Nat.add_comm _ index]
          exact fails

end Pass

/-- As long as nothing is misused, the whole loop is that of `Post`. -/
theorem uvPostLoop_cursor (uvWrite : Nat -> Bool) (body : List UInt8) (posting : UvPosting)
    (unharmed : ((uvPostLoop uvWrite body).exec posting).misused = false) :
    ((uvPostLoop uvWrite body).exec posting).cursor =
      (postLoop List.length body).exec posting.cursor := by
  induction posting using (uvPostLoop uvWrite body).induction with
  | stop posting last pass =>
      rw [(uvPostLoop uvWrite body).exec_of_halt pass] at unharmed ⊢
      have stop : (postLoop List.length body).turn posting.cursor = .halt last.cursor :=
        uvPostTurn_halt pass unharmed
      rw [(postLoop List.length body).exec_of_halt stop]
  | more posting next pass inductionHypothesis =>
      rw [(uvPostLoop uvWrite body).exec_of_again pass] at unharmed ⊢
      have again : (postLoop List.length body).turn posting.cursor = .again next.cursor :=
        uvPostTurn_again pass
      rw [inductionHypothesis unharmed, (postLoop List.length body).exec_of_again again]

/-! ## The whole call -/

section Call

variable {codec : Codec} {state : PacketState} {content : PacketContent} {entry : Nat}
  {pool : BufferPool}

theorem uvPostStart_nOffset : (uvPostStart codec state content entry pool).cursor.nOffset =
    toInt32 (sizeOfFramePageLeading + codec.leadingSize + content.typeName.length) := by
  simp only [uvPostStart, postStart, encodeStream]

theorem uvPostStart_nremains : (uvPostStart codec state content entry pool).cursor.nremains =
    toInt32 content.body.length := by
  simp only [uvPostStart, postStart]

theorem uvPostStart_going (encodable : Encodable codec content)
    (capacity : (pool.entries entry).capSize = codec.sendCapSize) :
    (uvPostStart codec state content entry pool).Going := by
  refine ⟨?_, ?_, ?_, ?_, ?_, rfl, rfl, rfl, rfl⟩
  · change (postStart codec (pool.entries entry) content).pageLeading.pageEnd = false
    rw [postStart_pageLeading]
  · rw [uvPostStart_nOffset]
    exact encodable.positive
  · rw [uvPostStart_nOffset]
    exact encodable.inside
  · rw [uvPostStart_nremains]
    exact encodable.sized
  · change perFramePageSizeMax ≤ (pool.entries entry).capSize
    rw [capacity]
    exact codec.perFramePageSizeMax_le_sendCapSize

/-- A packet that cannot be encoded does not get past the first copy. -/
theorem uvPostStart_stuck (notEncodable : ¬ Encodable codec content) :
    ¬ (uvPostStart codec state content entry pool).cursor.CopyFits := by
  rintro ⟨positive, sends, _⟩
  rw [uvPostStart_nOffset] at positive
  rw [PostCursor.nsends, uvPostStart_nOffset, uvPostStart_nremains] at sends
  exact notEncodable ⟨positive, by omega, by omega⟩

theorem Codec.perFramePageSizeMax_lt_sendCapSize (codec : Codec) :
    perFramePageSizeMax < codec.sendCapSize := by
  unfold Codec.sendCapSize Codec.capSizeOf
  cases codec.abi <;> decide

theorem uvPostStart_inside (state : PacketState) (encodable : Encodable codec content)
    (capacity : (pool.entries entry).capSize = codec.sendCapSize) :
    (uvPostStart codec state content entry pool).cursor.nOffset <
      (pool.entries entry).capSize := by
  have below := encodable.inside
  have strict := codec.perFramePageSizeMax_lt_sendCapSize
  rw [uvPostStart_nOffset, capacity]
  omega

/-- A packet that can be encoded gets to the loop. -/
theorem uvPost_of_encodable (uvWrite : Nat -> Bool)
    (alloc : state.sendPool.packetBufferAlloc codec.sendCapSize 1 = some (entry, pool))
    (capacity : (pool.entries entry).capSize = codec.sendCapSize)
    (encodable : Encodable codec content) {last : UvPosting}
    (loop : (uvPostLoop uvWrite content.body).exec
      (uvPostStart codec state content entry pool) = last) :
    uvPost codec uvWrite state content =
      if last.misused || last.cursor.fault then some (entry, last)
      else some (entry, last.giveBack entry) := by
  simp only [uvPost, alloc, if_pos (uvPostStart_inside state encodable capacity), loop]

/-- A call in which nothing is misused has sent what `Post` sends through a
`SendRaw` that leaves the connection alone. -/
theorem uvPost_pages {uvWrite : Nat -> Bool}
    (alloc : state.sendPool.packetBufferAlloc codec.sendCapSize 1 = some (entry, pool))
    (capacity : (pool.entries entry).capSize = codec.sendCapSize)
    (encodable : Encodable codec content) {posting : UvPosting}
    (called : uvPost codec uvWrite state content = some (entry, posting))
    (unharmed : posting.misused = false) :
    posting.cursor.pages = (post codec true List.length state content).pages := by
  generalize loop : (uvPostLoop uvWrite content.body).exec
    (uvPostStart codec state content entry pool) = last
  have value := uvPost_of_encodable uvWrite alloc capacity encodable loop
  have same : posting.cursor = last.cursor ∧ posting.misused = last.misused := by
    rw [called] at value
    split at value
    · cases value
      exact ⟨rfl, rfl⟩
    · cases value
      exact ⟨rfl, rfl⟩
  have cursor := uvPostLoop_cursor uvWrite content.body (uvPostStart codec state content entry pool)
    (by rw [loop, ← same.2]; exact unharmed)
  have inside : (postStart codec (pool.entries entry) content).nOffset <
      (pool.entries entry).capSize := uvPostStart_inside state encodable capacity
  rw [same.1, ← loop, cursor]
  simp only [post, alloc, if_true, if_pos inside]
  rfl

/-- One that cannot be encoded ends with its send buffer still taken. -/
theorem uvPost_of_not_encodable (uvWrite : Nat -> Bool)
    (alloc : state.sendPool.packetBufferAlloc codec.sendCapSize 1 = some (entry, pool))
    (notEncodable : ¬ Encodable codec content) :
    Exists fun posting => uvPost codec uvWrite state content = some (entry, posting) ∧
      posting.state.sendPool = pool := by
  by_cases inside : (uvPostStart codec state content entry pool).cursor.nOffset <
      (pool.entries entry).capSize
  · have goesOn : ¬ (uvPostStart codec state content entry pool).cursor.pageLeading.pageEnd =
        true := by
      change ¬ (postStart codec (pool.entries entry) content).pageLeading.pageEnd = true
      rw [postStart_pageLeading]
      exact Bool.false_ne_true
    have stop : (uvPostLoop uvWrite content.body).turn (uvPostStart codec state content entry pool) =
        .halt (uvPostStart codec state content entry pool).fail :=
      (if_neg goesOn).trans (if_neg (uvPostStart_stuck notEncodable))
    refine ⟨(uvPostStart codec state content entry pool).fail, ?_, rfl⟩
    simp only [uvPost, alloc, if_pos inside, (uvPostLoop uvWrite content.body).exec_of_halt stop,
      UvPosting.fail, Bool.or_true, if_true]
  · refine ⟨(uvPostStart codec state content entry pool).fail, ?_, rfl⟩
    simp only [uvPost, alloc, if_neg inside]

theorem uvPostStart_pagesLeft :
    (uvPostStart codec state content entry pool).pagesLeft = pageCount codec content := by
  rw [UvPosting.pagesLeft, uvPostStart_nOffset, uvPostStart_nremains, pageCount]

/-- When `uv_write` starts for every page, the call survives. -/
theorem uvPost_survives_of_starts {uvWrite : Nat -> Bool}
    (alloc : state.sendPool.packetBufferAlloc codec.sendCapSize 1 = some (entry, pool))
    (capacity : (pool.entries entry).capSize = codec.sendCapSize)
    (absent : pool.freeList.count entry = 0) (encodable : Encodable codec content)
    (starts : forall index, index < pageCount codec content -> uvWrite index = true) :
    Exists fun posting => uvPost codec uvWrite state content = some (entry, posting) ∧
      posting.Survives entry := by
  generalize loop : (uvPostLoop uvWrite content.body).exec
    (uvPostStart codec state content entry pool) = last
  have value := uvPost_of_encodable uvWrite alloc capacity encodable loop
  have going : (uvPostStart codec state content entry pool).Going :=
    uvPostStart_going encodable capacity
  have every : forall index, index < (uvPostStart codec state content entry pool).pagesLeft ->
      uvWrite ((uvPostStart codec state content entry pool).writes.length + index) = true := by
    intro index below
    change uvWrite (0 + index) = true
    rw [Nat.zero_add]
    exact starts index (uvPostStart_pagesLeft ▸ below)
  have sent := going.all_sent content.body every
  rw [loop] at sent
  rcases sent with ⟨unharmed, faultless, kept, count, writes⟩
  rw [unharmed, faultless] at value
  refine ⟨_, value, unharmed, ?_, ?_⟩
  · intro before after split
    have member : false ∈ last.writes := by
      change last.writes = before ++ false :: after at split
      rw [split]
      exact List.mem_append_right _ (List.mem_cons_self ..)
    rw [writes] at member
    cases List.eq_of_mem_replicate member
  · change (entry :: last.state.sendPool.freeList).count entry = 1
    rw [kept, List.count_cons_self]
    change pool.freeList.count entry + 1 = 1
    rw [absent]

/-- When `uv_write` does not start for one of the pages, an object is misused. -/
theorem uvPost_misused_of_fails {uvWrite : Nat -> Bool}
    (alloc : state.sendPool.packetBufferAlloc codec.sendCapSize 1 = some (entry, pool))
    (capacity : (pool.entries entry).capSize = codec.sendCapSize)
    (encodable : Encodable codec content) {index : Nat} (below : index < pageCount codec content)
    (fails : uvWrite index = false) :
    Exists fun posting => uvPost codec uvWrite state content = some (entry, posting) ∧
      posting.misused = true := by
  generalize loop : (uvPostLoop uvWrite content.body).exec
    (uvPostStart codec state content entry pool) = last
  have value := uvPost_of_encodable uvWrite alloc capacity encodable loop
  have going : (uvPostStart codec state content entry pool).Going :=
    uvPostStart_going encodable capacity
  have misused : last.misused = true := by
    rw [← loop]
    refine going.some_failed (uvPostStart_pagesLeft ▸ below) ?_
    change uvWrite (0 + index) = false
    rwa [Nat.zero_add]
  rw [misused] at value
  exact ⟨last, value, misused⟩

end Call

/-- `Post` on a ready Uv connection, for every packet and every pattern of
`uv_write` outcomes: it survives when the packet can be encoded and `uv_write`
starts for each of its pages, and never otherwise. -/
theorem uvPost_survives_iff (codec : Codec) {state : PacketState}
    (formed : state.sendPool.WellFormed codec.sendCapSize) (content : PacketContent)
    (uvWrite : Nat -> Bool) :
    (Exists fun entry => Exists fun posting =>
      uvPost codec uvWrite state content = some (entry, posting) ∧ posting.Survives entry) ↔
      Encodable codec content ∧
        forall index, index < pageCount codec content -> uvWrite index = true := by
  rcases BufferPool.packetBufferAlloc_spec formed Nat.one_pos with ⟨entry, taken, alloc, allocates⟩
  have capacity : (taken.entries entry).capSize = codec.sendCapSize :=
    allocates.formed.sized entry allocates.below
  have absent : taken.freeList.count entry = 0 := List.count_eq_zero_of_not_mem allocates.fresh
  by_cases encodable : Encodable codec content
  · by_cases starts : forall index, index < pageCount codec content -> uvWrite index = true
    · rcases uvPost_survives_of_starts alloc capacity absent encodable starts with
        ⟨posting, value, survives⟩
      exact iff_of_true ⟨entry, posting, value, survives⟩ ⟨encodable, starts⟩
    · refine iff_of_false ?_ (fun both => starts both.2)
      have failing : Exists fun index => index < pageCount codec content ∧ uvWrite index = false := by
        by_contra none
        refine starts fun index below => Bool.of_not_eq_false fun fails => ?_
        exact none ⟨index, below, fails⟩
      rcases failing with ⟨index, below, fails⟩
      rcases uvPost_misused_of_fails alloc capacity encodable below fails with
        ⟨last, value, misused⟩
      rintro ⟨other, posting, same, survives⟩
      rw [value] at same
      cases same
      rw [survives.unharmed] at misused
      cases misused
  · refine iff_of_false ?_ (fun both => encodable both.1)
    rcases uvPost_of_not_encodable uvWrite alloc encodable with ⟨stuck, value, kept⟩
    rintro ⟨other, posting, same, survives⟩
    rw [value] at same
    cases same
    have returned := survives.returned
    rw [kept, absent] at returned
    cases returned

/-- A packet of three pages, each of which is written. -/
theorem uvPost_survives_sample : Exists fun entry => Exists fun posting : UvPosting =>
    uvPost ⟨.inner, .pointer32⟩ (fun _ => true) sampleSender longPacket =
      some (entry, posting) ∧ posting.Survives entry := by
  have sized : 0 ≤ toInt32 longPacket.body.length := by
    have body : longPacket.body.length = 20000 := List.length_replicate
    rw [body]
    decide
  exact (uvPost_survives_iff ⟨.inner, .pointer32⟩
    (show sampleSender.sendPool.WellFormed _ from BufferPool.initial_wellFormed (fun _ _ => 0) _)
    longPacket fun _ => true).mpr ⟨⟨by decide, by decide, sized⟩, fun _ _ => rfl⟩

/-- The only page of a packet is not written: the object is deleted, its buffer
is free, and `Post` goes on with it. -/
theorem failed_write_misused :
    (Exists fun posting : UvPosting =>
      uvPost ⟨.inner, .pointer32⟩ (fun _ => false) sampleSender samplePacket =
        some (0, posting) ∧ posting.packetAlive = false ∧
      posting.state.sendPool.freeList = [0] ∧ posting.misused = true) ∧
    ¬ Exists fun entry => Exists fun posting : UvPosting =>
      uvPost ⟨.inner, .pointer32⟩ (fun _ => false) sampleSender samplePacket =
        some (entry, posting) ∧ posting.Survives entry := by
  have called : Exists fun posting : UvPosting =>
      uvPost ⟨.inner, .pointer32⟩ (fun _ => false) sampleSender samplePacket =
        some (0, posting) ∧ posting.packetAlive = false ∧
      posting.state.sendPool.freeList = [0] ∧ posting.misused = true := ⟨_, rfl, rfl, rfl, rfl⟩
  refine ⟨called, ?_⟩
  rcases called with ⟨posting, value, _, _, misused⟩
  rintro ⟨entry, other, same, survives⟩
  rw [value] at same
  cases same
  rw [survives.unharmed] at misused
  cases misused

end NetSystem
