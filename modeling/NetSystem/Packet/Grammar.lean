import NetSystem.Packet.ChunkIndependence

namespace NetSystem

/-!
# The packets in a stream of pages

A full packet is one page with both flags, or a first page with only the start
flag, pages without a flag, and a last page with only the end flag.  A stream
in which no page with the start flag stands inside an unfinished packet is
decoded as the sequence of full packets it is made of, with an unfinished one
at its end.  Pages that do not fit the receive buffer are passed over.

The decoder does not look at an unfinished packet when a page with the start
flag arrives; such streams are left out by `orderly`.
-/

open Receiver

/-- The data of some pages, put together. -/
def pageData (pages : List Page) : List UInt8 := pages.flatMap Page.data

/-- The pages of one packet. -/
inductive FullPacket : List Page -> Prop
  | single {page : Page} (starts : page.pageStart = true) (ends : page.pageEnd = true) :
      FullPacket [page]
  | several {first last : Page} {middle : List Page}
      (starts : first.pageStart = true) (goesOn : first.pageEnd = false)
      (between : forall page, page ∈ middle -> page.pageStart = false ∧ page.pageEnd = false)
      (continues : last.pageStart = false) (ends : last.pageEnd = true) :
      FullPacket (first :: middle ++ [last])

/-- No page, or the first pages of a packet that goes on. -/
inductive Unfinished : List Page -> Prop
  | nothing : Unfinished []
  | begun {first : Page} {middle : List Page}
      (starts : first.pageStart = true) (goesOn : first.pageEnd = false)
      (between : forall page, page ∈ middle -> page.pageStart = false ∧ page.pageEnd = false) :
      Unfinished (first :: middle)

/-- No page with the start flag inside an unfinished packet; `inside` says
whether one is unfinished at the beginning. -/
def orderly : Bool -> List Page -> Bool
  | _, [] => true
  | inside, page :: pages =>
      !(inside && page.pageStart) && orderly (!page.pageEnd && (inside || page.pageStart)) pages

theorem orderly_left {inside : Bool} {left right : List Page}
    (whole : orderly inside (left ++ right) = true) : orderly inside left = true := by
  induction left generalizing inside with
  | nil => rfl
  | cons page left inductionHypothesis =>
      rw [List.cons_append, orderly, Bool.and_eq_true] at whole
      rw [orderly, Bool.and_eq_true]
      exact ⟨whole.1, inductionHypothesis whole.2⟩

/-- The pages a receive buffer of the given capacity can hold. -/
def fitting (capacity : Nat) (pages : List Page) : List Page :=
  pages.filter fun page => decide (page.Fits capacity)

/-- The bytes under construction for the pages of an unfinished packet. -/
def heldOf (tail : List Page) : Option (List UInt8) :=
  if tail = [] then none else some (pageData tail)

theorem heldOf_eq_some {tail : List Page} {bytes : List UInt8} (holds : heldOf tail = some bytes) :
    tail ≠ [] ∧ bytes = pageData tail := by
  unfold heldOf at holds
  split at holds
  · cases holds
  · rename_i nonempty
    cases holds
    exact ⟨nonempty, rfl⟩

theorem pageData_concat (pages : List Page) (page : Page) :
    pageData (pages ++ [page]) = pageData pages ++ page.data := by
  simp [pageData]

theorem heldOf_concat (pages : List Page) (page : Page) :
    heldOf (pages ++ [page]) = some (pageData pages ++ page.data) := by
  rw [heldOf, if_neg (by simp), pageData_concat]

/-- A page without flags continues an unfinished packet. -/
theorem Unfinished.concat {tail : List Page} {page : Page} (unfinished : Unfinished tail)
    (begun : tail ≠ []) (continues : page.pageStart = false) (goesOn : page.pageEnd = false) :
    Unfinished (tail ++ [page]) := by
  cases unfinished with
  | nothing => exact absurd rfl begun
  | begun starts firstGoesOn between =>
      refine .begun starts firstGoesOn ?_
      intro other member
      rcases List.mem_append.mp member with before | here
      · exact between other before
      · rw [List.mem_singleton.mp here]
        exact ⟨continues, goesOn⟩

/-- A page with only the end flag completes it. -/
theorem Unfinished.complete {tail : List Page} {page : Page} (unfinished : Unfinished tail)
    (begun : tail ≠ []) (continues : page.pageStart = false) (ends : page.pageEnd = true) :
    FullPacket (tail ++ [page]) := by
  cases unfinished with
  | nothing => exact absurd rfl begun
  | begun starts goesOn between => exact .several starts goesOn between continues ends

/-- What the decoder makes of pages that come after an unfinished packet. -/
structure PageReading (capacity : Nat) (tail pages : List Page) (last : Option (List UInt8))
    (packets : List (List UInt8)) (runs : List (List Page)) (rest : List Page) : Prop where
  split : tail ++ fitting capacity pages = runs.flatten ++ rest
  full : forall run, run ∈ runs -> FullPacket run
  unfinished : Unfinished rest
  delivered : packets = runs.map pageData
  held : last = heldOf rest

theorem fitting_cons_of_fits {capacity : Nat} {page : Page} (pages : List Page)
    (fits : page.Fits capacity) : fitting capacity (page :: pages) = page :: fitting capacity pages :=
  List.filter_cons_of_pos (decide_eq_true fits)

theorem fitting_cons_of_large {capacity : Nat} {page : Page} (pages : List Page)
    (large : ¬ page.Fits capacity) : fitting capacity (page :: pages) = fitting capacity pages :=
  List.filter_cons_of_neg (by simpa using large)

/-- A packet completed in front of the others. -/
theorem PageReading.cons {capacity : Nat} {tail pages run rest : List Page} {page : Page}
    {last : Option (List UInt8)} {packets : List (List UInt8)} {runs : List (List Page)}
    (fits : page.Fits capacity) (reads : PageReading capacity [] pages last packets runs rest)
    (run_eq : run = tail ++ [page]) (full : FullPacket run) :
    PageReading capacity tail (page :: pages) last (pageData run :: packets) (run :: runs) rest := by
  have split := reads.split
  rw [List.nil_append] at split
  refine ⟨?_, ?_, reads.unfinished, ?_, reads.held⟩
  · rw [fitting_cons_of_fits pages fits, List.flatten_cons, run_eq, List.append_assoc,
      List.append_assoc, ← split]
    rfl
  · intro other member
    rcases List.mem_cons.mp member with rfl | later
    · exact full
    · exact reads.full other later
  · rw [List.map_cons, ← reads.delivered]

theorem PageReading.extend {capacity : Nat} {tail pages rest : List Page} {page : Page}
    {last : Option (List UInt8)} {packets : List (List UInt8)} {runs : List (List Page)}
    (fits : page.Fits capacity)
    (reads : PageReading capacity (tail ++ [page]) pages last packets runs rest) :
    PageReading capacity tail (page :: pages) last packets runs rest := by
  refine ⟨?_, reads.full, reads.unfinished, reads.delivered, reads.held⟩
  rw [fitting_cons_of_fits pages fits, ← reads.split, List.append_assoc]
  rfl

/-- Pages that are received in order make up full packets. -/
theorem receivePages_pageReading {codec : Codec} {capacity : Nat} {tail pages : List Page}
    {last : Option (List UInt8)} {packets : List (List UInt8)} (unfinished : Unfinished tail)
    (received : receivePages codec capacity (heldOf tail) pages = .ok (last, packets))
    (inOrder : orderly (decide (tail ≠ [])) (fitting capacity pages) = true) :
    Exists fun runs => Exists fun rest => PageReading capacity tail pages last packets runs rest := by
  induction pages generalizing tail packets with
  | nil =>
      cases received
      refine ⟨[], tail, ?_, ?_, unfinished, rfl, rfl⟩
      · simp [fitting]
      · intro run impossible
        cases impossible
  | cons page pages inductionHypothesis =>
      cases once : receivePage codec capacity (heldOf tail) page with
      | error errno =>
          rw [receivePages, once] at received
          cases received
      | ok result =>
          rcases result with ⟨next, got⟩
          rw [receivePages_cons_ok once] at received
          cases after : receivePages codec capacity next pages with
          | error errno =>
              rw [after] at received
              cases received
          | ok result =>
              rcases result with ⟨final, more⟩
              rw [after] at received
              cases received
              rcases receivePage_cases once with ⟨_, ⟨fits, assembled⟩ | ⟨large, rfl, rfl⟩⟩
              · rw [fitting_cons_of_fits pages fits, orderly] at inOrder
                simp only [Bool.and_eq_true, Bool.not_eq_true'] at inOrder
                rcases inOrder with ⟨notInside, inOrder⟩
                rcases assemble_cases assembled with ⟨starts, ends, rfl, rfl⟩ |
                  ⟨starts, goesOn, rfl, rfl⟩ |
                  ⟨continues, bytes, holds, ⟨ends, rfl, rfl⟩ | ⟨goesOn, rfl, rfl⟩⟩
                · have closed : tail = [] := by simpa [starts] using notInside
                  subst closed
                  rcases inductionHypothesis .nothing after (by simpa [ends] using inOrder) with
                    ⟨runs, rest, reads⟩
                  have joined : PageReading capacity [] (page :: pages) final
                      (pageData [page] :: more) ([page] :: runs) rest :=
                    reads.cons fits rfl (.single starts ends)
                  exact ⟨[page] :: runs, rest, by simpa [pageData] using joined⟩
                · have closed : tail = [] := by simpa [starts] using notInside
                  subst closed
                  have opened : heldOf [page] = some page.data := by simp [heldOf, pageData]
                  rw [← opened] at after
                  rcases inductionHypothesis (.begun starts goesOn (by simp)) after
                    (by simpa [starts, goesOn] using inOrder) with ⟨runs, rest, reads⟩
                  exact ⟨runs, rest, PageReading.extend fits reads⟩
                · rcases heldOf_eq_some holds with ⟨begun, rfl⟩
                  rcases inductionHypothesis .nothing after (by simpa [ends] using inOrder) with
                    ⟨runs, rest, reads⟩
                  refine ⟨(tail ++ [page]) :: runs, rest, ?_⟩
                  have joined := reads.cons fits rfl (unfinished.complete begun continues ends)
                  rw [pageData_concat] at joined
                  exact joined
                · rcases heldOf_eq_some holds with ⟨begun, rfl⟩
                  rw [← heldOf_concat] at after
                  rcases inductionHypothesis (unfinished.concat begun continues goesOn) after
                    (by simpa [begun, continues, goesOn] using inOrder) with ⟨runs, rest, reads⟩
                  exact ⟨runs, rest, reads.extend fits⟩
              · rw [fitting_cons_of_large pages large] at inOrder
                rcases inductionHypothesis unfinished after inOrder with ⟨runs, rest, reads⟩
                refine ⟨runs, rest, ?_, reads.full, reads.unfinished, reads.delivered, reads.held⟩
                rw [fitting_cons_of_large pages large]
                exact reads.split

/-! ## Whole streams -/

/-- What the pages a receiver has taken say about it. -/
theorem Tracks.grammar {codec : Codec} {chunks : List (List UInt8)} {receiver : Receiver}
    (tracks : Tracks codec chunks receiver) {pages : List Page}
    (stream : chunks.flatten = wireBytes pages)
    (inOrder : orderly false (fitting tcpStreamReadSize pages) = true) :
    Exists fun taken => Exists fun left => pages = taken ++ left ∧
      receiver.bb.committed = wireBytes left ∧
      (left = [] ∨ Exists fun big => big ∈ taken ∧ ¬ big.Fits tcpStreamReadSize) ∧
      Exists fun runs => Exists fun rest => PageReading tcpStreamReadSize [] taken
        receiver.state.held (packetsOf receiver.events) runs rest := by
  rcases tracks.whole_pages stream with ⟨taken, left, split, committed, _, received, behind⟩
  refine ⟨taken, left, split, committed, behind.imp id And.right, ?_⟩
  refine receivePages_pageReading .nothing received ?_
  rw [split, fitting, List.filter_append] at inOrder
  exact orderly_left inOrder

/-- Decoding follows the grammar.  Whole pages, however they are cut, that are
decoded without an error and have no page with the start flag inside an
unfinished packet, are read in this way: the pages that have been decoded,
oversize ones passed over, are a sequence of full packets and an unfinished
one; the packets delivered are the data of the full ones in order, and the
receive buffer holds the data of the unfinished one.  Pages that have not been
decoded are still committed, behind an oversize page. -/
theorem decoding_follows_grammar (codec : Codec) {recvPool : BufferPool}
    (formed : recvPool.WellFormed codec.recvCapSize) (sendPool : BufferPool)
    (uninitialised : Memory UInt8) {chunks : List (List UInt8)} {receiver : Receiver}
    (fed : (Receiver.fresh recvPool sendPool uninitialised).feedAll codec chunks =
      .decoded receiver)
    {pages : List Page} (stream : chunks.flatten = wireBytes pages)
    (inOrder : orderly false (fitting tcpStreamReadSize pages) = true) :
    Exists fun taken => Exists fun left => Exists fun runs : List (List Page) =>
      Exists fun rest =>
        pages = taken ++ left ∧ receiver.bb.committed = wireBytes left ∧
        (left = [] ∨ Exists fun big => big ∈ taken ∧ ¬ big.Fits tcpStreamReadSize) ∧
        fitting tcpStreamReadSize taken = runs.flatten ++ rest ∧
        (forall run, run ∈ runs -> FullPacket run) ∧ Unfinished rest ∧
        packetsOf receiver.events = runs.map pageData ∧ receiver.state.held = heldOf rest := by
  rcases (tracks_of_feedAll formed fed).grammar stream inOrder with
    ⟨taken, left, split, committed, behind, runs, rest, reads⟩
  exact ⟨taken, left, runs, rest, split, committed, behind, reads.split, reads.full,
    reads.unfinished, reads.delivered, reads.held⟩

/-- The first two bytes of a packet of the outer class. -/
def firstPage : Page := ⟨true, false, [1, 0], by decide⟩

/-- The name of that packet. -/
def lastPage : Page := ⟨false, true, [65], by decide⟩

/-- Two pages that make up a packet. -/
theorem decoding_follows_grammar_two_pages :
    Exists fun receiver : Receiver =>
      newReceiver.feedAll outerCodec [firstPage.bytes ++ [6], [0, 65]] = .decoded receiver ∧
      Exists fun runs : List (List Page) => Exists fun rest =>
        [firstPage, lastPage] = runs.flatten ++ rest ∧
        packetsOf receiver.events = runs.map pageData := by
  have fed : Exists fun receiver : Receiver =>
      newReceiver.feedAll outerCodec [firstPage.bytes ++ [6], [0, 65]] = .decoded receiver :=
    ⟨_, rfl⟩
  rcases fed with ⟨receiver, fed⟩
  have pages : fitting tcpStreamReadSize [firstPage, lastPage] = [firstPage, lastPage] := rfl
  rcases decoding_follows_grammar outerCodec (BufferPool.initial_wellFormed (fun _ _ => 0) _)
    (.initial fun _ _ => 0) (fun _ => 0) fed
    (show [firstPage.bytes ++ [6], [0, 65]].flatten = wireBytes [firstPage, lastPage] from rfl)
    (by rw [pages]; rfl) with ⟨taken, left, runs, rest, split, _, behind, runs_eq, _, _, packets, _⟩
  refine ⟨receiver, fed, runs, rest, ?_, packets⟩
  rcases behind with nothing | ⟨big, member, large⟩
  · rw [← runs_eq, ← pages, split, nothing, List.append_nil]
  · have inside : big ∈ [firstPage, lastPage] := by
      rw [split]
      exact List.mem_append_left _ member
    rcases List.mem_cons.mp inside with rfl | inside
    · exact absurd (by decide) large
    · rw [List.mem_singleton.mp inside] at large
      exact absurd (by decide) large

/-! ## An oversize page inside a packet -/

theorem pageData_flatten (runs : List (List Page)) :
    pageData runs.flatten = (runs.map pageData).flatten := by
  induction runs with
  | nil => rfl
  | cons run runs inductionHypothesis =>
      rw [List.flatten_cons, List.map_cons, List.flatten_cons, ← inductionHypothesis]
      exact List.flatMap_append

/-- An unfinished packet has no page with the end flag. -/
theorem Unfinished.no_end {tail : List Page} {page : Page} (unfinished : Unfinished tail)
    (member : page ∈ tail) : page.pageEnd = false := by
  cases unfinished with
  | nothing => cases member
  | begun _ goesOn between =>
      rcases List.mem_cons.mp member with rfl | later
      · exact goesOn
      · exact (between page later).2

/-- The last page is in every part at the end that is not empty. -/
theorem lastPage_mem {front left : List Page} {pages : List Page}
    (split : pages ++ [lastPage] = front ++ left) (nonempty : left ≠ []) : lastPage ∈ left := by
  rcases List.eq_nil_or_concat left with nothing | ⟨init, final, rfl⟩
  · exact absurd nothing nonempty
  · rw [List.concat_eq_append, ← List.append_assoc] at split
    have lasts := List.append_inj_right' split rfl
    cases lasts
    simp

section Spliced

variable (filler : List UInt8) (size : filler.length = 8190)

/-- An oversize page between the two pages of a packet. -/
def splicedPages : List Page := [firstPage, oversizePage filler size] ++ [lastPage]

def splicedChunks : List (List UInt8) :=
  [firstPage.bytes ++ [0xFC, 0x7F], filler, [0]] ++ [lastPage.bytes]

include size

theorem spliced_stream : (splicedChunks filler).flatten = wireBytes (splicedPages filler size) := by
  simp only [splicedPages, wireBytes_append, wireBytes_cons, wireBytes_nil, List.append_nil,
    oversizePage_bytes]
  simp [splicedChunks]

theorem spliced_received :
    receivePages outerCodec tcpStreamReadSize none (splicedPages filler size) =
      .ok (none, [[1, 0, 65]]) := by
  have first : receivePage outerCodec tcpStreamReadSize none firstPage =
      .ok (some [1, 0], none) := rfl
  have middle : receivePage outerCodec tcpStreamReadSize (some [1, 0])
      (oversizePage filler size) = .ok (some [1, 0], none) := by
    rw [receivePage, if_neg (by simp [oversizePage]), if_neg (oversizePage_large filler size)]
  rw [splicedPages, List.cons_append, receivePages_cons_ok first, List.cons_append,
    receivePages_cons_ok middle]
  rfl

/-- The stream is decoded and nothing is left in the buffer. -/
theorem spliced_fed : Exists fun receiver : Receiver =>
    newReceiver.feedAll outerCodec (splicedChunks filler) = .decoded receiver ∧
      receiver.bb.committed = [] := by
  have first : Exists fun receiver : Receiver =>
      newReceiver.feed outerCodec (firstPage.bytes ++ [0xFC, 0x7F]) = .decoded receiver ∧
      receiver.state.packet.eRecvPageState = .skip ∧
      receiver.state.packet.recvPageLeading.dataSize = 8191 ∧ receiver.bb.committed = [] :=
    ⟨_, rfl, rfl, rfl, rfl⟩
  rcases first with ⟨receiver, fed, skipping, left, empty⟩
  have tracks := (newReceiver_tracks outerCodec).feed_decoded fed
  rcases filler_fed filler size outerCodec tracks.ready empty skipping left with
    ⟨second, again, ready, emptyAgain, still, one⟩
  rcases Receiver.feed_skip outerCodec ready emptyAgain still
    (show [(0 : UInt8)].length ≤ tcpStreamReadSize by decide) with ⟨rest, restReady, dropped, once⟩
  have third := (tracks.feed_decoded again).feed_decoded once
  have nothing : rest.getCommittedSize = 0 := by
    rw [← BipBuf.length_committed, dropped, one]
    rfl
  have decodable : Decodable outerCodec (splicedChunks filler).flatten := by
    rw [spliced_stream filler size]
    exact decodable_wireBytes (spliced_received filler size)
  rcases third.feed_decodes decodable
    (show rest.getCommittedSize + lastPage.bytes.length ≤ tcpStreamReadSize by
      rw [nothing]; decide) with ⟨last, final⟩
  have whole : newReceiver.feedAll outerCodec (splicedChunks filler) = .decoded last := by
    rw [splicedChunks, List.cons_append, Receiver.feedAll, fed]
    simp only [List.cons_append, List.nil_append, Receiver.feedAll, again, once, final]
  refine ⟨last, whole, ?_⟩
  rcases ((newReceiver_tracks outerCodec).feedAll whole).whole_pages
    (spliced_stream filler size) with ⟨taken, behind, split, committed, _, _, nothingLeft | ⟨short, _⟩⟩
  · rw [committed, nothingLeft]
    rfl
  · by_cases nonempty : behind = []
    · rw [committed, nonempty]
      rfl
    · rcases List.append_of_mem (lastPage_mem split nonempty) with ⟨before, after, rfl⟩
      have three : lastSize ([] ++ splicedChunks filler) = 3 := rfl
      rw [three, wireBytes_append, wireBytes_cons, List.length_append, List.length_append,
        Page.length_bytes] at short
      exact absurd short (by simp [lastPage]; omega)

end Spliced

/-- A stream that decodes without an error need not follow the grammar: an
oversize page inside a packet is passed over and the packet is delivered
without it. -/
theorem oversize_page_dropped :
    ¬ forall chunks receiver pages,
      newReceiver.feedAll outerCodec chunks = .decoded receiver ->
      (forall page, page ∈ pages -> page.data ≠ []) -> chunks.flatten = wireBytes pages ->
      receiver.bb.committed = [] ->
      Exists fun runs : List (List Page) => Exists fun rest =>
        pages = runs.flatten ++ rest ∧ (forall run, run ∈ runs -> FullPacket run) ∧
        Unfinished rest ∧ packetsOf receiver.events = runs.map pageData := by
  intro follows
  have size : (List.replicate 8190 (0 : UInt8)).length = 8190 := List.length_replicate
  generalize List.replicate 8190 (0 : UInt8) = filler at size
  rcases spliced_fed filler size with ⟨receiver, fed, empty⟩
  have stream := spliced_stream filler size
  have nonempty : forall page, page ∈ splicedPages filler size -> page.data ≠ [] := by
    simp [splicedPages, firstPage, oversizePage, lastPage]
  rcases follows _ receiver _ fed nonempty stream empty with
    ⟨runs, rest, split, _, unfinished, packets⟩
  have closed : rest = [] := by
    by_cases nothing : rest = []
    · exact nothing
    · exact absurd (unfinished.no_end (lastPage_mem split nothing)) (by decide)
  have delivered : packetsOf receiver.events = [[1, 0, 65]] := by
    rcases ((newReceiver_tracks outerCodec).feedAll fed).whole_pages stream with
      ⟨taken, left, pages_eq, committed, _, received, _⟩
    have nothing : left = [] := by
      cases left with
      | nil => rfl
      | cons page left =>
          rw [empty] at committed
          have lengths := congrArg List.length committed
          simp only [wireBytes_cons, List.length_append, Page.length_bytes, List.length_nil] at lengths
          omega
    rw [nothing, List.append_nil] at pages_eq
    rw [← pages_eq, spliced_received] at received
    injection received with pairs
    exact (congrArg Prod.snd pairs).symm
  have data := congrArg (fun pages => (pageData pages).length) split
  simp only [closed, List.append_nil, pageData_flatten, ← packets, delivered] at data
  simp [pageData, splicedPages, firstPage, oversizePage, lastPage, size] at data

end NetSystem
