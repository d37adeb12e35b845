import NetSystem.Packet.Layout

namespace NetSystem

/-!
# Streams of pages and their reassembly

The receiving side without buffers and memory.  A page is a value: its two
flags and its data, short enough for the 14-bit size field.  The bytes of a
page are self-delimiting, so a byte stream is a sequence of pages in at most
one way, up to an incomplete page at its end.

`assemble` says what one page does to the packet under construction and
`receivePages` what a sequence of pages does, for a receive buffer of a given
capacity.  The decoder's model is compared with these functions; nothing here
mentions a chunk, a pool, or an address.
-/

/-- A page with its data in full. -/
structure Page where
  pageStart : Bool
  pageEnd : Bool
  data : List UInt8
  bounded : data.length < 2 ^ 14

namespace Page

def leading (page : Page) : PageLeading :=
  ⟨page.pageStart, page.pageEnd, BitVec.ofNat 14 page.data.length⟩

/-- The page on the wire. -/
def bytes (page : Page) : List UInt8 := page.leading.bytes ++ page.data

/-- The page fits a receive buffer of the given capacity. -/
def Fits (capacity : Nat) (page : Page) : Prop :=
  sizeOfFramePageLeading + page.data.length ≤ capacity

instance (capacity : Nat) (page : Page) : Decidable (page.Fits capacity) :=
  inferInstanceAs (Decidable (_ ≤ _))

@[simp] theorem leading_dataSize (page : Page) :
    page.leading.dataSize.toNat = page.data.length := by
  rw [leading, BitVec.toNat_ofNat, Nat.mod_eq_of_lt page.bounded]

@[simp] theorem length_bytes (page : Page) : page.bytes.length = 2 + page.data.length := by
  rw [bytes, List.length_append, PageLeading.length_bytes]

theorem ofBytes_append (page : Page) (rest : List UInt8) :
    PageLeading.ofBytes (page.bytes ++ rest) = page.leading := by
  rw [bytes, List.append_assoc, PageLeading.ofBytes_append]

theorem ext_leading {first second : Page} (leading : first.leading = second.leading)
    (data : first.data = second.data) : first = second := by
  rcases first with ⟨start, finish, bytes, bounded⟩
  rcases second with ⟨start', finish', bytes', bounded'⟩
  cases data
  injection leading with startEq finishEq
  cases startEq
  cases finishEq
  rfl

/-- A page is delimited by its own leading. -/
theorem bytes_append_inj {first second : Page} {left right : List UInt8}
    (same : first.bytes ++ left = second.bytes ++ right) : first = second ∧ left = right := by
  have leading : first.leading = second.leading := by
    rw [← first.ofBytes_append left, same, second.ofBytes_append right]
  have lengths : first.data.length = second.data.length := by
    rw [← first.leading_dataSize, leading, second.leading_dataSize]
  have parts := List.append_inj same (by rw [length_bytes, length_bytes, lengths])
  have data := (List.append_inj parts.1 (by
    rw [PageLeading.length_bytes, PageLeading.length_bytes])).2
  exact ⟨ext_leading leading data, parts.2⟩

end Page

/-- The bytes of a sequence of pages. -/
def wireBytes (pages : List Page) : List UInt8 := pages.flatMap Page.bytes

@[simp] theorem wireBytes_nil : wireBytes [] = [] := rfl

@[simp] theorem wireBytes_cons (page : Page) (pages : List Page) :
    wireBytes (page :: pages) = page.bytes ++ wireBytes pages := rfl

@[simp] theorem wireBytes_append (left right : List Page) :
    wireBytes (left ++ right) = wireBytes left ++ wireBytes right :=
  List.flatMap_append

/-- Two readings of one byte stream as pages agree as far as both go. -/
theorem wireBytes_append_comparable {left right : List Page} {first second : List UInt8}
    (same : wireBytes left ++ first = wireBytes right ++ second) :
    (Exists fun more => right = left ++ more ∧ first = wireBytes more ++ second) ∨
    (Exists fun more => left = right ++ more ∧ second = wireBytes more ++ first) := by
  induction left generalizing right with
  | nil => exact Or.inl ⟨right, rfl, same⟩
  | cons page left inductionHypothesis =>
      cases right with
      | nil => exact Or.inr ⟨page :: left, rfl, same.symm⟩
      | cons other right =>
          rw [wireBytes_cons, wireBytes_cons, List.append_assoc, List.append_assoc] at same
          rcases Page.bytes_append_inj same with ⟨rfl, tails⟩
          rcases inductionHypothesis tails with ⟨more, rfl, rest⟩ | ⟨more, rfl, rest⟩
          · exact Or.inl ⟨more, rfl, rest⟩
          · exact Or.inr ⟨more, rfl, rest⟩

/-- The bytes hold no complete page at their front. -/
def Starved (rest : List UInt8) : Prop :=
  rest.length < 2 ∨ rest.length < 2 + (PageLeading.ofBytes rest).dataSize.toNat

theorem not_starved_page (page : Page) (rest : List UInt8) : ¬ Starved (page.bytes ++ rest) := by
  intro starved
  rw [Starved, page.ofBytes_append, page.leading_dataSize, List.length_append,
    page.length_bytes] at starved
  omega

/-- Nothing complete is in bytes that begin with no complete page. -/
theorem Starved.no_pages {rest tail : List UInt8} {pages : List Page} (starved : Starved rest)
    (same : rest = wireBytes pages ++ tail) : pages = [] := by
  cases pages with
  | nil => rfl
  | cons page pages =>
      rw [wireBytes_cons, List.append_assoc] at same
      exact absurd (same ▸ starved) (not_starved_page page _)

/-- Enough bytes behind a leading are a page. -/
theorem exists_page_of_length {rest : List UInt8}
    (enough : 2 + (PageLeading.ofBytes rest).dataSize.toNat ≤ rest.length) :
    Exists fun page : Page => Exists fun tail =>
      rest = page.bytes ++ tail ∧ page.leading = PageLeading.ofBytes rest ∧
        page.data = (rest.drop 2).take (PageLeading.ofBytes rest).dataSize.toNat := by
  have bound := (PageLeading.ofBytes rest).dataSize.isLt
  have length : ((rest.drop 2).take (PageLeading.ofBytes rest).dataSize.toNat).length =
      (PageLeading.ofBytes rest).dataSize.toNat := by
    rw [List.length_take, List.length_drop]
    omega
  let page : Page := ⟨(PageLeading.ofBytes rest).pageStart, (PageLeading.ofBytes rest).pageEnd,
    (rest.drop 2).take (PageLeading.ofBytes rest).dataSize.toNat, by omega⟩
  have leading : page.leading = PageLeading.ofBytes rest := by
    simp only [page, Page.leading, length, BitVec.ofNat_toNat, BitVec.setWidth_eq]
  have front : page.leading.bytes = rest.take 2 := by
    rw [leading, ← PageLeading.ofBytes_take]
    exact PageLeading.bytes_ofBytes (by rw [List.length_take]; omega)
  refine ⟨page, (rest.drop 2).drop (PageLeading.ofBytes rest).dataSize.toNat, ?_, leading, rfl⟩
  rw [Page.bytes, front, List.append_assoc, List.take_append_drop, List.take_append_drop]

/-! ## Reassembly -/

namespace Codec

/-- The test made before a packet is handed on: a name, and room for it. -/
def Accepts (codec : Codec) (buffer : List UInt8) : Prop :=
  0 < (buffer[0]?.getD 0).toNat ∧
    codec.leadingSize + (buffer[0]?.getD 0).toNat ≤ buffer.length

instance (codec : Codec) (buffer : List UInt8) : Decidable (codec.Accepts buffer) :=
  inferInstanceAs (Decidable (_ ∧ _))

end Codec

/-- What one page that fits the buffer does: the packet under construction
afterwards and the packet delivered, or the error number. -/
def assemble (codec : Codec) (held : Option (List UInt8)) (page : Page) :
    Except Int (Option (List UInt8) × Option (List UInt8)) :=
  if page.pageStart ∧ page.pageEnd then
    if codec.Accepts page.data then .ok (held, some page.data) else .error (-1)
  else if page.pageStart then
    if page.data.length ≤ codec.recvCapSize then .ok (some page.data, none) else .error (-2)
  else
    match held with
    | none => .error (-6)
    | some bytes =>
        if page.pageEnd then
          if bytes.length + page.data.length ≤ codec.recvCapSize then
            if codec.Accepts (bytes ++ page.data) then .ok (none, some (bytes ++ page.data))
            else .error (-3)
          else .error (-4)
        else if bytes.length + page.data.length ≤ codec.recvCapSize then
          .ok (some (bytes ++ page.data), none)
        else .error (-5)

/-- One page of a stream: an empty page is an error and one that does not fit
the receive buffer is passed over. -/
def receivePage (codec : Codec) (capacity : Nat) (held : Option (List UInt8)) (page : Page) :
    Except Int (Option (List UInt8) × Option (List UInt8)) :=
  if page.data = [] then .error (-99)
  else if page.Fits capacity then assemble codec held page
  else .ok (held, none)

/-- The four pages that are not an error: a packet of its own, the first, the
last and a middle page of a longer one. -/
theorem assemble_cases {codec : Codec} {held next got : Option (List UInt8)} {page : Page}
    (ok : assemble codec held page = .ok (next, got)) :
    (page.pageStart = true ∧ page.pageEnd = true ∧ next = held ∧ got = some page.data) ∨
    (page.pageStart = true ∧ page.pageEnd = false ∧ next = some page.data ∧ got = none) ∨
    (page.pageStart = false ∧ Exists fun bytes => held = some bytes ∧
      ((page.pageEnd = true ∧ next = none ∧ got = some (bytes ++ page.data)) ∨
        (page.pageEnd = false ∧ next = some (bytes ++ page.data) ∧ got = none))) := by
  unfold assemble at ok
  cases starts : page.pageStart with
  | true =>
      cases ends : page.pageEnd with
      | true =>
          simp only [starts, ends, and_self, if_true] at ok
          split at ok
          · cases ok
            exact Or.inl ⟨rfl, rfl, rfl, rfl⟩
          · cases ok
      | false =>
          simp only [starts, ends, Bool.false_eq_true, and_false, if_false, if_true] at ok
          split at ok
          · cases ok
            exact Or.inr (Or.inl ⟨rfl, rfl, rfl, rfl⟩)
          · cases ok
  | false =>
      simp only [starts, Bool.false_eq_true, false_and, if_false] at ok
      cases held with
      | none => cases ok
      | some bytes =>
          refine Or.inr (Or.inr ⟨rfl, bytes, rfl, ?_⟩)
          cases ends : page.pageEnd with
          | true =>
              simp only [ends, if_true] at ok
              split at ok
              · split at ok
                · cases ok
                  exact Or.inl ⟨rfl, rfl, rfl⟩
                · cases ok
              · cases ok
          | false =>
              simp only [ends, Bool.false_eq_true, if_false] at ok
              split at ok
              · cases ok
                exact Or.inr ⟨rfl, rfl, rfl⟩
              · cases ok

/-- A page that is not an error is not empty, and is passed over or assembled. -/
theorem receivePage_cases {codec : Codec} {capacity : Nat} {held next got : Option (List UInt8)}
    {page : Page} (ok : receivePage codec capacity held page = .ok (next, got)) :
    page.data ≠ [] ∧ ((page.Fits capacity ∧ assemble codec held page = .ok (next, got)) ∨
      (¬ page.Fits capacity ∧ next = held ∧ got = none)) := by
  unfold receivePage at ok
  split at ok
  · cases ok
  · rename_i nonempty
    refine ⟨nonempty, ?_⟩
    split at ok
    · rename_i fits
      exact Or.inl ⟨fits, ok⟩
    · rename_i large
      cases ok
      exact Or.inr ⟨large, rfl, rfl⟩

/-- A sequence of pages: the packet under construction at the end and the
packets delivered, or the first error number. -/
def receivePages (codec : Codec) (capacity : Nat) :
    Option (List UInt8) -> List Page -> Except Int (Option (List UInt8) × List (List UInt8))
  | held, [] => .ok (held, [])
  | held, page :: pages =>
      match receivePage codec capacity held page with
      | .error errno => .error errno
      | .ok (next, got) =>
          match receivePages codec capacity next pages with
          | .error errno => .error errno
          | .ok (last, packets) => .ok (last, got.toList ++ packets)

theorem receivePages_cons_ok {codec : Codec} {capacity : Nat} {held next : Option (List UInt8)}
    {got : Option (List UInt8)} {page : Page} {pages : List Page}
    (once : receivePage codec capacity held page = .ok (next, got)) :
    receivePages codec capacity held (page :: pages) =
      (receivePages codec capacity next pages).map fun rest => (rest.1, got.toList ++ rest.2) := by
  rw [receivePages, once]
  cases rest : receivePages codec capacity next pages <;> simp only [rest, Except.map]

theorem receivePages_append {codec : Codec} {capacity : Nat} {held middle : Option (List UInt8)}
    {packets : List (List UInt8)} {left : List Page} (right : List Page)
    (first : receivePages codec capacity held left = .ok (middle, packets)) :
    receivePages codec capacity held (left ++ right) =
      (receivePages codec capacity middle right).map fun rest => (rest.1, packets ++ rest.2) := by
  induction left generalizing held packets with
  | nil =>
      cases first
      cases last : receivePages codec capacity middle right with
      | error errno => simp only [List.nil_append, last, Except.map]
      | ok rest => simp only [List.nil_append, last, Except.map]
  | cons page left inductionHypothesis =>
      cases once : receivePage codec capacity held page with
      | error errno =>
          rw [receivePages, once] at first
          cases first
      | ok result =>
          rcases result with ⟨next, got⟩
          rw [receivePages_cons_ok once] at first
          cases tail : receivePages codec capacity next left with
          | error errno =>
              rw [tail] at first
              cases first
          | ok result =>
              rw [tail] at first
              cases first
              rw [List.cons_append, receivePages_cons_ok once, inductionHypothesis tail]
              cases receivePages codec capacity result.1 right with
              | error errno => rfl
              | ok rest => simp only [Except.map, List.append_assoc]

/-- One more page at the end. -/
theorem receivePages_concat {codec : Codec} {capacity : Nat} {held middle : Option (List UInt8)}
    {packets : List (List UInt8)} {pages : List Page} (page : Page)
    (first : receivePages codec capacity held pages = .ok (middle, packets)) :
    receivePages codec capacity held (pages ++ [page]) =
      (receivePage codec capacity middle page).map
        fun rest => (rest.1, packets ++ rest.2.toList) := by
  rw [receivePages_append [page] first, receivePages]
  cases receivePage codec capacity middle page with
  | error errno => rfl
  | ok rest => simp [receivePages, Except.map]

/-- A stream that is received has no prefix that is not. -/
theorem receivePages_ok_left {codec : Codec} {capacity : Nat} {held : Option (List UInt8)}
    {left right : List Page} {result : Option (List UInt8) × List (List UInt8)}
    (whole : receivePages codec capacity held (left ++ right) = .ok result) :
    Exists fun first => receivePages codec capacity held left = .ok first := by
  induction left generalizing held result with
  | nil => exact ⟨_, rfl⟩
  | cons page left inductionHypothesis =>
      cases once : receivePage codec capacity held page with
      | error errno =>
          rw [List.cons_append, receivePages, once] at whole
          cases whole
      | ok got =>
          rw [List.cons_append, receivePages_cons_ok once] at whole
          cases rest : receivePages codec capacity got.1 (left ++ right) with
          | error errno =>
              rw [rest] at whole
              cases whole
          | ok last =>
              rcases inductionHypothesis rest with ⟨first, ok⟩
              rw [receivePages_cons_ok once, ok]
              exact ⟨_, rfl⟩

/-- Every error number is negative. -/
theorem assemble_error_neg {codec : Codec} {held : Option (List UInt8)} {page : Page} {errno : Int}
    (failed : assemble codec held page = .error errno) : errno < 0 := by
  unfold assemble at failed
  repeat' split at failed
  all_goals first
    | cases failed; omega
    | cases failed

end NetSystem
