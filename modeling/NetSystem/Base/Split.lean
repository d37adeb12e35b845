import Mathlib.Tactic.Ring
import NetSystem.Foundation.CString
import NetSystem.Foundation.Memory
import NetSystem.Foundation.Pieces

namespace NetSystem

/-!
# Splitting a string in place

`split` and `split2d` of `MyUtil.cpp`.  The separators are replaced by NUL, and the places
where the segments begin are written to an array, at most as many as it has room for.
`split2d` then splits each segment by a second separator.

Strings are in a buffer of characters, and a pointer is an address in it.  A run that reads
or writes outside of the buffer has no result.  The counters are at most the length of the
string, which is an `int`, so they are natural numbers here.
-/

/-- The variables of `split` and the memory it writes to. -/
structure SplitState where
  i : Nat
  j : Nat
  count : Nat
  buffer : List Char
  av : Memory Nat

/-- `ptr[i] = 0x0; av[count++] = &(ptr[j]); j = i + 1;`, and the loop goes on. -/
def SplitState.take (str : Nat) (state : SplitState) : SplitState where
  i := state.i + 1
  j := state.i + 1
  count := state.count + 1
  buffer := state.buffer.set (str + state.i) '\x00'
  av := state.av.write state.count [str + state.j]

/-- The loop of `split`, with the number of the characters that are left. -/
def splitLoop (str : Nat) (av_max : Int32) (c : Char) : Nat -> SplitState -> Option SplitState
  | 0, state => some state
  | left + 1, state =>
      if (state.count : Int) < av_max.toInt then do
        let read <- state.buffer[str + state.i]?
        splitLoop str av_max c left
          (if read ≠ c then { state with i := state.i + 1 } else state.take str)
      else some state

/-- What `split` returns, with the memory behind it. -/
structure Splitting where
  count : Nat
  buffer : List Char
  av : Memory Nat

/-- `split`. -/
def split (buffer : List Char) (str : Nat) (str_len : Int32) (av : Memory Nat) (av_max : Int32)
    (c : Char) : Option Splitting := do
  let len := if str_len = 0 then Int32.ofNat (strlen buffer str) else str_len
  let last <- splitLoop str av_max c len.toInt.toNat ⟨0, 0, 0, buffer, av⟩
  return if last.j < last.i then
      ⟨last.count + 1, last.buffer, last.av.write last.count [str + last.j]⟩
    else ⟨last.count, last.buffer, last.av⟩

/-- What `split2d` returns, with the memory behind it. -/
structure Splitting2d where
  n1 : Nat
  buffer : List Char
  av : Nat -> Memory Nat
  out_arr_n2 : Memory Nat

/-- The loop of `split2d` over the segments from the given one on, with the number of those
that are left. -/
def split2dLoop (arr1 : Memory Nat) (c2 : Char) : Nat -> Nat -> Splitting2d -> Option Splitting2d
  | 0, _, state => some state
  | left + 1, i, state => do
      let row <- split state.buffer (arr1 i) (Int32.ofNat (strlen state.buffer (arr1 i)))
        (state.av i) 32 c2
      split2dLoop arr1 c2 left (i + 1) { state with
        buffer := row.buffer
        av := Function.update state.av i row.av
        out_arr_n2 := state.out_arr_n2.write i [row.count] }

/-- `split2d`, with what is in its local array before. -/
def split2d (buffer : List Char) (str : Nat) (str_len : Int32) (av : Nat -> Memory Nat)
    (av_max : Int32) (c1 c2 : Char) (out_arr_n2 : Memory Nat) (arr1 : Memory Nat) :
    Option Splitting2d := do
  let av1_max : Int32 := if av_max < 256 then av_max else 256
  let first <- split buffer str str_len arr1 av1_max c1
  split2dLoop first.av c2 first.count 0 ⟨first.count, first.buffer, av, out_arr_n2⟩

/-! ## The loop -/

variable {before : List Char} {str : Nat} {text : List Char} {av : Memory Nat} {max : Nat}
  {c : Char} {closed : List (List Char)} {current rest : List Char} {state : SplitState}

/-- What has become of the string when the loop is at its `i`-th character: the segments
that are closed, the one that it is in, and the characters that are left. -/
structure SplitState.Scanned (before : List Char) (str : Nat) (text : List Char)
    (av : Memory Nat) (max : Nat) (c : Char) (closed : List (List Char))
    (current rest : List Char) (state : SplitState) : Prop where
  text_eq : text = ended c closed ++ (current ++ rest)
  closedFree : forall piece, piece ∈ closed -> c ∉ piece
  currentFree : c ∉ current
  room : state.count ≤ max
  full : state.count < max ∨ current = []
  i_eq : state.i = (ended c closed).length + current.length
  j_eq : state.j = (ended c closed).length
  count_eq : state.count = closed.length
  replaced : forall address, str ≤ address -> address < str + state.i ->
    before[address]? = some c -> state.buffer[address]? = some '\x00'
  untouched : forall address, ¬ (str ≤ address ∧ address < str + state.i ∧
    before[address]? = some c) -> state.buffer[address]? = before[address]?
  starts : forall k, k < closed.length -> state.av k = str + (ended c (closed.take k)).length
  kept : forall k, closed.length ≤ k -> state.av k = av k

namespace SplitState.Scanned

theorem start (before : List Char) (str : Nat) (text : List Char) (av : Memory Nat) (max : Nat)
    (c : Char) : Scanned before str text av max c [] [] text ⟨0, 0, 0, before, av⟩ where
  text_eq := rfl
  closedFree := by
    intro piece impossible
    cases impossible
  currentFree := List.not_mem_nil
  room := Nat.zero_le _
  full := .inr rfl
  i_eq := rfl
  j_eq := rfl
  count_eq := rfl
  replaced := fun address above below => absurd below (Nat.not_lt.mpr above)
  untouched := fun _ _ => rfl
  starts := fun k impossible => absurd impossible (Nat.not_lt_zero k)
  kept := fun _ _ => rfl

/-- The next character is as it was. -/
theorem read {ch : Char} (string : CStringAt before str text)
    (scanned : Scanned before str text av max c closed current (ch :: rest) state) :
    before[str + state.i]? = some ch ∧ state.buffer[str + state.i]? = some ch := by
  have place : text[state.i]? = some ch := by
    rw [scanned.text_eq, scanned.i_eq, ← List.append_assoc,
      List.getElem?_append_right (by simp), List.length_append, Nat.sub_self]
    rfl
  have inside := (List.getElem?_eq_some_iff.mp place).1
  have same : before[str + state.i]? = some ch := (string.char _ inside).trans place
  refine ⟨same, ?_⟩
  rw [scanned.untouched _ (by omega)]
  exact same

/-- A character that is no separator joins the current segment. -/
theorem skip {ch : Char} (string : CStringAt before str text)
    (scanned : Scanned before str text av max c closed current (ch :: rest) state)
    (more : state.count < max) (other : ch ≠ c) :
    Scanned before str text av max c closed (current ++ [ch]) rest
      { state with i := state.i + 1 } where
  text_eq := by
    rw [List.append_assoc]
    exact scanned.text_eq
  closedFree := scanned.closedFree
  currentFree := by
    rw [List.mem_append, List.mem_singleton]
    rintro (member | same)
    · exact scanned.currentFree member
    · exact other same.symm
  room := scanned.room
  full := .inl more
  i_eq := by
    rw [List.length_append, ← Nat.add_assoc, ← scanned.i_eq]
    rfl
  j_eq := scanned.j_eq
  count_eq := scanned.count_eq
  replaced := by
    intro address above below separator
    have elsewhere : address ≠ str + state.i := by
      rintro rfl
      rw [(scanned.read string).1] at separator
      exact other (Option.some.inj separator)
    apply scanned.replaced address above _ separator
    exact Nat.lt_of_le_of_ne (Nat.le_of_lt_succ below) elsewhere
  untouched := by
    intro address outside
    apply scanned.untouched
    rintro ⟨above, below, separator⟩
    exact outside ⟨above, Nat.lt_succ_of_lt below, separator⟩
  starts := scanned.starts
  kept := scanned.kept

/-- The array with the place of the current segment behind the closed ones. -/
theorem starts_write (scanned : Scanned before str text av max c closed current rest state)
    {k : Nat} (below : k < (closed ++ [current]).length) :
    state.av.write state.count [str + state.j] k =
      str + (ended c ((closed ++ [current]).take k)).length := by
  rw [List.length_append, List.length_singleton] at below
  by_cases last : k = closed.length
  · rw [last, ← scanned.count_eq, scanned.count_eq, List.take_left, ← scanned.j_eq]
    simp [Memory.write]
  · rw [Memory.write_of_lt _ _ _ (by rw [scanned.count_eq]; omega),
      List.take_append_of_le_length (by omega)]
    exact scanned.starts k (by omega)

theorem kept_write (scanned : Scanned before str text av max c closed current rest state)
    {k : Nat} (above : (closed ++ [current]).length ≤ k) :
    state.av.write state.count [str + state.j] k = av k := by
  rw [List.length_append, List.length_singleton] at above
  rw [Memory.write_of_ge _ _ _ (by rw [scanned.count_eq]; exact above)]
  exact scanned.kept k (by omega)

/-- A separator closes the current segment. -/
theorem take (string : CStringAt before str text)
    (scanned : Scanned before str text av max c closed current (c :: rest) state)
    (more : state.count < max) :
    Scanned before str text av max c (closed ++ [current]) [] rest (state.take str) where
  text_eq := by
    rw [ended_concat, List.append_assoc, List.append_assoc]
    exact scanned.text_eq
  closedFree := by
    intro piece member
    rcases List.mem_append.mp member with earlier | last
    · exact scanned.closedFree piece earlier
    · rw [List.mem_singleton.mp last]
      exact scanned.currentFree
  currentFree := List.not_mem_nil
  room := more
  full := .inr rfl
  i_eq := by
    rw [ended_concat, List.length_append, List.length_append, List.length_singleton,
      List.length_nil, Nat.add_zero, ← Nat.add_assoc, ← scanned.i_eq]
    rfl
  j_eq := by
    rw [ended_concat, List.length_append, List.length_append, List.length_singleton,
      ← Nat.add_assoc, ← scanned.i_eq]
    rfl
  count_eq := by
    rw [List.length_append, ← scanned.count_eq]
    rfl
  replaced := by
    intro address above below separator
    change (state.buffer.set (str + state.i) '\x00')[address]? = some '\x00'
    by_cases here : str + state.i = address
    · have inside := (List.getElem?_eq_some_iff.mp (scanned.read string).2).1
      rw [← here, List.getElem?_set_self inside]
    · rw [List.getElem?_set_ne here]
      apply scanned.replaced address above _ separator
      exact Nat.lt_of_le_of_ne (Nat.le_of_lt_succ below) (Ne.symm here)
  untouched := by
    intro address outside
    change (state.buffer.set (str + state.i) '\x00')[address]? = before[address]?
    have elsewhere : str + state.i ≠ address := by
      rintro rfl
      exact outside ⟨Nat.le_add_right .., Nat.lt_succ_self _, (scanned.read string).1⟩
    rw [List.getElem?_set_ne elsewhere]
    apply scanned.untouched
    rintro ⟨above, below, separator⟩
    exact outside ⟨above, Nat.lt_succ_of_lt below, separator⟩
  starts := fun _ => scanned.starts_write
  kept := fun _ => scanned.kept_write

theorem pieces_eq (scanned : Scanned before str text av max c closed current rest state) :
    pieces c text = closed ++ pieces c (current ++ rest) := by
  rw [scanned.text_eq, pieces_ended_append scanned.closedFree]

theorem length_eq (scanned : Scanned before str text av max c closed current rest state) :
    text.length = state.i + rest.length := by
  rw [scanned.text_eq, scanned.i_eq]
  simp only [List.length_append, Nat.add_assoc]

/-- A piece is a string of its own when its separator has been replaced. -/
theorem string_piece (string : CStringAt before str text)
    (scanned : Scanned before str text av max c closed current rest state) {k : Nat}
    {piece : List Char} (found : (pieces c text)[k]? = some piece)
    (passed : k < closed.length ∨ rest = []) :
    CStringAt state.buffer (str + (ended c ((pieces c text).take k)).length) piece := by
  have inside := length_of_piece_le found
  rcases pieces_cut found with ⟨free, behind, cut, ends⟩
  generalize front : ended c ((pieces c text).take k) = begin_ at inside cut ⊢
  have place : forall index, index < piece.length ->
      before[str + (begin_.length + index)]? = piece[index]? := by
    intro index below
    rw [string.char _ (by omega), cut, List.getElem?_append_right (Nat.le_add_right ..),
      Nat.add_sub_cancel_left, List.getElem?_append_left below]
  constructor
  · intro index below
    rw [Nat.add_assoc, scanned.untouched, place index below]
    rintro ⟨_, _, separator⟩
    rw [place index below] at separator
    exact free (List.mem_of_getElem? separator)
  · rw [Nat.add_assoc]
    rcases ends with last | separated
    · -- the end of the string
      have whole : begin_.length + piece.length = text.length := by
        rw [cut, last]
        simp
      rw [whole, scanned.untouched _ (by have := scanned.length_eq; omega)]
      exact string.terminated
    · -- a separator, which has been replaced
      rcases List.head?_eq_some_iff.mp separated with ⟨more, rfl⟩
      have here : text[begin_.length + piece.length]? = some c := by
        rw [cut, ← List.append_assoc, ← List.length_append,
          List.getElem?_append_right (Nat.le_refl _), Nat.sub_self]
        rfl
      have below := (List.getElem?_eq_some_iff.mp here).1
      apply scanned.replaced _ (Nat.le_add_right ..)
      · rcases passed with before_ | all
        · have ended_ := length_ended_take_succ c found
          have later := length_ended_take_le c (pieces c text) before_
          rw [front] at ended_
          rw [ended_, scanned.pieces_eq, List.take_left, ← scanned.j_eq] at later
          have reached := scanned.i_eq
          rw [← scanned.j_eq] at reached
          omega
        · have length := scanned.length_eq
          rw [all, List.length_nil] at length
          omega
      · rw [string.char _ below]
        exact here
  · intro member
    apply string.unbroken
    rw [cut]
    exact List.mem_append_right _ (List.mem_append_left _ member)

end SplitState.Scanned

/-- The loop ends with the string or with the room of the array. -/
theorem splitLoop_scanned {av_max : Int32} (string : CStringAt before str text)
    (scanned : SplitState.Scanned before str text av av_max.toInt.toNat c closed current rest
      state) :
    Exists fun last => splitLoop str av_max c rest.length state = some last ∧
      Exists fun closed => Exists fun current => Exists fun rest =>
        SplitState.Scanned before str text av av_max.toInt.toNat c closed current rest last ∧
          (rest = [] ∨ last.count = av_max.toInt.toNat) := by
  induction rest generalizing state closed current with
  | nil => exact ⟨state, rfl, closed, current, [], scanned, .inl rfl⟩
  | cons ch rest inductionHypothesis =>
      rw [List.length_cons, splitLoop]
      by_cases more : (state.count : Int) < av_max.toInt
      · have below : state.count < av_max.toInt.toNat := Int.lt_toNat.mpr more
        rw [if_pos more, (scanned.read string).2, Option.bind_eq_bind, Option.bind_some]
        by_cases separator : ch = c
        · rw [separator] at scanned ⊢
          rw [if_neg (not_not_intro rfl)]
          exact inductionHypothesis (scanned.take string below)
        · rw [if_pos separator]
          exact inductionHypothesis (scanned.skip string below separator)
      · rw [if_neg more]
        have full := Int.lt_toNat.not.mpr more
        exact ⟨state, rfl, closed, current, ch :: rest, scanned,
          .inr (Nat.le_antisymm scanned.room (Nat.le_of_not_lt full))⟩

/-! ## The result of `split` -/

/-- The first pieces of the string, at most `max` of them, are strings of their own, and
the array has the places where they begin.  Nothing else of the array is written, and of
the string only separators. -/
structure SplitsAs (before : List Char) (str : Nat) (text : List Char) (av : Memory Nat)
    (max : Nat) (c : Char) (result : Splitting) : Prop where
  count : result.count = ((pieces c text).take max).length
  strings : forall k piece, ((pieces c text).take max)[k]? = some piece ->
    CStringAt result.buffer (result.av k) piece
  starts : forall k, k < result.count ->
    result.av k = str + (ended c ((pieces c text).take k)).length
  kept : forall k, result.count ≤ k -> result.av k = av k
  replaced : forall address, result.buffer[address]? ≠ before[address]? ->
    str ≤ address ∧ address < str + text.length ∧ before[address]? = some c ∧
      result.buffer[address]? = some '\x00'

namespace SplitState.Scanned

/-- Only separators in front of the `i`-th character have been replaced. -/
theorem changed (scanned : Scanned before str text av max c closed current rest state)
    {address : Nat} (different : state.buffer[address]? ≠ before[address]?) :
    str ≤ address ∧ address < str + text.length ∧ before[address]? = some c ∧
      state.buffer[address]? = some '\x00' := by
  have inside : str ≤ address ∧ address < str + state.i ∧ before[address]? = some c := by
    by_contra outside
    exact different (scanned.untouched address outside)
  rcases inside with ⟨above, below, separator⟩
  have length := scanned.length_eq
  exact ⟨above, by omega, separator, scanned.replaced address above below separator⟩

/-- When the array is full or no segment is left, the closed segments are the pieces. -/
theorem take_pieces_closed (scanned : Scanned before str text av max c closed [] rest state)
    (ends : rest = [] ∨ state.count = max) : (pieces c text).take max = closed := by
  have room := scanned.room
  rw [scanned.count_eq] at room
  rw [scanned.pieces_eq, List.nil_append]
  rcases ends with none_left | full
  · rw [none_left, pieces_of_not_mem List.not_mem_nil, if_pos rfl, List.append_nil,
      List.take_of_length_le room]
  · rw [← full, scanned.count_eq, List.take_left]

/-- At the end of the string the open segment is the last piece. -/
theorem pieces_current (scanned : Scanned before str text av max c closed current [] state)
    (nonempty : current ≠ []) : pieces c text = closed ++ [current] := by
  rw [scanned.pieces_eq, List.append_nil, pieces_of_not_mem scanned.currentFree,
    if_neg nonempty]

theorem take_pieces_current (scanned : Scanned before str text av max c closed current [] state)
    (nonempty : current ≠ []) : (pieces c text).take max = closed ++ [current] := by
  rw [scanned.pieces_current nonempty]
  apply List.take_of_length_le
  rw [List.length_append, ← scanned.count_eq]
  exact scanned.full.resolve_right nonempty

/-- The array is full, or no segment is left. -/
theorem splitsAs_closed (string : CStringAt before str text)
    (scanned : Scanned before str text av max c closed [] rest state)
    (ends : rest = [] ∨ state.count = max) :
    SplitsAs before str text av max c ⟨state.count, state.buffer, state.av⟩ := by
  have pieces_ := scanned.take_pieces_closed ends
  have front : forall k, k ≤ closed.length -> closed.take k = (pieces c text).take k := by
    intro k below
    rw [scanned.pieces_eq, List.take_append_of_le_length below]
  constructor
  · rw [pieces_]
    exact scanned.count_eq
  · intro k piece found
    rw [pieces_] at found
    have below := (List.getElem?_eq_some_iff.mp found).1
    dsimp only
    rw [scanned.starts k below, front k (Nat.le_of_lt below)]
    apply scanned.string_piece string _ (.inl below)
    rw [scanned.pieces_eq, List.getElem?_append_left below]
    exact found
  · intro k below
    rw [scanned.count_eq] at below
    rw [← front k (Nat.le_of_lt below)]
    exact scanned.starts k below
  · intro k above
    rw [scanned.count_eq] at above
    exact scanned.kept k above
  · exact fun address => scanned.changed

/-- The last segment, which no separator ends, is taken too. -/
theorem splitsAs_current (string : CStringAt before str text)
    (scanned : Scanned before str text av max c closed current [] state)
    (nonempty : current ≠ []) :
    SplitsAs before str text av max c
      ⟨state.count + 1, state.buffer, state.av.write state.count [str + state.j]⟩ := by
  have all := scanned.pieces_current nonempty
  have first := scanned.take_pieces_current nonempty
  constructor
  · rw [first, List.length_append, ← scanned.count_eq]
    rfl
  · intro k piece found
    rw [first] at found
    have below := (List.getElem?_eq_some_iff.mp found).1
    dsimp only
    rw [scanned.starts_write below, ← all]
    exact scanned.string_piece string (all ▸ found) (.inr rfl)
  · intro k below
    rw [all]
    apply scanned.starts_write
    rw [List.length_append, ← scanned.count_eq]
    exact below
  · intro k above
    apply scanned.kept_write
    rw [List.length_append, ← scanned.count_eq]
    exact above
  · exact fun address => scanned.changed

end SplitState.Scanned

/-- The length that is passed is the one that would be taken for zero. -/
theorem CStringAt.len_eq (string : CStringAt before str text) {str_len : Int32}
    (whole : str_len.toInt = text.length) :
    (if str_len = 0 then Int32.ofNat (strlen before str) else str_len) = str_len := by
  by_cases zero : str_len = 0
  · rw [if_pos zero, string.strlen_eq]
    rw [zero] at whole ⊢
    rw [← Int.ofNat_inj.mp whole]
    rfl
  · rw [if_neg zero]

/-- `split` of a string with its length gives its first pieces. -/
theorem split_spec (string : CStringAt before str text) {str_len : Int32}
    (whole : str_len.toInt = text.length) (av : Memory Nat) (av_max : Int32) (c : Char) :
    Exists fun result => split before str str_len av av_max c = some result ∧
      SplitsAs before str text av av_max.toInt.toNat c result := by
  have len := string.len_eq whole
  have start := SplitState.Scanned.start before str text av av_max.toInt.toNat c
  rcases splitLoop_scanned string start with ⟨last, ran, closed, current, rest, scanned, ends⟩
  have size : str_len.toInt.toNat = text.length := by
    rw [whole, Int.toNat_natCast]
  simp only [split, len, size, ran, Option.bind_eq_bind, Option.bind_some, Option.pure_def]
  refine ⟨_, rfl, ?_⟩
  have reached := scanned.i_eq
  rw [← scanned.j_eq] at reached
  by_cases open_ : current = []
  · rw [open_] at scanned reached
    rw [if_neg (by rw [reached]; simp)]
    exact scanned.splitsAs_closed string ends
  · have nonempty := List.length_pos_iff.mpr open_
    rw [if_pos (by omega)]
    rcases ends with none_left | full
    · rw [none_left] at scanned
      exact scanned.splitsAs_current string open_
    · have more := scanned.full.resolve_right open_
      omega

/-! ## The result of `split2d` -/

/-- The pieces of one row begin and end in its segment. -/
theorem SplitsAs.within {result : Splitting} (splits : SplitsAs before str text av max c result)
    {k : Nat} {piece : List Char} (found : ((pieces c text).take max)[k]? = some piece) :
    str ≤ result.av k ∧ result.av k + piece.length ≤ str + text.length := by
  have below := (List.getElem?_eq_some_iff.mp found).1
  rw [← splits.count] at below
  rw [List.getElem?_take] at found
  by_cases room : k < max
  · rw [if_pos room] at found
    have inside := length_of_piece_le found
    rw [splits.starts k below]
    omega
  · rw [if_neg room] at found
    cases found

/-- A string up to a place that holds NUL now, without separators in front of that place. -/
theorem SplitsAs.string_cut {result : Splitting} (splits : SplitsAs before str text av max c result)
    {ptr : Nat} {front tail : List Char} (string : CStringAt before ptr (front ++ tail))
    (free : c ∉ front) (cut : result.buffer[ptr + front.length]? = some '\x00') :
    CStringAt result.buffer ptr front where
  char := by
    intro index below
    have place : before[ptr + index]? = front[index]? := by
      rw [string.char index (by rw [List.length_append]; omega),
        List.getElem?_append_left below]
    rw [← place]
    by_contra different
    have separator := (splits.replaced _ different).2.2.1
    rw [place] at separator
    exact free (List.mem_of_getElem? separator)
  terminated := cut
  unbroken := fun member => string.unbroken (List.mem_append_left _ member)

/-- A string elsewhere in the buffer is left alone. -/
theorem SplitsAs.string_apart {result : Splitting}
    (splits : SplitsAs before str text av max c result) {ptr : Nat} {other : List Char}
    (string : CStringAt before ptr other)
    (apart : str + text.length < ptr ∨ ptr + other.length < str) :
    CStringAt result.buffer ptr other := by
  apply string.congr
  intro address above below
  by_contra different
  rcases splits.replaced address different with ⟨lower, upper, _⟩
  omega

/-- The segments are in front of each other. -/
theorem SplitsAs.apart {result : Splitting} (splits : SplitsAs before str text av max c result)
    {k l : Nat} {piece : List Char} (found : ((pieces c text).take max)[k]? = some piece)
    (order : k < l) (last : l < result.count) : result.av k + piece.length < result.av l := by
  rw [List.getElem?_take] at found
  by_cases room : k < max
  · rw [if_pos room] at found
    have ended_ := length_ended_take_succ c found
    have later := length_ended_take_le c (pieces c text) (show k + 1 ≤ l from order)
    rw [splits.starts k (Nat.lt_trans order last), splits.starts l last]
    omega
  · rw [if_neg room] at found
    cases found

/-- A place that an earlier pass has written holds NUL already. -/
theorem unwritten_of_differs {old now new : Option Char}
    (earlier : now ≠ old -> now = some '\x00') (nul : new = some '\x00')
    (differs : new ≠ now) : now = old := by
  by_contra written
  exact differs (nul.trans (earlier written).symm)

/-- The rows of `split2d` are the first segments of the string, each split into its first
pieces. -/
structure Splits2dAs (before : List Char) (str : Nat) (text : List Char)
    (av : Nat -> Memory Nat) (max : Nat) (c1 c2 : Char) (out_arr_n2 : Memory Nat)
    (result : Splitting2d) : Prop where
  n1 : result.n1 = ((pieces c1 text).take max).length
  numbers : forall k segment, ((pieces c1 text).take max)[k]? = some segment ->
    result.out_arr_n2 k = ((pieces c2 segment).take 32).length
  strings : forall k segment, ((pieces c1 text).take max)[k]? = some segment ->
    forall l piece, ((pieces c2 segment).take 32)[l]? = some piece ->
      CStringAt result.buffer (result.av k l) piece
  kept : forall k segment, ((pieces c1 text).take max)[k]? = some segment ->
    forall l, ((pieces c2 segment).take 32).length ≤ l -> result.av k l = av k l
  keptRows : forall k, result.n1 ≤ k ->
    result.av k = av k ∧ result.out_arr_n2 k = out_arr_n2 k
  replaced : forall address, result.buffer[address]? ≠ before[address]? ->
    str ≤ address ∧ address < str + text.length ∧
      (before[address]? = some c1 ∨ before[address]? = some c2) ∧
        result.buffer[address]? = some '\x00'

/-- The segments that the first pass has found. -/
structure Rows (buffer : List Char) (str : Nat) (text : List Char) (arr1 : Memory Nat)
    (rows : List (List Char)) : Prop where
  strings : forall k segment, rows[k]? = some segment -> CStringAt buffer (arr1 k) segment
  within : forall k segment, rows[k]? = some segment ->
    str ≤ arr1 k ∧ arr1 k + segment.length ≤ str + text.length
  apart : forall k l segment, rows[k]? = some segment -> k < l -> l < rows.length ->
    arr1 k + segment.length < arr1 l

/-- The rows in front of the `i`-th one have been split, and the others have not. -/
structure Splitting2d.Scanned (buffer : List Char) (str : Nat) (text : List Char)
    (arr1 : Memory Nat) (rows : List (List Char)) (av : Nat -> Memory Nat) (c2 : Char)
    (out_arr_n2 : Memory Nat) (i : Nat) (state : Splitting2d) : Prop where
  n1 : state.n1 = rows.length
  done : forall k segment, k < i -> rows[k]? = some segment ->
    state.out_arr_n2 k = ((pieces c2 segment).take 32).length ∧
      (forall l, ((pieces c2 segment).take 32).length ≤ l -> state.av k l = av k l) ∧
        forall l piece, ((pieces c2 segment).take 32)[l]? = some piece ->
          CStringAt state.buffer (state.av k l) piece ∧
            state.av k l + piece.length ≤ arr1 k + segment.length
  intact : forall k segment, i ≤ k -> rows[k]? = some segment ->
    CStringAt state.buffer (arr1 k) segment
  kept : forall k, i ≤ k -> state.av k = av k ∧ state.out_arr_n2 k = out_arr_n2 k
  replaced : forall address, state.buffer[address]? ≠ buffer[address]? ->
    str ≤ address ∧ address < str + text.length ∧ buffer[address]? = some c2 ∧
      state.buffer[address]? = some '\x00'

section Rows

variable {buffer : List Char} {arr1 : Memory Nat} {rows : List (List Char)}
  {av : Nat -> Memory Nat} {c2 : Char} {out_arr_n2 : Memory Nat} {i : Nat} {state : Splitting2d}

/-- One row is split, and the other segments and pieces are left alone. -/
theorem Splitting2d.Scanned.next (found : Rows buffer str text arr1 rows)
    (scanned : Scanned buffer str text arr1 rows av c2 out_arr_n2 i state)
    {segment : List Char} (here : rows[i]? = some segment) {row : Splitting}
    (splits : SplitsAs state.buffer (arr1 i) segment (state.av i) 32 c2 row) :
    Scanned buffer str text arr1 rows av c2 out_arr_n2 (i + 1) { state with
      buffer := row.buffer
      av := Function.update state.av i row.av
      out_arr_n2 := state.out_arr_n2.write i [row.count] } := by
  have last := (List.getElem?_eq_some_iff.mp here).1
  have elsewhere : forall address, address < arr1 i ∨ arr1 i + segment.length ≤ address ->
      row.buffer[address]? = state.buffer[address]? := by
    intro address outside
    by_contra different
    rcases splits.replaced address different with ⟨above, below, _⟩
    omega
  constructor
  · exact scanned.n1
  · intro k other before_ at_
    rcases Nat.lt_or_eq_of_le (Nat.le_of_lt_succ before_) with earlier | rfl
    · rcases scanned.done k other earlier at_ with ⟨number, kept, strings⟩
      dsimp only
      rw [Memory.write_of_lt _ _ _ earlier, Function.update_of_ne (Nat.ne_of_lt earlier)]
      refine ⟨number, kept, fun l piece at' => ?_⟩
      rcases strings l piece at' with ⟨string, ends⟩
      have front := found.apart k i other at_ earlier last
      refine ⟨string.congr fun address _ below => elsewhere address (.inl (by omega)), ends⟩
    · rw [here] at at_
      cases at_
      dsimp only
      rw [Function.update_self]
      refine ⟨?_, ?_, ?_⟩
      · rw [← splits.count]
        simp [Memory.write]
      · intro l above
        rw [← (scanned.kept k (Nat.le_refl k)).1]
        exact splits.kept l (splits.count ▸ above)
      · intro l piece at'
        exact ⟨splits.strings l piece at', (splits.within at').2⟩
  · intro k other behind at_
    have front := found.apart i k segment here behind (List.getElem?_eq_some_iff.mp at_).1
    apply (scanned.intact k other (Nat.le_of_succ_le behind) at_).congr
    intro address above _
    exact elsewhere address (.inr (by omega))
  · intro k behind
    rcases scanned.kept k (Nat.le_of_succ_le behind) with ⟨array, number⟩
    dsimp only
    rw [Function.update_of_ne (by omega), Memory.write_of_ge _ _ _ (by simpa using behind)]
    exact ⟨array, number⟩
  · intro address different
    rcases found.within i segment here with ⟨above, below⟩
    by_cases same : row.buffer[address]? = state.buffer[address]?
    · dsimp only at different ⊢
      rw [same] at different ⊢
      exact scanned.replaced address different
    · rcases splits.replaced address same with ⟨lower, upper, separator, nul⟩
      have earlier := fun written => (scanned.replaced address written).2.2.2
      rw [unwritten_of_differs earlier nul same] at separator
      exact ⟨by omega, by omega, separator, nul⟩

theorem split2dLoop_scanned (found : Rows buffer str text arr1 rows)
    (small : text.length < 2 ^ 31) (left : Nat) (count : i + left = rows.length)
    (scanned : state.Scanned buffer str text arr1 rows av c2 out_arr_n2 i) :
    Exists fun result => split2dLoop arr1 c2 left i state = some result ∧
      result.Scanned buffer str text arr1 rows av c2 out_arr_n2 rows.length := by
  induction left generalizing i state with
  | zero => exact ⟨state, rfl, count ▸ scanned⟩
  | succ left inductionHypothesis =>
      have below : i < rows.length := by omega
      have here := List.getElem?_eq_getElem below
      have string := scanned.intact i _ (Nat.le_refl i) here
      have fits := (found.within i _ here).2
      have whole : (Int32.ofNat (strlen state.buffer (arr1 i))).toInt = rows[i].length := by
        rw [string.strlen_eq]
        exact Int32.toInt_ofNat_of_lt (by have := (found.within i _ here).1; omega)
      rcases split_spec string whole (state.av i) 32 c2 with ⟨row, ran, splits⟩
      rw [split2dLoop, ran]
      exact inductionHypothesis (by omega) (scanned.next found here splits)

end Rows

theorem SplitsAs.rows {first : Splitting} (splits : SplitsAs before str text av max c first) :
    Rows first.buffer str text first.av ((pieces c text).take max) where
  strings := splits.strings
  within := fun _ _ => splits.within
  apart := fun _ _ _ found order last => splits.apart found order (splits.count ▸ last)

/-- `arr1` has room for 256 places. -/
theorem toInt_min_rows (av_max : Int32) :
    (if av_max < 256 then av_max else 256).toInt.toNat = min av_max.toInt.toNat 256 := by
  have limit : (256 : Int32).toInt = 256 := rfl
  by_cases fewer : av_max < 256
  · have below := Int32.lt_iff_toInt_lt.mp fewer
    rw [if_pos fewer]
    omega
  · have above := Int32.lt_iff_toInt_lt.not.mp fewer
    rw [if_neg fewer]
    omega

/-- `split2d` of a string with its length gives the pieces of its first segments. -/
theorem split2d_spec (string : CStringAt before str text) {str_len : Int32}
    (whole : str_len.toInt = text.length) (av : Nat -> Memory Nat) (av_max : Int32)
    (c1 c2 : Char) (out_arr_n2 arr1 : Memory Nat) :
    Exists fun result => split2d before str str_len av av_max c1 c2 out_arr_n2 arr1 = some result ∧
      Splits2dAs before str text av (min av_max.toInt.toNat 256) c1 c2 out_arr_n2 result := by
  rcases split_spec string whole arr1 (if av_max < 256 then av_max else 256) c1 with
    ⟨first, ran, splits⟩
  rw [toInt_min_rows] at splits
  have small : text.length < 2 ^ 31 := by
    have bound := str_len.toInt_lt
    omega
  have start : Splitting2d.Scanned first.buffer str text first.av
      ((pieces c1 text).take (min av_max.toInt.toNat 256)) av c2 out_arr_n2 0
      ⟨first.count, first.buffer, av, out_arr_n2⟩ := {
    n1 := splits.count
    done := fun k _ impossible => absurd impossible (Nat.not_lt_zero k)
    intact := fun k segment _ => splits.strings k segment
    kept := fun _ _ => ⟨rfl, rfl⟩
    replaced := fun _ different => absurd rfl different }
  rcases split2dLoop_scanned splits.rows small first.count (by rw [splits.count, Nat.zero_add])
    start with ⟨result, looped, scanned⟩
  refine ⟨result, ?_, ?_⟩
  · simp only [split2d, ran, Option.bind_eq_bind, Option.bind_some]
    exact looped
  have inside : forall k segment,
      ((pieces c1 text).take (min av_max.toInt.toNat 256))[k]? = some segment ->
        k < ((pieces c1 text).take (min av_max.toInt.toNat 256)).length :=
    fun k segment at_ => (List.getElem?_eq_some_iff.mp at_).1
  constructor
  · exact scanned.n1
  · exact fun k segment at_ => (scanned.done k segment (inside k segment at_) at_).1
  · intro k segment at_ l piece at'
    exact ((scanned.done k segment (inside k segment at_) at_).2.2 l piece at').1
  · exact fun k segment at_ => (scanned.done k segment (inside k segment at_) at_).2.1
  · intro k above
    exact scanned.kept k (scanned.n1 ▸ above)
  · intro address different
    by_cases same : result.buffer[address]? = first.buffer[address]?
    · rw [same] at different ⊢
      rcases splits.replaced address different with ⟨above, below, separator, nul⟩
      exact ⟨above, below, .inl separator, nul⟩
    · rcases scanned.replaced address same with ⟨above, below, separator, nul⟩
      have earlier := fun written => (splits.replaced address written).2.2.2
      rw [unwritten_of_differs earlier nul same] at separator
      exact ⟨above, below, .inr separator, nul⟩

/-- Splitting a string with its length, for every room of the arrays and all separators,
equal ones too. -/
theorem split_split2d_pieces (string : CStringAt before str text) {str_len : Int32}
    (whole : str_len.toInt = text.length) (av_max : Int32) :
    (forall (av : Memory Nat) (c : Char), Exists fun result =>
      split before str str_len av av_max c = some result ∧
        SplitsAs before str text av av_max.toInt.toNat c result) ∧
    forall (av : Nat -> Memory Nat) (c1 c2 : Char) (out_arr_n2 arr1 : Memory Nat),
      Exists fun result =>
        split2d before str str_len av av_max c1 c2 out_arr_n2 arr1 = some result ∧
          Splits2dAs before str text av (min av_max.toInt.toNat 256) c1 c2 out_arr_n2 result := by
  constructor
  · intro av c
    exact split_spec string whole av av_max c
  · intro av c1 c2 out_arr_n2 arr1
    exact split2d_spec string whole av av_max c1 c2 out_arr_n2 arr1

theorem split_split2d_pieces_settings : Exists fun result =>
    split2d ['a', '=', '1', ';', 'b', '\x00'] 0 5 (fun _ _ => 0) 2 ';' '=' (fun _ => 0)
        (fun _ => 0) = some result ∧
      result.n1 = 2 ∧ result.out_arr_n2 0 = 2 ∧
        CStringAt result.buffer (result.av 0 1) ['1'] := by
  have string : CStringAt ['a', '=', '1', ';', 'b', '\x00'] 0 ['a', '=', '1', ';', 'b'] :=
    .of_append (show '\x00' ∉ ['a', '=', '1', ';', 'b'] by decide) []
  rcases (split_split2d_pieces string (show (5 : Int32).toInt = _ from rfl) 2).2 (fun _ _ => 0)
    ';' '=' (fun _ => 0) (fun _ => 0) with ⟨result, ran, splits⟩
  exact ⟨result, ran, splits.n1, splits.numbers 0 _ rfl, splits.strings 0 _ rfl 1 _ rfl⟩

end NetSystem
