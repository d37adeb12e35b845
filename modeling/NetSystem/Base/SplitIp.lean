import NetSystem.Base.Split

namespace NetSystem

/-!
# Addresses as octets

`split_ip` of `MyUtil.cpp`: the numbers between the dots of an address are
written to an array of eight bytes, as many as there are.  The bytes behind the
last number keep what was in the array before, which for a local variable may
be anything, so the array is an argument.

The dots are replaced by NUL, as `split` replaces its separators, so the string
is in a buffer of characters, and the buffer that the call leaves behind is
returned.  A run that reads outside of the buffer, or passes `atoi` characters
that no NUL ends, has no result.  The string has to be in memory that may be
written, which a string literal is not.
-/

/-- `ip_num_array_t`. -/
abbrev IpNumArray := Fin 8 -> UInt8

/-- The number that a row of decimal digits stands for. -/
def decimal (digits : List Char) : Nat :=
  digits.foldl (fun number digit => 10 * number + (digit.toNat - '0'.toNat)) 0

/-- `isspace`. -/
def isSpace (c : Char) : Bool := c == ' ' || (9 ≤ c.toNat && c.toNat ≤ 13)

/-- `atoi`: blanks, a sign, and the digits up to the first other character. -/
def atoi (text : List Char) : Int :=
  let body := text.dropWhile isSpace
  if body.head? = some '-' then -(decimal (body.tail.takeWhile Char.isDigit) : Int)
  else if body.head? = some '+' then decimal (body.tail.takeWhile Char.isDigit)
  else decimal (body.takeWhile Char.isDigit)

/-- `atoi(ptr)`. -/
def atoiAt (buffer : List Char) (ptr : Nat) : Option Int := (cString buffer ptr).map atoi

/-- `av->_num[n] = value`. -/
def setNum (av : IpNumArray) (n : Nat) (value : Int) : IpNumArray :=
  fun i => if i.val = n then UInt8.ofInt value else av i

/-- The variables of `split_ip` and the memory it writes to. -/
structure SplitIpState where
  i : Nat
  j : Nat
  nAvCount : Nat
  buffer : List Char
  av : IpNumArray

/-- `ptr[i] = 0x0; av->_num[nAvCount++] = atoi(&(ptr[j])); j = i + 1;`, and the loop goes on. -/
def SplitIpState.take (str : Nat) (state : SplitIpState) : Option SplitIpState := do
  let buffer := state.buffer.set (str + state.i) '\x00'
  let value <- atoiAt buffer (str + state.j)
  return ⟨state.i + 1, state.i + 1, state.nAvCount + 1, buffer,
    setNum state.av state.nAvCount value⟩

/-- The loop of `split_ip`, with the number of the characters that are left. -/
def splitIpLoop (str : Nat) : Nat -> SplitIpState -> Option SplitIpState
  | 0, state => some state
  | left + 1, state =>
      if state.nAvCount < 8 then do
        let read <- state.buffer[str + state.i]?
        let next <- if read ≠ '.' then some { state with i := state.i + 1 } else state.take str
        splitIpLoop str left next
      else some state

/-- What `split_ip` returns, with the memory behind it. -/
structure IpSplitting where
  nAvCount : Nat
  buffer : List Char
  av : IpNumArray

/-- `split_ip`. -/
def splitIp (buffer : List Char) (str : Nat) (str_len : Int32) (av : IpNumArray) :
    Option IpSplitting := do
  let len := if str_len = 0 then Int32.ofNat (strlen buffer str) else str_len
  let last <- splitIpLoop str len.toInt.toNat ⟨0, 0, 0, buffer, av⟩
  if last.j < last.i then
    let value <- atoiAt last.buffer (str + last.j)
    return ⟨last.nAvCount + 1, last.buffer, setNum last.av last.nAvCount value⟩
  else
    return ⟨last.nAvCount, last.buffer, last.av⟩

/-! ## The numbers of a row of texts -/

/-- The numbers of the texts, in front of what was in the array. -/
def numbersOf (texts : List (List Char)) (av : IpNumArray) : IpNumArray := fun i =>
  match texts[i.val]? with
  | some text => UInt8.ofInt (atoi text)
  | none => av i

@[simp] theorem numbersOf_nil (av : IpNumArray) : numbersOf [] av = av := rfl

theorem numbersOf_concat (texts : List (List Char)) (text : List Char) (av : IpNumArray) :
    numbersOf (texts ++ [text]) av = setNum (numbersOf texts av) texts.length (atoi text) := by
  funext i
  simp only [numbersOf, setNum]
  rcases Nat.lt_trichotomy i.val texts.length with inside | last | behind
  · rw [if_neg (Nat.ne_of_lt inside), List.getElem?_append_left inside]
  · rw [if_pos last, last, List.getElem?_concat_length]
  · rw [if_neg (Nat.ne_of_gt behind), List.getElem?_eq_none (Nat.le_of_lt behind),
      List.getElem?_eq_none (by simpa using Nat.succ_le_of_lt behind)]

/-! ## The loop

The loop is that of `split` with a dot for the separator and room for eight segments, and
where `split` writes the place of a segment, its number is written. -/

section Loop

variable {before : List Char} {str : Nat} {text : List Char} {places : Memory Nat}
  {closed : List (List Char)} {current rest : List Char} {state : SplitState}

/-- The variables of `split`, with numbers instead of places. -/
def SplitState.withNumbers (state : SplitState) (av : IpNumArray) : SplitIpState :=
  ⟨state.i, state.j, state.count, state.buffer, av⟩

/-- A segment that has been closed, or that the text ends, is a string of its own. -/
theorem SplitState.Scanned.string_segment {max : Nat} {c : Char}
    (string : CStringAt before str text)
    (scanned : Scanned before str text places max c closed current rest state)
    {front tail : List (List Char)} {segment : List Char}
    (all : pieces c text = front ++ segment :: tail)
    (passed : front.length < closed.length ∨ rest = []) :
    CStringAt state.buffer (str + (ended c front).length) segment := by
  have found : (pieces c text)[front.length]? = some segment := by
    rw [all, List.getElem?_append_right (Nat.le_refl _), Nat.sub_self]
    rfl
  have string_ := scanned.string_piece string found passed
  rw [all, List.take_left] at string_
  exact string_

/-- A dot closes the current segment, and its number is written behind the others. -/
theorem SplitState.Scanned.take_withNumbers (string : CStringAt before str text)
    (scanned : Scanned before str text places 8 '.' closed current ('.' :: rest) state)
    (more : state.count < 8) (av : IpNumArray) :
    (state.withNumbers (numbersOf closed av)).take str =
      some ((state.take str).withNumbers (numbersOf (closed ++ [current]) av)) := by
  have taken := scanned.take string more
  have all := taken.pieces_eq
  rw [List.append_assoc, List.singleton_append] at all
  have segment := taken.string_segment string all (.inl (by simp))
  rw [← scanned.j_eq] at segment
  have value : atoiAt (state.buffer.set (str + state.i) '\x00') (str + state.j) =
      some (atoi current) :=
    congrArg (Option.map atoi) segment.cString_eq
  rw [numbersOf_concat, ← scanned.count_eq]
  simp only [SplitIpState.take, SplitState.withNumbers, value, Option.bind_eq_bind,
    Option.bind_some, Option.pure_def, SplitState.take]

/-- The loop ends with the string or with the room of the array. -/
theorem splitIpLoop_scanned (string : CStringAt before str text)
    (scanned : SplitState.Scanned before str text places 8 '.' closed current rest state)
    (av : IpNumArray) :
    Exists fun last : SplitState => Exists fun closed_ => Exists fun current => Exists fun left =>
      splitIpLoop str rest.length (state.withNumbers (numbersOf closed av)) =
          some (last.withNumbers (numbersOf closed_ av)) ∧
        SplitState.Scanned before str text places 8 '.' closed_ current left last ∧
          (left = [] ∨ last.count = 8) := by
  induction rest generalizing state closed current with
  | nil => exact ⟨state, closed, current, [], rfl, scanned, .inl rfl⟩
  | cons ch rest inductionHypothesis =>
      rw [List.length_cons, splitIpLoop]
      by_cases more : state.count < 8
      · rw [if_pos (show (state.withNumbers (numbersOf closed av)).nAvCount < 8 from more)]
        have read : (state.withNumbers (numbersOf closed av)).buffer[str + state.i]? = some ch :=
          (scanned.read string).2
        simp only [SplitState.withNumbers] at read ⊢
        rw [read]
        by_cases dot : ch = '.'
        · rw [dot] at scanned ⊢
          have taken := scanned.take_withNumbers string more av
          simp only [SplitState.withNumbers] at taken
          simp only [Option.bind_eq_bind, Option.bind_some, ne_eq, not_true_eq_false, if_false,
            taken]
          exact inductionHypothesis (scanned.take string more)
        · simp only [Option.bind_eq_bind, Option.bind_some, ne_eq, dot, not_false_eq_true, if_true]
          exact inductionHypothesis (scanned.skip string more dot)
      · rw [if_neg (show ¬ (state.withNumbers (numbersOf closed av)).nAvCount < 8 from more)]
        exact ⟨state, closed, current, ch :: rest, rfl, scanned,
          .inr (Nat.le_antisymm scanned.room (Nat.le_of_not_lt more))⟩

end Loop

/-! ## The result of `split_ip` -/

section Result

variable {before : List Char} {str : Nat} {text : List Char} {av : IpNumArray}

theorem CStringAt.toInt_strlen (string : CStringAt before str text)
    (short : text.length < 2147483648) :
    (Int32.ofNat (strlen before str)).toInt = text.length := by
  rw [string.strlen_eq]
  exact Int32.toInt_ofNat_of_lt short

/-- The numbers of the first eight pieces are in the array, and the string has become what
`split` leaves of it. -/
structure SplitsIpAs (before : List Char) (str : Nat) (text : List Char) (av : IpNumArray)
    (result : IpSplitting) : Prop where
  numbers : result.av = numbersOf ((pieces '.' text).take 8) av
  splits : Exists fun places => SplitsAs before str text (fun _ => 0) 8 '.'
    ⟨result.nAvCount, result.buffer, places⟩

theorem splitIp_spec (string : CStringAt before str text) {str_len : Int32}
    (whole : str_len.toInt = text.length) (av : IpNumArray) :
    Exists fun result => splitIp before str str_len av = some result ∧
      SplitsIpAs before str text av result := by
  have start := SplitState.Scanned.start before str text (fun _ => 0) 8 '.'
  rcases splitIpLoop_scanned string start av with
    ⟨last, closed, current, left, ran, scanned, ends⟩
  have size : str_len.toInt.toNat = text.length := by
    rw [whole, Int.toNat_natCast]
  have looped : splitIpLoop str text.length ⟨0, 0, 0, before, av⟩ =
      some (last.withNumbers (numbersOf closed av)) := ran
  simp only [splitIp, string.len_eq whole, size, looped, Option.bind_eq_bind, Option.bind_some,
    Option.pure_def, SplitState.withNumbers]
  have reached := scanned.i_eq
  rw [← scanned.j_eq] at reached
  by_cases open_ : current = []
  · rw [open_] at scanned reached
    rw [if_neg (by rw [reached]; simp)]
    refine ⟨_, rfl, ?_, last.av, scanned.splitsAs_closed string ends⟩
    rw [scanned.take_pieces_closed ends]
  · have nonempty := List.length_pos_iff.mpr open_
    rw [if_pos (by omega)]
    rcases ends with none_left | full
    · rw [none_left] at scanned
      have segment := scanned.string_segment string (scanned.pieces_current open_) (.inr rfl)
      rw [← scanned.j_eq] at segment
      rw [atoiAt, segment.cString_eq]
      refine ⟨_, rfl, ?_, _, scanned.splitsAs_current string open_⟩
      rw [scanned.take_pieces_current open_, numbersOf_concat, ← scanned.count_eq]
    · have more := scanned.full.resolve_right open_
      omega

end Result

/-! ## Dotted quads -/

theorem ne_of_isDigit {c other : Char} (digit : c.isDigit = true) (apart : other.isDigit = false) :
    c ≠ other := by
  intro same
  rw [same, apart] at digit
  cases digit

theorem isSpace_of_isDigit {c : Char} (digit : c.isDigit = true) : isSpace c = false := by
  have other : c ≠ ' ' := ne_of_isDigit digit rfl
  simp only [Char.isDigit, Bool.and_eq_true, decide_eq_true_eq, ge_iff_le,
    UInt32.le_iff_toNat_le] at digit
  have low : 48 ≤ c.toNat := digit.1
  simp only [isSpace, Bool.or_eq_false_iff, beq_eq_false_iff_ne, Bool.and_eq_false_iff,
    decide_eq_false_iff_not]
  exact ⟨other, Or.inr (by omega)⟩

/-- A number of at most three digits that fits into a byte. -/
structure OctetText where
  digits : List Char
  nonempty : digits ≠ []
  short : digits.length ≤ 3
  isDigit : forall c, c ∈ digits -> c.isDigit = true
  byte : decimal digits ≤ 255

/-- Four numbers with dots between them. -/
structure DottedQuad where
  segment : Fin 4 -> OctetText

namespace OctetText

variable (text : OctetText)

/-- The number as a byte. -/
def octet : UInt8 := UInt8.ofNat (decimal text.digits)

theorem dotless : forall c, c ∈ text.digits -> c ≠ '.' := by
  intro c member
  exact ne_of_isDigit (text.isDigit c member) rfl

theorem atoi_digits : atoi text.digits = (decimal text.digits : Int) := by
  cases split : text.digits with
  | nil => exact absurd split text.nonempty
  | cons first rest =>
      have digit : first.isDigit = true := text.isDigit first (by simp [split])
      have minus : first ≠ '-' := ne_of_isDigit digit rfl
      have plus : first ≠ '+' := ne_of_isDigit digit rfl
      have body : (first :: rest).dropWhile isSpace = first :: rest := by
        simp [isSpace_of_isDigit digit]
      have all : (first :: rest).takeWhile Char.isDigit = first :: rest := by
        apply List.takeWhile_eq_self_iff.mpr
        intro c member
        exact text.isDigit c (split ▸ member)
      simp only [atoi, body, List.head?_cons, Option.some.injEq, minus, plus, if_false, all]

theorem ofInt_atoi : UInt8.ofInt (atoi text.digits) = text.octet := by
  rw [text.atoi_digits, octet]
  apply UInt8.toNat_inj.mp
  simp only [UInt8.ofInt, UInt8.toNat_ofNat']
  omega

end OctetText

namespace DottedQuad

variable (quad : DottedQuad) {before : List Char} {str : Nat}

def text : List Char :=
  (quad.segment 0).digits ++ '.' :: ((quad.segment 1).digits ++ '.' ::
    ((quad.segment 2).digits ++ '.' :: (quad.segment 3).digits))

def octet (i : Fin 4) : UInt8 := (quad.segment i).octet

theorem length_text : quad.text.length ≤ 15 := by
  have s0 := (quad.segment 0).short
  have s1 := (quad.segment 1).short
  have s2 := (quad.segment 2).short
  have s3 := (quad.segment 3).short
  simp only [text, List.length_append, List.length_cons]
  omega

theorem count_text : quad.text.count '.' = 3 := by
  have none_in : forall i, (quad.segment i).digits.count '.' = 0 := fun i =>
    List.count_eq_zero_of_not_mem fun member => (quad.segment i).dotless _ member rfl
  simp [text, none_in]

theorem unbroken_text : '\x00' ∉ quad.text := by
  have digits : forall i, '\x00' ∉ (quad.segment i).digits := fun i member =>
    ne_of_isDigit ((quad.segment i).isDigit _ member) rfl rfl
  simp [text, digits]

def segments : List (List Char) :=
  [(quad.segment 0).digits, (quad.segment 1).digits, (quad.segment 2).digits,
    (quad.segment 3).digits]

theorem pieces_text : pieces '.' quad.text = quad.segments := by
  have free : forall i, '.' ∉ (quad.segment i).digits :=
    fun i member => (quad.segment i).dotless _ member rfl
  rw [text, pieces_append_sep (free 0), pieces_append_sep (free 1), pieces_append_sep (free 2),
    pieces_of_not_mem (free 3), if_neg (quad.segment 3).nonempty, segments]

/-- The first octets, as many as given, in front of what was in the array. -/
def numbers (count : Nat) (av : IpNumArray) : IpNumArray :=
  fun i => if inside : i.val < count ∧ i.val < 4 then quad.octet ⟨i.val, inside.2⟩ else av i

theorem getElem?_segments (i : Fin 4) : quad.segments[i.val]? = some (quad.segment i).digits := by
  match i with
  | 0 => rfl
  | 1 => rfl
  | 2 => rfl
  | 3 => rfl

theorem numbersOf_segments (count : Nat) (av : IpNumArray) :
    numbersOf (quad.segments.take count) av = quad.numbers count av := by
  funext i
  simp only [numbersOf, numbers, List.getElem?_take]
  by_cases written : i.val < count
  · by_cases octet_ : i.val < 4
    · rw [if_pos written, dif_pos ⟨written, octet_⟩, quad.getElem?_segments ⟨i.val, octet_⟩]
      exact (quad.segment _).ofInt_atoi
    · rw [if_pos written, dif_neg fun inside => octet_ inside.2,
        List.getElem?_eq_none (Nat.le_of_not_lt octet_)]
  · rw [if_neg written, dif_neg fun inside => written inside.1]

/-- All four octets are written. -/
theorem splitIp_text (string : CStringAt before str quad.text) (av : IpNumArray) :
    Exists fun result =>
      splitIp before str (Int32.ofNat (strlen before str)) av = some result ∧
        result.av = quad.numbers 4 av ∧ Exists fun places =>
          SplitsAs before str quad.text (fun _ => 0) 8 '.'
            ⟨result.nAvCount, result.buffer, places⟩ := by
  have short := quad.length_text
  rcases splitIp_spec string (string.toInt_strlen (by omega)) av with ⟨result, ran, splits⟩
  refine ⟨result, ran, ?_, splits.splits⟩
  rw [splits.numbers, quad.pieces_text, ← quad.numbersOf_segments]
  rfl

/-- The first segment alone gives one octet. -/
theorem splitIp_first (string : CStringAt before str (quad.segment 0).digits) (av : IpNumArray) :
    Exists fun result =>
      splitIp before str (Int32.ofNat (strlen before str)) av = some result ∧
        result.av = quad.numbers 1 av := by
  have short := (quad.segment 0).short
  have free : '.' ∉ (quad.segment 0).digits :=
    fun member => (quad.segment 0).dotless _ member rfl
  rcases splitIp_spec string (string.toInt_strlen (by omega)) av with ⟨result, ran, splits⟩
  refine ⟨result, ran, ?_⟩
  rw [splits.numbers, pieces_of_not_mem free, if_neg (quad.segment 0).nonempty,
    ← quad.numbersOf_segments]
  rfl

/-! ## Two addresses that share memory -/

/-- What is left of an address without its first characters is one with four segments only
if these are digits of the first segment. -/
theorem length_first_of_drop {rest : DottedQuad} {count : Nat}
    (same : rest.text = quad.text.drop count) :
    count + (rest.segment 0).digits.length = (quad.segment 0).digits.length := by
  have free : '.' ∉ (quad.segment 0).digits :=
    fun member => (quad.segment 0).dotless _ member rfl
  rcases Nat.lt_or_ge (quad.segment 0).digits.length count with beyond | within
  · -- a dot is among the characters that are gone
    have cut : rest.text.count '.' ≤
        (quad.text.drop ((quad.segment 0).digits.length + 1)).count '.' := by
      rw [same]
      exact (List.drop_sublist_drop_left _ beyond).count_le _
    have dots := quad.count_text
    rw [text, List.count_append, List.count_eq_zero_of_not_mem free, List.count_cons_self] at dots
    rw [rest.count_text, text, List.drop_length_add_append, List.drop_succ_cons, List.drop_zero]
      at cut
    omega
  · have front := rest.pieces_text
    rw [same, text, List.drop_append_of_le_length within,
      pieces_append_sep fun member => free (List.mem_of_mem_drop member)] at front
    have first := congrArg List.length (List.cons.inj front).1
    rw [List.length_drop] at first
    omega

/-- Addresses that overlap end with the same NUL, and their first dots are the same. -/
theorem first_dot_eq {other : DottedQuad} {ptr : Nat} (string : CStringAt before str quad.text)
    (again : CStringAt before ptr other.text) (below : ptr ≤ str + quad.text.length)
    (above : str ≤ ptr + other.text.length) :
    ptr + (other.segment 0).digits.length = str + (quad.segment 0).digits.length := by
  rcases Nat.le_total str ptr with behind | before_
  · have first := quad.length_first_of_drop (string.eq_drop again behind below)
    omega
  · have first := other.length_first_of_drop (again.eq_drop string before_ above)
    omega

end DottedQuad

end NetSystem
