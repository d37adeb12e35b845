import NetSystem.Base.BipBufRefinement
import NetSystem.Foundation.Occurrence

namespace NetSystem
namespace BipBuf

/-!
# Searching the receive buffer

`bip_buf_find_str` with `fast_strstr`.  Pointers into the haystack and the needle are what
is left of them, and a position; a read behind the end of either is `none`.  The sum is
an `unsigned int`, and whether `char` is signed is up to the compiler.

The sum starts with the first byte of the haystack's window and not with zero, so that it
is off by the first byte of the needle.  Behind the first candidate the search therefore
finds not the needle but `decoy`: the needle with its last byte lowered by its first.
-/

/-- The value of a `char`. -/
def charValue (signed : Bool) (byte : UInt8) : Int :=
  if signed ∧ 128 ≤ byte.toNat then byte.toNat - 256 else byte.toNat

/-- The first loop: what is left of both, the difference of the sums, and whether all
characters were the same. -/
def compareLoop (signed : Bool) : List UInt8 -> List UInt8 -> Int -> Bool ->
    List UInt8 × List UInt8 × Int × Bool
  | byte :: iHaystack, wanted :: iNeedle, sumsDiff, identical =>
      compareLoop signed iHaystack iNeedle
        ((sumsDiff + charValue signed byte - charValue signed wanted) % 2 ^ 32)
        (identical && byte == wanted)
  | iHaystack, iNeedle, sumsDiff, identical => (iHaystack, iNeedle, sumsDiff, identical)

/-- Whether `memcmp` finds no difference. -/
def memcmp (left right : List UInt8) (size : Nat) : Option Bool :=
  if size ≤ left.length ∧ size ≤ right.length then some (left.take size == right.take size)
  else none

/-- The condition of the second loop. -/
def isMatch (needle subStart : List UInt8) (sumsDiff : Int) : Option Bool :=
  if sumsDiff = 0 then
    match subStart with
    | [] => none
    | byte :: _ =>
        if needle.head? = some byte then memcmp subStart needle (needle.length - 1)
        else some false
  else some false

/-- The second loop, with the position of `sub_start`. -/
def rollLoop (signed : Bool) (needle : List UInt8) : Nat -> List UInt8 -> List UInt8 -> Int ->
    Option (Option Nat)
  | _, _, [], _ => some none
  | _, [], _ :: _, _ => none
  | position, old :: subStart, new :: iHaystack, sumsDiff =>
      let sums := (sumsDiff - charValue signed old + charValue signed new) % 2 ^ 32
      match isMatch needle subStart sums with
      | none => none
      | some true => some (some (position + 1))
      | some false => rollLoop signed needle (position + 1) subStart iHaystack sums

/-- `fast_strstr`. -/
def fastStrstr (signed : Bool) (haystack : List UInt8) : List UInt8 -> Option (Option Nat)
  | [] => some (some 0)
  | needleFirst :: iNeedle =>
      match haystack.idxOf? needleFirst with
      | none => some none
      | some firstMatch =>
          let compared := compareLoop signed (haystack.drop (firstMatch + 1)) iNeedle
            (charValue signed needleFirst % 2 ^ 32) true
          if compared.2.1 ≠ [] then some none
          else if compared.2.2.2 then some (some firstMatch)
          else
            rollLoop signed (needleFirst :: iNeedle) firstMatch (haystack.drop firstMatch)
              compared.1 compared.2.2.1

/-- `bip_buf_find_str`. -/
def findStr (signed : Bool) (bb : BipBuf) (str : List UInt8) : Option (Option Nat) :=
  (fastStrstr signed bb.committed str).map fun found =>
    found.map fun position => bb.getContiguousBlock + position

/-- The needle with its last byte lowered by its first, if there is such a byte. -/
def decoy (signed : Bool) (first : UInt8) (rest : List UInt8) : Option (List UInt8) :=
  let lowered := charValue signed ((first :: rest).getLastD 0) - charValue signed first
  let byte := UInt8.ofInt lowered
  if charValue signed byte = lowered then some ((first :: rest).dropLast ++ [byte]) else none

/-! ## Characters and their sums -/

theorem charValue_bounds (signed : Bool) (byte : UInt8) :
    -128 ≤ charValue signed byte ∧ charValue signed byte ≤ 255 := by
  have below := byte.toNat_lt
  unfold charValue
  split
  · omega
  · omega

theorem ofInt_charValue (signed : Bool) (byte : UInt8) :
    UInt8.ofInt (charValue signed byte) = byte := by
  have below := byte.toNat_lt
  refine UInt8.toNat.inj ?_
  rw [UInt8.ofInt, UInt8.toNat_ofNat']
  unfold charValue
  split
  · omega
  · omega

theorem charValue_eq_zero {signed : Bool} {byte : UInt8} (zero : charValue signed byte = 0) :
    byte = 0 := by
  rw [← ofInt_charValue signed byte, zero]
  rfl

/-- The sum of characters. -/
def charSum (signed : Bool) (bytes : List UInt8) : Int := (bytes.map (charValue signed)).sum

@[simp] theorem charSum_cons (signed : Bool) (byte : UInt8) (bytes : List UInt8) :
    charSum signed (byte :: bytes) = charValue signed byte + charSum signed bytes := by
  rw [charSum, List.map_cons, List.sum_cons, charSum]

theorem charSum_append (signed : Bool) (left right : List UInt8) :
    charSum signed (left ++ right) = charSum signed left + charSum signed right := by
  rw [charSum, List.map_append, List.sum_append, charSum, charSum]

/-! ## The first loop -/

/-- A needle that is longer than the haystack is not used up. -/
theorem compareLoop_short (signed : Bool) {iHaystack iNeedle : List UInt8}
    (short : iHaystack.length < iNeedle.length) (sumsDiff : Int) (identical : Bool) :
    (compareLoop signed iHaystack iNeedle sumsDiff identical).2.1 ≠ [] := by
  induction iHaystack generalizing iNeedle sumsDiff identical with
  | nil =>
      cases iNeedle with
      | nil => cases short
      | cons wanted iNeedle => nofun
  | cons byte iHaystack inductionHypothesis =>
      cases iNeedle with
      | nil => cases short
      | cons wanted iNeedle =>
          rw [compareLoop]
          exact inductionHypothesis (Nat.lt_of_succ_lt_succ short) _ _

/-- A needle that fits is compared with as many characters. -/
theorem compareLoop_eq (signed : Bool) {iHaystack iNeedle : List UInt8}
    (fits : iNeedle.length ≤ iHaystack.length) (sumsDiff : Int) (identical : Bool) :
    Exists fun sums => compareLoop signed iHaystack iNeedle (sumsDiff % 2 ^ 32) identical =
        (iHaystack.drop iNeedle.length, [], sums % 2 ^ 32,
          identical && iHaystack.take iNeedle.length == iNeedle) ∧
      sums = sumsDiff + charSum signed (iHaystack.take iNeedle.length) - charSum signed iNeedle := by
  induction iNeedle generalizing iHaystack sumsDiff identical with
  | nil =>
      refine ⟨sumsDiff, ?_, by simp [charSum]⟩
      cases iHaystack <;> simp [compareLoop]
  | cons wanted iNeedle inductionHypothesis =>
      cases iHaystack with
      | nil => cases fits
      | cons byte iHaystack =>
          rcases inductionHypothesis (Nat.le_of_succ_le_succ fits)
            (sumsDiff + charValue signed byte - charValue signed wanted)
            (identical && byte == wanted) with ⟨sums, loop, total⟩
          refine ⟨sums, ?_, ?_⟩
          · have step : (sumsDiff % 2 ^ 32 + charValue signed byte - charValue signed wanted) %
                2 ^ 32 = (sumsDiff + charValue signed byte - charValue signed wanted) % 2 ^ 32 := by
              omega
            rw [compareLoop, step, loop, Bool.and_assoc]
            rfl
          · rw [total, List.length_cons, List.take_succ_cons, charSum_cons, charSum_cons]
            omega

/-! ## The second loop -/

section Search

variable {signed : Bool} {first : UInt8} {rest : List UInt8}

theorem decoy_eq_some_iff {found : List UInt8} :
    decoy signed first rest = some found ↔ Exists fun byte =>
      found = (first :: rest).dropLast ++ [byte] ∧
      charValue signed byte + charValue signed first =
        charValue signed ((first :: rest).getLastD 0) := by
  unfold decoy
  dsimp only
  constructor
  · intro some
    split at some
    · rename_i value
      cases some
      exact ⟨_, rfl, by omega⟩
    · cases some
  · rintro ⟨byte, rfl, value⟩
    have lowered : charValue signed ((first :: rest).getLastD 0) - charValue signed first =
        charValue signed byte := by omega
    rw [lowered, ofInt_charValue, if_pos rfl]

theorem length_decoy {found : List UInt8} (some : decoy signed first rest = some found) :
    found.length = (first :: rest).length := by
  rcases decoy_eq_some_iff.mp some with ⟨byte, rfl, _⟩
  rw [List.length_append, List.length_dropLast, List.length_singleton, List.length_cons]
  omega

/-- In a text that is too short for the needle there is no decoy either. -/
theorem decoy_of_short {text : List UInt8} (short : text.length ≤ rest.length) :
    ((decoy signed first rest).bind fun found => leftmost found text) = none := by
  rw [Option.bind_eq_none_iff]
  intro found some
  apply leftmost_of_short
  rw [length_decoy some, List.length_cons]
  exact Nat.lt_succ_of_le short

/-- A window as long as the needle, apart from its last byte. -/
theorem window_split {subStart : List UInt8} (enough : rest.length < subStart.length) :
    Exists fun byte => subStart.take (rest.length + 1) = subStart.take rest.length ++ [byte] ∧
      subStart[rest.length]? = some byte :=
  ⟨subStart[rest.length], List.take_succ_eq_append_getElem enough, List.getElem?_eq_getElem enough⟩

theorem needle_split (first : UInt8) (rest : List UInt8) :
    first :: rest = (first :: rest).dropLast ++ [(first :: rest).getLastD 0] := by
  have last : (first :: rest).getLastD 0 = (first :: rest).getLast (List.cons_ne_nil _ _) := by
    rw [List.getLastD_eq_getLast?, List.getLast?_eq_some_getLast (List.cons_ne_nil _ _)]
    rfl
  rw [last, List.dropLast_append_getLast]

/-- Where the window agrees with the needle but for the last byte, the sums tell whether
the last byte is that of the decoy. -/
theorem sums_zero_iff {subStart : List UInt8} {byte : UInt8}
    (window : subStart.take (rest.length + 1) = subStart.take rest.length ++ [byte])
    (agrees : subStart.take rest.length = (first :: rest).dropLast) {sums : Int}
    (total : sums = charSum signed (subStart.take (rest.length + 1)) -
      charSum signed (first :: rest) + charValue signed first) :
    sums % 2 ^ 32 = 0 ↔
      charValue signed byte + charValue signed first =
        charValue signed ((first :: rest).getLastD 0) := by
  have value : sums = charValue signed byte - charValue signed ((first :: rest).getLastD 0) +
      charValue signed first := by
    have needle := congrArg (charSum signed) (needle_split first rest)
    rw [charSum_append] at needle
    rw [window, charSum_append, agrees, needle] at total
    rw [total]
    simp only [charSum, List.map_cons, List.map_nil, List.sum_cons, List.sum_nil]
    omega
  have bounds := charValue_bounds signed byte
  have boundsFirst := charValue_bounds signed first
  have boundsLast := charValue_bounds signed ((first :: rest).getLastD 0)
  omega

theorem decoy_prefix_iff {subStart : List UInt8} {byte : UInt8}
    (held : subStart[rest.length]? = some byte) :
    (Exists fun found => decoy signed first rest = some found ∧ found <+: subStart) ↔
      subStart.take rest.length = (first :: rest).dropLast ∧
        charValue signed byte + charValue signed first =
          charValue signed ((first :: rest).getLastD 0) := by
  have length : (first :: rest).dropLast.length = rest.length := by
    rw [List.length_dropLast, List.length_cons, Nat.add_sub_cancel]
  constructor
  · rintro ⟨found, some, tail, rfl⟩
    rcases decoy_eq_some_iff.mp some with ⟨last, rfl, value⟩
    rw [List.append_assoc, List.getElem?_append_right (by rw [length]), length, Nat.sub_self] at held
    cases held
    refine ⟨?_, value⟩
    rw [List.append_assoc, List.take_left' length]
  · rintro ⟨agrees, value⟩
    refine ⟨_, decoy_eq_some_iff.mpr ⟨byte, rfl, value⟩, ?_⟩
    rcases List.getElem?_eq_some_iff.mp held with ⟨below, rfl⟩
    rw [← agrees, ← List.take_succ_eq_append_getElem below]
    exact List.take_prefix _ _

/-- The condition of the second loop accepts exactly the decoy, and reads nothing
behind the haystack. -/
theorem isMatch_eq (several : rest ≠ []) {subStart : List UInt8}
    (enough : rest.length < subStart.length) {sums : Int}
    (total : sums = charSum signed (subStart.take (rest.length + 1)) -
      charSum signed (first :: rest) + charValue signed first) :
    Exists fun verdict => isMatch (first :: rest) subStart (sums % 2 ^ 32) = some verdict ∧
      (verdict = true ↔
        Exists fun found => decoy signed first rest = some found ∧ found <+: subStart) := by
  rcases window_split enough with ⟨byte, window, held⟩
  rw [decoy_prefix_iff held]
  have starts : subStart.take rest.length = (first :: rest).dropLast ->
      subStart.head? = some first := by
    intro agrees
    cases rest with
    | nil => exact absurd rfl several
    | cons second rest =>
        cases subStart with
        | nil => cases enough
        | cons head tail =>
            rw [List.length_cons, List.take_succ_cons, List.dropLast_cons_cons] at agrees
            rw [List.head?_cons, (List.cons.inj agrees).1]
  unfold isMatch
  by_cases zero : sums % 2 ^ 32 = 0
  · rw [if_pos zero]
    cases subStart with
    | nil => cases enough
    | cons head tail =>
        dsimp only
        by_cases same : head = first
        · rw [if_pos (by rw [same]; rfl)]
          have sizes : (first :: rest).length - 1 = rest.length := by
            rw [List.length_cons, Nat.add_sub_cancel]
          have dropLast : (first :: rest).take rest.length = (first :: rest).dropLast := by
            rw [List.dropLast_eq_take, sizes]
          refine ⟨_, if_pos ⟨by rw [sizes]; exact Nat.le_of_lt enough, Nat.sub_le _ _⟩, ?_⟩
          rw [sizes, beq_iff_eq, dropLast]
          exact ⟨fun agrees => ⟨agrees, (sums_zero_iff window agrees total).mp zero⟩,
            fun both => both.1⟩
        · rw [if_neg (by rw [List.head?_cons]; exact fun equal => same (Option.some.inj equal).symm)]
          refine ⟨false, rfl, fun impossible => (by cases impossible), fun both => ?_⟩
          exact absurd (Option.some.inj (starts both.1)) same
  · rw [if_neg zero]
    refine ⟨false, rfl, fun impossible => (by cases impossible), fun both => ?_⟩
    exact absurd ((sums_zero_iff window both.1 total).mpr both.2) zero

/-- The window behind the first byte takes the byte behind the window. -/
theorem window_next {tail iHaystack : List UInt8} {new : UInt8}
    (window : tail.drop rest.length = new :: iHaystack) :
    rest.length < tail.length ∧
      tail.take (rest.length + 1) = tail.take rest.length ++ [new] ∧
        tail.drop (rest.length + 1) = iHaystack := by
  have inside : rest.length < tail.length := by
    rcases Nat.lt_or_ge rest.length tail.length with inside | outside
    · exact inside
    · rw [List.drop_eq_nil_iff.mpr outside] at window
      cases window
  have split := List.drop_eq_getElem_cons inside
  rw [window] at split
  rcases List.cons.inj split with ⟨same, later⟩
  rw [List.take_succ_eq_append_getElem inside, ← same]
  exact ⟨inside, rfl, later.symm⟩

/-- The second loop finds the leftmost decoy behind the first candidate. -/
theorem rollLoop_eq (several : rest ≠ []) {position : Nat} {subStart iHaystack : List UInt8}
    (window : subStart.drop (rest.length + 1) = iHaystack)
    (enough : rest.length < subStart.length) {sums : Int}
    (total : sums = charSum signed (subStart.take (rest.length + 1)) -
      charSum signed (first :: rest) + charValue signed first) :
    rollLoop signed (first :: rest) position subStart iHaystack (sums % 2 ^ 32) =
      some (((decoy signed first rest).bind fun found => leftmost found subStart.tail).map
        (· + (position + 1))) := by
  induction iHaystack generalizing position subStart sums with
  | nil =>
      have short : subStart.length ≤ rest.length + 1 := List.drop_eq_nil_iff.mp window
      rw [decoy_of_short (by rw [List.length_tail]; omega)]
      cases subStart <;> rfl
  | cons new iHaystack inductionHypothesis =>
      cases subStart with
      | nil => cases enough
      | cons old tail =>
          rw [List.drop_succ_cons] at window
          rcases window_next window with ⟨inside, next⟩
          have rolled : sums - charValue signed old + charValue signed new =
              charSum signed (tail.take (rest.length + 1)) - charSum signed (first :: rest) +
                charValue signed first := by
            rw [total, next.1, List.take_succ_cons, charSum_cons, charSum_append]
            simp only [charSum, List.map_cons, List.map_nil, List.sum_cons, List.sum_nil]
            omega
          have step : (sums % 2 ^ 32 - charValue signed old + charValue signed new) % 2 ^ 32 =
              (sums - charValue signed old + charValue signed new) % 2 ^ 32 := by omega
          rcases isMatch_eq several inside rolled with ⟨verdict, matched, meaning⟩
          rw [rollLoop, step, matched, List.tail_cons]
          cases verdict with
          | true =>
              rcases meaning.mp rfl with ⟨found, some, here⟩
              rw [some, Option.bind_some, leftmost_of_prefix here, Option.map_some, Nat.zero_add]
          | false =>
              dsimp only
              rw [inductionHypothesis next.2 inside rolled]
              congr 1
              cases some : decoy signed first rest with
              | none => rfl
              | some found =>
                  have elsewhere : ¬ found <+: tail := fun here =>
                    Bool.false_ne_true (meaning.mpr ⟨found, some, here⟩)
                  cases tail with
                  | nil => cases inside
                  | cons head tail =>
                      rw [Option.bind_some, Option.bind_some, leftmost_cons_of_not head elsewhere,
                        List.tail_cons, Option.map_map]
                      congr 1
                      funext later
                      change later + (position + 1 + 1) = later + 1 + (position + 1)
                      omega

/-! ## The search -/

/-- Behind the first candidate the decoy is found in place of the needle. -/
theorem fastStrstr_eq {haystack : List UInt8} {candidate : Nat}
    (found : haystack.idxOf? first = some candidate) :
    fastStrstr signed haystack (first :: rest) =
      some (if first :: rest <+: haystack.drop candidate then some candidate
        else ((decoy signed first rest).bind fun other =>
          leftmost other (haystack.drop (candidate + 1))).map (· + (candidate + 1))) := by
  have opens : haystack.drop candidate = first :: haystack.drop (candidate + 1) := by
    rcases List.findIdx?_eq_some_iff_getElem.mp found with ⟨below, same, _⟩
    rw [List.drop_eq_getElem_cons below, eq_of_beq same]
  have here : first :: rest <+: haystack.drop candidate ↔
      (haystack.drop (candidate + 1)).take rest.length = rest := by
    rw [opens, List.cons_prefix_cons, List.prefix_iff_eq_take, and_iff_right rfl, eq_comm]
  simp only [fastStrstr, found]
  rcases Nat.lt_or_ge (haystack.drop (candidate + 1)).length rest.length with short | fits
  · rw [if_pos (compareLoop_short signed short _ _), if_neg]
    · rw [decoy_of_short (Nat.le_of_lt short)]
      rfl
    · rw [here]
      intro same
      have length := congrArg List.length same
      rw [List.length_take, Nat.min_eq_right (Nat.le_of_lt short)] at length
      exact absurd length (Nat.ne_of_lt short)
  · rcases compareLoop_eq signed fits (charValue signed first) true with ⟨sums, loop, total⟩
    rw [loop]
    dsimp only
    rw [if_neg (fun some => some rfl), Bool.true_and]
    by_cases same : (haystack.drop (candidate + 1)).take rest.length = rest
    · rw [if_pos (beq_iff_eq.mpr same), if_pos (here.mpr same)]
    · have several : rest ≠ [] := by
        rintro rfl
        exact same rfl
      rw [if_neg (fun equal => same (beq_iff_eq.mp equal)), if_neg (fun occurs => same (here.mp occurs)),
        opens]
      refine rollLoop_eq several ?_ ?_ ?_
      · rw [List.drop_succ_cons]
      · exact Nat.lt_succ_of_le fits
      · rw [total, List.take_succ_cons, charSum_cons, charSum_cons]
        omega

end Search

/-- `bip_buf_find_str` returns the leftmost occurrence of the needle, and `NULL` if there
is none. -/
def FindsLeftmost (signed : Bool) (bb : BipBuf) (needle : List UInt8) : Prop :=
  bb.findStr signed needle =
    some ((leftmost needle bb.committed).map fun position => bb.getContiguousBlock + position)

/-- The needle starts with a zero byte, or its leftmost occurrence is where its first byte
first occurs, or neither it nor its decoy occurs behind that place. -/
def Findable (signed : Bool) (haystack : List UInt8) (first : UInt8) (rest : List UInt8) : Prop :=
  first = 0 ∨ leftmost (first :: rest) haystack = haystack.idxOf? first ∨
    forall candidate, haystack.idxOf? first = some candidate ->
      leftmost (first :: rest) (haystack.drop (candidate + 1)) = none ∧
      forall other, decoy signed first rest = some other ->
        leftmost other (haystack.drop (candidate + 1)) = none

theorem decoy_of_zero {signed : Bool} (rest : List UInt8) :
    decoy signed 0 rest = some (0 :: rest) := by
  refine decoy_eq_some_iff.mpr ⟨_, needle_split 0 rest, ?_⟩
  have zero : charValue signed 0 = 0 := by cases signed <;> rfl
  rw [zero, Int.add_zero]

/-- The decoy and the needle have no leftmost occurrence in common. -/
theorem decoy_apart {signed : Bool} {first : UInt8} {rest other list : List UInt8}
    (nonzero : first ≠ 0) (lowered : decoy signed first rest = some other) {position : Nat}
    (found : leftmost other list = some position) :
    leftmost (first :: rest) list ≠ some position := by
  intro needle
  have length := length_decoy lowered
  have nonempty : other ≠ [] := by
    rintro rfl
    cases length
  have left := ((leftmost_eq_some_iff nonempty).mp found).1
  have right := ((leftmost_eq_some_iff (List.cons_ne_nil first rest)).mp needle).1
  have same : other = first :: rest :=
    (List.prefix_of_prefix_length_le left right (Nat.le_of_eq length)).eq_of_length length
  rcases decoy_eq_some_iff.mp lowered with ⟨byte, split, value⟩
  rw [same] at split
  have last : byte = (first :: rest).getLastD 0 := by
    have both := (needle_split first rest).symm.trans split
    exact (List.cons.inj (List.append_cancel_left both)).1.symm
  rw [last] at value
  have zero : charValue signed first = 0 := by omega
  exact nonzero (charValue_eq_zero zero)

/-- Behind a first candidate that is not the needle. -/
theorem decoy_same_iff {signed : Bool} {first : UInt8} {rest later : List UInt8} :
    ((decoy signed first rest).bind fun other => leftmost other later) =
        leftmost (first :: rest) later ↔
      first = 0 ∨ leftmost (first :: rest) later = none ∧
        forall other, decoy signed first rest = some other -> leftmost other later = none := by
  by_cases zero : first = 0
  · rw [zero, decoy_of_zero, Option.bind_some]
    exact iff_of_true rfl (.inl rfl)
  · rw [or_iff_right zero]
    constructor
    · intro same
      cases found : leftmost (first :: rest) later with
      | none =>
          rw [found, Option.bind_eq_none_iff] at same
          exact ⟨rfl, same⟩
      | some position =>
          rw [found] at same
          rcases Option.bind_eq_some_iff.mp same with ⟨other, lowered, there⟩
          exact absurd found (decoy_apart zero lowered there)
    · rintro ⟨absent, nowhere⟩
      rw [absent, Option.bind_eq_none_iff]
      exact nowhere

/-- What the search finds and what it should find, from the first candidate on. -/
theorem fastStrstr_same_iff (signed : Bool) (haystack : List UInt8) (first : UInt8)
    (rest : List UInt8) :
    Exists fun found => fastStrstr signed haystack (first :: rest) = some found ∧
      (found = leftmost (first :: rest) haystack ↔ Findable signed haystack first rest) := by
  rw [Findable, leftmost_of_first]
  cases candidates : haystack.idxOf? first with
  | none =>
      refine ⟨none, ?_, iff_of_true rfl (.inr (.inl rfl))⟩
      simp only [fastStrstr, candidates]
  | some candidate =>
      refine ⟨_, fastStrstr_eq candidates, ?_⟩
      rw [Option.bind_some]
      by_cases here : first :: rest <+: haystack.drop candidate
      · rw [if_pos here, leftmost_of_prefix here, Option.map_some, Nat.zero_add]
        exact iff_of_true rfl (.inr (.inl rfl))
      · have opens : haystack.drop candidate = first :: haystack.drop (candidate + 1) := by
          rcases List.findIdx?_eq_some_iff_getElem.mp candidates with ⟨below, same, _⟩
          rw [List.drop_eq_getElem_cons below, eq_of_beq same]
        have behind : (leftmost (first :: rest) (haystack.drop candidate)).map (· + candidate) =
            (leftmost (first :: rest) (haystack.drop (candidate + 1))).map (· + (candidate + 1)) := by
          rw [opens] at here ⊢
          rw [leftmost_cons_of_not first here, Option.map_map]
          congr 1
          funext later
          change later + 1 + candidate = later + (candidate + 1)
          omega
        have apart : (leftmost (first :: rest) (haystack.drop (candidate + 1))).map
            (· + (candidate + 1)) ≠ some candidate := by
          intro same
          rcases Option.map_eq_some_iff.mp same with ⟨position, _, impossible⟩
          omega
        have injective : Function.Injective fun position => position + (candidate + 1) :=
          fun left right same => Nat.add_right_cancel same
        rw [if_neg here, behind, (Option.map_injective injective).eq_iff, decoy_same_iff,
          or_iff_right apart]
        refine or_congr_right ⟨?_, fun all => all candidate rfl⟩
        rintro both other same
        cases same
        exact both

/-- Reads stay inside the committed bytes, and the leftmost occurrence is found if and
only if the condition holds. -/
theorem findStr_iff (signed : Bool) (bb : BipBuf) (first : UInt8) (rest : List UInt8) :
    (Exists fun found => bb.findStr signed (first :: rest) = some found) ∧
      (bb.FindsLeftmost signed (first :: rest) ↔ Findable signed bb.committed first rest) := by
  rcases fastStrstr_same_iff signed bb.committed first rest with ⟨found, searched, same⟩
  have injective : Function.Injective fun position => bb.getContiguousBlock + position :=
    fun left right equal => Nat.add_left_cancel equal
  rw [FindsLeftmost, findStr, searched, Option.map_some]
  refine ⟨⟨_, rfl⟩, ?_⟩
  rw [Option.some.injEq, (Option.map_injective injective).eq_iff]
  exact same

/-- A buffer into which three bytes have been read. -/
def threeBytes : BipBuf :=
  (((create 8 fun _ => 0).reserve.bb).writeReserved 0 [97, 97, 98]).commit 3

/-- `aab` is searched for `ab`, which occurs at its second byte and is not found. -/
theorem needle_not_found :
    threeBytes.committed = [97, 97, 98] ∧ leftmost [97, 98] threeBytes.committed = some 1 ∧
      threeBytes.findStr true [97, 98] = some none ∧
      threeBytes.findStr false [97, 98] = some none ∧
      ¬ threeBytes.FindsLeftmost true [97, 98] ∧ ¬ threeBytes.FindsLeftmost false [97, 98] := by
  have contents : threeBytes.committed = [97, 97, 98] := by decide
  have signed : threeBytes.findStr true [97, 98] = some none := by decide
  have unsigned : threeBytes.findStr false [97, 98] = some none := by decide
  have occurs : leftmost [97, 98] threeBytes.committed = some 1 := by decide
  refine ⟨contents, occurs, signed, unsigned, ?_, ?_⟩
  · rw [FindsLeftmost, signed, occurs]
    exact nofun
  · rw [FindsLeftmost, unsigned, occurs]
    exact nofun

end BipBuf
end NetSystem
