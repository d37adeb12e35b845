import Mathlib.Data.List.DropRight
import Mathlib.Data.List.TakeWhile
import Mathlib.Logic.Function.Basic
import Mathlib.Tactic.Ring

namespace NetSystem

/-!
# Reading a simple formula

`split_simple_formula` of `MyUtil.cpp` cuts a text such as `a > b` into its two operands
and a flag for the operator.  An access outside of the text or of an array of the result
has no defined behaviour, and here the function has no result then.

The arrays and the flag hold `none` where the call has not written them.
-/

/-- `FORMULA_TEST_FLAG`. -/
inductive FormulaTestFlag where
  | unknown
  | equal
  | notEqual
  | lessThan
  | greaterThan
  | lessOrEq
  | greaterOrEq
  deriving DecidableEq, Repr

/-- `char[64]`. -/
abbrev CharArray := Fin 64 -> Option Char

namespace CharArray

/-- `cells[j] = c`. -/
def put (cells : CharArray) (j : Nat) (c : Char) : Option CharArray :=
  if inside : j < 64 then some (Function.update cells ⟨j, inside⟩ (some c)) else none

/-- `cells[j]`. -/
def get (cells : CharArray) (j : Nat) : Option Char :=
  if inside : j < 64 then cells ⟨j, inside⟩ else none

end CharArray

/-- `simple_formula_t`. -/
structure SimpleFormula where
  left : CharArray
  right : CharArray
  testFlag : Option FormulaTestFlag

/-- Nothing of the result is written yet. -/
def SimpleFormula.unset : SimpleFormula where
  left := fun _ => none
  right := fun _ => none
  testFlag := none

def isBlank (c : Char) : Bool := c == ' ' || c == '\t'

def isOperator (c : Char) : Bool := c == '>' || c == '<' || c == '=' || c == '!'

/-- `ptr[i]`, inside of the text. -/
def charAt (formula : List Char) (i : Int) : Option Char :=
  if 0 ≤ i then formula[i.toNat]? else none

/-- The loop that trims the blanks at the end of an array with `j` characters. -/
def trimTail : Nat -> CharArray -> Option CharArray
  | 0, cells => some cells
  | j + 1, cells =>
      if 1 < j + 1 then do
        if isBlank (<- cells.get j) then trimTail j (<- cells.put j '\x00') else some cells
      else some cells

/-- `i + 1 < formula_len && '=' == ptr[i + 1]`. -/
def equalsNext (formula : List Char) (formula_len i : Int) : Option Bool :=
  if i + 1 < formula_len then (charAt formula (i + 1)).map (· == '=') else some false

/-- One branch for an operator: the flag and `k`, which depend on whether `=` follows. -/
def takeOperator (formula : List Char) (formula_len i : Int) (out : SimpleFormula)
    (followed alone : FormulaTestFlag) : Option (Int × SimpleFormula) := do
  if <- equalsNext formula formula_len i then
    return (i + 2, { out with testFlag := some followed })
  else return (i + 1, { out with testFlag := some alone })

/-- The branches for the operators.  `k` is still `-1` if there is none. -/
def testOperator (formula : List Char) (formula_len i : Int) (c : Char) (out : SimpleFormula) :
    Option (Int × SimpleFormula) :=
  if c = '>' then takeOperator formula formula_len i out .greaterOrEq .greaterThan
  else if c = '<' then takeOperator formula formula_len i out .lessOrEq .lessThan
  else if c = '!' then takeOperator formula formula_len i out .notEqual .unknown
  else if c = '=' then takeOperator formula formula_len i out .equal .equal
  else some (-1, out)

/-- The first loop, with the number of the characters that are left.  It gives `k`. -/
def leftLoop (formula : List Char) (formula_len : Int) :
    Nat -> Int -> Nat -> SimpleFormula -> Option (Int × SimpleFormula)
  | 0, _, _, out => some (-1, out)
  | rest + 1, i, j, out => do
      let c <- charAt formula i
      if j + 1 < 64 ∧ isOperator c = false then
        if 0 < j ∨ isBlank c = false then
          leftLoop formula formula_len rest (i + 1) (j + 1)
            { out with left := <- out.left.put j c }
        else leftLoop formula formula_len rest (i + 1) j out
      else
        let trimmed <- trimTail j (<- out.left.put j '\x00')
        testOperator formula formula_len i c { out with left := trimmed }

/-- The second loop, which gives the number of the characters it has copied. -/
def rightLoop (formula : List Char) : Nat -> Int -> Nat -> CharArray -> Option (Nat × CharArray)
  | 0, _, j, cells => some (j, cells)
  | rest + 1, i, j, cells => do
      let c <- charAt formula i
      if 0 < j ∨ isBlank c = false then
        rightLoop formula rest (i + 1) (j + 1) (<- cells.put j c)
      else rightLoop formula rest (i + 1) j cells

/-- `if (!formula_len) formula_len = strlen(ptr);` -/
def formulaLen (formula : List Char) (formula_len : Int32) : Int32 :=
  if formula_len = 0 then Int32.ofNat formula.length else formula_len

/-- The right operand, from `ptr[k]` on. -/
def rightOperand (formula : List Char) (formula_len k : Int) (right : CharArray) :
    Option CharArray := do
  let (j, cells) <- rightLoop formula (formula_len - k).toNat k 0 (<- right.put 0 '\x00')
  trimTail j (<- cells.put j '\x00')

/-- `split_simple_formula`.  What it returns is the flag of the result. -/
def splitSimpleFormula (formula : List Char) (formula_len : Int32) : Option SimpleFormula := do
  let len := (formulaLen formula formula_len).toInt
  let (k, out) <- leftLoop formula len len.toNat 0 0 .unset
  return { out with right := <- rightOperand formula len k out.right }

/-! ## Text in an array -/

namespace CharArray

variable {cells : CharArray} {text : List Char}

theorem put_spec (cells : CharArray) {j : Nat} (inside : j < 64) (c : Char) :
    Exists fun next => cells.put j c = some next ∧ next.get j = some c ∧
      forall other, other ≠ j -> next.get other = cells.get other := by
  refine ⟨_, dif_pos inside, ?_, ?_⟩
  · rw [get, dif_pos inside, Function.update_self]
  · intro other different
    by_cases within : other < 64
    · rw [get, get, dif_pos within, dif_pos within, Function.update_of_ne]
      exact fun same => different (congrArg Fin.val same)
    · rw [get, get, dif_neg within, dif_neg within]

/-- The array begins with the text. -/
def Begins (cells : CharArray) (text : List Char) : Prop :=
  forall index, index < text.length -> cells.get index = text[index]?

/-- The array begins with the text, and then a NUL. -/
structure Closed (cells : CharArray) (text : List Char) : Prop where
  begins : cells.Begins text
  terminated : cells.get text.length = some '\x00'

/-- As a string the array is the text. -/
structure Holds (cells : CharArray) (text : List Char) : Prop where
  closed : cells.Closed text
  unbroken : '\x00' ∉ text

theorem Begins.put (begins : cells.Begins text) (room : text.length < 64) (c : Char) :
    Exists fun next => cells.put text.length c = some next ∧ next.Begins (text ++ [c]) := by
  rcases cells.put_spec room c with ⟨next, written, here, elsewhere⟩
  refine ⟨next, written, ?_⟩
  intro index inside
  rw [List.length_append, List.length_singleton] at inside
  by_cases last : index = text.length
  · rw [last, here, List.getElem?_append_right (Nat.le_refl _), Nat.sub_self]
    rfl
  · rw [elsewhere index last, List.getElem?_append_left (by omega)]
    exact begins index (by omega)

theorem Begins.close (begins : cells.Begins text) (room : text.length < 64) :
    Exists fun next => cells.put text.length '\x00' = some next ∧ next.Closed text := by
  rcases cells.put_spec room '\x00' with ⟨next, written, here, elsewhere⟩
  refine ⟨next, written, ?_, here⟩
  intro index inside
  rw [elsewhere index (Nat.ne_of_lt inside)]
  exact begins index inside

theorem Begins.of_append {more : List Char} (begins : cells.Begins (text ++ more)) :
    cells.Begins text := by
  intro index inside
  rw [begins index (by rw [List.length_append]; omega), List.getElem?_append_left inside]

/-- An array is no more than one string. -/
theorem Holds.unique {other : List Char} (first : cells.Holds text) (second : cells.Holds other) :
    text = other := by
  -- the shorter of two different ones would end with a NUL of the longer one
  have shorter : forall {left right : List Char}, cells.Holds left -> cells.Holds right ->
      ¬ left.length < right.length := by
    intro left right one another below
    have nul := another.closed.begins left.length below
    rw [one.closed.terminated] at nul
    exact another.unbroken (List.mem_of_getElem? nul.symm)
  have length : text.length = other.length :=
    Nat.le_antisymm (Nat.le_of_not_lt (shorter second first))
      (Nat.le_of_not_lt (shorter first second))
  apply List.ext_getElem?
  intro index
  by_cases inside : index < text.length
  · rw [← first.closed.begins index inside, ← second.closed.begins index (length ▸ inside)]
  · rw [List.getElem?_eq_none (Nat.le_of_not_lt inside),
      List.getElem?_eq_none (length ▸ Nat.le_of_not_lt inside)]

end CharArray

/-- The text does not begin with a blank. -/
def FrontTrimmed (text : List Char) : Prop := forall c, text.head? = some c -> isBlank c = false

/-- A text without the blanks around it. -/
def trimmed (text : List Char) : List Char := (text.dropWhile isBlank).rdropWhile isBlank

theorem FrontTrimmed.dropWhile_eq {text : List Char} (front : FrontTrimmed text) :
    text.dropWhile isBlank = text := by
  cases text with
  | nil => rfl
  | cons c rest => rw [List.dropWhile_cons_of_neg (Bool.eq_false_iff.mp (front c rfl))]

/-- The blanks at the end are cut off.  The loop keeps the first character, which is no
blank. -/
theorem trimTail_closed {text : List Char} {cells : CharArray} (closed : cells.Closed text)
    (front : FrontTrimmed text) : Exists fun next =>
      trimTail text.length cells = some next ∧ next.Closed (text.rdropWhile isBlank) := by
  induction text using List.reverseRecOn generalizing cells with
  | nil => exact ⟨cells, rfl, closed⟩
  | append_singleton text c inductionHypothesis =>
      have begins := closed.begins.of_append
      have last : cells.get text.length = some c := by
        rw [closed.begins text.length (by simp), List.getElem?_append_right (Nat.le_refl _),
          Nat.sub_self]
        rfl
      rw [List.length_append, List.length_singleton, trimTail]
      by_cases single : text = []
      · rw [single] at front closed ⊢
        have plain : ¬ isBlank c = true := Bool.eq_false_iff.mp (front c rfl)
        rw [List.rdropWhile_concat_neg isBlank [] c plain]
        exact ⟨cells, rfl, closed⟩
      · have long := List.length_pos_iff.mpr single
        rw [if_pos (by omega), last, Option.bind_eq_bind, Option.bind_some]
        by_cases blank : isBlank c = true
        · have inside : text.length < 64 := by
            by_contra outside
            rw [CharArray.get, dif_neg outside] at last
            cases last
          rcases begins.close inside with ⟨next, written, closedNext⟩
          rw [if_pos blank, written, List.rdropWhile_concat_pos isBlank text c blank]
          apply inductionHypothesis closedNext
          intro first at_
          apply front first
          rw [List.head?_append, at_]
          rfl
        · rw [if_neg blank, List.rdropWhile_concat_neg isBlank text c blank]
          exact ⟨cells, rfl, closed⟩

/-! ## The loops -/

/-- The next characters of the formula. -/
def Reads (formula : List Char) (i : Int) (text : List Char) : Prop :=
  forall index : Nat, index < text.length -> charAt formula (i + index) = text[index]?

/-- What has been copied, when one more character has been looked at. -/
def keep (kept : List Char) (c : Char) : List Char :=
  if 0 < kept.length ∨ isBlank c = false then kept ++ [c] else kept

variable {formula : List Char} {formula_len i : Int} {kept text : List Char} {c : Char}

theorem Reads.head (reads : Reads formula i (c :: text)) : charAt formula i = some c := by
  have first := reads 0 (Nat.succ_pos _)
  rw [Int.natCast_zero, Int.add_zero] at first
  exact first

theorem Reads.tail (reads : Reads formula i (c :: text)) : Reads formula (i + 1) text := by
  intro index inside
  have next := reads (index + 1) (Nat.succ_lt_succ inside)
  rw [Int.natCast_succ, Int.add_comm (index : Int) 1, ← Int.add_assoc] at next
  exact next

theorem Reads.drop {front : List Char} (reads : Reads formula i (front ++ text)) :
    Reads formula (i + front.length) text := by
  induction front generalizing i with
  | nil =>
      rw [List.length_nil, Int.natCast_zero, Int.add_zero]
      exact reads
  | cons first front inductionHypothesis =>
      have later := inductionHypothesis reads.tail
      rw [List.length_cons, Int.natCast_succ, Int.add_comm (front.length : Int) 1, ← Int.add_assoc]
      exact later

theorem FrontTrimmed.keep (front : FrontTrimmed kept) (c : Char) : FrontTrimmed (keep kept c) := by
  intro first at_
  rw [NetSystem.keep] at at_
  by_cases copied : 0 < kept.length ∨ isBlank c = false
  · rw [if_pos copied] at at_
    cases kept with
    | nil =>
        cases at_
        exact copied.resolve_left (Nat.lt_irrefl 0)
    | cons head rest => exact front first at_
  · rw [if_neg copied] at at_
    exact front first at_

theorem length_keep (positive : 0 < kept.length) (c : Char) :
    (keep kept c).length = kept.length + 1 := by
  rw [keep, if_pos (.inl positive), List.length_append, List.length_singleton]

/-- Blanks are left out until something has been copied. -/
theorem dropWhile_keep (kept : List Char) (c : Char) (text : List Char) :
    (kept ++ c :: text).dropWhile isBlank = (keep kept c ++ text).dropWhile isBlank := by
  rw [keep]
  by_cases copied : 0 < kept.length ∨ isBlank c = false
  · rw [if_pos copied, List.append_assoc]
    rfl
  · rw [if_neg copied]
    rcases not_or.mp copied with ⟨empty, blank⟩
    rw [List.eq_nil_of_length_eq_zero (Nat.eq_zero_of_not_pos empty)]
    exact List.dropWhile_cons_of_pos (Bool.not_eq_false _ ▸ blank)

/-- What has been copied stays. -/
theorem FrontTrimmed.length_le (front : FrontTrimmed kept) (text : List Char) :
    kept.length ≤ ((kept ++ text).dropWhile isBlank).length := by
  cases kept with
  | nil => exact Nat.zero_le _
  | cons first rest =>
      rw [List.cons_append,
        List.dropWhile_cons_of_neg (Bool.eq_false_iff.mp (front first rfl))]
      simp

section LeftLoop

variable {out : SimpleFormula}

/-- A character of the left operand. -/
theorem leftLoop_step (head : charAt formula i = some c) (begins : out.left.Begins kept)
    (plain : isOperator c = false) (room : kept.length + 1 < 64) (rest : Nat) :
    Exists fun next => next.left.Begins (keep kept c) ∧ next.testFlag = out.testFlag ∧
      leftLoop formula formula_len (rest + 1) i kept.length out =
        leftLoop formula formula_len rest (i + 1) (keep kept c).length next := by
  rw [leftLoop, head, Option.bind_eq_bind, Option.bind_some, if_pos ⟨room, plain⟩, keep]
  by_cases copied : 0 < kept.length ∨ isBlank c = false
  · rcases begins.put (Nat.lt_of_succ_lt room) c with ⟨cells, written, longer⟩
    rw [if_pos copied, if_pos copied, written, List.length_append]
    exact ⟨{ out with left := cells }, longer, rfl, rfl⟩
  · rw [if_neg copied, if_neg copied]
    exact ⟨out, begins, rfl, rfl⟩

/-- An operator, or no room: the left operand ends. -/
theorem leftLoop_stop (head : charAt formula i = some c) (begins : out.left.Begins kept)
    (front : FrontTrimmed kept) (room : kept.length ≤ 63)
    (stop : ¬ (kept.length + 1 < 64 ∧ isOperator c = false)) (rest : Nat) :
    Exists fun cells => cells.Closed (kept.rdropWhile isBlank) ∧
      leftLoop formula formula_len (rest + 1) i kept.length out =
        testOperator formula formula_len i c { out with left := cells } := by
  rcases begins.close (Nat.lt_succ_of_le room) with ⟨cells, written, closed⟩
  rcases trimTail_closed closed front with ⟨next, cut, closedNext⟩
  rw [leftLoop, head, Option.bind_eq_bind, Option.bind_some, if_neg stop, written]
  exact ⟨next, closedNext, by rw [Option.bind_eq_bind, Option.bind_some, cut]; rfl⟩

/-- The operator is found behind an operand that fits. -/
theorem leftLoop_found {operand behind : List Char} (reads : Reads formula i (operand ++ c :: behind))
    (plain : forall ch, ch ∈ operand -> isOperator ch = false) (operator : isOperator c = true)
    (begins : out.left.Begins kept) (front : FrontTrimmed kept)
    (fits : ((kept ++ operand).dropWhile isBlank).length ≤ 63) :
    Exists fun next => next.left.Closed (trimmed (kept ++ operand)) ∧
      leftLoop formula formula_len (operand ++ c :: behind).length i kept.length out =
        testOperator formula formula_len (i + operand.length) c next := by
  induction operand generalizing i kept out with
  | nil =>
      rw [List.append_nil, front.dropWhile_eq] at fits
      have stop : ¬ (kept.length + 1 < 64 ∧ isOperator c = false) := by
        rw [operator]
        exact fun both => Bool.noConfusion both.2
      rcases leftLoop_stop reads.head begins front fits stop behind.length with
        ⟨cells, closed, ran⟩
      rw [List.append_nil, trimmed, front.dropWhile_eq, List.length_nil, Int.natCast_zero,
        Int.add_zero]
      exact ⟨_, closed, ran⟩
  | cons ch operand inductionHypothesis =>
      rw [dropWhile_keep] at fits
      rcases List.forall_mem_cons.mp plain with ⟨plainHere, plainLater⟩
      have longer := (front.keep ch).length_le operand
      have room : kept.length + 1 < 64 := by
        by_contra full
        have grown := length_keep (show 0 < kept.length by omega) ch
        omega
      rcases leftLoop_step reads.head begins plainHere room (operand ++ c :: behind).length with
        ⟨next, beginsNext, _, ran⟩
      rcases inductionHypothesis reads.tail plainLater beginsNext (front.keep ch) fits with
        ⟨last, closed, found⟩
      refine ⟨last, ?_, ?_⟩
      · rw [trimmed, dropWhile_keep]
        exact closed
      · rw [List.cons_append, List.length_cons, ran, found, List.length_cons, Int.natCast_succ,
          Int.add_comm (operand.length : Int) 1, Int.add_assoc]

/-- There is no operator, or the operand in front of it does not fit. -/
theorem leftLoop_lost {operand behind : List Char} (reads : Reads formula i (operand ++ behind))
    (plain : forall ch, ch ∈ operand -> isOperator ch = false)
    (lost : behind = [] ∨ 63 < ((kept ++ operand).dropWhile isBlank).length)
    (begins : out.left.Begins kept) (front : FrontTrimmed kept) (full : kept.length ≤ 63)
    (formula_len : Int) : Exists fun next => next.testFlag = out.testFlag ∧
      leftLoop formula formula_len (operand ++ behind).length i kept.length out =
        some (-1, next) := by
  induction operand generalizing i kept out with
  | nil =>
      rw [List.append_nil, front.dropWhile_eq] at lost
      rw [lost.resolve_right (Nat.not_lt.mpr full)]
      exact ⟨out, rfl, rfl⟩
  | cons ch operand inductionHypothesis =>
      rcases List.forall_mem_cons.mp plain with ⟨plainHere, plainLater⟩
      by_cases room : kept.length + 1 < 64
      · rw [dropWhile_keep] at lost
        rcases leftLoop_step reads.head begins plainHere room (operand ++ behind).length with
          ⟨next, beginsNext, flag, ran⟩
        have fits : (keep kept ch).length ≤ 63 := by
          rw [keep]
          split
          · rw [List.length_append, List.length_singleton]
            omega
          · exact full
        rcases inductionHypothesis reads.tail plainLater lost beginsNext (front.keep ch) fits with
          ⟨last, flagLast, found⟩
        exact ⟨last, flagLast.trans flag, ran.trans found⟩
      · rcases leftLoop_stop reads.head begins front full (fun both => room both.1)
          (operand ++ behind).length with ⟨cells, _, ran⟩
        have none_of : ch ≠ '>' ∧ ch ≠ '<' ∧ ch ≠ '!' ∧ ch ≠ '=' := by
          refine ⟨?_, ?_, ?_, ?_⟩
          all_goals
            rintro rfl
            cases plainHere
        refine ⟨{ out with left := cells }, rfl, ran.trans ?_⟩
        rw [testOperator, if_neg none_of.1, if_neg none_of.2.1, if_neg none_of.2.2.1,
          if_neg none_of.2.2.2]

end LeftLoop

section RightLoop

variable {cells : CharArray}

theorem rightLoop_cons (head : charAt formula i = some c) (rest : Nat) (kept : List Char)
    (cells : CharArray) :
    rightLoop formula (rest + 1) i kept.length cells =
      if 0 < kept.length ∨ isBlank c = false then
        (cells.put kept.length c).bind (rightLoop formula rest (i + 1) (kept.length + 1))
      else rightLoop formula rest (i + 1) kept.length cells := by
  rw [rightLoop, head]
  rfl

/-- A right operand that fits is copied. -/
theorem rightLoop_fits (reads : Reads formula i text) (begins : cells.Begins kept)
    (front : FrontTrimmed kept) (fits : ((kept ++ text).dropWhile isBlank).length ≤ 63) :
    Exists fun next => next.Begins ((kept ++ text).dropWhile isBlank) ∧
      rightLoop formula text.length i kept.length cells =
        some (((kept ++ text).dropWhile isBlank).length, next) := by
  induction text generalizing i kept cells with
  | nil =>
      rw [List.append_nil, front.dropWhile_eq]
      exact ⟨cells, begins, rfl⟩
  | cons c text inductionHypothesis =>
      rw [dropWhile_keep] at fits ⊢
      rw [List.length_cons, rightLoop_cons reads.head]
      by_cases copied : 0 < kept.length ∨ isBlank c = false
      · have grown : keep kept c = kept ++ [c] := if_pos copied
        have room := (front.keep c).length_le text
        rw [grown, List.length_append, List.length_singleton] at room
        rcases begins.put (by rw [grown] at fits; omega) c with ⟨next, written, longer⟩
        rw [if_pos copied, written, Option.bind_some]
        have ran := inductionHypothesis reads.tail (grown ▸ longer) (front.keep c) fits
        rw [grown, List.length_append, List.length_singleton] at ran
        rw [grown]
        exact ran
      · have same : keep kept c = kept := if_neg copied
        rw [if_neg copied]
        rw [same] at fits ⊢
        exact inductionHypothesis reads.tail begins front fits

/-- Of one that does not fit, at least 64 characters are copied. -/
theorem rightLoop_overrun (reads : Reads formula i text)
    (front : FrontTrimmed kept) (long : 63 < ((kept ++ text).dropWhile isBlank).length)
    {j : Nat} {last : CharArray}
    (ran : rightLoop formula text.length i kept.length cells = some (j, last)) : 63 < j := by
  induction text generalizing i kept cells with
  | nil =>
      rw [List.append_nil, front.dropWhile_eq] at long
      cases ran
      exact long
  | cons c text inductionHypothesis =>
      rw [dropWhile_keep] at long
      rw [List.length_cons, rightLoop_cons reads.head] at ran
      by_cases copied : 0 < kept.length ∨ isBlank c = false
      · have grown : keep kept c = kept ++ [c] := if_pos copied
        rw [if_pos copied] at ran
        rcases Option.bind_eq_some_iff.mp ran with ⟨next, _, rest⟩
        apply inductionHypothesis reads.tail (front.keep c) long
        rw [grown, List.length_append]
        exact rest
      · have same : keep kept c = kept := if_neg copied
        rw [if_neg copied] at ran
        rw [same] at long
        exact inductionHypothesis reads.tail front long ran

end RightLoop

/-! ## The parts of a formula -/

/-- What is in front of the first operator character. -/
def leftPart (text : List Char) : List Char := text.takeWhile fun c => !isOperator c

/-- The formula from its first operator character on. -/
def operatorPart (text : List Char) : List Char := text.dropWhile fun c => !isOperator c

/-- What is behind the operator, which has a second character if it is `=`. -/
def rightPart (text : List Char) : List Char :=
  if (operatorPart text).tail.head? = some '=' then (operatorPart text).tail.tail
  else (operatorPart text).tail

/-- The flag for an operator character, followed by `=` or not. -/
def testFlagOf (c : Char) (followed : Bool) : FormulaTestFlag :=
  if c = '>' then if followed then .greaterOrEq else .greaterThan
  else if c = '<' then if followed then .lessOrEq else .lessThan
  else if c = '!' then if followed then .notEqual else .unknown
  else .equal

/-- There is an operator, and what is on its sides fits without the blanks in front. -/
structure Separable (text : List Char) : Prop where
  operator : operatorPart text ≠ []
  left : ((leftPart text).dropWhile isBlank).length ≤ 63
  right : ((rightPart text).dropWhile isBlank).length ≤ 63

theorem leftPart_plain (text : List Char) : forall c, c ∈ leftPart text -> isOperator c = false := by
  intro c member
  have passed := List.mem_takeWhile_imp member
  exact (Bool.not_eq_true' _).mp passed

theorem leftPart_append_operatorPart (text : List Char) :
    leftPart text ++ operatorPart text = text :=
  List.takeWhile_append_dropWhile

theorem operatorPart_head {behind : List Char} (cut : operatorPart text = c :: behind) :
    isOperator c = true := by
  have first := List.head?_dropWhile_not (fun c => !isOperator c) text
  rw [← operatorPart, cut] at first
  exact Bool.not_eq_false' _ ▸ first

theorem equalsNext_eq {behind : List Char} (reads : Reads formula i (c :: behind))
    (length : formula_len = i + (c :: behind).length) :
    equalsNext formula formula_len i = some (behind.head? == some '=') := by
  rw [length, List.length_cons, equalsNext]
  cases behind with
  | nil => simp
  | cons next behind =>
      rw [if_pos (by simp only [List.length_cons]; omega), reads.tail.head]
      simp

theorem testOperator_eq (operator : isOperator c = true) {followed : Bool}
    (next : equalsNext formula formula_len i = some followed) (out : SimpleFormula) :
    testOperator formula formula_len i c out =
      some (if followed then i + 2 else i + 1, { out with testFlag := some (testFlagOf c followed) }) := by
  simp only [testOperator, takeOperator, next, testFlagOf, Option.bind_eq_bind, Option.bind_some,
    Option.pure_def]
  by_cases greater : c = '>'
  · cases followed <;> simp [greater]
  by_cases less : c = '<'
  · cases followed <;> simp [less]
  by_cases not_ : c = '!'
  · cases followed <;> simp [not_]
  have equal : c = '=' := by
    simpa [isOperator, greater, less, not_] using operator
  cases followed <;> simp [equal]

/-! ## The whole call -/

theorem trimmed_mem {c : Char} (member : c ∈ trimmed text) : c ∈ text :=
  (List.dropWhile_sublist isBlank).subset ((List.rdropWhile_prefix isBlank _).subset member)

theorem frontTrimmed_nil : FrontTrimmed [] := by
  intro c impossible
  cases impossible

theorem begins_nil (cells : CharArray) : cells.Begins [] :=
  fun index impossible => absurd impossible (Nat.not_lt_zero index)

theorem frontTrimmed_dropWhile (text : List Char) : FrontTrimmed (text.dropWhile isBlank) := by
  intro c at_
  have first := List.head?_dropWhile_not isBlank text
  rw [at_] at first
  exact first

/-- The flag of a formula. -/
def flagPart (text : List Char) : Option FormulaTestFlag :=
  (operatorPart text).head?.map fun c => testFlagOf c ((operatorPart text).tail.head? == some '=')

section Call

/-- A right operand that fits is trimmed on both sides. -/
theorem rightOperand_fits {k : Int} {behind : List Char} (reads : Reads formula k behind)
    (length : formula_len - k = behind.length) (fits : (behind.dropWhile isBlank).length ≤ 63)
    (right : CharArray) : Exists fun cells =>
      rightOperand formula formula_len k right = some cells ∧ cells.Closed (trimmed behind) := by
  rcases right.put_spec (show 0 < 64 by decide) '\x00' with ⟨start, written, _⟩
  rcases rightLoop_fits reads (begins_nil start) frontTrimmed_nil fits with ⟨copied, begins, ran⟩
  rcases begins.close (Nat.lt_succ_of_le fits) with ⟨ended_, terminated, closes⟩
  rcases trimTail_closed closes (frontTrimmed_dropWhile behind) with ⟨last, cut, closesLast⟩
  refine ⟨last, ?_, closesLast⟩
  rw [List.nil_append] at ran terminated cut
  rw [List.length_nil] at ran
  simp only [rightOperand, length, Int.toNat_natCast, written, ran, terminated, cut,
    Option.bind_eq_bind, Option.bind_some]

/-- One that does not fit is written over the end of its array. -/
theorem rightOperand_overrun {k : Int} {behind : List Char} (reads : Reads formula k behind)
    (length : formula_len - k = behind.length) (long : 63 < (behind.dropWhile isBlank).length)
    (right : CharArray) : rightOperand formula formula_len k right = none := by
  apply Option.eq_none_iff_forall_ne_some.mpr
  intro cells done
  rw [rightOperand, length, Int.toNat_natCast] at done
  rcases Option.bind_eq_some_iff.mp done with ⟨start, _, rest⟩
  rcases Option.bind_eq_some_iff.mp rest with ⟨⟨j, copied⟩, ran, ends⟩
  rcases Option.bind_eq_some_iff.mp ends with ⟨ended_, terminated, _⟩
  have far : 63 < j := rightLoop_overrun reads frontTrimmed_nil long ran
  rw [CharArray.put, dif_neg (by omega)] at terminated
  cases terminated

theorem rightPart_cut {behind : List Char} (cut : operatorPart text = c :: behind) :
    rightPart text = if behind.head? = some '=' then behind.tail else behind := by
  rw [rightPart, cut]
  rfl

theorem rightPart_mem (member : c ∈ rightPart text) : c ∈ text := by
  apply (List.dropWhile_sublist fun c => !isOperator c).subset
  change c ∈ operatorPart text
  rw [rightPart] at member
  split at member
  · exact List.mem_of_mem_tail (List.mem_of_mem_tail member)
  · exact List.mem_of_mem_tail member

/-- Where the right operand begins. -/
theorem reads_rightPart {behind : List Char} (reads : Reads formula i (c :: behind))
    (cut : operatorPart text = c :: behind) (length : formula_len = i + (c :: behind).length) :
    Reads formula (if behind.head? == some '=' then i + 2 else i + 1) (rightPart text) ∧
      formula_len - (if behind.head? == some '=' then i + 2 else i + 1) =
        (rightPart text).length := by
  rw [rightPart_cut cut, length]
  by_cases followed : behind.head? = some '='
  · rcases List.head?_eq_some_iff.mp followed with ⟨more, rfl⟩
    have later := reads.tail.tail
    rw [Int.add_assoc] at later
    refine ⟨later, ?_⟩
    simp only [List.length_cons, List.head?_cons, List.tail_cons, if_true, beq_self_eq_true]
    omega
  · rw [if_neg followed, if_neg (by simpa using followed)]
    refine ⟨reads.tail, ?_⟩
    rw [List.length_cons]
    omega

variable {flen : Int32}

/-- The left operand fits and an operator follows: the first loop leaves the flag set, and
`k` where the right operand begins. -/
theorem leftLoop_of_operator (length : formula_len = text.length) (reads : Reads formula 0 text)
    (operator : operatorPart text ≠ [])
    (fits : ((leftPart text).dropWhile isBlank).length ≤ 63) :
    Exists fun k => Exists fun out =>
      leftLoop formula formula_len text.length 0 0 .unset = some (k, out) ∧
        out.left.Closed (trimmed (leftPart text)) ∧ out.testFlag = flagPart text ∧
          Reads formula k (rightPart text) ∧ formula_len - k = (rightPart text).length := by
  have whole := leftPart_append_operatorPart text
  rcases List.exists_cons_of_ne_nil operator with ⟨c, behind, cut⟩
  have isOp := operatorPart_head cut
  rw [cut] at whole
  have size := congrArg List.length whole
  rw [List.length_append] at size
  have readsAll := reads
  rw [← whole] at readsAll
  have end_ : formula_len = 0 + (leftPart text).length + (c :: behind).length := by
    omega
  rcases leftLoop_found readsAll (leftPart_plain text) isOp (begins_nil SimpleFormula.unset.left)
    frontTrimmed_nil fits with ⟨found, closed, ran⟩
  rw [testOperator_eq isOp (equalsNext_eq readsAll.drop end_), whole] at ran
  rcases reads_rightPart readsAll.drop cut end_ with ⟨readsRight, lengthRight⟩
  refine ⟨_, _, ran, closed, ?_, readsRight, lengthRight⟩
  rw [flagPart, cut]
  rfl

/-- The operands and the flag of a text that is separable. -/
theorem splitSimpleFormula_of_separable (length : (formulaLen formula flen).toInt = text.length)
    (reads : Reads formula 0 text) (unbroken : '\x00' ∉ text) (separable : Separable text) :
    Exists fun out => splitSimpleFormula formula flen = some out ∧
      out.left.Holds (trimmed (leftPart text)) ∧ out.right.Holds (trimmed (rightPart text)) ∧
        out.testFlag = flagPart text := by
  rcases leftLoop_of_operator length reads separable.operator separable.left with
    ⟨k, found, ran, closed, flag, readsRight, lengthRight⟩
  rcases rightOperand_fits readsRight lengthRight separable.right found.right with
    ⟨right, written, closedRight⟩
  refine ⟨⟨found.left, right, found.testFlag⟩, ?_, ⟨closed, ?_⟩, ⟨closedRight, ?_⟩, flag⟩
  · have count : (formulaLen formula flen).toInt.toNat = text.length := by
      rw [length, Int.toNat_natCast]
    simp only [splitSimpleFormula, count, ran, written, Option.bind_eq_bind, Option.bind_some,
      Option.pure_def]
  · intro member
    exact unbroken ((List.takeWhile_sublist _).subset (trimmed_mem member))
  · intro member
    exact unbroken (rightPart_mem (trimmed_mem member))

/-- The flag of any other text is not set. -/
theorem testFlag_of_not_separable (length : (formulaLen formula flen).toInt.toNat = text.length)
    (reads : Reads formula 0 text) (inseparable : ¬ Separable text) {out : SimpleFormula}
    (done : splitSimpleFormula formula flen = some out) : out.testFlag = none := by
  by_cases found : operatorPart text ≠ [] ∧ ((leftPart text).dropWhile isBlank).length ≤ 63
  · -- the right operand does not fit
    have long : 63 < ((rightPart text).dropWhile isBlank).length := by
      by_contra fits
      exact inseparable ⟨found.1, found.2, Nat.le_of_not_lt fits⟩
    have positive : 0 < text.length := by
      apply List.length_pos_iff.mpr
      rintro rfl
      exact found.1 rfl
    have whole : (formulaLen formula flen).toInt = text.length := by
      omega
    rcases leftLoop_of_operator whole reads found.1 found.2 with
      ⟨k, next, ran, _, _, readsRight, lengthRight⟩
    have overrun := rightOperand_overrun readsRight lengthRight long next.right
    simp only [splitSimpleFormula, length, ran, overrun, Option.bind_eq_bind, Option.bind_some,
      Option.bind_none] at done
    cases done
  · -- the first loop does not come to an operator
    have lost : operatorPart text = [] ∨
        63 < (([] ++ leftPart text).dropWhile isBlank).length := by
      rw [List.nil_append]
      by_cases none_ : operatorPart text = []
      · exact .inl none_
      · exact .inr (Nat.lt_of_not_le fun fits => found ⟨none_, fits⟩)
    have readsAll := reads
    rw [← leftPart_append_operatorPart text] at readsAll
    rcases leftLoop_lost readsAll (leftPart_plain text) lost (begins_nil SimpleFormula.unset.left)
      frontTrimmed_nil (Nat.zero_le 63) (formulaLen formula flen).toInt with ⟨next, flag, ran⟩
    rw [leftPart_append_operatorPart text, List.length_nil, ← length] at ran
    simp only [splitSimpleFormula, ran, Option.bind_eq_bind, Option.bind_some] at done
    rcases Option.bind_eq_some_iff.mp done with ⟨right, _, last⟩
    cases last
    exact flag

end Call

/-! ## Formulas of the documented form -/

/-- The operators and their flags. -/
def formulaOperators : List (List Char × FormulaTestFlag) :=
  [(['>'], .greaterThan), (['>', '='], .greaterOrEq), (['<'], .lessThan), (['<', '='], .lessOrEq),
    (['='], .equal), (['=', '='], .equal), (['!', '='], .notEqual)]

/-- Characters that are no operators, with no blank at either end. -/
structure IsOperand (text : List Char) : Prop where
  nonempty : text ≠ []
  plain : forall c, c ∈ text -> isOperator c = false
  front : FrontTrimmed text
  back : forall c, text.getLast? = some c -> isBlank c = false

/-- Two operands with an operator between them and blanks around the three parts. -/
structure FormulaParts where
  lead : List Char
  left : List Char
  gap : List Char
  operator : List Char
  testFlag : FormulaTestFlag
  space : List Char
  right : List Char
  trail : List Char
  known : (operator, testFlag) ∈ formulaOperators
  blanks : forall c, c ∈ lead ++ gap ++ space ++ trail -> isBlank c = true
  leftOperand : IsOperand left
  rightOperand : IsOperand right
  leftFits : (left ++ gap).length ≤ 63
  rightFits : (right ++ trail).length ≤ 63

theorem isOperator_of_isBlank (blank : isBlank c = true) : isOperator c = false := by
  rw [isBlank, Bool.or_eq_true, beq_iff_eq, beq_iff_eq] at blank
  rcases blank with rfl | rfl
  · rfl
  · rfl

theorem trimmed_of_blank (blank : forall c, c ∈ text -> isBlank c = true) : trimmed text = [] := by
  rw [trimmed, List.dropWhile_eq_nil_iff.mpr blank, List.rdropWhile_nil]

theorem rdropWhile_append_of_blank {behind : List Char}
    (blank : forall c, c ∈ behind -> isBlank c = true) (text : List Char) :
    (text ++ behind).rdropWhile isBlank = text.rdropWhile isBlank := by
  rw [List.rdropWhile, List.reverse_append, List.dropWhile_append_of_pos, List.rdropWhile]
  intro c member
  exact blank c (List.mem_reverse.mp member)

namespace IsOperand

variable {front behind : List Char}

theorem dropWhile_eq (operand : IsOperand text)
    (blank : forall c, c ∈ front -> isBlank c = true) (behind : List Char) :
    (front ++ (text ++ behind)).dropWhile isBlank = text ++ behind := by
  rw [List.dropWhile_append_of_pos blank]
  rcases List.exists_cons_of_ne_nil operand.nonempty with ⟨c, rest, rfl⟩
  exact List.dropWhile_cons_of_neg (Bool.eq_false_iff.mp (operand.front c rfl))

/-- The blanks around an operand are trimmed, and nothing of the operand is. -/
theorem trimmed_eq (operand : IsOperand text)
    (blankFront : forall c, c ∈ front -> isBlank c = true)
    (blankBehind : forall c, c ∈ behind -> isBlank c = true) :
    trimmed (front ++ (text ++ behind)) = text := by
  rw [trimmed, operand.dropWhile_eq blankFront, rdropWhile_append_of_blank blankBehind]
  apply List.rdropWhile_eq_self_iff.mpr
  intro nonempty blank
  have plain := operand.back _ (List.getLast?_eq_getLast_of_ne_nil nonempty)
  exact Bool.eq_false_iff.mp plain blank

end IsOperand

/-- A formula is cut at its first operator character. -/
theorem operatorPart_append {front behind : List Char}
    (plain : forall ch, ch ∈ front -> isOperator ch = false) (operator : isOperator c = true) :
    leftPart (front ++ c :: behind) = front ∧ operatorPart (front ++ c :: behind) = c :: behind := by
  have none_ : forall ch, ch ∈ front -> (!isOperator ch) = true := by
    intro ch member
    rw [plain ch member]
    rfl
  have stops : ¬ (!isOperator c) = true := by
    rw [operator]
    exact Bool.false_ne_true
  constructor
  · rw [leftPart, List.takeWhile_append_of_pos none_,
      List.takeWhile_cons_of_neg (p := fun c => !isOperator c) stops, List.append_nil]
  · rw [operatorPart, List.dropWhile_append_of_pos none_,
      List.dropWhile_cons_of_neg (p := fun c => !isOperator c) stops]

namespace FormulaParts

variable (parts : FormulaParts)

/-- The left operand with the blanks around it. -/
def leftText : List Char := parts.lead ++ (parts.left ++ parts.gap)

def concat : List Char :=
  parts.leftText ++ (parts.operator ++ (parts.space ++ (parts.right ++ parts.trail)))

theorem blank_lead : forall c, c ∈ parts.lead -> isBlank c = true := by
  intro c member
  exact parts.blanks c (by simp [member])

theorem blank_gap : forall c, c ∈ parts.gap -> isBlank c = true := by
  intro c member
  exact parts.blanks c (by simp [member])

theorem blank_space : forall c, c ∈ parts.space -> isBlank c = true := by
  intro c member
  exact parts.blanks c (by simp [member])

theorem blank_trail : forall c, c ∈ parts.trail -> isBlank c = true := by
  intro c member
  exact parts.blanks c (by simp [member])

theorem leftText_plain : forall c, c ∈ parts.leftText -> isOperator c = false := by
  intro c member
  rcases List.mem_append.mp member with lead | rest
  · exact isOperator_of_isBlank (parts.blank_lead c lead)
  · rcases List.mem_append.mp rest with left | gap
    · exact parts.leftOperand.plain c left
    · exact isOperator_of_isBlank (parts.blank_gap c gap)

/-- An operator is one character, or two of which the second is `=`. -/
theorem operator_cases : Exists fun c => isOperator c = true ∧
    (parts.operator = [c] ∧ parts.testFlag = testFlagOf c false ∨
      parts.operator = [c, '='] ∧ parts.testFlag = testFlagOf c true) := by
  have known := parts.known
  simp only [formulaOperators, List.mem_cons, Prod.mk.injEq, List.not_mem_nil, or_false] at known
  rcases known with ⟨same, flag⟩ | ⟨same, flag⟩ | ⟨same, flag⟩ | ⟨same, flag⟩ | ⟨same, flag⟩ |
    ⟨same, flag⟩ | ⟨same, flag⟩
  · exact ⟨'>', rfl, .inl ⟨same, flag⟩⟩
  · exact ⟨'>', rfl, .inr ⟨same, flag⟩⟩
  · exact ⟨'<', rfl, .inl ⟨same, flag⟩⟩
  · exact ⟨'<', rfl, .inr ⟨same, flag⟩⟩
  · exact ⟨'=', rfl, .inl ⟨same, flag⟩⟩
  · exact ⟨'=', rfl, .inr ⟨same, flag⟩⟩
  · exact ⟨'!', rfl, .inr ⟨same, flag⟩⟩

/-- Where the formula is cut, also if it goes on differently behind the operator. -/
theorem cut_operator {rest : List Char} (other : rest.head? ≠ some '=') :
    leftPart (parts.leftText ++ (parts.operator ++ rest)) = parts.leftText ∧
      operatorPart (parts.leftText ++ (parts.operator ++ rest)) = parts.operator ++ rest ∧
        rightPart (parts.leftText ++ (parts.operator ++ rest)) = rest ∧
          flagPart (parts.leftText ++ (parts.operator ++ rest)) = some parts.testFlag := by
  rcases parts.operator_cases with ⟨c, operator, ⟨same, flag⟩ | ⟨same, flag⟩⟩
  · rw [same, flag, List.singleton_append]
    rcases operatorPart_append parts.leftText_plain operator with ⟨left, cut⟩
    refine ⟨left, cut, ?_, ?_⟩
    · rw [rightPart_cut cut, if_neg other]
    · have alone : (rest.head? == some '=') = false := beq_eq_false_iff_ne.mpr other
      rw [flagPart, cut, List.tail_cons, alone]
      rfl
  · rw [same, flag]
    rcases operatorPart_append parts.leftText_plain operator with ⟨left, cut⟩
    refine ⟨left, cut, ?_, ?_⟩
    · exact (rightPart_cut cut).trans (if_pos rfl)
    · rw [flagPart]
      exact congrArg (fun part => part.head?.map fun c => testFlagOf c (part.tail.head? == some '=')) cut

/-- What is behind the operator does not begin with `=`. -/
theorem space_head (rest : List Char) (plain : rest.head? ≠ some '=') :
    (parts.space ++ rest).head? ≠ some '=' := by
  intro head
  cases blanks : parts.space with
  | nil =>
      rw [blanks] at head
      exact plain head
  | cons c space =>
      rw [blanks] at head
      cases head
      have blank := parts.blank_space '=' (by rw [blanks]; exact List.mem_cons_self ..)
      cases blank

theorem separable : Separable parts.concat ∧ trimmed (leftPart parts.concat) = parts.left ∧
    trimmed (rightPart parts.concat) = parts.right ∧
      flagPart parts.concat = some parts.testFlag := by
  have other : (parts.space ++ (parts.right ++ parts.trail)).head? ≠ some '=' := by
    apply parts.space_head
    rcases List.exists_cons_of_ne_nil parts.rightOperand.nonempty with ⟨c, rest, right⟩
    have plain := parts.rightOperand.plain c (by rw [right]; exact List.mem_cons_self ..)
    rw [right]
    intro head
    cases head
    cases plain
  rcases parts.cut_operator other with ⟨left, cut, right, flag⟩
  refine ⟨⟨?_, ?_, ?_⟩, ?_, ?_, flag⟩
  · rw [concat, cut]
    rcases parts.operator_cases with ⟨c, _, ⟨same, _⟩ | ⟨same, _⟩⟩
    · rw [same]
      exact List.cons_ne_nil _ _
    · rw [same]
      exact List.cons_ne_nil _ _
  · rw [concat, left, leftText, parts.leftOperand.dropWhile_eq parts.blank_lead]
    exact parts.leftFits
  · rw [concat, right, parts.rightOperand.dropWhile_eq parts.blank_space]
    exact parts.rightFits
  · rw [concat, left]
    exact parts.leftOperand.trimmed_eq parts.blank_lead parts.blank_gap
  · rw [concat, right]
    exact parts.rightOperand.trimmed_eq parts.blank_space parts.blank_trail

/-- Behind the operator there are only blanks. -/
theorem trimmed_rightPart_of_blank {rest : List Char}
    (blank : forall c, c ∈ rest -> isBlank c = true) :
    trimmed (rightPart (parts.leftText ++ (parts.operator ++ rest))) = [] := by
  have other : rest.head? ≠ some '=' := by
    intro head
    have impossible := blank '=' (List.mem_of_mem_head? head)
    cases impossible
  rw [(parts.cut_operator other).2.2.1]
  exact trimmed_of_blank blank

/-- A beginning of the formula without its right operand has none. -/
theorem trimmed_rightPart_take {count : Nat}
    (short : count + (parts.right ++ parts.trail).length ≤ parts.concat.length)
    (operator : operatorPart (parts.concat.take count) ≠ []) :
    trimmed (rightPart (parts.concat.take count)) = [] := by
  have long : parts.leftText.length < count := by
    by_contra inside
    rw [concat, List.take_append_of_le_length (Nat.le_of_not_lt inside)] at operator
    apply operator
    rw [operatorPart, List.dropWhile_eq_nil_iff]
    intro c member
    rw [parts.leftText_plain c (List.mem_of_mem_take member)]
    rfl
  have blank : forall size, forall c, size ≤ parts.space.length ->
      c ∈ (parts.space ++ (parts.right ++ parts.trail)).take size -> isBlank c = true := by
    intro size c inside member
    rw [List.take_append_of_le_length inside] at member
    exact parts.blank_space c (List.mem_of_mem_take member)
  rcases Nat.exists_eq_add_of_lt long with ⟨size, rfl⟩
  rw [concat] at short ⊢
  rw [Nat.add_assoc, List.take_length_add_append]
  rcases parts.operator_cases with ⟨c, known, ⟨same, _⟩ | ⟨same, _⟩⟩
  · have cut := parts.trimmed_rightPart_of_blank fun c => blank size c (by
      rw [same] at short
      simp only [List.length_append, List.length_singleton] at short
      omega)
    rw [same, List.singleton_append] at cut ⊢
    exact cut
  · rw [same]
    cases size with
    | zero =>
        change trimmed (rightPart (parts.leftText ++ [c])) = []
        rw [rightPart_cut (operatorPart_append parts.leftText_plain known).2]
        rfl
    | succ size =>
        have cut := parts.trimmed_rightPart_of_blank fun c => blank size c (by
          rw [same] at short
          simp only [List.length_append, List.length_cons, List.length_nil] at short
          omega)
        rw [same] at cut
        exact cut

end FormulaParts

/-! ## Every string -/

/-- The beginning of a formula that its length, as an `int`, covers. -/
def seenPart (formula : List Char) : List Char :=
  formula.take (Int32.ofNat formula.length).toInt.toNat

/-- A formula of the documented form gives its operands and its flag, and whatever the
formula is, the call stays inside of it and of its result and sets all of the result. -/
structure ParsesFormula (formula : List Char) (flen : Int32) : Prop where
  operands : forall parts : FormulaParts, parts.concat = formula -> Exists fun out =>
    splitSimpleFormula formula flen = some out ∧ out.left.Holds parts.left ∧
      out.right.Holds parts.right ∧ out.testFlag = some parts.testFlag
  sets : Exists fun out => splitSimpleFormula formula flen = some out ∧
    (Exists fun left => out.left.Holds left) ∧ (Exists fun right => out.right.Holds right) ∧
      Exists fun flag => out.testFlag = some flag

/-- The length of a string as an `int` is the length, or less by a multiple of 2^32. -/
theorem toInt_ofNat_length (length : Nat) : (Int32.ofNat length).toInt ≤ length ∧
    (length < 2 ^ 31 -> (Int32.ofNat length).toInt = length) ∧
      (2 ^ 31 ≤ length -> (Int32.ofNat length).toInt + 2 ^ 32 ≤ length) := by
  have upper := (Int32.ofNat length).toInt_lt
  rw [Int32.toInt_ofNat'] at upper ⊢
  have size : Int32.size = 4294967296 := rfl
  rw [size] at upper ⊢
  have multiple := Int.bmod_add_bdiv (length : Int) 4294967296
  refine ⟨by omega, fun small => ?_, by omega⟩
  exact Int.bmod_eq_of_le_mul_two (by omega) (by omega)

section Strings

variable {flen : Int32}

theorem formulaLen_eq (called : flen = 0 ∨ flen.toInt = formula.length) :
    formulaLen formula flen = Int32.ofNat formula.length := by
  rw [formulaLen]
  rcases called with zero | whole
  · rw [if_pos zero]
  · by_cases zero : flen = 0
    · rw [if_pos zero]
    · rw [if_neg zero]
      apply Int32.toInt_inj.mp
      have bound := flen.toInt_lt
      rw [whole, (toInt_ofNat_length formula.length).2.1 (by omega)]

theorem seenPart_length (formula : List Char) :
    (seenPart formula).length = (Int32.ofNat formula.length).toInt.toNat := by
  have bound := (toInt_ofNat_length formula.length).1
  rw [seenPart, List.length_take]
  omega

theorem reads_seenPart (formula : List Char) : Reads formula 0 (seenPart formula) := by
  intro index inside
  rw [seenPart_length] at inside
  rw [Int.zero_add, charAt, if_pos (Int.natCast_nonneg index), Int.toNat_natCast, seenPart,
    List.getElem?_take, if_pos inside]

theorem splitSimpleFormula_of_seen (string : '\x00' ∉ formula)
    (called : flen = 0 ∨ flen.toInt = formula.length) (separable : Separable (seenPart formula)) :
    Exists fun out => splitSimpleFormula formula flen = some out ∧
      out.left.Holds (trimmed (leftPart (seenPart formula))) ∧
        out.right.Holds (trimmed (rightPart (seenPart formula))) ∧
          out.testFlag = flagPart (seenPart formula) := by
  apply splitSimpleFormula_of_separable _ (reads_seenPart formula)
    (fun member => string (List.mem_of_mem_take member)) separable
  have some_char : seenPart formula ≠ [] := by
    intro empty
    apply separable.operator
    rw [empty]
    rfl
  have positive := List.length_pos_iff.mpr some_char
  rw [formulaLen_eq called]
  rw [seenPart_length] at positive ⊢
  omega

/-- The right operand of a formula that is too long is behind the part that is covered. -/
theorem trimmed_rightPart_seenPart (parts : FormulaParts) (long : 2 ^ 31 ≤ parts.concat.length)
    (operator : operatorPart (seenPart parts.concat) ≠ []) :
    trimmed (rightPart (seenPart parts.concat)) = [] := by
  have positive : 0 < (seenPart parts.concat).length := by
    apply List.length_pos_iff.mpr
    intro empty
    rw [empty] at operator
    exact operator rfl
  rw [seenPart_length] at positive
  have bound := (toInt_ofNat_length parts.concat.length).2.2 long
  have fits := parts.rightFits
  apply parts.trimmed_rightPart_take _ operator
  omega

/-- The call does as documented exactly if the beginning that the `int` length covers has
an operator with sides that fit, and a formula of the documented form is covered whole. -/
theorem splitSimpleFormula_parses_iff (string : '\x00' ∉ formula)
    (called : flen = 0 ∨ flen.toInt = formula.length) :
    ParsesFormula formula flen ↔ Separable (seenPart formula) ∧
      (formula.length < 2 ^ 31 ∨ forall parts : FormulaParts, parts.concat ≠ formula) := by
  constructor
  · intro parses
    rcases parses.sets with ⟨out, done, _, _, flag, set⟩
    have separable : Separable (seenPart formula) := by
      by_contra inseparable
      have length : (formulaLen formula flen).toInt.toNat = (seenPart formula).length := by
        rw [formulaLen_eq called, seenPart_length]
      rw [testFlag_of_not_separable length (reads_seenPart formula) inseparable done] at set
      cases set
    refine ⟨separable, ?_⟩
    by_contra wrong
    rcases not_or.mp wrong with ⟨long, documented⟩
    apply documented
    intro parts same
    -- the right operand is behind the part that is covered
    rcases splitSimpleFormula_of_seen string called separable with ⟨other, again, _, holds, _⟩
    rcases parses.operands parts same with ⟨exactly, same_, _, right, _⟩
    rw [again] at same_
    cases same_
    have behind : trimmed (rightPart (seenPart formula)) = [] := by
      rw [← same] at long separable ⊢
      exact trimmed_rightPart_seenPart parts (Nat.le_of_not_lt long) separable.operator
    rw [behind] at holds
    exact parts.rightOperand.nonempty (right.unique holds)
  · rintro ⟨separable, covered⟩
    rcases splitSimpleFormula_of_seen string called separable with ⟨out, done, left, right, flag⟩
    constructor
    · intro parts same
      have small := covered.resolve_right fun none_ => none_ parts same
      have whole : seenPart formula = parts.concat := by
        rw [seenPart, (toInt_ofNat_length formula.length).2.1 small, Int.toNat_natCast,
          List.take_length, same]
      rcases parts.separable with ⟨_, leftEq, rightEq, flagEq⟩
      rw [whole, leftEq] at left
      rw [whole, rightEq] at right
      rw [whole, flagEq] at flag
      exact ⟨out, done, left, right, flag⟩
    · refine ⟨out, done, ⟨_, left⟩, ⟨_, right⟩, ?_⟩
      rw [flag, flagPart]
      rcases List.exists_cons_of_ne_nil separable.operator with ⟨c, behind, cut⟩
      rw [cut]
      exact ⟨_, rfl⟩

theorem splitSimpleFormula_parses_greaterOrEq : ParsesFormula ['a', ' ', '>', '=', 'b'] 0 := by
  have seen : seenPart ['a', ' ', '>', '=', 'b'] = ['a', ' ', '>', '=', 'b'] := rfl
  apply (splitSimpleFormula_parses_iff (by decide) (.inl rfl)).mpr
  rw [seen]
  exact ⟨⟨by decide, by decide, by decide⟩, .inl (by decide)⟩

/-- Without an operator the second loop begins in front of the string. -/
theorem not_parsesFormula_of_no_operator :
    Not (forall formula flen, '\x00' ∉ formula -> flen = 0 ∨ flen.toInt = formula.length ->
      ParsesFormula formula flen) := by
  intro all
  rcases (all ['a', 'b', 'c'] 0 (by decide) (.inl rfl)).sets with ⟨out, done, _⟩
  have outside : splitSimpleFormula ['a', 'b', 'c'] 0 = none := rfl
  rw [outside] at done
  cases done

end Strings

end NetSystem
