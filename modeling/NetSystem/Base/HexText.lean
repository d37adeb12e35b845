import Mathlib.Data.Fintype.Basic
import Mathlib.Data.List.Forall2
import Mathlib.Tactic.FinCases
import Mathlib.Tactic.Ring
import NetSystem.Foundation.Loop
import NetSystem.Foundation.Memory
import NetSystem.Foundation.Pieces

namespace NetSystem

/-!
# Bytes as hex text

`bytes_to_hex_string` and `hex_string_to_bytes` of `MyUtil.cpp`.  A byte is written as
two digits in upper case, with a blank between two bytes.  The reader cuts its text at
the blanks and takes two characters of every token.
-/

/-- The digits of `int_to_hex_char`. -/
def hexDigits : Vector Char 16 :=
  #v['0', '1', '2', '3', '4', '5', '6', '7', '8', '9', 'A', 'B', 'C', 'D', 'E', 'F']

/-- `int_to_hex_char`. -/
def intToHexChar (x : Fin 16) : Char := hexDigits[x]

/-- `hex_char_to_int`.  The kind of the character is looked up in upper case, its value
is not. -/
def hexCharToInt (hex : Char) : Int :=
  let nHex := hex.toUpper
  if nHex.isDigit then (hex.toNat : Int) - '0'.toNat
  else if nHex.isAlpha then (hex.toNat : Int) - 'A'.toNat + 10
  else 0

/-- `t / 16`. -/
def highDigit (t : UInt8) : Fin 16 := ⟨t.toNat / 16, by have := t.toNat_lt; omega⟩

/-- `t % 16`. -/
def lowDigit (t : UInt8) : Fin 16 := ⟨t.toNat % 16, Nat.mod_lt _ (by decide)⟩

/-- The loop of `bytes_to_hex_string` from `in[i]` on. -/
def appendBytes (size : Nat) : List UInt8 -> Nat -> List Char -> List Char
  | [], _, str => str
  | t :: rest, i, str =>
      let digits := str ++ [intToHexChar (highDigit t)] ++ [intToHexChar (lowDigit t)]
      appendBytes size rest (i + 1) (if i ≠ size - 1 then digits ++ [' '] else digits)

/-- `bytes_to_hex_string`. -/
def bytesToHexString (bytes : List UInt8) : List Char := appendBytes bytes.length bytes 0 []

/-- `str.find(' ', prevPos)`. -/
def findBlank (str : List Char) (prevPos : Nat) : Option Nat :=
  ((str.drop prevPos).findIdx? (· == ' ')).map (prevPos + ·)

/-- Where the next token begins, and the tokens before it. -/
structure HexTokens where
  prevPos : Nat
  vec : List (List Char)

/-- The blank that is found ends a token without blanks. -/
theorem findBlank_spec {str : List Char} {prevPos currPos : Nat}
    (found : findBlank str prevPos = some currPos) :
    prevPos ≤ currPos ∧ currPos < str.length ∧
      ' ' ∉ (str.drop prevPos).take (currPos - prevPos) ∧
        str.drop prevPos =
          (str.drop prevPos).take (currPos - prevPos) ++ ' ' :: str.drop (currPos + 1) := by
  rcases Option.map_eq_some_iff.mp found with ⟨offset, first, rfl⟩
  rcases List.findIdx?_eq_some_iff_getElem.mp first with ⟨inside, blank, earlier⟩
  have below : offset < str.length - prevPos := by
    rw [← List.length_drop]
    exact inside
  rw [Nat.add_sub_cancel_left]
  refine ⟨Nat.le_add_right .., by omega, ?_, ?_⟩
  · intro member
    rcases List.mem_take_iff_getElem.mp member with ⟨index, before, same⟩
    have plain := earlier index (by omega)
    rw [same] at plain
    exact plain rfl
  · have cut := List.take_append_drop offset (str.drop prevPos)
    rw [List.drop_eq_getElem_cons inside, eq_of_beq blank, List.drop_drop] at cut
    exact cut.symm

theorem not_mem_of_findBlank {str : List Char} {prevPos : Nat}
    (missed : findBlank str prevPos = none) : ' ' ∉ str.drop prevPos := by
  have absent := List.findIdx?_eq_none_iff.mp (Option.map_eq_none_iff.mp missed)
  intro member
  exact absurd (absent ' ' member) (by decide)

/-- The loop that cuts the text at its blanks. -/
def tokenLoop (str : List Char) : Loop HexTokens where
  turn := fun state =>
    (findBlank str state.prevPos).elim (.halt state) fun currPos => .again {
      prevPos := currPos + 1
      vec := state.vec ++ [(str.drop state.prevPos).take (currPos - state.prevPos)] }
  measure := fun state => str.length - state.prevPos
  decreases := by
    intro state next again
    cases found : findBlank str state.prevPos with
    | none =>
        rw [found] at again
        cases again
    | some currPos =>
        rw [found] at again
        cases again
        rcases findBlank_spec found with ⟨forward, inside, _⟩
        dsimp only
        omega

/-- What follows the last blank is a token if it is not empty. -/
def HexTokens.finish (str : List Char) (last : HexTokens) : List (List Char) :=
  if last.prevPos < str.length then last.vec ++ [str.drop last.prevPos] else last.vec

/-- The tokens of `hex_string_to_bytes`. -/
def hexTokens (str : List Char) : List (List Char) := ((tokenLoop str).exec ⟨0, []⟩).finish str

/-- `vec[i][n]`, which may read the end of the token but nothing behind it. -/
def tokenChar (token : List Char) (n : Nat) : Option Char :=
  if n = token.length then some '\x00' else token[n]?

/-- `a * 16 + b`, as it is stored to a byte. -/
def tokenByte (token : List Char) : Option UInt8 := do
  let a <- tokenChar token 0
  let b <- tokenChar token 1
  return UInt8.ofInt (hexCharToInt a * 16 + hexCharToInt b)

/-- The loop of `hex_string_to_bytes` that writes the bytes of the tokens from `vec[i]`
on. -/
def writeTokens : List (List Char) -> Nat -> Memory UInt8 -> Option (Memory UInt8)
  | [], _, out => some out
  | token :: rest, i, out => do
      let value <- tokenByte token
      writeTokens rest (i + 1) (out.write i [value])

/-- `hex_string_to_bytes`, with what is at `out` before.  It has no result where a token
is read behind its end. -/
def hexStringToBytes (str : List Char) (out : Memory UInt8) : Option (Nat × Memory UInt8) :=
  (writeTokens (hexTokens str) 0 out).map fun written => ((hexTokens str).length, written)

/-! ## The text of a row of bytes -/

/-- The two digits of a byte. -/
def byteDigits (t : UInt8) : List Char := [intToHexChar (highDigit t), intToHexChar (lowDigit t)]

/-- The loop joins the digits of the bytes that are left by blanks. -/
theorem appendBytes_eq (bytes : List UInt8) (i : Nat) (str : List Char) :
    appendBytes (i + bytes.length) bytes i str =
      str ++ [' '].intercalate (bytes.map byteDigits) := by
  induction bytes generalizing i str with
  | nil => simp [appendBytes]
  | cons t rest inductionHypothesis =>
      have size : i + (t :: rest).length = i + 1 + rest.length := by
        rw [List.length_cons]
        omega
      by_cases last : rest = []
      · rw [last]
        simp [appendBytes, byteDigits]
      · have more : i ≠ i + 1 + rest.length - 1 := by
          have positive := List.length_pos_iff.mpr last
          omega
        have joined : rest.map byteDigits ≠ [] := List.map_eq_nil_iff.not.mpr last
        rw [size, appendBytes, if_pos more, inductionHypothesis, List.map_cons,
          List.intercalate_cons_of_ne_nil joined]
        simp [byteDigits]

theorem bytesToHexString_eq (bytes : List UInt8) :
    bytesToHexString bytes = [' '].intercalate (bytes.map byteDigits) := by
  have joined := appendBytes_eq bytes 0 []
  rw [Nat.zero_add] at joined
  exact joined

/-! ## The tokens of a text -/

/-- The text is cut into its pieces between blanks. -/
theorem hexTokens_eq (str : List Char) : hexTokens str = pieces ' ' str := by
  apply (tokenLoop str).exec_rule
    (fun state => state.vec ++ pieces ' ' (str.drop state.prevPos) = pieces ' ' str)
    (fun last => last.finish str = pieces ' ' str)
  · intro state next cutSoFar again
    cases found : findBlank str state.prevPos with
    | none =>
        simp only [tokenLoop, found, Option.elim] at again
        cases again
    | some currPos =>
        simp only [tokenLoop, found, Option.elim] at again
        cases again
        rcases findBlank_spec found with ⟨_, _, free, cut⟩
        rw [cut, pieces_append_sep free] at cutSoFar
        rw [List.append_assoc]
        exact cutSoFar
  · intro state last cutSoFar stop
    cases found : findBlank str state.prevPos with
    | some currPos =>
        simp only [tokenLoop, found, Option.elim] at stop
        cases stop
    | none =>
        simp only [tokenLoop, found, Option.elim] at stop
        cases stop
        rw [← cutSoFar, pieces_of_not_mem (not_mem_of_findBlank found), HexTokens.finish]
        by_cases more : state.prevPos < str.length
        · rw [if_pos more, if_neg (List.drop_eq_nil_iff.not.mpr (Nat.not_le.mpr more))]
        · rw [if_neg more, if_pos (List.drop_eq_nil_iff.mpr (Nat.le_of_not_lt more)),
            List.append_nil]
  · rfl

/-! ## Reading the text back -/

/-- A character, with its letter case changed or not. -/
def CaseChange (original changed : Char) : Prop :=
  changed = original ∨
    original.isAlpha = true ∧ (changed = original.toUpper ∨ changed = original.toLower)

/-- A digit in lower case is read as if it were 32 more. -/
theorem hexCharToInt_of_caseChange {x : Fin 16} {c : Char}
    (change : CaseChange (intToHexChar x) c) :
    hexCharToInt c = x + (if c.isLower then 32 else 0) ∧ c ≠ ' ' := by
  fin_cases x
  all_goals
    rcases change with rfl | ⟨_, rfl | rfl⟩
  all_goals
    exact ⟨rfl, by decide⟩

/-- Digits are written in upper case. -/
theorem isLower_intToHexChar (x : Fin 16) : (intToHexChar x).isLower = false := by
  fin_cases x
  all_goals
    rfl

theorem eq_blank_of_caseChange {c : Char} (change : CaseChange ' ' c) : c = ' ' := by
  rcases change with same | ⟨letter, _⟩
  · exact same
  · cases letter

/-- A token that has the digits of a byte, whatever their case. -/
def Spells (t : UInt8) (token : List Char) : Prop :=
  List.Forall₂ CaseChange (byteDigits t) token

/-- The byte of the token is right if its second digit is not in lower case, and 32 too
large otherwise.  The 32 of the first digit are a multiple of 256. -/
theorem tokenByte_of_spells {t : UInt8} {token : List Char} (spells : Spells t token) :
    Exists fun high => Exists fun low => token = [high, low] ∧ ' ' ∉ token ∧
      Exists fun value => tokenByte token = some value ∧ (value = t ↔ low.isLower = false) := by
  rcases List.forall₂_cons_left_iff.mp spells with ⟨high, behind, first, afterHigh, rfl⟩
  rcases List.forall₂_cons_left_iff.mp afterHigh with ⟨low, behind, second, afterLow, rfl⟩
  rw [List.forall₂_nil_left_iff.mp afterLow]
  rcases hexCharToInt_of_caseChange first with ⟨highValue, highPlain⟩
  rcases hexCharToInt_of_caseChange second with ⟨lowValue, lowPlain⟩
  refine ⟨high, low, rfl, by simp [highPlain.symm, lowPlain.symm], _, rfl, ?_⟩
  rw [highValue, lowValue, ← UInt8.toNat_inj]
  have byte := t.toNat_lt
  simp only [UInt8.ofInt, UInt8.toNat_ofNat', highDigit, lowDigit]
  cases high.isLower <;> cases low.isLower <;> simp <;> omega

/-- A text with the digits of the bytes has tokens with the digits of each. -/
theorem spells_of_changed {bytes : List UInt8} {str : List Char}
    (changed : List.Forall₂ CaseChange ([' '].intercalate (bytes.map byteDigits)) str) :
    Exists fun tokens => List.Forall₂ Spells bytes tokens ∧ str = [' '].intercalate tokens := by
  induction bytes generalizing str with
  | nil => exact ⟨[], .nil, List.forall₂_nil_left_iff.mp changed⟩
  | cons t rest inductionHypothesis =>
      by_cases last : rest = []
      · rw [last] at changed ⊢
        rw [List.map_singleton, List.intercalate_singleton] at changed
        exact ⟨[str], .cons changed .nil, List.intercalate_singleton.symm⟩
      · have joined : rest.map byteDigits ≠ [] := List.map_eq_nil_iff.not.mpr last
        rw [List.map_cons, List.intercalate_cons_of_ne_nil joined] at changed
        rcases List.forall₂_cons_left_iff.mp changed with ⟨high, behind, first, afterHigh, rfl⟩
        rcases List.forall₂_cons_left_iff.mp afterHigh with ⟨low, behind, second, afterLow, rfl⟩
        rcases List.forall₂_cons_left_iff.mp afterLow with ⟨blank, behind, third, others, rfl⟩
        rcases inductionHypothesis others with ⟨tokens, spells, rfl⟩
        refine ⟨[high, low] :: tokens, .cons (.cons first (.cons second .nil)) spells, ?_⟩
        have more : tokens ≠ [] := by
          intro none_left
          rw [none_left] at spells
          exact last (List.forall₂_nil_right_iff.mp spells)
        rw [List.intercalate_cons_of_ne_nil more, eq_blank_of_caseChange third]
        rfl

/-- The tokens write their bytes in a row. -/
theorem writeTokens_eq {tokens : List (List Char)} {values : List UInt8}
    (read : List.Forall₂ (fun token value => tokenByte token = some value) tokens values) (i : Nat)
    (out : Memory UInt8) : writeTokens tokens i out = some (out.write i values) := by
  induction read generalizing i out with
  | nil => rw [writeTokens, Memory.write_nil]
  | cons here _ inductionHypothesis =>
      rw [writeTokens, here, Memory.write_cons]
      exact inductionHypothesis (i + 1) _

/-- The bytes of the tokens are right if no second digit is in lower case. -/
theorem values_of_spells {bytes : List UInt8} {tokens : List (List Char)}
    (spells : List.Forall₂ Spells bytes tokens) :
    Exists fun values =>
      List.Forall₂ (fun token value => tokenByte token = some value) tokens values ∧
        values.length = bytes.length ∧
          (values = bytes ↔ forall token, token ∈ tokens -> forall digit,
            token[1]? = some digit -> digit.isLower = false) := by
  induction spells with
  | nil => exact ⟨[], .nil, rfl, by simp⟩
  | @cons t token rest tokens here _ inductionHypothesis =>
      rcases inductionHypothesis with ⟨values, read, length, right⟩
      rcases tokenByte_of_spells here with ⟨high, low, rfl, _, value, readHere, rightHere⟩
      refine ⟨value :: values, .cons readHere read, congrArg (· + 1) length, ?_⟩
      rw [List.cons.injEq, rightHere, right, List.forall_mem_cons]
      simp

theorem plain_of_spells {bytes : List UInt8} {tokens : List (List Char)}
    (spells : List.Forall₂ Spells bytes tokens) :
    forall token, token ∈ tokens -> ' ' ∉ token ∧ token.length = 2 := by
  induction spells with
  | nil =>
      intro token impossible
      cases impossible
  | cons here _ inductionHypothesis =>
      rw [List.forall_mem_cons]
      rcases tokenByte_of_spells here with ⟨high, low, rfl, free, _⟩
      exact ⟨⟨free, rfl⟩, inductionHypothesis⟩

/-- Where the second character of a token is in the text. -/
theorem getElem?_intercalate {tokens : List (List Char)}
    (pairs : forall token, token ∈ tokens -> token.length = 2) (index : Nat) :
    ([' '].intercalate tokens)[3 * index + 1]? = tokens[index]?.bind (·[1]?) := by
  induction tokens generalizing index with
  | nil => rfl
  | cons token tokens inductionHypothesis =>
      have later := inductionHypothesis fun other member =>
        pairs other (List.mem_cons_of_mem _ member)
      rcases List.length_eq_two.mp (pairs token (List.mem_cons_self ..)) with ⟨high, low, rfl⟩
      by_cases last : tokens = []
      · rw [last, List.intercalate_singleton]
        cases index with
        | zero => rfl
        | succ index => simp
      · rw [List.intercalate_cons_of_ne_nil last]
        cases index with
        | zero => rfl
        | succ index => exact later index

/-- The text is read as the bytes: they are written, nothing else is, and their number is
returned. -/
def RoundTrips (bytes : List UInt8) (str : List Char) (out : Memory UInt8) : Prop :=
  hexStringToBytes str out = some (bytes.length, out.write 0 bytes)

theorem roundTrips_of_spells_iff {bytes : List UInt8} {tokens : List (List Char)}
    (spells : List.Forall₂ Spells bytes tokens) (out : Memory UInt8) :
    RoundTrips bytes ([' '].intercalate tokens) out ↔
      forall token, token ∈ tokens -> forall digit, token[1]? = some digit ->
        digit.isLower = false := by
  have cut : hexTokens ([' '].intercalate tokens) = tokens := by
    rw [hexTokens_eq, pieces_intercalate]
    intro token member
    rcases plain_of_spells spells token member with ⟨free, length⟩
    exact ⟨free, List.ne_nil_of_length_pos (by omega)⟩
  rcases values_of_spells spells with ⟨values, read, length, right⟩
  rw [RoundTrips, hexStringToBytes, cut, writeTokens_eq read, Option.map_some, Option.some.injEq,
    Prod.mk.injEq, Memory.write_inj out 0 length, right, spells.length_eq]
  exact and_iff_right rfl

/-- What is written is read back. -/
theorem bytesToHexString_roundTrips (bytes : List UInt8) (out : Memory UInt8) :
    RoundTrips bytes (bytesToHexString bytes) out := by
  have spells : List.Forall₂ Spells bytes (bytes.map byteDigits) := by
    rw [List.forall₂_map_right_iff, List.forall₂_same]
    intro t _
    exact .cons (.inl rfl) (.cons (.inl rfl) .nil)
  rw [bytesToHexString_eq, roundTrips_of_spells_iff spells]
  intro token member digit second
  rcases List.mem_map.mp member with ⟨t, _, rfl⟩
  rw [← Option.some.inj second]
  exact isLower_intToHexChar _

/-- In whatever letter case the text of the bytes is, it is read as these bytes exactly if
no second digit of a byte is in lower case. -/
theorem hexStringToBytes_roundTrips_iff (bytes : List UInt8) (str : List Char)
    (out : Memory UInt8) (changed : List.Forall₂ CaseChange (bytesToHexString bytes) str) :
    RoundTrips bytes str out ↔ forall index digit, index < bytes.length ->
      str[3 * index + 1]? = some digit -> digit.isLower = false := by
  rw [bytesToHexString_eq] at changed
  rcases spells_of_changed changed with ⟨tokens, spells, rfl⟩
  have place := getElem?_intercalate fun token member => (plain_of_spells spells token member).2
  rw [roundTrips_of_spells_iff spells, spells.length_eq]
  constructor
  · intro upper index digit inside second
    rw [place, List.getElem?_eq_getElem inside] at second
    exact upper _ (List.getElem_mem inside) digit second
  · intro upper token member digit second
    rcases List.mem_iff_getElem.mp member with ⟨index, inside, rfl⟩
    apply upper index digit inside
    rw [place, List.getElem?_eq_getElem inside]
    exact second

theorem hexStringToBytes_roundTrips_upper :
    List.Forall₂ CaseChange (bytesToHexString [0xAF, 0xB0]) ['a', 'F', ' ', 'b', '0'] ∧
      RoundTrips [0xAF, 0xB0] ['a', 'F', ' ', 'b', '0'] (fun _ => 0) := by
  have changed : List.Forall₂ CaseChange (bytesToHexString [0xAF, 0xB0])
      ['a', 'F', ' ', 'b', '0'] :=
    .cons (.inr ⟨rfl, .inr rfl⟩) (.cons (.inl rfl) (.cons (.inl rfl)
      (.cons (.inr ⟨rfl, .inr rfl⟩) (.cons (.inl rfl) .nil))))
  refine ⟨changed, (hexStringToBytes_roundTrips_iff _ _ _ changed).mpr ?_⟩
  intro index digit inside second
  match index with
  | 0 =>
      cases second
      rfl
  | 1 =>
      cases second
      rfl

/-- The byte 10, written in lower case, is read as 42. -/
theorem not_roundTrips_of_lower :
    Not (forall bytes str out, List.Forall₂ CaseChange (bytesToHexString bytes) str ->
      RoundTrips bytes str out) := by
  intro all
  have changed : List.Forall₂ CaseChange (bytesToHexString [0x0A]) ['0', 'a'] :=
    .cons (.inl rfl) (.cons (.inr ⟨rfl, .inr rfl⟩) .nil)
  have read := all [0x0A] ['0', 'a'] (fun _ => 0) changed
  have first := congrArg (Option.map fun result => result.2 0) read
  exact absurd first (by decide)

end NetSystem
