import Mathlib.Tactic.IntervalCases
import NetSystem.Base.Snprintf

namespace NetSystem

universe u

/-!
# What the formatter puts out

The text of a format and its arguments, without a buffer: first that of each conversion, then
that of the format, directive by directive.
-/

/-- The text of `fmtstr`. -/
def fmtstrText (value : Option (List Char)) (width precision : Int) (flags : PrintFlags) :
    List Char :=
  let value := value.getD "(null)".toList
  let shown := if precision = -1 then value else value.take precision.toNat
  let padding := List.replicate (width - shown.length).toNat ' '
  if flags.minus then shown ++ padding else padding ++ shown

/-- Digits with a comma in front of each group of three. -/
def separated (separators : Int) : List Char -> List Char
  | [] => []
  | digit :: digits =>
      if separators > 0 ∧ digits.length > 0 ∧ digits.length % 3 = 0 then
        digit :: ',' :: separated separators digits
      else digit :: separated separators digits

/-- The text of `fmtint`. -/
def fmtintText (value : Int) (base : Nat) (width precision : Int) (flags : PrintFlags) :
    Option (List Char) :=
  (fmtintValue value flags).map fun (uvalue, sign) =>
    let digits := (convert base flags.up maxConvertLength uvalue).reverse
    let alternative := flags.num ∧ uvalue ≠ 0
    let least : Int :=
      if alternative ∧ base = 8 ∧ precision ≤ digits.length then digits.length + 1 else precision
    let hexprefix : List Char :=
      if alternative ∧ base = 16 then ['0', if flags.up then 'X' else 'x'] else []
    let separators := if flags.quote then getnumsep digits.length else 0
    let zeros := (least - digits.length - separators).toNat
    let padding := (width - separators - max least digits.length - sign.toList.length -
      hexprefix.length).toNat
    let shown := sign.toList ++ hexprefix
    let digits := separated separators digits
    if flags.minus then
      shown ++ List.replicate zeros '0' ++ digits ++ List.replicate padding ' '
    else if flags.zero ∧ precision = -1 then
      shown ++ List.replicate (zeros + padding) '0' ++ digits
    else List.replicate padding ' ' ++ shown ++ List.replicate zeros '0' ++ digits

namespace TextSink

variable {size : Nat}

theorem writes_outchar (positive : 0 < size) (ch : Char) :
    Writes size (fun sink => sink.outchar size ch) [ch] := by
  intro sink text shown
  dsimp only [outchar]
  split
  case isTrue room =>
    rcases shown.put (Nat.lt_of_succ_lt room) ch with ⟨next, done, _, after⟩
    exact ⟨next, done, after⟩
  case isFalse full =>
    have last := Nat.le_of_not_lt full
    refine ⟨_, rfl, (shown.full last [ch]).go_on ?_ (Nat.le_trans last (Nat.le_succ _))
      shown.length rfl⟩
    have covered := shown.length_ge last
    rw [List.length_append, List.length_singleton]
    omega

theorem writes_outchars (positive : 0 < size) (text : List Char) :
    Writes size (fun sink => sink.outchars size text) text := by
  induction text with
  | nil => exact .nothing size
  | cons ch text inductionHypothesis => exact (writes_outchar positive ch).bind inductionHypothesis

theorem writes_putString (v : List Char) :
    Writes size (fun sink => sink.putString size v) v := by
  induction v with
  | nil => exact .nothing size
  | cons ch v inductionHypothesis =>
      intro sink text shown
      change Exists fun next => sink.putString size (ch :: v) = some next ∧ _
      rw [putString]
      split
      case isTrue room =>
        rcases shown.put (Nat.lt_of_succ_lt room) ch with ⟨middle, done, _, after⟩
        rcases inductionHypothesis middle _ after with ⟨next, rest, ended⟩
        rw [done]
        rw [List.append_assoc] at ended
        exact ⟨next, rest, ended⟩
      case isFalse full => exact ⟨sink, rfl, shown.full (Nat.le_of_not_lt full) _⟩

theorem writes_fmtDigits (positive : 0 < size) (separators : Int) (digits : List Char) :
    Writes size (fun sink => fmtDigits size separators sink digits)
      (separated separators digits) := by
  induction digits with
  | nil => exact .nothing size
  | cons digit digits inductionHypothesis =>
      by_cases grouped : separators > 0 ∧ digits.length > 0 ∧ digits.length % 3 = 0
      · simp only [fmtDigits, separated, if_pos grouped]
        exact (writes_outchar positive digit).bind
          ((writes_outchar positive ',').bind inductionHypothesis)
      · simp only [fmtDigits, separated, if_neg grouped]
        exact (writes_outchar positive digit).bind inductionHypothesis

end TextSink

open TextSink

variable {size : Nat}

/-- Padding in front or, as a negative length says, behind. -/
theorem padded_eq (minus : Bool) (length : Int) (shown : List Char) :
    (if minus then shown ++ List.replicate length.toNat ' '
      else List.replicate length.toNat ' ' ++ shown) =
      List.replicate (if minus then -max 0 length else max 0 length).toNat ' ' ++
        (shown ++ List.replicate (-if minus then -max 0 length else max 0 length).toNat ' ') := by
  have none : (-max 0 length).toNat = 0 := by omega
  have same : (max 0 length).toNat = length.toNat := by omega
  cases minus with
  | true => simp only [if_true, Int.neg_neg, none, same, List.replicate_zero, List.nil_append]
  | false =>
      simp only [Bool.false_eq_true, if_false, none, same, List.replicate_zero, List.append_nil]

theorem writes_fmtstr (positive : 0 < size) (value : Option (List Char)) (width precision : Int)
    (flags : PrintFlags) :
    Writes size (fun sink => fmtstr size sink value width precision flags)
      (fmtstrText value width precision flags) := by
  rw [fmtstrText, padded_eq]
  exact (writes_outchars positive _).bind
    ((writes_outchars positive _).bind (writes_outchars positive _))

/-- The same for a number, which may be padded with zeros behind its sign. -/
theorem padded_number_eq (minus : Bool) (zero : Prop) [Decidable zero] (zeros padding : Int)
    (sign lead digits : List Char) :
    (if minus then
        sign ++ lead ++ List.replicate zeros.toNat '0' ++ digits ++
          List.replicate padding.toNat ' '
      else if zero then
        sign ++ lead ++ List.replicate (zeros.toNat + padding.toNat) '0' ++ digits
      else
        List.replicate padding.toNat ' ' ++ (sign ++ lead) ++
          List.replicate zeros.toNat '0' ++ digits) =
      List.replicate
          (if minus then -max 0 padding else if zero then 0 else max 0 padding).toNat ' ' ++
        (sign ++ (lead ++
          (List.replicate
              (if ¬ minus ∧ zero then max 0 zeros + max 0 padding else max 0 zeros).toNat '0' ++
            (digits ++ List.replicate
              (-if minus then -max 0 padding else if zero then 0 else max 0 padding).toNat ' ')))) := by
  have none : (-max 0 padding).toNat = 0 := by omega
  have same : forall length : Int, (max 0 length).toNat = length.toNat := by omega
  have both : (max 0 zeros + max 0 padding).toNat = zeros.toNat + padding.toNat := by omega
  cases minus with
  | true =>
      simp only [if_true, not_true_eq_false, false_and, if_false, Int.neg_neg, none, same,
        List.replicate_zero, List.nil_append, List.append_assoc]
  | false =>
      by_cases zero : zero
      · simp only [Bool.false_eq_true, not_false_eq_true, true_and, if_pos zero, if_false,
          Int.neg_zero, Int.toNat_zero, both, List.replicate_zero, List.nil_append,
          List.append_nil, List.append_assoc]
      · simp only [Bool.false_eq_true, not_false_eq_true, true_and, if_neg zero, if_false, none,
          same, List.replicate_zero, List.append_nil, List.append_assoc]

theorem writes_fmtint (positive : 0 < size) {value : Int} {base : Nat} {width precision : Int}
    {flags : PrintFlags} {text : List Char}
    (shown : fmtintText value base width precision flags = some text) :
    Writes size (fun sink => fmtint size sink value base width precision flags) text := by
  rcases Option.map_eq_some_iff.mp shown with ⟨⟨uvalue, sign⟩, taken, rfl⟩
  simp only [fmtint, taken, Option.bind_some]
  rw [padded_number_eq, List.length_reverse]
  exact (writes_outchars positive _).bind ((writes_outchars positive _).bind
    ((writes_outchars positive _).bind ((writes_outchars positive _).bind
    ((writes_fmtDigits positive _ _).bind (writes_outchars positive _)))))

/-! ## Digits -/

theorem hexDigit_eq {value : Nat} (small : value < 16) (caps : Bool) :
    hexDigit caps value = if caps then value.digitChar.toUpper else value.digitChar := by
  cases caps <;> interval_cases value <;> rfl

theorem atoiTab_eq {value : Nat} (small : value < 1000) :
    Exists fun zeros => atoiTab value = List.replicate zeros '0' ++ Nat.toDigits 10 value := by
  have digit : forall d, d < 10 -> hexDigit false d = d.digitChar := fun d below =>
    hexDigit_eq (Nat.lt_of_lt_of_le below (by decide)) false
  have table : atoiTab value =
      [(value / 100).digitChar, (value / 10 % 10).digitChar, (value % 10).digitChar] := by
    rw [atoiTab, digit _ (by omega), digit _ (by omega), digit _ (by omega)]
  by_cases one : value < 10
  · refine ⟨2, ?_⟩
    rw [table, Nat.toDigits_of_lt_base one, Nat.div_eq_of_lt one, Nat.mod_eq_of_lt one,
      Nat.div_eq_of_lt (by omega)]
    rfl
  · rw [Nat.toDigits_of_base_le (by decide) (Nat.le_of_not_lt one)]
    by_cases two : value < 100
    · refine ⟨1, ?_⟩
      rw [table, Nat.toDigits_of_lt_base (by omega), Nat.div_eq_of_lt two,
        Nat.mod_eq_of_lt (a := value / 10) (by omega)]
      rfl
    · refine ⟨0, ?_⟩
      rw [table, Nat.toDigits_of_base_le (by decide) (by omega), Nat.toDigits_of_lt_base (by omega),
        Nat.div_div_eq_div_mul]
      rfl

/-- Three more digits of a value. -/
theorem toDigits_atoiTab {value : Nat} (large : 1000 ≤ value) :
    Nat.toDigits 10 (value / 1000) ++ atoiTab (value % 1000) = Nat.toDigits 10 value := by
  have digit : forall d, d < 10 -> hexDigit false d = d.digitChar := fun d below =>
    hexDigit_eq (Nat.lt_of_lt_of_le below (by decide)) false
  have thousands : value / 10 / 10 / 10 = value / 1000 := by omega
  have hundreds : value / 10 / 10 % 10 = value % 1000 / 100 := by omega
  have tens : value / 10 % 10 = value % 1000 / 10 % 10 := by omega
  have ones : value % 10 = value % 1000 % 10 := by omega
  rw [Nat.toDigits_of_base_le (by decide) (show 10 ≤ value by omega),
    Nat.toDigits_of_base_le (by decide) (show 10 ≤ value / 10 by omega),
    Nat.toDigits_of_base_le (by decide) (show 10 ≤ value / 10 / 10 by omega), thousands, hundreds,
    tens, ones, atoiTab, digit _ (by omega), digit _ (by omega), digit _ (by omega)]
  simp only [List.append_assoc, List.cons_append, List.nil_append]

/-- The buffer of the fast conversions has the digits behind some zeros. -/
theorem scratch_eq (room : Nat) {value : Nat} (fits : value < 1000 ^ room) (some_room : 0 < room)
    (s : List Char) :
    Exists fun zeros => Printer.scratch room value s =
      some (List.replicate zeros '0' ++ Nat.toDigits 10 value ++ s) := by
  induction room generalizing value s with
  | zero => exact absurd some_room (Nat.lt_irrefl 0)
  | succ room inductionHypothesis =>
      rw [Printer.scratch]
      by_cases last : value < 1000
      · rcases atoiTab_eq last with ⟨zeros, table⟩
        refine ⟨zeros, ?_⟩
        rw [Nat.div_eq_of_lt last, if_neg (Nat.lt_irrefl 0), Nat.mod_eq_of_lt last, table]
      · have large := Nat.le_of_not_lt last
        have rest : value / 1000 < 1000 ^ room :=
          Nat.div_lt_of_lt_mul (by rw [← Nat.pow_succ']; exact fits)
        have room_left : 0 < room := by
          by_contra none
          rw [Nat.eq_zero_of_not_pos none] at fits
          exact last fits
        rcases inductionHypothesis rest room_left (atoiTab (value % 1000) ++ s) with ⟨zeros, done⟩
        refine ⟨zeros, ?_⟩
        rw [if_pos (Nat.div_pos large (by decide)), done, ← toDigits_atoiTab large]
        simp only [List.append_assoc]

/-- The first digit of a positive value is not zero. -/
theorem head_toDigits {value : Nat} (positive : 0 < value) :
    Exists fun digit => Exists fun rest =>
      Nat.toDigits 10 value = digit :: rest ∧ digit ≠ '0' := by
  induction value using Nat.strongRecOn with
  | ind value inductionHypothesis =>
      by_cases last : value < 10
      · refine ⟨_, [], Nat.toDigits_of_lt_base last, fun zero => ?_⟩
        exact Nat.ne_of_gt positive (Nat.digitChar_eq_zero.mp zero)
      · have large := Nat.le_of_not_lt last
        rcases inductionHypothesis (value / 10) (Nat.div_lt_self positive (by decide))
          (Nat.div_pos large (by decide)) with ⟨digit, rest, same, nonzero⟩
        refine ⟨digit, rest ++ [(value % 10).digitChar], ?_, nonzero⟩
        rw [Nat.toDigits_of_base_le (by decide) large, same]
        rfl

/-- The digits that a fast conversion puts out. -/
theorem scratch_digits {value : Nat} (positive : 0 < value) (fits : value < 1000 ^ 10) :
    Exists fun s => Printer.scratch 10 value [] = some s ∧
      s.dropWhile (· = '0') = Nat.toDigits 10 value := by
  rcases scratch_eq 10 fits (by decide) [] with ⟨zeros, done⟩
  refine ⟨_, done, ?_⟩
  rcases head_toDigits positive with ⟨digit, rest, same, nonzero⟩
  rw [List.append_nil, List.dropWhile_append_of_pos, same, List.dropWhile_cons_of_neg]
  · rw [decide_eq_true_eq]
    exact nonzero
  · intro c member
    exact decide_eq_true (List.eq_of_mem_replicate member)

/-! ## Directives -/

/-- What a part of a format comes to: there may be no such argument, or a number may be too
large. -/
inductive FormatPart (α : Type u) where
  | missing
  | overflow
  | value (result : α)

namespace FormatPart

universe v w

def bind {α : Type u} {β : Type v} (reading : FormatPart α) (next : α -> FormatPart β) : FormatPart β :=
  match reading with
  | missing => .missing
  | overflow => .overflow
  | value result => next result

def ofOption {α : Type u} : Option α -> FormatPart α
  | none => .missing
  | some result => .value result

theorem bind_assoc {α : Type u} {β : Type v} {γ : Type w} (reading : FormatPart α)
    (next : α -> FormatPart β) (last : β -> FormatPart γ) :
    (reading.bind next).bind last = reading.bind fun result => (next result).bind last := by
  cases reading <;> rfl

theorem bind_eq_value {α : Type u} {β : Type v} {reading : FormatPart α} {next : α -> FormatPart β}
    {result : β} (read : reading.bind next = .value result) :
    Exists fun middle => reading = .value middle ∧ next middle = .value result := by
  cases reading with
  | missing => cases read
  | overflow => cases read
  | value middle => exact ⟨middle, rfl, read⟩

theorem bind_eq_overflow {α : Type u} {β : Type v} {reading : FormatPart α} {next : α -> FormatPart β}
    (read : reading.bind next = .overflow) :
    reading = .overflow ∨
      Exists fun middle => reading = .value middle ∧ next middle = .overflow := by
  cases reading with
  | missing => cases read
  | overflow => exact .inl rfl
  | value middle => exact .inr ⟨middle, rfl, read⟩

theorem ofOption_eq_value {α : Type u} {found : Option α} {result : α}
    (read : ofOption found = .value result) : found = some result := by
  cases found with
  | none => cases read
  | some result =>
      cases read
      rfl

theorem ofOption_ne_overflow {α : Type u} (found : Option α) : ofOption found ≠ .overflow := by
  cases found with
  | none => exact fun read => nomatch read
  | some result => exact fun read => nomatch read

/-- What is taken out of an option and then gives a value. -/
theorem ofOption_bind_eq_value {α : Type u} {β : Type v} {found : Option α}
    {next : α -> FormatPart β} {result : β} (read : (ofOption found).bind next = .value result) :
    Exists fun middle => found = some middle ∧ next middle = .value result := by
  rcases bind_eq_value read with ⟨middle, taken, rest⟩
  exact ⟨middle, ofOption_eq_value taken, rest⟩

/-- An option does not overflow; what follows it may. -/
theorem ofOption_bind_eq_overflow {α : Type u} {β : Type v} {found : Option α}
    {next : α -> FormatPart β} (read : (ofOption found).bind next = .overflow) :
    Exists fun middle => found = some middle ∧ next middle = .overflow := by
  rcases bind_eq_overflow read with early | ⟨middle, taken, rest⟩
  · exact absurd early (ofOption_ne_overflow found)
  · exact ⟨middle, ofOption_eq_value taken, rest⟩

end FormatPart

/-- The text of an integer in a fast conversion. -/
def decimalText (value : Int) : List Char :=
  (if value < 0 then ['-'] else []) ++ Nat.toDigits 10 value.natAbs

section Directives

variable {φ : Type u}

/-- The flags that a format begins with, and what follows them. -/
def readFlags : PrintFlags -> List Char -> PrintFlags × List Char
  | flags, [] => (flags, [])
  | flags, ch :: format =>
      match Printer.flag flags ch with
      | some flags => readFlags flags format
      | none => (flags, ch :: format)

/-- The conversions that are done right behind the flags. -/
def isFast (model : DataModel) (format : List Char) : Bool :=
  (Printer.fastType model format).isSome || format.head? ∈ [some 'c', some 's', some 'N']

/-- The text of a fast conversion, but of `%N`, with the format and the arguments that are
left.  A zero behind `l` leaves the rest of the directive to be put out. -/
def fastText (model : DataModel) (format : List Char) (args : List (VarArg φ)) :
    Option (List Char × List Char × List (VarArg φ)) :=
  match Printer.fastType model format with
  | some (type, more) =>
      (vaInteger type args).bind fun (value, args) =>
        if value = 0 then some (['0'], format.drop 1, args)
        else if value < 0 ∧ type.high ≤ -value then none
        else some (decimalText value, format.drop (1 + more), args)
  | none =>
      if format.head? = some 'c' then
        (vaInteger (.signed 32) args).map fun (value, args) =>
          ([Char.ofNat (value % 256).toNat], format.drop 1, args)
      else if format.head? = some 's' then
        (vaString args).bind fun (text, args) => text.map fun text => (text, format.drop 1, args)
      else none

/-- A number, as far as its digits go. -/
def readNumber : Int -> List Char -> FormatPart (Int × List Char)
  | value, [] => .value (value, [])
  | value, ch :: format =>
      if isDigit ch then
        if value > (intMax - charToInt ch) / 10 then .overflow
        else readNumber (10 * value + charToInt ch) format
      else .value (value, ch :: format)

/-- A conversion behind its flags. -/
structure Directive (φ : Type u) where
  flags : PrintFlags
  width : Int
  precision : Int
  cflags : PrintLength
  format : List Char
  args : List (VarArg φ)

/-- The width, which may be an argument. -/
def readWidth (flags : PrintFlags) (format : List Char) (args : List (VarArg φ)) :
    FormatPart (Directive φ) :=
  (readNumber 0 format).bind fun (width, format) =>
    if format.head? = some '*' then
      (FormatPart.ofOption (vaInteger (.signed 32) args)).bind fun (width, args) =>
        if width < 0 then
          if -width ≤ intMax then
            .value ⟨{ flags with minus := true }, -width, -1, .none, format.drop 1, args⟩
          else .missing
        else .value ⟨flags, width, -1, .none, format.drop 1, args⟩
    else .value ⟨flags, width, -1, .none, format, args⟩

/-- The precision behind the width, which may be an argument, too. -/
def Directive.readPrecision (directive : Directive φ) : FormatPart (Directive φ) :=
  if directive.format.head? = some '.' then
    (readNumber 0 (directive.format.drop 1)).bind fun (precision, format) =>
      if format.head? = some '*' then
        (FormatPart.ofOption (vaInteger (.signed 32) directive.args)).bind fun (precision, args) =>
          .value { directive with
            precision := if precision < 0 then -1 else precision
            format := format.drop 1
            args := args }
      else .value { directive with precision := precision, format := format }
  else .value directive

/-- The length modifier behind the precision. -/
def Directive.readLength (directive : Directive φ) : Directive φ :=
  let modifier := Printer.lengthModifier directive.format
  { directive with cflags := modifier.1, format := directive.format.drop modifier.2 }

/-- A directive behind its flags, up to its last character. -/
def readDirective (flags : PrintFlags) (format : List Char) (args : List (VarArg φ)) :
    FormatPart (Directive φ) :=
  (readWidth flags format args).bind fun directive =>
    directive.readPrecision.bind fun directive => .value directive.readLength

/-- The text of a directive with its last character, and the arguments that are left. -/
def Directive.text (model : DataModel) (float : FloatText φ) (directive : Directive φ)
    (ch : Char) : FormatPart (List Char × List (VarArg φ)) :=
  let flags := Printer.conversionFlags directive.flags ch
  let integer (value : Int) (base : Nat) (flags : PrintFlags) (args : List (VarArg φ)) :=
    FormatPart.ofOption ((fmtintText value base directive.width directive.precision flags).map
      fun text => (text, args))
  if ch ∈ ['d', 'i'] then
    (FormatPart.ofOption (Printer.signedValue model directive.cflags directive.args)).bind
      fun (value, args) => integer value 10 flags args
  else if ch ∈ ['X', 'x', 'o', 'u'] then
    (FormatPart.ofOption (Printer.unsignedValue model directive.cflags directive.args)).bind
      fun (value, args) => integer value (Printer.conversionBase ch) flags args
  else if ch ∈ ['A', 'F', 'a', 'f', 'E', 'e', 'G', 'g'] then
    (FormatPart.ofOption (vaFloating (directive.cflags = .ldouble) directive.args)).bind
      fun (value, args) =>
        let precision := if flags.typeG ∧ directive.precision = 0 then 1 else directive.precision
        match float value directive.width precision flags with
        | none => .overflow
        | some text => .value (text, args)
  else if ch = 'c' then
    (FormatPart.ofOption (vaInteger (.signed 32) directive.args)).bind fun (value, args) =>
      .value ([Char.ofNat (value % 256).toNat], args)
  else if ch = 's' then
    (FormatPart.ofOption (vaString directive.args)).bind fun (text, args) =>
      .value (fmtstrText text directive.width directive.precision flags, args)
  else if ch = 'p' then
    (FormatPart.ofOption (vaPointer directive.args)).bind fun (address, args) =>
      if address = 0 then
        .value (fmtstrText (some "(nil)".toList) directive.width (-1) flags, args)
      else integer (wrapSigned 64 address) 16 { flags with num := true, unsigned := true } args
  else if ch = 'n' then
    (FormatPart.ofOption (vaPointer directive.args)).bind fun (address, args) =>
      if address = 0 then .missing else .value ([], args)
  else if ch = '%' then .value ([ch], directive.args)
  else .value ([], directive.args)

/-- What a format puts out for its arguments, and whether it ends with an overflow.  The
flags in front of a fast conversion have no effect on it, but on the next directive. -/
inductive Means (model : DataModel) (float : FloatText φ) :
    PrintFlags -> List Char -> List (VarArg φ) -> List Char -> Bool -> Prop
  | done (flags : PrintFlags) (args : List (VarArg φ)) : Means model float flags [] args [] false
  | literal {flags : PrintFlags} {ch : Char} {format : List Char} {args : List (VarArg φ)}
      {text : List Char} {overflow : Bool} (plain : ch ≠ '%')
      (rest : Means model float flags format args text overflow) :
      Means model float flags (ch :: format) args (ch :: text) overflow
  | fast {flags after : PrintFlags} {format directive later : List Char}
      {args left : List (VarArg φ)} {shown text : List Char} {overflow : Bool}
      (read : readFlags flags format = (after, directive)) (quick : isFast model directive = true)
      (converted : fastText model directive args = some (shown, later, left))
      (rest : Means model float after later left text overflow) :
      Means model float flags ('%' :: format) args (shown ++ text) overflow
  | plain {flags after : PrintFlags} {format behind later : List Char}
      {args left : List (VarArg φ)} {directive : Directive φ} {ch : Char}
      {shown text : List Char} {overflow : Bool}
      (read : readFlags flags format = (after, behind)) (slow : isFast model behind = false)
      (whole : readDirective after behind args = .value directive)
      (last : directive.format = ch :: later)
      (converted : directive.text model float ch = .value (shown, left))
      (rest : Means model float .none later left text overflow) :
      Means model float flags ('%' :: format) args (shown ++ text) overflow
  | ended {flags after : PrintFlags} {format behind : List Char} {args : List (VarArg φ)}
      {directive : Directive φ} (read : readFlags flags format = (after, behind))
      (slow : isFast model behind = false)
      (whole : readDirective after behind args = .value directive)
      (nothing : directive.format = []) :
      Means model float flags ('%' :: format) args [] false
  | tooLarge {flags after : PrintFlags} {format behind : List Char} {args : List (VarArg φ)}
      (read : readFlags flags format = (after, behind)) (slow : isFast model behind = false)
      (whole : readDirective after behind args = .overflow) :
      Means model float flags ('%' :: format) args [] true
  | overflow {flags after : PrintFlags} {format behind later : List Char}
      {args : List (VarArg φ)} {directive : Directive φ} {ch : Char}
      (read : readFlags flags format = (after, behind)) (slow : isFast model behind = false)
      (whole : readDirective after behind args = .value directive)
      (last : directive.format = ch :: later)
      (converted : directive.text model float ch = .overflow) :
      Means model float flags ('%' :: format) args [] true

end Directives

end NetSystem
