import Mathlib.Algebra.Group.Int.Defs
import Mathlib.Algebra.Group.Nat.Defs
import NetSystem.Foundation.TruncatedText

namespace NetSystem

universe u

/-!
# The formatter

`o_vsnprintf` of `mysnprintf.c`: a state machine over the characters of a format.  Right behind
the flags of a conversion the most common ones are done at once; the others go on to the
width, the precision and the length modifier, and to `fmtint`, `fmtstr` or `fmtflt`.

A string is the list of its characters in front of the NUL.  There is no result where the
source has none: a variable argument that is missing, of another type or out of its range,
a negation that overflows, a null pointer that is followed, or an access outside of a buffer.
Floating point values and the text that `fmtflt` puts out for them are parameters.
-/

/-- The widths of `long` and of `size_t`. -/
structure DataModel where
  longBits : Nat
  sizeBits : Nat
  longBits_le : longBits ≤ 64

/-- The widths where both are of 64 bits. -/
def DataModel.lp64 : DataModel := ⟨64, 64, Nat.le_refl 64⟩

/-- The values of an integer type, from `low` on and below `high`. -/
structure IntegerType where
  low : Int
  high : Int

namespace IntegerType

def signed (bits : Nat) : IntegerType := ⟨-2 ^ (bits - 1), 2 ^ (bits - 1)⟩

def unsigned (bits : Nat) : IntegerType := ⟨0, 2 ^ bits⟩

end IntegerType

/-- `INT_MAX`. -/
def intMax : Int := 2 ^ 31 - 1

/-- A conversion to a signed type of the given width. -/
def wrapSigned (bits : Nat) (value : Int) : Int := value.bmod (2 ^ bits)

/-- A variable argument.  A floating point value may be a `long double`. -/
inductive VarArg (φ : Type u) where
  | integer (value : Int)
  | string (text : Option (List Char))
  | pointer (address : Nat)
  | floating (ldouble : Bool) (value : φ)

section Arguments

variable {φ : Type u}

/-- `va_arg` of an integer type. -/
def vaInteger (type : IntegerType) : List (VarArg φ) -> Option (Int × List (VarArg φ))
  | .integer value :: args =>
      if type.low ≤ value ∧ value < type.high then some (value, args) else none
  | _ => none

/-- `va_arg` of `char *`. -/
def vaString : List (VarArg φ) -> Option (Option (List Char) × List (VarArg φ))
  | .string text :: args => some (text, args)
  | _ => none

/-- `va_arg` of another pointer. -/
def vaPointer : List (VarArg φ) -> Option (Nat × List (VarArg φ))
  | .pointer address :: args => some (address, args)
  | _ => none

/-- `va_arg` of `double` or `long double`. -/
def vaFloating (ldouble : Bool) : List (VarArg φ) -> Option (φ × List (VarArg φ))
  | .floating long value :: args => if long = ldouble then some (value, args) else none
  | _ => none

end Arguments

/-- The states `PRINT_S_…`. -/
inductive PrintState where
  | default
  | flags
  | width
  | dot
  | precision
  | mod
  | conv
deriving DecidableEq

/-- The flags `PRINT_F_…`. -/
structure PrintFlags where
  minus : Bool
  plus : Bool
  space : Bool
  num : Bool
  zero : Bool
  quote : Bool
  up : Bool
  unsigned : Bool
  typeG : Bool
  typeE : Bool
deriving DecidableEq

def PrintFlags.none : PrintFlags :=
  ⟨false, false, false, false, false, false, false, false, false, false⟩

/-- The length modifiers `PRINT_C_…`. -/
inductive PrintLength where
  | none
  | char
  | short
  | long
  | llong
  | ldouble
  | size
  | ptrdiff
  | intmax
deriving DecidableEq

/-- `ISDIGIT`. -/
def isDigit (ch : Char) : Bool := decide ('0' ≤ ch) && decide (ch ≤ '9')

/-- `CHARTOINT`. -/
def charToInt (ch : Char) : Int := (ch.toNat : Int) - 48

/-- The digit of a value below sixteen, in one of the two strings of `convert`. -/
def hexDigit (caps : Bool) (value : Nat) : Char :=
  if value < 10 then Char.ofNat (48 + value)
  else Char.ofNat ((if caps then 55 else 87) + value)

/-- An entry of `atoi_tab`: three decimal digits. -/
def atoiTab (value : Nat) : List Char :=
  [hexDigit false (value / 100), hexDigit false (value / 10 % 10), hexDigit false (value % 10)]

/-! ## What is put out -/

namespace TextSink

/-- `OUTCHAR`. -/
def outchar (size : Nat) (sink : TextSink Char) (ch : Char) : Option (TextSink Char) :=
  if sink.len + 1 < size then sink.put ch else some { sink with len := sink.len + 1 }

/-- A loop of `OUTCHAR`. -/
def outchars (size : Nat) (sink : TextSink Char) : List Char -> Option (TextSink Char)
  | [] => some sink
  | ch :: text => (sink.outchar size ch).bind fun sink => sink.outchars size text

/-- The loop of the fast `%s`. -/
def putString (size : Nat) (sink : TextSink Char) : List Char -> Option (TextSink Char)
  | [] => some sink
  | ch :: v =>
      if sink.len + 1 < size then (sink.put ch).bind fun sink => sink.putString size v
      else some sink

end TextSink

/-- `fmtstr`. -/
def fmtstr (size : Nat) (sink : TextSink Char) (value : Option (List Char))
    (width precision : Int) (flags : PrintFlags) : Option (TextSink Char) :=
  let value := value.getD "(null)".toList
  let shown := if precision = -1 then value else value.take precision.toNat
  let padlen := max 0 (width - shown.length)
  let padlen := if flags.minus then -padlen else padlen
  (sink.outchars size (List.replicate padlen.toNat ' ')).bind fun sink =>
    (sink.outchars size shown).bind fun sink =>
      sink.outchars size (List.replicate (-padlen).toNat ' ')

/-- `convert` with room for a number of digits, the last digit of the value first. -/
def convert (base : Nat) (caps : Bool) : Nat -> Nat -> List Char
  | 0, _ => []
  | room + 1, value =>
      hexDigit caps (value % base) ::
        if value / base ≠ 0 then convert base caps room (value / base) else []

/-- `MAX_CONVERT_LENGTH`. -/
def maxConvertLength : Nat := 43

/-- `getnumsep`. -/
def getnumsep (digits : Nat) : Int :=
  ((digits : Int) - if digits % 3 = 0 then 1 else 0) / 3

/-- The loop for the digits of `fmtint`, the first digit first. -/
def fmtDigits (size : Nat) (separators : Int) (sink : TextSink Char) :
    List Char -> Option (TextSink Char)
  | [] => some sink
  | digit :: digits =>
      (sink.outchar size digit).bind fun sink =>
        if separators > 0 ∧ digits.length > 0 ∧ digits.length % 3 = 0 then
          (sink.outchar size ',').bind fun sink => fmtDigits size separators sink digits
        else fmtDigits size separators sink digits

/-- What `fmtint` takes from the value: it without a sign, and the sign. -/
def fmtintValue (value : Int) (flags : PrintFlags) : Option (Nat × Option Char) :=
  if flags.unsigned then some ((value % 2 ^ 64).toNat, none)
  else if value = -2 ^ 63 then none
  else
    some (value.natAbs,
      if value < 0 then some '-' else if flags.plus then some '+'
      else if flags.space then some ' ' else none)

/-- `fmtint`. -/
def fmtint (size : Nat) (sink : TextSink Char) (value : Int) (base : Nat)
    (width precision : Int) (flags : PrintFlags) : Option (TextSink Char) :=
  (fmtintValue value flags).bind fun (uvalue, sign) =>
    let noprecision := precision = -1
    let iconvert := convert base flags.up maxConvertLength uvalue
    let pos := iconvert.length
    let alternative := flags.num ∧ uvalue ≠ 0
    let precision : Int :=
      if alternative ∧ base = 8 ∧ precision ≤ pos then (pos : Int) + 1 else precision
    let hexprefix : List Char :=
      if alternative ∧ base = 16 then ['0', if flags.up then 'X' else 'x'] else []
    let separators := if flags.quote then getnumsep pos else 0
    let zpadlen := max 0 (precision - pos - separators)
    let spadlen := max 0 (width - separators - max precision pos - sign.toList.length -
      hexprefix.length)
    let zpadlen :=
      if ¬ flags.minus ∧ flags.zero ∧ noprecision then zpadlen + spadlen else zpadlen
    let spadlen :=
      if flags.minus then -spadlen else if flags.zero ∧ noprecision then 0 else spadlen
    (sink.outchars size (List.replicate spadlen.toNat ' ')).bind fun sink =>
      (sink.outchars size sign.toList).bind fun sink =>
        (sink.outchars size hexprefix).bind fun sink =>
          (sink.outchars size (List.replicate zpadlen.toNat '0')).bind fun sink =>
            (fmtDigits size separators sink iconvert.reverse).bind fun sink =>
              sink.outchars size (List.replicate (-spadlen).toNat ' ')

/-! ## The state machine -/

/-- The variables of `o_vsnprintf`.  `format` begins with the character in `ch`.  What `%n`
stores is kept with its address and the width of its type. -/
structure Printer (φ : Type u) where
  sink : TextSink Char
  state : PrintState
  flags : PrintFlags
  width : Int
  precision : Int
  cflags : PrintLength
  format : List Char
  args : List (VarArg φ)
  stored : List (Nat × Nat × Nat)

/-- How a round of the loop ends: with the next one, or with `goto over`. -/
inductive Printed (φ : Type u) where
  | next (printer : Printer φ)
  | over (printer : Printer φ) (overflow : Bool)

/-- The text of a floating point conversion with its width, precision and flags, if the
value does not overflow. -/
abbrev FloatText (φ : Type u) := φ -> Int -> Int -> PrintFlags -> Option (List Char)

namespace Printer

variable {φ : Type u}

/-- `ch = *format++`. -/
def skip (printer : Printer φ) (count : Nat) : Printer φ :=
  { printer with format := printer.format.drop count }

/-- The flag of a character. -/
def flag (flags : PrintFlags) : Char -> Option PrintFlags
  | '-' => some { flags with minus := true }
  | '+' => some { flags with plus := true }
  | ' ' => some { flags with space := true }
  | '#' => some { flags with num := true }
  | '0' => some { flags with zero := true }
  | '\x27' => some { flags with quote := true }
  | _ => none

/-- The groups of three digits that a fast conversion writes to `scratch_buffer`, from its
end to its start.  It has room for ten of them. -/
def scratch : Nat -> Nat -> List Char -> Option (List Char)
  | 0, _, _ => none
  | room + 1, v1, s =>
      let s := atoiTab (v1 % 1000) ++ s
      if v1 / 1000 > 0 then scratch room (v1 / 1000) s else some s

/-- The sign and the value without it in a fast conversion. -/
def fastSign (type : IntegerType) (sink : TextSink Char) (v1 : Int) :
    Option (TextSink Char × Nat) :=
  if v1 < 0 then
    if -v1 < type.high then (sink.put '-').map fun sink => (sink, v1.natAbs) else none
  else some (sink, v1.toNat)

/-- A fast conversion of an integer.  Of a zero that follows `l` only the `l` is skipped. -/
def fastInteger (size : Nat) (type : IntegerType) (more : Nat) (printer : Printer φ) :
    Option (Printed φ) :=
  (vaInteger type printer.args).bind fun (v1, args) =>
    let printer := { printer with args := args }
    if size ≤ printer.sink.len + 1 then some (.over printer false)
    else if v1 = 0 then
      (printer.sink.put '0').map fun sink =>
        .next ({ printer with sink := sink, state := .default }.skip 1)
    else
      (fastSign type printer.sink v1).bind fun (sink, v1) =>
        (scratch 10 v1 []).bind fun s =>
          let s := s.dropWhile (· = '0')
          let n := if sink.len + s.length < size then s.length else size - sink.len
          (sink.puts (s.take n)).map fun sink =>
            .next ({ printer with sink := sink, state := .default }.skip (1 + more))

/-- The fast conversions of integers: the type of the argument, and how many characters
follow the first one. -/
def fastType (model : DataModel) : List Char -> Option (IntegerType × Nat)
  | 'd' :: _ | 'i' :: _ => some (.signed 32, 0)
  | 'u' :: _ => some (.unsigned 32, 0)
  | 'l' :: 'd' :: _ | 'l' :: 'i' :: _ => some (.signed model.longBits, 1)
  | 'l' :: 'u' :: _ => some (.unsigned model.longBits, 1)
  | 'l' :: 'l' :: 'd' :: _ | 'l' :: 'l' :: 'i' :: _ => some (.signed 64, 2)
  | 'l' :: 'l' :: 'u' :: _ => some (.unsigned 64, 2)
  | _ => none

/-- `PRINT_S_FLAGS`. -/
def stepFlags (model : DataModel) (size : Nat) (printer : Printer φ) (ch : Char) :
    Option (Printed φ) :=
  match flag printer.flags ch with
  | some flags => some (.next ({ printer with flags := flags }.skip 1))
  | none =>
      match fastType model printer.format with
      | some (type, more) => printer.fastInteger size type more
      | none =>
          if ch = 'c' then
            (vaInteger (.signed 32) printer.args).bind fun (v, args) =>
              let v := Char.ofNat (v % 256).toNat
              (if printer.sink.len + 1 < size then printer.sink.put v
                else some printer.sink).map fun sink =>
                .next ({ printer with sink := sink, args := args, state := .default }.skip 1)
          else if ch = 's' then
            (vaString printer.args).bind fun (v, args) =>
              v.bind fun v => (printer.sink.putString size v).map fun sink =>
                .next ({ printer with sink := sink, args := args, state := .default }.skip 1)
          else if ch = 'N' then
            (vaInteger (.unsigned 32) printer.args).bind fun (v1, args) =>
              (if printer.sink.len + 3 < size then
                if (v1 * 4) % 2 ^ 32 < 4000 then
                  printer.sink.puts (atoiTab ((v1 * 4) % 2 ^ 32 / 4).toNat)
                else none
              else some printer.sink).map fun sink =>
                .next ({ printer with sink := sink, args := args, state := .default }.skip 1)
          else some (.next { printer with state := .width })

/-- `PRINT_S_WIDTH`. -/
def stepWidth (printer : Printer φ) (ch : Char) : Option (Printed φ) :=
  if isDigit ch then
    if printer.width > (intMax - charToInt ch) / 10 then some (.over printer true)
    else
      some (.next ({ printer with width := 10 * printer.width + charToInt ch }.skip 1))
  else if ch = '*' then
    (vaInteger (.signed 32) printer.args).bind fun (width, args) =>
      if width < 0 then
        if -width ≤ intMax then
          some (.next ({ printer with
            width := -width
            flags := { printer.flags with minus := true }
            args := args
            state := .dot }.skip 1))
        else none
      else some (.next ({ printer with width := width, args := args, state := .dot }.skip 1))
  else some (.next { printer with state := .dot })

/-- `PRINT_S_DOT`. -/
def stepDot (printer : Printer φ) (ch : Char) : Printed φ :=
  if ch = '.' then .next ({ printer with state := .precision }.skip 1)
  else .next { printer with state := .mod }

/-- `PRINT_S_PRECISION`. -/
def stepPrecision (printer : Printer φ) (ch : Char) : Option (Printed φ) :=
  let printer :=
    if printer.precision = -1 then { printer with precision := 0 } else printer
  if isDigit ch then
    if printer.precision > (intMax - charToInt ch) / 10 then some (.over printer true)
    else
      some (.next ({ printer with precision := 10 * printer.precision + charToInt ch }.skip 1))
  else if ch = '*' then
    (vaInteger (.signed 32) printer.args).map fun (precision, args) =>
      .next ({ printer with
        precision := if precision < 0 then -1 else precision
        args := args
        state := .mod }.skip 1)
  else some (.next { printer with state := .mod })

/-- The length modifier that a format begins with, and its length. -/
def lengthModifier : List Char -> PrintLength × Nat
  | 'h' :: 'h' :: _ => (.char, 2)
  | 'h' :: _ => (.short, 1)
  | 'l' :: 'l' :: _ => (.llong, 2)
  | 'l' :: _ => (.long, 1)
  | 'L' :: _ => (.ldouble, 1)
  | 'j' :: _ => (.intmax, 1)
  | 't' :: _ => (.ptrdiff, 1)
  | 'z' :: _ => (.size, 1)
  | _ => (.none, 0)

/-- `PRINT_S_MOD`. -/
def stepMod (printer : Printer φ) : Printed φ :=
  let modifier := lengthModifier printer.format
  .next ({ printer with
    cflags := if modifier.2 = 0 then printer.cflags else modifier.1
    state := .conv }.skip modifier.2)

/-- The value of a conversion `d` or `i`. -/
def signedValue (model : DataModel) (cflags : PrintLength) (args : List (VarArg φ)) :
    Option (Int × List (VarArg φ)) :=
  match cflags with
  | .char => (vaInteger (.signed 32) args).map fun (v, args) => (wrapSigned 8 v, args)
  | .short => (vaInteger (.signed 32) args).map fun (v, args) => (wrapSigned 16 v, args)
  | .long | .ptrdiff => vaInteger (.signed model.longBits) args
  | .llong | .intmax => vaInteger (.signed 64) args
  | .size =>
      (vaInteger (.unsigned model.sizeBits) args).map fun (v, args) => (wrapSigned 64 v, args)
  | .none | .ldouble => vaInteger (.signed 32) args

/-- The value of a conversion `u`, `o`, `x` or `X`. -/
def unsignedValue (model : DataModel) (cflags : PrintLength) (args : List (VarArg φ)) :
    Option (Int × List (VarArg φ)) :=
  match cflags with
  | .char => (vaInteger (.unsigned 32) args).map fun (v, args) => (v % 2 ^ 8, args)
  | .short => (vaInteger (.unsigned 32) args).map fun (v, args) => (v % 2 ^ 16, args)
  | .long =>
      (vaInteger (.unsigned model.longBits) args).map fun (v, args) => (wrapSigned 64 v, args)
  | .llong | .intmax =>
      (vaInteger (.unsigned 64) args).map fun (v, args) => (wrapSigned 64 v, args)
  | .size =>
      (vaInteger (.unsigned model.sizeBits) args).map fun (v, args) => (wrapSigned 64 v, args)
  | .ptrdiff => vaInteger (.signed model.longBits) args
  | .none | .ldouble => vaInteger (.unsigned 32) args

/-- The width of what `%n` stores. -/
def storedBits (model : DataModel) : PrintLength -> Nat
  | .char => 8
  | .short => 16
  | .long | .ptrdiff => model.longBits
  | .llong | .intmax => 64
  | .size => model.sizeBits
  | .none | .ldouble => 32

/-- The base of a conversion `u`, `o`, `x` or `X`. -/
def conversionBase (ch : Char) : Nat :=
  if ch = 'x' ∨ ch = 'X' then 16 else if ch = 'o' then 8 else 10

/-- The flags that a conversion sets. -/
def conversionFlags (flags : PrintFlags) (ch : Char) : PrintFlags :=
  { flags with
    up := flags.up || ch ∈ ['X', 'A', 'F', 'E', 'G']
    unsigned := flags.unsigned || ch ∈ ['X', 'x', 'o', 'u']
    typeE := flags.typeE || ch ∈ ['E', 'e']
    typeG := flags.typeG || ch ∈ ['G', 'g'] }

/-- The end of `PRINT_S_CONV`. -/
def converted (printer : Printer φ) (sink : TextSink Char) (args : List (VarArg φ)) :
    Printer φ :=
  { printer with
    sink := sink
    args := args
    state := .default
    flags := .none
    width := 0
    precision := -1
    cflags := .none }.skip 1

/-- `PRINT_S_CONV`. -/
def stepConv (model : DataModel) (float : FloatText φ) (size : Nat) (printer : Printer φ)
    (ch : Char) : Option (Printed φ) :=
  let flags := conversionFlags printer.flags ch
  if ch ∈ ['d', 'i'] then
    (signedValue model printer.cflags printer.args).bind fun (value, args) =>
      (fmtint size printer.sink value 10 printer.width printer.precision flags).map fun sink =>
        .next (printer.converted sink args)
  else if ch ∈ ['X', 'x', 'o', 'u'] then
    (unsignedValue model printer.cflags printer.args).bind fun (value, args) =>
      (fmtint size printer.sink value (conversionBase ch) printer.width printer.precision
        flags).map fun sink => .next (printer.converted sink args)
  else if ch ∈ ['A', 'F', 'a', 'f', 'E', 'e', 'G', 'g'] then
    (vaFloating (printer.cflags = .ldouble) printer.args).bind fun (fvalue, args) =>
      let precision := if flags.typeG ∧ printer.precision = 0 then 1 else printer.precision
      match float fvalue printer.width precision flags with
      | none => some (.over { printer with args := args } true)
      | some text =>
          (printer.sink.outchars size text).map fun sink => .next (printer.converted sink args)
  else if ch = 'c' then
    (vaInteger (.signed 32) printer.args).bind fun (v, args) =>
      (printer.sink.outchar size (Char.ofNat (v % 256).toNat)).map fun sink =>
        .next (printer.converted sink args)
  else if ch = 's' then
    (vaString printer.args).bind fun (strvalue, args) =>
      (fmtstr size printer.sink strvalue printer.width printer.precision flags).map fun sink =>
        .next (printer.converted sink args)
  else if ch = 'p' then
    (vaPointer printer.args).bind fun (strvalue, args) =>
      (if strvalue = 0 then
        fmtstr size printer.sink (some "(nil)".toList) printer.width (-1) flags
      else
        fmtint size printer.sink (wrapSigned 64 strvalue) 16 printer.width printer.precision
          { flags with num := true, unsigned := true }).map fun sink =>
        .next (printer.converted sink args)
  else if ch = 'n' then
    (vaPointer printer.args).bind fun (address, args) =>
      if address = 0 then none
      else
        let bits := storedBits model printer.cflags
        some (.next { printer.converted printer.sink args with
          stored := printer.stored ++ [(address, bits, printer.sink.len % 2 ^ bits)] })
  else if ch = '%' then
    (printer.sink.outchar size ch).map fun sink => .next (printer.converted sink printer.args)
  else some (.next (printer.converted printer.sink printer.args))

/-- A round of the loop. -/
def step (model : DataModel) (float : FloatText φ) (size : Nat) (printer : Printer φ)
    (ch : Char) : Option (Printed φ) :=
  match printer.state with
  | .default =>
      if ch = '%' then some (.next ({ printer with state := .flags }.skip 1))
      else
        (printer.sink.outchar size ch).map fun sink =>
          .next ({ printer with sink := sink }.skip 1)
  | .flags => printer.stepFlags model size ch
  | .width => printer.stepWidth ch
  | .dot => some (printer.stepDot ch)
  | .precision => printer.stepPrecision ch
  | .mod => some printer.stepMod
  | .conv => printer.stepConv model float size ch

/-- The loop, with whether a width, a precision or a value has overflowed. -/
def run (model : DataModel) (float : FloatText φ) (size : Nat) :
    Nat -> Printer φ -> Option (Printer φ × Bool)
  | 0, _ => none
  | fuel + 1, printer =>
      match printer.format with
      | [] => some (printer, false)
      | ch :: _ =>
          match printer.step model float size ch with
          | none => none
          | some (.next printer) => run model float size fuel printer
          | some (.over printer overflow) => some (printer, overflow)

/-- The variables at the start. -/
def start (out format : List Char) (args : List (VarArg φ)) : Printer φ where
  sink := ⟨out, 0⟩
  state := .default
  flags := .none
  width := 0
  precision := -1
  cflags := .none
  format := format
  args := args
  stored := []

end Printer

/-- `o_vsnprintf`: the buffer, the result, and what `%n` has stored.  A round takes a
character of the format or comes to a later state. -/
def oVsnprintf {φ : Type u} (model : DataModel) (float : FloatText φ) (out : List Char)
    (size : Nat) (format : List Char) (args : List (VarArg φ)) :
    Option (List Char × Int × List (Nat × Nat × Nat)) :=
  if size = 0 then some (out, 0, [])
  else
    (Printer.run model float size (7 * format.length + 1) (.start out format args)).bind
      fun (printer, overflow) =>
        let len := printer.sink.len
        (printer.sink.store (if len < size then len else size - 1) '\x00').map fun sink =>
          (sink.out, if overflow ∨ (len : Int) ≥ intMax then -1 else (len : Int),
            printer.stored)

end NetSystem
