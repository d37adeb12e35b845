import NetSystem.Base.SnprintfReading

namespace NetSystem

universe u

/-!
# The formatter puts out the text

Whatever the size of the buffer, the state machine shows what fits of the text of the format.
-/

namespace Printer

open TextSink

variable {φ : Type u} {model : DataModel} {float : FloatText φ} {size : Nat}
  {printer : Printer φ} {ch : Char} {format : List Char} {args left : List (VarArg φ)}
  {before shown : List Char} {directive : Directive φ}

/-- The machine between two directives. -/
structure Ready (printer : Printer φ) (flags : PrintFlags) (format : List Char)
    (args : List (VarArg φ)) : Prop where
  state : printer.state = .default
  flags : printer.flags = flags
  width : printer.width = 0
  precision : printer.precision = -1
  cflags : printer.cflags = .none
  format : printer.format = format
  args : printer.args = args

/-! ## Conversions -/

/-- A round of the machine that puts out some text and comes to the next directive. -/
def Converts (size : Nat) (done : Option (Printed φ)) (flags : PrintFlags)
    (format : List Char) (args : List (VarArg φ)) (text : List Char) : Prop :=
  Exists fun next => done = some (.next next) ∧ next.Ready flags format args ∧
    Shows size next.sink text

theorem converts_of_writes (printer : Printer φ) {write : TextSink Char -> Option (TextSink Char)}
    (writes : Writes size write shown) (shows : Shows size printer.sink before)
    (begins : printer.format = ch :: format) :
    Converts size ((write printer.sink).map fun sink => .next (printer.converted sink left))
      .none format left (before ++ shown) := by
  rcases writes _ _ shows with ⟨sink, done, after⟩
  refine ⟨printer.converted sink left, by rw [done]; rfl, ⟨rfl, rfl, rfl, rfl, rfl, ?_, rfl⟩, after⟩
  rw [converted, skip, begins]
  rfl

/-- The text of an integer in a directive. -/
theorem converts_fmtint (printer : Printer φ) (positive : 0 < size)
    (shows : Shows size printer.sink before) (begins : printer.format = ch :: format)
    {value : Int} {base : Nat} {width precision : Int} {flags : PrintFlags}
    (text : FormatPart.ofOption ((fmtintText value base width precision flags).map
      fun text => (text, args)) = .value (shown, left)) :
    Converts size ((fmtint size printer.sink value base width precision flags).map
      fun sink => .next (printer.converted sink args)) .none format left (before ++ shown) := by
  rcases Option.map_eq_some_iff.mp (FormatPart.ofOption_eq_value text) with ⟨number, made, same⟩
  cases same
  exact converts_of_writes printer (writes_fmtint positive made) shows begins

/-- The last character of a directive. -/
theorem converts_text (positive : 0 < size) (shows : Shows size printer.sink before)
    (begins : directive.format = ch :: format)
    (text : directive.text model float ch = .value (shown, left)) :
    Converts size ((printer.within .conv directive).step model float size ch) .none format left
      (before ++ shown) := by
  have begins : (printer.within .conv directive).format = ch :: format := begins
  have shows : Shows size (printer.within .conv directive).sink before := shows
  change Converts size (stepConv model float size _ ch) _ _ _ _
  rw [Directive.text] at text
  rw [stepConv]
  dsimp only at text ⊢
  split at text
  case isTrue signed =>
    rw [if_pos signed]
    rcases FormatPart.ofOption_bind_eq_value text with ⟨⟨value, args⟩, taken, number⟩
    dsimp only [within]
    rw [taken]
    exact converts_fmtint (printer.within .conv directive) positive shows begins number
  case isFalse no_signed =>
    rw [if_neg no_signed]
    split at text
    case isTrue unsigned =>
      rw [if_pos unsigned]
      rcases FormatPart.ofOption_bind_eq_value text with ⟨⟨value, args⟩, taken, number⟩
      dsimp only [within]
      rw [taken]
      exact converts_fmtint (printer.within .conv directive) positive shows begins number
    case isFalse no_unsigned =>
      rw [if_neg no_unsigned]
      split at text
      case isTrue floating =>
        rw [if_pos floating]
        rcases FormatPart.ofOption_bind_eq_value text with ⟨⟨value, args⟩, taken, number⟩
        rw [show vaFloating (decide ((printer.within .conv directive).cflags = .ldouble))
          (printer.within .conv directive).args = _ from taken]
        dsimp only [Option.bind_some] at number ⊢
        split at number
        case h_1 => cases number
        case h_2 text found =>
          dsimp only [within]
          rw [found]
          cases number
          exact converts_of_writes (printer.within .conv directive) (writes_outchars positive _)
            shows begins
      case isFalse no_floating =>
        rw [if_neg no_floating]
        split at text
        case isTrue char =>
          rw [if_pos char]
          rcases FormatPart.ofOption_bind_eq_value text with ⟨⟨value, args⟩, taken, number⟩
          dsimp only [within]
          rw [taken]
          cases number
          exact converts_of_writes (printer.within .conv directive)
            (writes_outchar positive _) shows begins
        case isFalse no_char =>
          rw [if_neg no_char]
          split at text
          case isTrue string =>
            rw [if_pos string]
            rcases FormatPart.ofOption_bind_eq_value text with ⟨⟨value, args⟩, taken, number⟩
            dsimp only [within]
            rw [taken]
            cases number
            exact converts_of_writes (printer.within .conv directive)
              (writes_fmtstr positive _ _ _ _) shows begins
          case isFalse no_string =>
            rw [if_neg no_string]
            split at text
            case isTrue pointer =>
              rw [if_pos pointer]
              rcases FormatPart.ofOption_bind_eq_value text with ⟨⟨address, args⟩, taken, number⟩
              dsimp only [within]
              rw [taken]
              dsimp only [Option.bind_some] at number ⊢
              split at number
              case isTrue null =>
                rw [if_pos null]
                cases number
                exact converts_of_writes (printer.within .conv directive)
                  (writes_fmtstr positive _ _ _ _) shows begins
              case isFalse some_address =>
                rw [if_neg some_address]
                exact converts_fmtint (printer.within .conv directive) positive shows begins number
            case isFalse no_pointer =>
              rw [if_neg no_pointer]
              split at text
              case isTrue stored =>
                rw [if_pos stored]
                rcases FormatPart.ofOption_bind_eq_value text with ⟨⟨address, args⟩, taken, number⟩
                dsimp only [within]
                rw [taken]
                dsimp only [Option.bind_some] at number ⊢
                split at number
                case isTrue => cases number
                case isFalse some_address =>
                  rw [if_neg some_address]
                  cases number
                  rw [List.append_nil]
                  refine ⟨_, rfl, ⟨rfl, rfl, rfl, rfl, rfl, ?_, rfl⟩, shows⟩
                  rw [converted, skip, begins]
                  rfl
              case isFalse no_stored =>
                rw [if_neg no_stored]
                split at text
                case isTrue percent =>
                  rw [if_pos percent]
                  cases text
                  exact converts_of_writes (printer.within .conv directive)
                    (writes_outchar positive _) shows begins
                case isFalse no_percent =>
                  rw [if_neg no_percent]
                  cases text
                  exact converts_of_writes (printer.within .conv directive)
                    (.nothing size) shows begins

/-- Only a floating point value overflows. -/
theorem over_text (printer : Printer φ) (text : directive.text model float ch = .overflow) :
    Exists fun last => (printer.within .conv directive).step model float size ch =
      some (.over last true) ∧ last.sink = printer.sink := by
  change Exists fun last => stepConv model float size _ ch = _ ∧ _
  rw [Directive.text] at text
  rw [stepConv]
  dsimp only at text ⊢
  split at text
  case isTrue =>
    rcases FormatPart.ofOption_bind_eq_overflow text with ⟨_, _, number⟩
    exact absurd number (FormatPart.ofOption_ne_overflow _)
  case isFalse no_signed =>
    rw [if_neg no_signed]
    split at text
    case isTrue =>
      rcases FormatPart.ofOption_bind_eq_overflow text with ⟨_, _, number⟩
      exact absurd number (FormatPart.ofOption_ne_overflow _)
    case isFalse no_unsigned =>
      rw [if_neg no_unsigned]
      split at text
      case isTrue floating =>
        rw [if_pos floating]
        rcases FormatPart.ofOption_bind_eq_overflow text with ⟨⟨value, args⟩, taken, number⟩
        rw [taken]
        dsimp only [Option.bind_some] at number ⊢
        split at number
        case h_1 found =>
          rw [found]
          exact ⟨_, rfl, rfl⟩
        case h_2 => cases number
      case isFalse =>
        split at text
        case isTrue =>
          rcases FormatPart.ofOption_bind_eq_overflow text with ⟨_, _, number⟩
          cases number
        case isFalse =>
          split at text
          case isTrue =>
            rcases FormatPart.ofOption_bind_eq_overflow text with ⟨_, _, number⟩
            cases number
          case isFalse =>
            split at text
            case isTrue =>
              rcases FormatPart.ofOption_bind_eq_overflow text with ⟨_, _, number⟩
              split at number
              case isTrue => cases number
              case isFalse => exact absurd number (FormatPart.ofOption_ne_overflow _)
            case isFalse =>
              split at text
              case isTrue =>
                rcases FormatPart.ofOption_bind_eq_overflow text with ⟨_, _, number⟩
                split at number <;> cases number
              case isFalse => split at text <;> cases text

/-! ## Fast conversions -/

theorem signed_bounds {bits : Nat} (fits : bits ≤ 64) :
    -2 ^ 64 ≤ (IntegerType.signed bits).low ∧ (IntegerType.signed bits).high ≤ 2 ^ 64 := by
  have bound : (2 : Int) ^ (bits - 1) ≤ 2 ^ 64 :=
    pow_le_pow_right₀ (by decide) (Nat.le_trans (Nat.sub_le _ _) fits)
  exact ⟨Int.neg_le_neg bound, bound⟩

theorem unsigned_bounds {bits : Nat} (fits : bits ≤ 64) :
    -2 ^ 64 ≤ (IntegerType.unsigned bits).low ∧ (IntegerType.unsigned bits).high ≤ 2 ^ 64 :=
  ⟨(by decide : -2 ^ 64 ≤ (0 : Int)), pow_le_pow_right₀ (by decide) fits⟩

theorem fastType_bounds {type : IntegerType} {more : Nat}
    (kind : fastType model format = some (type, more)) :
    -2 ^ 64 ≤ type.low ∧ type.high ≤ 2 ^ 64 := by
  unfold fastType at kind
  split at kind <;> cases kind
  all_goals first
    | exact signed_bounds (by decide)
    | exact unsigned_bounds (by decide)
    | exact signed_bounds model.longBits_le
    | exact unsigned_bounds model.longBits_le

/-- The integers of a fast conversion have room in `scratch_buffer`. -/
theorem natAbs_lt_of_fastType {type : IntegerType} {more : Nat}
    (kind : fastType model format = some (type, more)) {value : Int}
    (read : vaInteger type args = some (value, left)) :
    value.natAbs < 1000 ^ 10 := by
  have bounds := fastType_bounds kind
  unfold vaInteger at read
  split at read
  case h_2 => cases read
  case h_1 found rest =>
    split at read
    case isFalse => cases read
    case isTrue inside =>
      cases read
      omega

/-- The rest of a fast conversion of an integer, behind the sign. -/
theorem puts_digits {sink : TextSink Char} (shows : Shows size sink before)
    (room : sink.len < size) (digits : List Char) :
    Exists fun next =>
      sink.puts (digits.take
        (if sink.len + digits.length < size then digits.length else size - sink.len)) =
          some next ∧
      Shows size next (before ++ digits) := by
  split
  case isTrue inside =>
    rw [List.take_of_length_le (Nat.le_refl _)]
    rcases shows.puts (Nat.le_of_lt inside) with ⟨next, put, _, after⟩
    exact ⟨next, put, after⟩
  case isFalse outside =>
    exact shows.puts_take _ (Nat.add_sub_cancel' (Nat.le_of_lt room)) (by omega)

/-- The sign of a fast conversion. -/
theorem fastSign_eq {type : IntegerType} {sink : TextSink Char} {value : Int}
    (negatable : ¬ (value < 0 ∧ type.high ≤ -value)) (shows : Shows size sink before)
    (room : sink.len + 1 < size) :
    Exists fun signed => fastSign type sink value = some (signed, value.natAbs) ∧
      signed.len < size ∧ Shows size signed (before ++ if value < 0 then ['-'] else []) := by
  rw [fastSign]
  by_cases negative : value < 0
  · have inside : -value < type.high :=
      lt_of_not_ge fun above => negatable ⟨negative, above⟩
    rcases shows.put (Nat.lt_of_succ_lt room) '-' with ⟨signed, put, len, after⟩
    rw [if_pos negative, if_pos inside, if_pos negative, put]
    refine ⟨signed, rfl, ?_, after⟩
    rw [len]
    exact room
  · have same : value.toNat = value.natAbs := by omega
    rw [if_neg negative, if_neg negative, List.append_nil, same]
    exact ⟨sink, rfl, Nat.lt_of_succ_lt room, shows⟩

/-- A fast conversion stops when the buffer is full; the text does not fit, then. -/
theorem fast_integer (printer : Printer φ) {type : IntegerType} {more : Nat}
    (kind : fastType model format = some (type, more)) {value : Int}
    (read : vaInteger type printer.args = some (value, left))
    (negatable : ¬ (value < 0 ∧ type.high ≤ -value)) (shows : Shows size printer.sink before) :
    (size ≤ printer.sink.len + 1 ∧ printer.fastInteger size type more =
      some (.over { printer with args := left } false)) ∨
    Exists fun sink => printer.fastInteger size type more =
      some (.next ({ printer with args := left, sink := sink, state := .default }.skip
        (if value = 0 then 1 else 1 + more))) ∧
      Shows size sink (before ++ if value = 0 then ['0'] else decimalText value) := by
  rw [fastInteger, read]
  dsimp only [Option.bind_some]
  by_cases full : size ≤ printer.sink.len + 1
  · rw [if_pos full]
    exact .inl ⟨full, rfl⟩
  · have room := Nat.lt_of_not_le full
    refine .inr ?_
    rw [if_neg full]
    by_cases zero : value = 0
    · simp only [if_pos zero]
      rcases shows.put (Nat.lt_of_succ_lt room) '0' with ⟨sink, done, _, after⟩
      rw [done]
      exact ⟨sink, rfl, after⟩
    · simp only [if_neg zero]
      rcases fastSign_eq negatable shows room with ⟨signed, sign, place, after⟩
      rcases scratch_digits (Int.natAbs_pos.mpr zero) (natAbs_lt_of_fastType kind read) with
        ⟨s, grouped, digits⟩
      rcases puts_digits after place (Nat.toDigits 10 value.natAbs) with ⟨sink, done, ended⟩
      rw [sign]
      dsimp only [Option.bind_some]
      rw [grouped]
      dsimp only [Option.bind_some]
      rw [digits, done]
      rw [List.append_assoc] at ended
      exact ⟨sink, rfl, ended⟩

theorem length_fast_pos (value : Int) :
    0 < (if value = 0 then ['0'] else decimalText value).length := by
  split
  case isTrue => exact Nat.succ_pos _
  case isFalse =>
    rw [decimalText, List.length_append]
    exact Nat.add_pos_right _ Nat.length_toDigits_pos

/-- The text of an integer that is converted at once. -/
theorem integer_of_fastText {type : IntegerType} {more : Nat} {later : List Char}
    (kind : fastType model (ch :: format) = some (type, more))
    (text : fastText model (ch :: format) args = some (shown, later, left)) :
    Exists fun value => vaInteger type args = some (value, left) ∧
      ¬ (value < 0 ∧ type.high ≤ -value) ∧
      shown = (if value = 0 then ['0'] else decimalText value) ∧
      later = (ch :: format).drop (if value = 0 then 1 else 1 + more) := by
  rw [fastText, kind] at text
  rcases Option.bind_eq_some_iff.mp text with ⟨⟨value, rest⟩, read, made⟩
  dsimp only at made
  refine ⟨value, ?_⟩
  split at made
  case isTrue zero =>
    cases made
    have negatable : ¬ (value < 0 ∧ type.high ≤ -value) := fun negative =>
      Int.lt_irrefl 0 (zero ▸ negative.1)
    exact ⟨read, negatable, (if_pos zero).symm, by rw [if_pos zero]⟩
  case isFalse nonzero =>
    split at made
    case isTrue => cases made
    case isFalse negatable =>
      cases made
      exact ⟨read, negatable, (if_neg nonzero).symm, by rw [if_neg nonzero]⟩

/-- What else is converted at once is a character or a string. -/
theorem char_or_string_of_fastText {later : List Char}
    (no_integer : fastType model (ch :: format) = none)
    (text : fastText model (ch :: format) args = some (shown, later, left)) :
    later = format ∧
      ((ch = 'c' ∧ Exists fun value => vaInteger (.signed 32) args = some (value, left) ∧
        shown = [Char.ofNat (value % 256).toNat]) ∨
      (ch = 's' ∧ vaString args = some (some shown, left))) := by
  rw [fastText, no_integer] at text
  dsimp only at text
  rw [List.head?_cons] at text
  split at text
  case isTrue char =>
    rcases Option.map_eq_some_iff.mp text with ⟨⟨value, rest⟩, read, made⟩
    cases made
    exact ⟨rfl, .inl ⟨Option.some.inj char, value, read, rfl⟩⟩
  case isFalse =>
    split at text
    case isFalse => cases text
    case isTrue string =>
      rcases Option.bind_eq_some_iff.mp text with ⟨⟨value, rest⟩, read, made⟩
      dsimp only at made
      rcases Option.map_eq_some_iff.mp made with ⟨v, rfl, same⟩
      cases same
      exact ⟨rfl, .inr ⟨Option.some.inj string, read⟩⟩

theorem converts_fast_char (printer : Printer φ) {flags : PrintFlags} {value : Int}
    (unmarked : flag flags 'c' = none) (no_integer : fastType model ('c' :: format) = none)
    (read : vaInteger (.signed 32) args = some (value, left))
    (shows : Shows size printer.sink before) :
    Converts size
      ((printer.within .flags ⟨flags, 0, -1, .none, 'c' :: format, args⟩).stepFlags model size 'c')
      flags format left (before ++ [Char.ofNat (value % 256).toNat]) := by
  have shows_reading : Shows size
    (printer.within .flags ⟨flags, 0, -1, .none, 'c' :: format, args⟩).sink before := shows
  rw [stepFlags, unmarked]
  dsimp only
  rw [no_integer]
  dsimp only
  rw [if_pos rfl, read]
  dsimp only [Option.bind_some]
  split
  case isTrue room =>
    rcases shows_reading.put (Nat.lt_of_succ_lt room) (Char.ofNat (value % 256).toNat) with
      ⟨sink, done, _, after⟩
    rw [done]
    exact ⟨_, rfl, ⟨rfl, rfl, rfl, rfl, rfl, rfl, rfl⟩, after⟩
  case isFalse full =>
    exact ⟨_, rfl, ⟨rfl, rfl, rfl, rfl, rfl, rfl, rfl⟩,
      shows_reading.full (Nat.le_of_not_lt full) _⟩

theorem converts_fast_string (printer : Printer φ) {flags : PrintFlags}
    (unmarked : flag flags 's' = none) (no_integer : fastType model ('s' :: format) = none)
    (read : vaString args = some (some shown, left)) (shows : Shows size printer.sink before) :
    Converts size
      ((printer.within .flags ⟨flags, 0, -1, .none, 's' :: format, args⟩).stepFlags model size 's')
      flags format left (before ++ shown) := by
  rw [stepFlags, unmarked]
  dsimp only
  rw [no_integer]
  dsimp only
  rw [if_neg (by decide), if_pos rfl, read]
  dsimp only [Option.bind_some]
  rcases writes_putString shown _ _ shows with ⟨sink, done, after⟩
  rw [show putString size printer.sink shown = some sink from done]
  exact ⟨_, rfl, ⟨rfl, rfl, rfl, rfl, rfl, rfl, rfl⟩, after⟩

/-- A fast conversion, and the round that comes to it. -/
theorem fast_text (printer : Printer φ) (float : FloatText φ) {flags : PrintFlags}
    {later : List Char} (unmarked : flag flags ch = none)
    (text : fastText model (ch :: format) args = some (shown, later, left))
    (shows : Shows size printer.sink before) :
    let reading := printer.within .flags ⟨flags, 0, -1, .none, ch :: format, args⟩
    (later.length ≤ format.length ∧
      Converts size (reading.step model float size ch) flags later left (before ++ shown)) ∨
    Exists fun last => reading.step model float size ch = some (.over last false) ∧
      last.sink = printer.sink ∧ size ≤ printer.sink.len + 1 ∧
      size ≤ (before ++ shown).length := by
  have shows_reading : Shows size
    (printer.within .flags ⟨flags, 0, -1, .none, ch :: format, args⟩).sink before := shows
  dsimp only
  change (_ ∧ Converts size (stepFlags model size _ ch) _ _ _ _) ∨
    Exists fun last => stepFlags model size _ ch = _ ∧ _
  cases kind : fastType model (ch :: format) with
  | some found =>
    rcases found with ⟨type, more⟩
    rcases integer_of_fastText kind text with ⟨value, read, negatable, rfl, rfl⟩
    rw [stepFlags, unmarked]
    dsimp only
    rw [kind]
    dsimp only
    rcases fast_integer _ kind read negatable shows_reading with ⟨full, stops⟩ | ⟨sink, done, after⟩
    · refine .inr ⟨_, stops, rfl, full, ?_⟩
      have covered := shows.length_ge full
      have some_digit := length_fast_pos value
      rw [List.length_append]
      omega
    · refine .inl ⟨?_, _, done, ⟨rfl, rfl, rfl, rfl, rfl, rfl, rfl⟩, after⟩
      rw [List.length_drop, List.length_cons]
      split <;> omega
  | none =>
    rcases char_or_string_of_fastText kind text with
      ⟨rfl, ⟨rfl, value, read, rfl⟩ | ⟨rfl, read⟩⟩
    · exact .inl ⟨Nat.le_refl _, converts_fast_char printer unmarked kind read shows⟩
    · exact .inl ⟨Nat.le_refl _, converts_fast_string printer unmarked kind read shows⟩

/-! ## Whole formats -/

theorem Ready.eq {flags : PrintFlags} (ready : printer.Ready flags format args) :
    printer.within .default ⟨flags, 0, -1, .none, format, args⟩ = printer := by
  cases printer with
  | mk sink state _ width precision cflags _ _ stored =>
      rcases ready with ⟨rfl, rfl, rfl, rfl, rfl, rfl, rfl⟩
      rfl

/-- The machine comes through the flags behind a percent sign. -/
theorem comes_flags {flags after : PrintFlags} {behind : List Char}
    (ready : printer.Ready flags ('%' :: format) args)
    (read : readFlags flags format = (after, behind)) :
    Comes model float size printer
      (.value (printer.within .flags ⟨after, 0, -1, .none, behind, args⟩)) := by
  have percent : Comes model float size printer
      (.value (printer.within .flags ⟨flags, 0, -1, .none, format, args⟩)) := by
    have taken : Comes model float size
        (printer.within .default ⟨flags, 0, -1, .none, '%' :: format, args⟩)
        (.value (printer.within .flags ⟨flags, 0, -1, .none, format, args⟩)) :=
      comes_taken rfl rfl (Nat.lt_succ_self _)
    rw [ready.eq] at taken
    exact taken
  exact percent.trans ⟨rfl, fun result ends => ends_flags read rfl rfl ends⟩

/-- The machine reads a directive that is not fast. -/
theorem comes_slow {flags after : PrintFlags} {behind : List Char}
    (ready : printer.Ready flags ('%' :: format) args)
    (read : readFlags flags format = (after, behind)) (slow : isFast model behind = false) :
    Comes model float size printer
      ((readDirective after behind args).bind fun directive =>
        .value (printer.within .conv directive)) := by
  have unmarked : forall ch rest, behind = ch :: rest -> flag after ch = none := by
    intro ch rest begins
    rw [begins] at read
    exact flag_of_readFlags read
  have goes_on : Comes model float size
      (printer.within .flags ⟨after, 0, -1, .none, behind, args⟩)
      (.value (printer.within .width ⟨after, 0, -1, .none, behind, args⟩)) :=
    ⟨rfl, fun result ends => ends_slow slow rfl unmarked ends⟩
  exact ((comes_flags ready read).trans goes_on).trans
    (comes_directive printer after behind args)

/-- The rounds for a format put out its text, from every state between two directives.  A
loop that stops early has filled the buffer. -/
theorem ends_of_means (positive : 0 < size) {flags : PrintFlags} {text : List Char}
    {overflow : Bool} (means : Means model float flags format args text overflow)
    (ready : printer.Ready flags format args) (shows : Shows size printer.sink before) :
    Exists fun sink => Exists fun reported => Ends model float size printer (sink, reported) ∧
      Shows size sink (before ++ text) ∧
      (reported = overflow ∨ size ≤ (before ++ text).length) := by
  induction means generalizing printer before with
  | done flags args =>
      rw [List.append_nil]
      exact ⟨printer.sink, false, .done ready.format, shows, .inl rfl⟩
  | @literal flags ch format args text overflow plain rest inductionHypothesis =>
      rcases writes_outchar positive ch _ _ shows with ⟨middle, put, shows⟩
      have step : printer.step model float size ch =
          some (.next ({ printer with sink := middle }.skip 1)) := by
        rw [Printer.step, ready.state]
        dsimp only
        rw [if_neg plain, show printer.sink.outchar size ch = some middle from put]
        rfl
      have later : ({ printer with sink := middle }.skip 1).Ready flags format args := by
        refine ⟨ready.state, ready.flags, ready.width, ready.precision, ready.cflags, ?_,
          ready.args⟩
        rw [skip, ready.format]
        rfl
      rcases inductionHypothesis later shows with ⟨sink, reported, ends, after, result⟩
      rw [List.append_assoc] at after result
      have shorter : ({ printer with sink := middle }.skip 1).format.length <
          printer.format.length := by
        rw [later.format, ready.format]
        exact Nat.lt_succ_self _
      exact ⟨sink, reported, .next ready.format step (rank_lt shorter) ends, after, result⟩
  | @fast flags after format directive later args left shown text overflow read quick converted
      rest inductionHypothesis =>
      cases directive with
      | nil => cases quick
      | cons ch directive =>
          have comes : Comes model float size printer _ := comes_flags ready read
          rcases fast_text printer float (flag_of_readFlags read) converted
            shows with ⟨shorter, next, done, ready, shows⟩ | ⟨last, done, same, full, long⟩
          · rcases inductionHypothesis ready shows with ⟨sink, reported, ends, ended, result⟩
            rw [List.append_assoc] at ended result
            have nearer : next.rank <
                (printer.within .flags ⟨after, 0, -1, .none, ch :: directive, args⟩).rank := by
              apply rank_lt
              rw [ready.format]
              exact Nat.lt_succ_of_le shorter
            exact ⟨sink, reported, comes.2 _ (.next rfl done nearer ends), ended, result⟩
          · have longer : size ≤ (before ++ (shown ++ text)).length := by
              rw [← List.append_assoc, List.length_append]
              exact Nat.le_add_right_of_le long
            have shows := shows.full full (shown ++ text)
            rw [← same] at shows
            exact ⟨last.sink, false, comes.2 _ (.leaves rfl done), shows, .inr longer⟩
  | @plain flags after format behind later args left directive ch shown text overflow read slow
      whole last converted rest inductionHypothesis =>
      have comes : Comes model float size printer _ := comes_slow ready read slow
      rw [whole] at comes
      rcases converts_text positive shows last converted with ⟨next, done, ready, shows⟩
      rcases inductionHypothesis ready shows with ⟨sink, reported, ends, after, result⟩
      rw [List.append_assoc] at after result
      have nearer : next.rank < (printer.within .conv directive).rank := by
        apply rank_lt
        rw [ready.format]
        change _ < directive.format.length
        rw [last]
        exact Nat.lt_succ_self _
      exact ⟨sink, reported, comes.2 _ (.next last done nearer ends), after, result⟩
  | ended read slow whole nothing =>
      have comes : Comes model float size printer _ := comes_slow ready read slow
      rw [whole] at comes
      rw [List.append_nil]
      exact ⟨_, false, comes.2 _ (.done nothing), shows, .inl rfl⟩
  | tooLarge read slow whole =>
      have comes : Comes model float size printer _ := comes_slow ready read slow
      rw [whole] at comes
      rw [List.append_nil]
      exact ⟨_, true, comes, shows, .inl rfl⟩
  | overflow read slow whole last converted =>
      have comes : Comes model float size printer _ := comes_slow ready read slow
      rw [whole] at comes
      rcases over_text printer converted with ⟨stopped, done, same⟩
      rw [List.append_nil]
      exact ⟨_, true, comes.2 _ (.leaves last done), same ▸ shows, .inl rfl⟩

end Printer

/-- What the formatter leaves in the buffer and gives back. -/
structure Formatted (size : Nat) (text : List Char) (overflow : Bool) (buffer : List Char)
    (result : Int) : Prop where
  length : buffer.length = size
  shown : buffer.take (min text.length (size - 1) + 1) = text.take (size - 1) ++ ['\x00']
  fits : text.length < size -> (text.length : Int) < intMax ->
    result = if overflow then -1 else (text.length : Int)
  cut : size ≤ text.length -> result = -1 ∨ (size : Int) ≤ result + 1

/-- In a buffer that is not empty the formatter leaves what fits of the text, with a NUL. -/
theorem oVsnprintf_of_means {φ : Type u} {model : DataModel} {float : FloatText φ}
    {out format : List Char} {args : List (VarArg φ)} {text : List Char} {overflow : Bool}
    (positive : 0 < out.length) (means : Means model float .none format args text overflow) :
    Exists fun buffer => Exists fun result => Exists fun stored =>
      oVsnprintf model float out out.length format args = some (buffer, result, stored) ∧
      Formatted out.length text overflow buffer result := by
  have ready : (Printer.start out format args).Ready .none format args :=
    ⟨rfl, rfl, rfl, rfl, rfl, rfl, rfl⟩
  rcases Printer.ends_of_means positive means ready (.start out) with
    ⟨sink, reported, ends, shows, result⟩
  rw [List.nil_append] at shows result
  have enough : (Printer.start out format args).rank < 7 * format.length + 1 :=
    Nat.lt_succ_self _
  rcases Printer.run_of_ends ends enough with ⟨last, done, rfl⟩
  rcases shows.terminate positive '\x00' with ⟨next, stored, length, shown⟩
  let returned : Int :=
    if reported ∨ (last.sink.len : Int) ≥ intMax then -1 else (last.sink.len : Int)
  have whole : oVsnprintf model float out out.length format args =
      some (next.out, returned, last.stored) := by
    rw [oVsnprintf, if_neg (Nat.ne_of_gt positive), done]
    dsimp only [Option.bind_some]
    rw [stored]
    rfl
  refine ⟨next.out, returned, last.stored, whole, length, shown, fun short below => ?_,
    fun long => ?_⟩
  · dsimp only [returned]
    rw [shows.counted short]
    rcases result with rfl | long
    · simp only [ge_iff_le, Int.not_le.mpr below, or_false]
    · exact absurd long (Nat.not_le_of_lt short)
  · have stopped := shows.stopped long
    dsimp only [returned]
    split
    case isTrue => exact .inl rfl
    case isFalse => exact .inr (by omega)

end NetSystem
