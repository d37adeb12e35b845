import NetSystem.Base.SnprintfText

namespace NetSystem

universe u v

/-!
# The formatter reads a directive

The state machine comes through the flags, the width, the precision and the length modifier
of a directive character by character, and puts nothing out.
-/

namespace Printer

variable {φ : Type u} {model : DataModel} {float : FloatText φ} {size : Nat}
  {printer next : Printer φ} {ch : Char} {format : List Char}
  {result : TextSink Char × Bool}

/-! ## Rounds -/

/-- The rounds in a directive until a character is taken. -/
def rank (printer : Printer φ) : Nat :=
  7 * printer.format.length +
    match printer.state with
    | .flags => 5
    | .width => 4
    | .dot => 3
    | .precision => 2
    | .mod => 1
    | .default | .conv => 0

theorem rank_le (printer : Printer φ) : printer.rank ≤ 7 * printer.format.length + 5 := by
  rw [rank]
  split <;> omega

/-- A round that takes characters. -/
theorem rank_lt (shorter : next.format.length < printer.format.length) :
    next.rank < printer.rank := by
  have above : 7 * printer.format.length ≤ printer.rank := Nat.le_add_right ..
  have below := next.rank_le
  omega

/-- What the loop ends with.  Every round comes nearer to the end of the format. -/
inductive Ends (model : DataModel) (float : FloatText φ) (size : Nat) :
    Printer φ -> TextSink Char × Bool -> Prop
  | done {printer : Printer φ} (empty : printer.format = []) :
      Ends model float size printer (printer.sink, false)
  | next {printer next : Printer φ} {ch : Char} {format : List Char}
      {result : TextSink Char × Bool} (begins : printer.format = ch :: format)
      (step : printer.step model float size ch = some (.next next))
      (nearer : next.rank < printer.rank) (rest : Ends model float size next result) :
      Ends model float size printer result
  | leaves {printer last : Printer φ} {ch : Char} {format : List Char} {overflow : Bool}
      (begins : printer.format = ch :: format)
      (step : printer.step model float size ch = some (.over last overflow)) :
      Ends model float size printer (last.sink, overflow)

theorem run_of_ends (ends : Ends model float size printer result) {fuel : Nat}
    (enough : printer.rank < fuel) :
    Exists fun last => run model float size fuel printer = some (last, result.2) ∧
      last.sink = result.1 := by
  induction ends generalizing fuel with
  | done empty =>
      cases fuel with
      | zero => exact absurd enough (Nat.not_lt_zero _)
      | succ fuel =>
          rw [run, empty]
          exact ⟨_, rfl, rfl⟩
  | next begins step nearer _ inductionHypothesis =>
      cases fuel with
      | zero => exact absurd enough (Nat.not_lt_zero _)
      | succ fuel =>
          rw [run, begins]
          dsimp only
          rw [step]
          exact inductionHypothesis (Nat.lt_of_lt_of_le nearer (Nat.le_of_lt_succ enough))
  | leaves begins step =>
      cases fuel with
      | zero => exact absurd enough (Nat.not_lt_zero _)
      | succ fuel =>
          rw [run, begins]
          dsimp only
          rw [step]
          exact ⟨_, rfl, rfl⟩

/-- At the end of the format the state makes no difference. -/
theorem Ends.of_nil (ends : Ends model float size next result) (empty : next.format = [])
    (here : printer.format = []) (same : next.sink = printer.sink) :
    Ends model float size printer result := by
  cases ends with
  | done =>
      rw [same]
      exact .done here
  | next begins =>
      rw [empty] at begins
      cases begins
  | leaves begins =>
      rw [empty] at begins
      cases begins

/-! ## The parts of a directive -/

theorem ends_flags {after : PrintFlags} {behind : List Char}
    (read : readFlags printer.flags format = (after, behind)) (state : printer.state = .flags)
    (begins : printer.format = format)
    (rest : Ends model float size { printer with flags := after, format := behind } result) :
    Ends model float size printer result := by
  induction format generalizing printer with
  | nil =>
      cases read
      rw [← begins] at rest
      exact rest
  | cons ch format inductionHypothesis =>
      rw [readFlags] at read
      cases marked : flag printer.flags ch with
      | none =>
          rw [marked] at read
          cases read
          rw [← begins] at rest
          exact rest
      | some flags =>
          rw [marked] at read
          have step : printer.step model float size ch =
              some (.next ({ printer with flags := flags }.skip 1)) := by
            rw [Printer.step, state]
            dsimp only
            rw [stepFlags, marked]
            dsimp only
            rw [state]
          refine .next begins step (rank_lt ?_) (inductionHypothesis read state ?_ rest)
          · change (printer.format.drop 1).length < _
            rw [begins]
            exact Nat.lt_succ_self _
          · change printer.format.drop 1 = format
            rw [begins]
            rfl

theorem flag_of_readFlags {flags after : PrintFlags} {behind : List Char}
    (read : readFlags flags format = (after, ch :: behind)) : flag after ch = none := by
  induction format generalizing flags with
  | nil => cases read
  | cons first format inductionHypothesis =>
      rw [readFlags] at read
      cases marked : flag flags first with
      | none =>
          rw [marked] at read
          cases read
          exact marked
      | some flags =>
          rw [marked] at read
          exact inductionHypothesis read

/-- A directive that is not fast goes on to the width. -/
theorem ends_slow (slow : isFast model printer.format = false) (state : printer.state = .flags)
    (unmarked : forall ch format, printer.format = ch :: format -> flag printer.flags ch = none)
    (rest : Ends model float size { printer with state := .width } result) :
    Ends model float size printer result := by
  cases begins : printer.format with
  | nil => exact rest.of_nil begins begins rfl
  | cons ch format =>
      rw [isFast, Bool.or_eq_false_iff, begins] at slow
      rcases slow with ⟨no_integer, other⟩
      have kind : fastType model (ch :: format) = none := by
        cases known : fastType model (ch :: format) with
        | none => rfl
        | some found =>
            rw [known] at no_integer
            cases no_integer
      have others : ch ≠ 'c' ∧ ch ≠ 's' ∧ ch ≠ 'N' := by
        simp only [List.head?_cons, List.mem_cons, Option.some.injEq, List.not_mem_nil, or_false,
          decide_eq_false_iff_not, not_or] at other
        exact other
      have step : printer.step model float size ch =
          some (.next { printer with state := .width }) := by
        rw [Printer.step, state]
        dsimp only
        rw [stepFlags, unmarked ch format begins, begins, kind]
        dsimp only
        rw [if_neg others.1, if_neg others.2.1, if_neg others.2.2]
      refine .next begins step ?_ rest
      rw [rank, rank, state]
      exact Nat.lt_succ_self _

/-! ## Width, precision and length -/

/-- The machine comes to what is read, without putting anything out. -/
def Comes (model : DataModel) (float : FloatText φ) (size : Nat) (printer : Printer φ) :
    FormatPart (Printer φ) -> Prop
  | .missing => True
  | .overflow => Ends model float size printer (printer.sink, true)
  | .value next => next.sink = printer.sink ∧
      forall result, Ends model float size next result -> Ends model float size printer result

theorem Comes.here (printer : Printer φ) : Comes model float size printer (.value printer) :=
  ⟨rfl, fun _ ends => ends⟩

theorem Comes.trans {reading : FormatPart (Printer φ)}
    (comes : Comes model float size printer (.value next))
    (rest : Comes model float size next reading) : Comes model float size printer reading := by
  rcases comes with ⟨same, back⟩
  cases reading with
  | missing => exact True.intro
  | overflow =>
      have ends := back _ rest
      rw [same] at ends
      exact ends
  | value last => exact ⟨rest.1.trans same, fun result ends => back result (rest.2 result ends)⟩

/-- One reading after another. -/
theorem Comes.bind {α : Type v} {reading : FormatPart α} {at_ : α -> Printer φ}
    {more : α -> FormatPart (Printer φ)}
    (comes : Comes model float size printer (reading.bind fun a => .value (at_ a)))
    (rest : forall a, reading = .value a -> Comes model float size (at_ a) (more a)) :
    Comes model float size printer (reading.bind more) := by
  cases reading with
  | missing => exact True.intro
  | overflow => exact comes
  | value a => exact comes.trans (rest a rfl)

/-- A round, if there is a character left, that puts nothing out. -/
theorem Comes.round (same : next.sink = printer.sink)
    (empty : printer.format = [] -> next.format = [])
    (step : forall ch format, printer.format = ch :: format ->
      printer.step model float size ch = some (.next next) ∧ next.rank < printer.rank) :
    Comes model float size printer (.value next) := by
  refine ⟨same, fun result ends => ?_⟩
  cases begins : printer.format with
  | nil => exact ends.of_nil (empty begins) begins same
  | cons ch format =>
      rcases step ch format begins with ⟨done, nearer⟩
      exact .next begins done nearer ends

theorem charToInt_nonneg (digit : isDigit ch = true) : 0 ≤ charToInt ch := by
  rw [isDigit, Bool.and_eq_true, decide_eq_true_eq] at digit
  have least : 48 ≤ ch.toNat := digit.1
  rw [charToInt]
  omega

/-- The digits of a number, in a state that takes them one by one. -/
theorem comes_number (at_ : Int -> List Char -> Printer φ)
    (form : forall value format, (at_ value format).format = format ∧
      (at_ value format).sink = (at_ 0 []).sink)
    (step : forall value ch format, 0 ≤ value -> isDigit ch = true ->
      (at_ value (ch :: format)).step model float size ch =
        if value > (intMax - charToInt ch) / 10 then
          some (.over (at_ value (ch :: format)) true)
        else some (.next (at_ (10 * value + charToInt ch) format)))
    {value : Int} (nonneg : 0 ≤ value) (format : List Char) :
    Comes model float size (at_ value format)
      ((readNumber value format).bind fun (value, format) => .value (at_ value format)) := by
  induction format generalizing value with
  | nil => exact .here _
  | cons ch format inductionHypothesis =>
      rw [readNumber]
      by_cases digit : isDigit ch = true
      · have round := step value ch format nonneg digit
        rw [if_pos digit]
        by_cases large : value > (intMax - charToInt ch) / 10
        · rw [if_pos large] at round ⊢
          exact .leaves (form _ _).1 round
        · rw [if_neg large] at round ⊢
          have more := charToInt_nonneg digit
          have above : 0 ≤ 10 * value + charToInt ch := by omega
          apply Comes.trans (.round _ _ _) (inductionHypothesis above)
          · rw [(form _ _).2, (form value (ch :: format)).2]
          · rw [(form _ _).1]
            intro empty
            cases empty
          · intro first rest begins
            rw [(form _ _).1] at begins
            cases begins
            refine ⟨round, rank_lt ?_⟩
            rw [(form _ _).1, (form _ _).1]
            exact Nat.lt_succ_self _
      · rw [if_neg digit]
        exact .here _

theorem not_digit_of_readNumber {value number : Int} {behind : List Char}
    (read : readNumber value format = .value (number, ch :: behind)) : isDigit ch = false := by
  induction format generalizing value with
  | nil => cases read
  | cons first format inductionHypothesis =>
      rw [readNumber] at read
      cases digit : isDigit first with
      | false =>
          rw [digit] at read
          cases read
          exact digit
      | true =>
          rw [digit, if_pos rfl] at read
          split at read
          case isTrue => cases read
          case isFalse => exact inductionHypothesis read

theorem nonneg_of_readNumber {value number : Int} {behind : List Char} (nonneg : 0 ≤ value)
    (read : readNumber value format = .value (number, behind)) : 0 ≤ number := by
  induction format generalizing value with
  | nil =>
      cases read
      exact nonneg
  | cons first format inductionHypothesis =>
      rw [readNumber] at read
      by_cases digit : isDigit first = true
      · rw [if_pos digit] at read
        split at read
        case isTrue => cases read
        case isFalse =>
          have more := charToInt_nonneg digit
          exact inductionHypothesis (by omega) read
      · rw [if_neg digit] at read
        cases read
        exact nonneg

/-- The machine with what it knows of a directive. -/
abbrev within (printer : Printer φ) (state : PrintState) (directive : Directive φ) : Printer φ :=
  { printer with
    state := state
    flags := directive.flags
    width := directive.width
    precision := directive.precision
    cflags := directive.cflags
    format := directive.format
    args := directive.args }

/-- A character of a directive that is not taken. -/
theorem comes_later {directive : Directive φ} {state later : PrintState}
    (step : forall ch format, directive.format = ch :: format ->
      (printer.within state directive).step model float size ch =
        some (.next (printer.within later directive)))
    (nearer : (printer.within later directive).rank < (printer.within state directive).rank) :
    Comes model float size (printer.within state directive)
      (.value (printer.within later directive)) :=
  .round rfl id fun ch format begins => ⟨step ch format begins, nearer⟩

/-- A character of a directive that is taken. -/
theorem comes_taken {directive after : Directive φ} {state later : PrintState}
    {behind : List Char} (begins : directive.format = ch :: behind)
    (step : (printer.within state directive).step model float size ch =
      some (.next (printer.within later after)))
    (shorter : after.format.length < directive.format.length) :
    Comes model float size (printer.within state directive)
      (.value (printer.within later after)) := by
  refine .round rfl (fun empty => ?_) fun first rest same => ?_
  · rw [within, begins] at empty
    cases empty
  · cases begins.symm.trans same
    exact ⟨step, rank_lt shorter⟩

theorem comes_width (printer : Printer φ) (flags : PrintFlags) (format : List Char)
    (args : List (VarArg φ)) :
    Comes model float size (printer.within .width ⟨flags, 0, -1, .none, format, args⟩)
      ((readWidth flags format args).bind fun directive =>
        .value (printer.within .dot directive)) := by
  have number : Comes model float size
      (printer.within .width ⟨flags, 0, -1, .none, format, args⟩)
      ((readNumber 0 format).bind fun (width, format) =>
        .value (printer.within .width ⟨flags, width, -1, .none, format, args⟩)) := comes_number
    (fun width format => printer.within .width ⟨flags, width, -1, .none, format, args⟩)
    (fun _ _ => ⟨rfl, rfl⟩) (fun width ch format _ digit => by
      rw [Printer.step]
      dsimp only [within]
      rw [stepWidth, if_pos digit]
      rfl) (Int.le_refl 0) format
  rw [readWidth, FormatPart.bind_assoc]
  refine number.bind fun ⟨width, behind⟩ read => ?_
  dsimp only
  cases behind with
  | nil => exact comes_later (fun _ _ begins => nomatch begins) (Nat.lt_succ_self _)
  | cons ch behind =>
      have no_digit : ¬ isDigit ch = true := by
        rw [not_digit_of_readNumber read]
        exact Bool.false_ne_true
      have step : (printer.within .width ⟨flags, width, -1, .none, ch :: behind, args⟩).step
          model float size ch =
          (printer.within .width ⟨flags, width, -1, .none, ch :: behind, args⟩).stepWidth ch := rfl
      rw [stepWidth, if_neg no_digit] at step
      rw [List.head?_cons]
      by_cases star : ch = '*'
      · rw [if_pos (congrArg some star)]
        rw [if_pos star] at step
        dsimp only [within] at step
        cases taken : vaInteger (.signed 32) args with
        | none => exact True.intro
        | some found =>
            rcases found with ⟨width, args⟩
            rw [taken] at step
            dsimp only [Option.bind_some] at step
            dsimp only [FormatPart.ofOption, FormatPart.bind]
            split at step
            case isTrue negative =>
              rw [if_pos negative]
              split at step
              case isTrue inside =>
                rw [if_pos inside]
                refine comes_taken rfl ?_ (Nat.lt_succ_self _)
                exact step
              case isFalse outside =>
                rw [if_neg outside]
                exact True.intro
            case isFalse nonneg =>
              rw [if_neg nonneg]
              refine comes_taken rfl ?_ (Nat.lt_succ_self _)
              exact step
      · rw [if_neg fun same => star (Option.some.inj same)]
        rw [if_neg star] at step
        refine comes_later (fun _ _ begins => ?_) (Nat.lt_succ_self _)
        cases begins
        exact step

theorem of_readWidth {flags : PrintFlags} {args : List (VarArg φ)} {directive : Directive φ}
    (read : readWidth flags format args = .value directive) :
    directive.precision = -1 ∧ directive.cflags = .none := by
  rw [readWidth] at read
  cases number : readNumber 0 format with
  | missing =>
      rw [number] at read
      cases read
  | overflow =>
      rw [number] at read
      cases read
  | value found =>
      rw [number] at read
      dsimp only [FormatPart.bind] at read
      split at read
      case isFalse =>
        cases read
        exact ⟨rfl, rfl⟩
      case isTrue =>
        cases taken : vaInteger (.signed 32) args with
        | none =>
            rw [taken] at read
            cases read
        | some found =>
            rw [taken] at read
            dsimp only [FormatPart.ofOption] at read
            split at read
            case isFalse =>
              cases read
              exact ⟨rfl, rfl⟩
            case isTrue =>
              split at read <;> cases read
              exact ⟨rfl, rfl⟩

theorem stepPrecision_of_ne (set : printer.precision ≠ -1) :
    printer.stepPrecision ch =
      if isDigit ch then
        if printer.precision > (intMax - charToInt ch) / 10 then some (.over printer true)
        else
          some (.next ({ printer with
            precision := 10 * printer.precision + charToInt ch }.skip 1))
      else if ch = '*' then
        (vaInteger (.signed 32) printer.args).map fun (precision, args) =>
          .next ({ printer with
            precision := if precision < 0 then -1 else precision
            args := args
            state := .mod }.skip 1)
      else some (.next { printer with state := .mod }) := by
  rw [stepPrecision]
  dsimp only
  rw [if_neg set]

/-- The first digit of a precision begins with nothing. -/
theorem comes_zero (printer : Printer φ) (directive : Directive φ)
    (unset : directive.precision = -1) :
    Comes model float size (printer.within .precision directive)
      (.value (printer.within .precision { directive with precision := 0 })) := by
  have step : forall ch, (printer.within .precision directive).step model float size ch =
      (printer.within .precision { directive with precision := 0 }).step model float size ch := by
    intro ch
    rw [Printer.step, Printer.step]
    dsimp only [within]
    rw [stepPrecision, stepPrecision]
    dsimp only
    rw [if_pos unset, if_neg (show ¬ (0 : Int) = -1 by decide)]
  refine ⟨rfl, fun result ends => ?_⟩
  cases ends with
  | done empty => exact .done empty
  | next begins done nearer rest => exact .next begins ((step _).trans done) nearer rest
  | leaves begins done => exact .leaves begins ((step _).trans done)

theorem comes_precision (printer : Printer φ) (directive : Directive φ)
    (unset : directive.precision = -1) :
    Comes model float size (printer.within .dot directive)
      (directive.readPrecision.bind fun directive =>
        .value (printer.within .mod directive)) := by
  have dot : forall ch, (printer.within .dot directive).step model float size ch =
      some ((printer.within .dot directive).stepDot ch) := fun _ => rfl
  rw [Directive.readPrecision]
  by_cases dotted : directive.format.head? = some '.'
  · rw [if_pos dotted]
    rcases List.head?_eq_some_iff.mp dotted with ⟨format, begins⟩
    have first := dot '.'
    rw [stepDot, if_pos rfl] at first
    rw [begins, List.drop_one, List.tail_cons]
    have number : Comes model float size
        (printer.within .precision { directive with precision := 0, format := format })
        ((readNumber 0 format).bind fun (precision, format) =>
          .value (printer.within .precision
            { directive with precision := precision, format := format })) := comes_number
      (fun precision format =>
        printer.within .precision { directive with precision := precision, format := format })
      (fun _ _ => ⟨rfl, rfl⟩) (fun precision ch format nonneg digit => by
        have set : precision ≠ -1 := by omega
        rw [Printer.step]
        dsimp only [within]
        rw [stepPrecision_of_ne set, if_pos digit]
        rfl) (Int.le_refl 0) format
    have start : Comes model float size (printer.within .dot directive)
        (.value (printer.within .precision { directive with format := format })) := by
      refine comes_taken begins ?_ (by rw [begins]; exact Nat.lt_succ_self _)
      rw [first, skip, within, within, begins]
      rfl
    rw [FormatPart.bind_assoc]
    refine (start.trans ((comes_zero printer { directive with format := format } unset).trans number)).bind
      fun ⟨precision, behind⟩ read => ?_
    dsimp only
    cases behind with
    | nil => exact comes_later (fun _ _ begins => nomatch begins) (Nat.lt_succ_self _)
    | cons ch behind =>
        have no_digit : ¬ isDigit ch = true := by
          rw [not_digit_of_readNumber read]
          exact Bool.false_ne_true
        have set : precision ≠ -1 := by
          have above := nonneg_of_readNumber (Int.le_refl 0) read
          omega
        have step : (printer.within .precision
              { directive with precision := precision, format := ch :: behind }).step
            model float size ch =
            (printer.within .precision
              { directive with precision := precision, format := ch :: behind }).stepPrecision ch :=
          rfl
        rw [stepPrecision_of_ne set, if_neg no_digit] at step
        dsimp only [within] at step
        rw [List.head?_cons]
        by_cases star : ch = '*'
        · rw [if_pos (congrArg some star)]
          rw [if_pos star] at step
          cases taken : vaInteger (.signed 32) directive.args with
          | none => exact True.intro
          | some found =>
              rw [taken] at step
              exact comes_taken rfl step (Nat.lt_succ_self _)
        · rw [if_neg fun same => star (Option.some.inj same)]
          rw [if_neg star] at step
          refine comes_later (fun _ _ begins => ?_) (Nat.lt_succ_self _)
          cases begins
          exact step
  · rw [if_neg dotted]
    refine comes_later (fun ch format begins => ?_) (Nat.add_lt_add_left (by decide : 1 < 3) _)
    rw [dot, stepDot, if_neg fun same => dotted (by rw [begins, same]; rfl)]

theorem cflags_of_readPrecision {directive after : Directive φ}
    (read : directive.readPrecision = .value after) : after.cflags = directive.cflags := by
  rw [Directive.readPrecision] at read
  split at read
  case isFalse =>
    cases read
    rfl
  case isTrue =>
    cases number : readNumber 0 (directive.format.drop 1) with
    | missing =>
        rw [number] at read
        cases read
    | overflow =>
        rw [number] at read
        cases read
    | value found =>
        rw [number] at read
        dsimp only [FormatPart.bind] at read
        split at read
        case isFalse =>
          cases read
          rfl
        case isTrue =>
          cases taken : vaInteger (.signed 32) directive.args with
          | none =>
              rw [taken] at read
              cases read
          | some found =>
              rw [taken] at read
              cases read
              rfl

theorem comes_length (printer : Printer φ) (directive : Directive φ)
    (unset : directive.cflags = .none) :
    Comes model float size (printer.within .mod directive)
      (.value (printer.within .conv directive.readLength)) := by
  refine .round rfl (fun empty => ?_) fun ch format begins => ?_
  · change directive.format = [] at empty
    change directive.format.drop _ = []
    rw [empty, List.drop_nil]
  · have none : (lengthModifier directive.format).2 = 0 ->
        directive.cflags = (lengthModifier directive.format).1 := by
      rw [unset]
      intro zero
      unfold lengthModifier at zero ⊢
      split at zero <;> first | exact absurd zero (by decide) | rfl
    constructor
    · rw [Printer.step]
      dsimp only [within]
      rw [stepMod, Directive.readLength]
      dsimp only [skip]
      congr 3
      split
      case isTrue zero => exact none zero
      case isFalse => rfl
    · change 7 * (directive.format.drop _).length + 0 < 7 * directive.format.length + 1
      rw [List.length_drop]
      omega

/-- The machine reads a directive. -/
theorem comes_directive (printer : Printer φ) (flags : PrintFlags) (format : List Char)
    (args : List (VarArg φ)) :
    Comes model float size (printer.within .width ⟨flags, 0, -1, .none, format, args⟩)
      ((readDirective flags format args).bind fun directive =>
        .value (printer.within .conv directive)) := by
  rw [readDirective, FormatPart.bind_assoc]
  refine (comes_width printer flags format args).bind fun directive read => ?_
  rcases of_readWidth read with ⟨precision, cflags⟩
  rw [FormatPart.bind_assoc]
  refine (comes_precision printer directive precision).bind fun after read => ?_
  exact comes_length printer after ((cflags_of_readPrecision read).trans cflags)

end Printer
end NetSystem
