import NetSystem.Base.SnprintfText

namespace NetSystem

/-!
# The width of a field

A width pads what a conversion puts out without one, by as much as is missing.
-/

theorem getnumsep_succ (digits : Nat) :
    getnumsep (digits + 1) = getnumsep digits + if digits % 3 = 0 then 1 else 0 := by
  rw [getnumsep, getnumsep]
  split <;> split <;> omega

theorem getnumsep_nonneg {digits : Nat} (positive : 0 < digits) : 0 ≤ getnumsep digits := by
  rw [getnumsep]
  split <;> omega

/-- `getnumsep` counts the commas. -/
theorem length_separated {digits : List Char} (some_digit : 0 < digits.length) {separators : Int}
    (grouping : 0 < separators) :
    ((separated separators digits).length : Int) = digits.length + getnumsep digits.length := by
  induction digits with
  | nil => exact absurd some_digit (Nat.lt_irrefl 0)
  | cons digit digits inductionHypothesis =>
      cases digits with
      | nil =>
          have one : getnumsep 1 = 0 := by decide
          rw [separated, if_neg fun grouped => Nat.lt_irrefl 0 grouped.2.1, separated,
            List.length_singleton, one]
          rfl
      | cons second digits =>
          have rest := inductionHypothesis (Nat.succ_pos _)
          rw [List.length_cons] at rest
          rw [separated, List.length_cons, List.length_cons, List.length_cons,
            getnumsep_succ (digits.length + 1)]
          by_cases group : (digits.length + 1) % 3 = 0
          · rw [if_pos ⟨grouping, Nat.succ_pos _, group⟩, if_pos group, List.length_cons,
              List.length_cons]
            omega
          · rw [if_neg fun grouped => group grouped.2.2, if_neg group, List.length_cons]
            omega

theorem separated_none (digits : List Char) : separated 0 digits = digits := by
  induction digits with
  | nil => rfl
  | cons digit digits inductionHypothesis =>
      rw [separated, if_neg fun grouped => Int.lt_irrefl 0 grouped.1, inductionHypothesis]

theorem length_grouped (quote : Bool) {digits : List Char} (some_digit : 0 < digits.length) :
    ((separated (if quote then getnumsep digits.length else 0) digits).length : Int) =
      digits.length + if quote then getnumsep digits.length else 0 := by
  cases quote with
  | false => simp only [Bool.false_eq_true, if_false, separated_none, Int.add_zero]
  | true =>
      simp only [if_true]
      rcases Int.lt_or_eq_of_le (getnumsep_nonneg some_digit) with grouping | none
      · exact length_separated some_digit grouping
      · rw [← none, separated_none, Int.add_zero]

/-- The sign of a number, with the prefix of a hexadecimal one. -/
def fieldSign (value : Int) (base : Nat) (flags : PrintFlags) : List Char :=
  match fmtintValue value flags with
  | none => []
  | some (uvalue, sign) =>
      sign.toList ++
        if (flags.num ∧ uvalue ≠ 0) ∧ base = 16 then ['0', if flags.up then 'X' else 'x'] else []

/-- A field of a width: on the left, padded with zeros, or on the right. -/
def padField (flags : PrintFlags) (precision : Int) (missing sign : Nat) (natural : List Char) :
    List Char :=
  if flags.minus then natural ++ List.replicate missing ' '
  else if flags.zero ∧ precision = -1 then
    natural.take sign ++ List.replicate missing '0' ++ natural.drop sign
  else List.replicate missing ' ' ++ natural

/-- The parts of a number in a field. -/
def numberField (flags : PrintFlags) (precision : Int) (sign digits : List Char)
    (zeros padding : Nat) : List Char :=
  if flags.minus then
    sign ++ List.replicate zeros '0' ++ digits ++ List.replicate padding ' '
  else if flags.zero ∧ precision = -1 then
    sign ++ List.replicate (zeros + padding) '0' ++ digits
  else List.replicate padding ' ' ++ sign ++ List.replicate zeros '0' ++ digits

theorem length_numberField (flags : PrintFlags) (precision : Int) (sign digits : List Char)
    (zeros padding : Nat) :
    (numberField flags precision sign digits zeros padding).length =
      sign.length + zeros + digits.length + padding := by
  rw [numberField]
  split
  case isTrue => simp only [List.length_append, List.length_replicate]
  case isFalse =>
    split <;> simp only [List.length_append, List.length_replicate] <;> omega

/-- Padding may be added later. -/
theorem padField_numberField (flags : PrintFlags) (precision : Int) (sign digits : List Char)
    (zeros padding : Nat) :
    padField flags precision padding sign.length
        (numberField flags precision sign digits zeros 0) =
      numberField flags precision sign digits zeros padding := by
  rw [padField, numberField, numberField]
  split
  case isTrue => rw [List.replicate_zero, List.append_nil]
  case isFalse =>
    split
    case isTrue =>
      simp only [Nat.add_zero, List.append_assoc, List.take_left, List.drop_left]
      rw [← List.append_assoc (List.replicate padding '0'), ← List.replicate_add,
        Nat.add_comm padding]
    case isFalse =>
      simp only [List.replicate_zero, List.nil_append, List.append_assoc]

theorem length_convert_pos (base : Nat) (caps : Bool) (uvalue : Nat) :
    0 < (convert base caps maxConvertLength uvalue).reverse.length := by
  rw [List.length_reverse]
  exact Nat.succ_pos _

/-- A width adds to a number what is missing, behind the sign if that is zeros. -/
theorem fmtintText_width {value : Int} {base : Nat} {width precision : Int} {flags : PrintFlags}
    {natural : List Char}
    (whole : flags.quote = false ∨ base = 10 ∧ precision = -1)
    (plain : fmtintText value base 0 precision flags = some natural) :
    fmtintText value base width precision flags =
      some (padField flags precision (width - natural.length).toNat
        (fieldSign value base flags).length natural) := by
  rcases Option.map_eq_some_iff.mp plain with ⟨⟨uvalue, sign⟩, taken, shown⟩
  rw [fmtintText, fieldSign, taken, Option.map_some]
  dsimp only at shown ⊢
  have some_digit := length_convert_pos base flags.up uvalue
  have grouped := length_grouped flags.quote some_digit
  generalize (convert base flags.up maxConvertLength uvalue).reverse = digits at *
  generalize hexprefix_eq : (if (flags.num = true ∧ uvalue ≠ 0) ∧ base = 16 then
    ['0', if flags.up = true then 'X' else 'x'] else []) = hexprefix at *
  generalize least_eq : (if (flags.num = true ∧ uvalue ≠ 0) ∧ base = 8 ∧
    precision ≤ (digits.length : Int) then (digits.length : Int) + 1 else precision) = least at *
  generalize separators_eq : (if flags.quote = true then getnumsep digits.length else 0) =
    separators at *
  have nonneg_separators : 0 ≤ separators := by
    rw [← separators_eq]
    split
    case isTrue => exact getnumsep_nonneg some_digit
    case isFalse => exact Int.le_refl 0
  have short : separators = 0 ∨ least = -1 := by
    rcases whole with no_quote | ⟨ten, unset⟩
    · rw [no_quote, if_neg Bool.false_ne_true] at separators_eq
      exact .inl separators_eq.symm
    · rw [if_neg fun octal => absurd (ten.symm.trans octal.2.1) (by decide), unset] at least_eq
      exact .inr least_eq.symm
  have no_padding : (0 - separators - max least digits.length - (sign.toList.length : Int) -
      hexprefix.length).toNat = 0 := by omega
  rw [no_padding] at shown
  have natural_eq : numberField flags precision (sign.toList ++ hexprefix)
      (separated separators digits) (least - digits.length - separators).toNat 0 = natural := shown
  have missing : (width - separators - max least digits.length - (sign.toList.length : Int) -
      hexprefix.length).toNat = (width - natural.length).toNat := by
    rw [← natural_eq, length_numberField, List.length_append]
    omega
  rw [missing, ← natural_eq, padField_numberField]
  rfl

/-- Whatever room there is, `fmtint` puts out a number in a field of the width, unless it is
grouped and has a precision or a base that needs a zero in front. -/
theorem fmtint_field {value : Int} {base : Nat} {precision : Int} {flags : PrintFlags}
    (negatable : flags.unsigned = true ∨ value ≠ -2 ^ 63)
    (whole : flags.quote = false ∨ base = 10 ∧ precision = -1) :
    Exists fun natural => forall size, 0 < size ->
      TextSink.Writes size (fun sink => fmtint size sink value base 0 precision flags) natural ∧
      forall width,
        TextSink.Writes size (fun sink => fmtint size sink value base width precision flags)
          (padField flags precision (width - natural.length).toNat
            (fieldSign value base flags).length natural) := by
  have made : Exists fun taken => fmtintValue value flags = some taken := by
    rw [fmtintValue]
    by_cases unsigned : flags.unsigned = true
    · rw [if_pos unsigned]
      exact ⟨_, rfl⟩
    · rw [if_neg unsigned, if_neg (negatable.resolve_left unsigned)]
      exact ⟨_, rfl⟩
  rcases made with ⟨taken, made⟩
  rcases (⟨_, by rw [fmtintText, made]; rfl⟩ :
    Exists fun natural => fmtintText value base 0 precision flags = some natural) with
    ⟨natural, plain⟩
  exact ⟨natural, fun size positive => ⟨writes_fmtint positive plain, fun width =>
    writes_fmtint positive (fmtintText_width whole plain)⟩⟩

theorem fmtint_field_hex :
    Exists fun natural => forall size, 0 < size ->
      TextSink.Writes size (fun sink => fmtint size sink 255 16 0 (-1)
        { PrintFlags.none with num := true, zero := true, unsigned := true }) natural ∧
      forall width,
        TextSink.Writes size (fun sink => fmtint size sink 255 16 width (-1)
          { PrintFlags.none with num := true, zero := true, unsigned := true })
          (padField { PrintFlags.none with num := true, zero := true, unsigned := true } (-1)
            (width - natural.length).toNat
            (fieldSign 255 16
              { PrintFlags.none with num := true, zero := true, unsigned := true }).length
            natural) :=
  fmtint_field (.inl rfl) (.inl rfl)

end NetSystem
