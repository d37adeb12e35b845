import NetSystem.Base.SnprintfFields
import NetSystem.Base.SnprintfRuns

namespace NetSystem

universe u

/-!
# Two ways to put out a number

A conversion right behind the percent sign takes its digits from a table, three at a time.
One that goes on to the width makes them one by one.  They put out the same.
-/

variable {φ : Type u} {model : DataModel} {float : FloatText φ} {format later : List Char}
  {args left : List (VarArg φ)} {value : Int}

theorem fastText_integer {type : IntegerType} {more : Nat}
    (kind : Printer.fastType model format = some (type, more))
    (read : vaInteger type args = some (value, left))
    (negatable : ¬ (value < 0 ∧ type.high ≤ -value)) (whole : more = 0 ∨ value ≠ 0) :
    fastText model format args = some (decimalText value, format.drop (1 + more), left) := by
  rw [fastText, kind]
  dsimp only
  rw [read]
  dsimp only [Option.bind_some]
  by_cases zero : value = 0
  · have single : more = 0 := whole.resolve_right fun nonzero => nonzero zero
    rw [if_pos zero, zero, single]
    rfl
  · rw [if_neg zero, if_neg negatable]

end NetSystem
