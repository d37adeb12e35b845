import Mathlib.Data.List.Basic
import Mathlib.Tactic.Ring

namespace NetSystem

/-!
# Little-endian words

Natural numbers as byte lists of a given width, least significant byte first.
Writing and reading back reduces modulo the width, so a word that fits comes
back unchanged.
-/

/-- The low `width` bytes of a number. -/
def littleEndian : Nat -> Nat -> List UInt8
  | 0, _ => []
  | width + 1, value => UInt8.ofNat (value % 256) :: littleEndian width (value / 256)

/-- The number written in a list of bytes. -/
def fromLittleEndian : List UInt8 -> Nat
  | [] => 0
  | byte :: bytes => byte.toNat + 256 * fromLittleEndian bytes

@[simp] theorem length_littleEndian (width value : Nat) :
    (littleEndian width value).length = width := by
  induction width generalizing value with
  | zero => rfl
  | succ width inductionHypothesis => simp [littleEndian, inductionHypothesis]

theorem fromLittleEndian_littleEndian (width value : Nat) :
    fromLittleEndian (littleEndian width value) = value % 256 ^ width := by
  induction width generalizing value with
  | zero => simp [littleEndian, fromLittleEndian, Nat.mod_one]
  | succ width inductionHypothesis =>
      have low : (UInt8.ofNat (value % 256)).toNat = value % 256 := by
        rw [UInt8.toNat_ofNat']
        omega
      rw [littleEndian, fromLittleEndian, inductionHypothesis, low, Nat.pow_succ', Nat.mod_mul]

theorem fromLittleEndian_of_lt {width value : Nat} (fits : value < 256 ^ width) :
    fromLittleEndian (littleEndian width value) = value := by
  rw [fromLittleEndian_littleEndian, Nat.mod_eq_of_lt fits]

end NetSystem
