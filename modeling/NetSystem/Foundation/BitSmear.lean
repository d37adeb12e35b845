import Mathlib.Tactic.Ring

namespace NetSystem

/-!
# Powers of two from smeared bits

Or-ing a number with its shifts sets all bits below its highest one.  The number behind it
is the next power of two.
-/

/-- The second number has the bits that are less than `width` places below bits of the
first one. -/
def SmearedBy (width x y : Nat) : Prop :=
  forall index, y.testBit index = true ↔
    Exists fun above => above < width ∧ x.testBit (index + above) = true

namespace SmearedBy

variable {width x y : Nat}

theorem one (x : Nat) : SmearedBy 1 x x := by
  intro index
  constructor
  · exact fun set => ⟨0, Nat.zero_lt_one, set⟩
  · rintro ⟨above, within, set⟩
    rw [Nat.lt_one_iff.mp within] at set
    exact set

/-- A shift by the width doubles it. -/
theorem double (smeared : SmearedBy width x y) :
    SmearedBy (width + width) x (y ||| y >>> width) := by
  intro index
  rw [Nat.testBit_or, Nat.testBit_shiftRight, Bool.or_eq_true, smeared, smeared]
  constructor
  · rintro (⟨above, within, set⟩ | ⟨above, within, set⟩)
    · exact ⟨above, by omega, set⟩
    · refine ⟨width + above, by omega, ?_⟩
      rw [← Nat.add_assoc, Nat.add_comm index width]
      exact set
  · rintro ⟨above, within, set⟩
    by_cases less : above < width
    · exact .inl ⟨above, less, set⟩
    · refine .inr ⟨above - width, by omega, ?_⟩
      have place : width + index + (above - width) = index + above := by omega
      rw [place]
      exact set

/-- All bits up to the highest one are set. -/
theorem succ_eq (smeared : SmearedBy width x y) (positive : x ≠ 0) (small : x < 2 ^ width) :
    y + 1 = 2 ^ (x.log2 + 1) := by
  have same : y = 2 ^ (x.log2 + 1) - 1 := by
    refine Nat.eq_of_testBit_eq fun index => ?_
    rw [Nat.testBit_two_pow_sub_one, Bool.eq_iff_iff, smeared, decide_eq_true_iff]
    constructor
    · rintro ⟨above, _, set⟩
      have least := Nat.ge_two_pow_of_testBit set
      have order := (Nat.le_log2 positive).mpr least
      omega
    · intro below
      refine ⟨x.log2 - index, ?_, ?_⟩
      · have high := (Nat.log2_lt positive).mpr small
        omega
      · rw [Nat.add_sub_cancel' (Nat.le_of_lt_succ below)]
        exact Nat.testBit_log2 positive
  have positivePower := Nat.two_pow_pos (x.log2 + 1)
  omega

end SmearedBy
end NetSystem
