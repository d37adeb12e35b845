import Mathlib.Logic.Function.Basic

namespace NetSystem

universe u v

/-!
# Named members in pairs

Members have names and some have a partner.  A pairing is regular when partners
are members of one name that name each other, and two members of one name are
partners, so that a name has two members at most.  It stays regular when a member
comes in under a name of its own or as the partner of the only one of its name,
when one leaves and its partner is told, and when members leave in whole pairs.
-/

/-- A regular pairing of the members. -/
structure Paired {ι : Type u} {κ : Type v} (member : ι -> Prop) (name : ι -> κ)
    (partner : ι -> Option ι) : Prop where
  linked : forall left right, member left -> partner left = some right ->
    member right ∧ right ≠ left ∧ name right = name left ∧ partner right = some left
  complete : forall left right, member left -> member right -> left ≠ right ->
    name left = name right -> partner left = some right

namespace Paired

variable {ι : Type u} {κ : Type v} {member member' : ι -> Prop} {name name' : ι -> κ}
  {partner partner' : ι -> Option ι}

theorem empty (none : forall item, ¬ member item) : Paired member name partner :=
  ⟨fun left _ inside => (none left inside).elim, fun left _ inside => (none left inside).elim⟩

/-- A name has two members at most. -/
theorem at_most_two (paired : Paired member name partner) {first second third : ι}
    (firstIn : member first) (secondIn : member second) (thirdIn : member third)
    (firstSecond : name first = name second) (firstThird : name first = name third) :
    first = second ∨ first = third ∨ second = third := by
  by_cases same : first = second
  · exact .inl same
  by_cases last : first = third
  · exact .inr (.inl last)
  have left := paired.complete first second firstIn secondIn same firstSecond
  have right := paired.complete first third firstIn thirdIn last firstThird
  exact .inr (.inr (Option.some.inj (left.symm.trans right)))

/-- A member without a partner is the only one of its name. -/
theorem alone (paired : Paired member name partner) {one other : ι} (oneIn : member one)
    (single : partner one = none) (otherIn : member other) (same : name one = name other) :
    other = one := by
  by_contra different
  have left := paired.complete one other oneIn otherIn (Ne.symm different) same
  rw [single] at left
  cases left

/-- What is said about the members is said about the same members. -/
theorem congr (paired : Paired member name partner) (members : forall item, member' item -> member item)
    (back : forall item, member item -> member' item)
    (names : forall item, member item -> name' item = name item)
    (partners : forall item, member item -> partner' item = partner item) :
    Paired member' name' partner' where
  linked := by
    intro left right leftIn linked
    rw [partners left (members left leftIn)] at linked
    rcases paired.linked left right (members left leftIn) linked with ⟨rightIn, apart, same, back'⟩
    exact ⟨back right rightIn, apart,
      (names right rightIn).trans (same.trans (names left (members left leftIn)).symm),
      (partners right rightIn).trans back'⟩
  complete := by
    intro left right leftIn rightIn apart same
    have leftIn := members left leftIn
    have rightIn := members right rightIn
    rw [names left leftIn, names right rightIn] at same
    exact (partners left leftIn).trans (paired.complete left right leftIn rightIn apart same)

/-- A member comes in without a partner, under a name that no other has. -/
theorem join (paired : Paired member name partner) (one : ι)
    (members : forall item, member' item ↔ item = one ∨ item ≠ one ∧ member item)
    (names : forall item, item ≠ one -> member item -> name' item = name item)
    (partners : forall item, item ≠ one -> member item -> partner' item = partner item)
    (single : partner' one = none)
    (outside : forall item, item ≠ one -> member item -> partner item ≠ some one)
    (own : forall item, item ≠ one -> member item -> name item ≠ name' one) :
    Paired member' name' partner' where
  linked := by
    intro left right leftIn linked
    rcases (members left).mp leftIn with rfl | ⟨different, leftIn⟩
    · rw [single] at linked
      cases linked
    rw [partners left different leftIn] at linked
    rcases paired.linked left right leftIn linked with ⟨rightIn, apart, same, back⟩
    have rightOld : right ≠ one := by
      rintro rfl
      exact outside left different leftIn linked
    exact ⟨(members right).mpr (.inr ⟨rightOld, rightIn⟩), apart,
      (names right rightOld rightIn).trans (same.trans (names left different leftIn).symm),
      (partners right rightOld rightIn).trans back⟩
  complete := by
    intro left right leftIn rightIn apart same
    rcases (members left).mp leftIn with rfl | ⟨leftOld, leftIn⟩ <;>
      rcases (members right).mp rightIn with rfl | ⟨rightOld, rightIn⟩
    · exact absurd rfl apart
    · rw [names right rightOld rightIn] at same
      exact absurd same.symm (own right rightOld rightIn)
    · rw [names left leftOld leftIn] at same
      exact absurd same (own left leftOld leftIn)
    · rw [names left leftOld leftIn, names right rightOld rightIn] at same
      exact (partners left leftOld leftIn).trans
        (paired.complete left right leftIn rightIn apart same)

/-- A member comes in as the partner of one that had none. -/
theorem oppose (paired : Paired member name partner) (one other : ι)
    (members : forall item, member' item ↔ item = one ∨ item ≠ one ∧ member item)
    (names : forall item, item ≠ one -> member item -> name' item = name item)
    (otherIn : member other) (different : other ≠ one) (alone : partner other = none)
    (partners : forall item, item ≠ one -> item ≠ other -> member item ->
      partner' item = partner item)
    (there : partner' one = some other) (back : partner' other = some one)
    (outside : forall item, member item -> partner item ≠ some one)
    (same : name' one = name other) : Paired member' name' partner' where
  linked := by
    intro left right leftIn linked
    rcases (members left).mp leftIn with rfl | ⟨leftOld, leftIn⟩
    · rw [there] at linked
      cases linked
      exact ⟨(members other).mpr (.inr ⟨different, otherIn⟩), different,
        (names other different otherIn).trans same.symm, back⟩
    by_cases second : left = other
    · subst second
      rw [back] at linked
      cases linked
      exact ⟨(members one).mpr (.inl rfl), different.symm,
        same.trans (names left leftOld leftIn).symm, there⟩
    rw [partners left leftOld second leftIn] at linked
    rcases paired.linked left right leftIn linked with ⟨rightIn, apart, sameName, returned⟩
    have rightOld : right ≠ one := by
      rintro rfl
      exact outside left leftIn linked
    have rightElse : right ≠ other := by
      rintro rfl
      rw [alone] at returned
      cases returned
    exact ⟨(members right).mpr (.inr ⟨rightOld, rightIn⟩), apart,
      (names right rightOld rightIn).trans (sameName.trans (names left leftOld leftIn).symm),
      (partners right rightOld rightElse rightIn).trans returned⟩
  complete := by
    intro left right leftIn rightIn apart sameName
    have only : forall item, item ≠ one -> member item -> name' item = name' one -> item = other := by
      intro item old inside named
      rw [names item old inside, same] at named
      exact paired.alone otherIn alone inside named.symm
    rcases (members left).mp leftIn with rfl | ⟨leftOld, leftIn⟩ <;>
      rcases (members right).mp rightIn with rfl | ⟨rightOld, rightIn⟩
    · exact absurd rfl apart
    · rw [only right rightOld rightIn sameName.symm]
      exact there
    · rw [only left leftOld leftIn sameName]
      exact back
    · have leftElse : left ≠ other := by
        rintro rfl
        rw [names left leftOld leftIn, names right rightOld rightIn] at sameName
        exact apart (paired.alone leftIn alone rightIn sameName).symm
      rw [names left leftOld leftIn, names right rightOld rightIn] at sameName
      exact (partners left leftOld leftElse leftIn).trans
        (paired.complete left right leftIn rightIn apart sameName)

/-- Members leave in whole pairs. -/
theorem leave (paired : Paired member name partner)
    (members : forall item, member' item -> member item)
    (names : forall item, member' item -> name' item = name item)
    (partners : forall item, member' item -> partner' item = partner item)
    (whole : forall left right, member' left -> partner left = some right -> member' right) :
    Paired member' name' partner' where
  linked := by
    intro left right leftIn linked
    rw [partners left leftIn] at linked
    rcases paired.linked left right (members left leftIn) linked with ⟨_, apart, same, back⟩
    have rightIn := whole left right leftIn linked
    exact ⟨rightIn, apart, (names right rightIn).trans (same.trans (names left leftIn).symm),
      (partners right rightIn).trans back⟩
  complete := by
    intro left right leftIn rightIn apart same
    rw [names left leftIn, names right rightIn] at same
    exact (partners left leftIn).trans
      (paired.complete left right (members left leftIn) (members right rightIn) apart same)

/-- A member leaves, and its partner is left without one. -/
theorem part [DecidableEq ι] (paired : Paired member name partner) {one : ι} (oneIn : member one)
    (members : forall item, member' item ↔ item ≠ one ∧ member item)
    (names : forall item, member' item -> name' item = name item)
    (partners : forall item, member' item ->
      partner' item = if partner one = some item then none else partner item) :
    Paired member' name' partner' where
  linked := by
    intro left right leftIn linked
    rw [partners left leftIn] at linked
    split at linked
    · cases linked
    next unlinked =>
      rcases (members left).mp leftIn with ⟨leftOld, leftBefore⟩
      rcases paired.linked left right leftBefore linked with ⟨rightBefore, apart, same, back⟩
      have rightOld : right ≠ one := by
        rintro rfl
        exact unlinked back
      have rightIn := (members right).mpr ⟨rightOld, rightBefore⟩
      refine ⟨rightIn, apart, (names right rightIn).trans (same.trans (names left leftIn).symm), ?_⟩
      rw [partners right rightIn, if_neg, back]
      intro oneRight
      have returned := (paired.linked one right oneIn oneRight).2.2.2
      rw [back] at returned
      exact leftOld (Option.some.inj returned)
  complete := by
    intro left right leftIn rightIn apart same
    rcases (members left).mp leftIn with ⟨leftOld, leftBefore⟩
    rcases (members right).mp rightIn with ⟨rightOld, rightBefore⟩
    rw [names left leftIn, names right rightIn] at same
    have linked := paired.complete left right leftBefore rightBefore apart same
    rw [partners left leftIn, if_neg, linked]
    intro oneLeft
    have returned := (paired.linked one left oneIn oneLeft).2.2.2
    rw [linked] at returned
    exact rightOld (Option.some.inj returned)

/-- A member without a partner takes a name that no other has. -/
theorem rename (paired : Paired member name partner) {one : ι} (oneIn : member one)
    (alone : partner one = none)
    (members : forall item, member' item ↔ member item)
    (names : forall item, item ≠ one -> member item -> name' item = name item)
    (partners : forall item, member item -> partner' item = partner item)
    (own : forall item, item ≠ one -> member item -> name item ≠ name' one) :
    Paired member' name' partner' := by
  refine paired.join one ?_ names (fun item _ inside => partners item inside)
    ((partners one oneIn).trans alone) ?_ own
  · intro item
    rw [members]
    by_cases same : item = one
    · rw [same]
      exact ⟨fun _ => .inl rfl, fun _ => oneIn⟩
    · exact ⟨fun inside => .inr ⟨same, inside⟩,
        fun either => (either.resolve_left same).2⟩
  · intro item _ inside linked
    have back := (paired.linked item one inside linked).2.2.2
    rw [alone] at back
    cases back

end Paired
end NetSystem
