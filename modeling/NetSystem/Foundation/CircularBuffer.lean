import Mathlib.Data.Int.ModEq
import Mathlib.Logic.Function.Basic
import Mathlib.Tactic.Ring

namespace NetSystem

universe u

/-!
# Circular buffers

A circular buffer has `size` places, one index where the next value is taken and one where
the next value is put.  Counting all values that ever passed through it, the place of a
value is its number modulo `size`.

The place of a value is filled before the value is announced by the second index, and it is
cleared before the first index gives it back.  A view of a buffer has all values that were
ever filled in, and how many of them have been announced, cleared and given back.
-/

/-- The values that a circular buffer was filled with, and how many have been announced
(`pushed`), cleared (`taken`) and given back (`popped`). -/
structure CircularView (α : Type u) where
  written : List α
  pushed : Nat
  taken : Nat
  popped : Nat

namespace CircularView

variable {α : Type u}

/-- Nothing has passed through. -/
def empty : CircularView α := ⟨[], 0, 0, 0⟩

/-- What has been announced and not given back. -/
def items (view : CircularView α) : List α := (view.written.take view.pushed).drop view.popped

/-- The value with a number, while its place is filled. -/
def slot (view : CircularView α) (number : Nat) : Option α :=
  if view.taken ≤ number then view.written[number]? else none

def fill (view : CircularView α) (value : α) : CircularView α :=
  { view with written := view.written ++ [value] }

def announce (view : CircularView α) : CircularView α := { view with pushed := view.pushed + 1 }

def clear (view : CircularView α) : CircularView α := { view with taken := view.taken + 1 }

def release (view : CircularView α) : CircularView α := { view with popped := view.popped + 1 }

theorem head?_items {view : CircularView α} (more : view.popped < view.pushed) :
    view.items.head? = view.written[view.popped]? := by
  rw [items, List.head?_drop, List.getElem?_take_of_lt more]

end CircularView

/-- A view is one of the buffer with these places and indices. -/
structure CircularHolds {α : Type u} (size : Nat) (data : Nat -> Option α) (front tail : Nat)
    (view : CircularView α) : Prop where
  front_eq : front = view.popped % size
  tail_eq : tail = view.pushed % size
  popped_le : view.popped ≤ view.taken
  taken_le : view.taken ≤ view.pushed
  pushed_le : view.pushed ≤ view.written.length
  room : view.written.length < view.popped + size
  slots : forall number, view.popped ≤ number -> number < view.popped + size ->
    data (number % size) = view.slot number

/-- Numbers less than a lap apart have the same place only if they are the same. -/
theorem mod_eq_mod_iff_of_lap {size first second : Nat} (order : first ≤ second)
    (lap : second < first + size) : first % size = second % size ↔ first = second := by
  constructor
  · intro same
    have divides := (Nat.modEq_iff_dvd' order).mp same
    have less : second - first < size := by omega
    have zero := Nat.eq_zero_of_dvd_of_lt divides less
    omega
  · exact congrArg (· % size)

namespace CircularHolds

variable {α : Type u} {size : Nat} {data : Nat -> Option α} {front tail : Nat}
  {view : CircularView α}

theorem positive (holds : CircularHolds size data front tail view) : 0 < size := by
  have first := holds.popped_le
  have second := holds.taken_le
  have third := holds.pushed_le
  have room := holds.room
  omega

theorem items_length (holds : CircularHolds size data front tail view) :
    view.items.length = view.pushed - view.popped := by
  rw [CircularView.items, List.length_drop, List.length_take, Nat.min_eq_left holds.pushed_le]

/-- The indices are the same exactly if nothing is announced that has not been given back. -/
theorem front_eq_tail_iff (holds : CircularHolds size data front tail view) :
    front = tail ↔ view.popped = view.pushed := by
  have order := Nat.le_trans holds.popped_le holds.taken_le
  have room := Nat.lt_of_le_of_lt holds.pushed_le holds.room
  rw [holds.front_eq, holds.tail_eq]
  exact mod_eq_mod_iff_of_lap order room

/-- The place where the next value is filled in is clear. -/
theorem slot_tail (holds : CircularHolds size data front tail view)
    (all : view.written.length = view.pushed) : data tail = none := by
  have order := Nat.le_trans holds.popped_le holds.taken_le
  have room := holds.room
  rw [all] at room
  rw [holds.tail_eq, holds.slots _ order room, CircularView.slot, if_pos holds.taken_le,
    List.getElem?_eq_none (Nat.le_of_eq all)]

theorem fill (holds : CircularHolds size data front tail view)
    (all : view.written.length = view.pushed) (room : view.pushed + 1 < view.popped + size)
    (value : α) :
    CircularHolds size (Function.update data tail (some value)) front tail (view.fill value) where
  front_eq := holds.front_eq
  tail_eq := holds.tail_eq
  popped_le := holds.popped_le
  taken_le := holds.taken_le
  pushed_le := by
    rw [CircularView.fill, List.length_append]
    exact Nat.le_add_right_of_le holds.pushed_le
  room := by
    rw [CircularView.fill, List.length_append, all]
    exact room
  slots := by
    intro number above below
    have order := Nat.le_trans holds.popped_le holds.taken_le
    change view.popped ≤ number at above
    change number < view.popped + size at below
    rw [CircularView.slot, CircularView.fill]
    dsimp only
    by_cases here : number = view.pushed
    · rw [here, ← holds.tail_eq, Function.update_self, if_pos holds.taken_le, ← all,
        List.getElem?_append_right (Nat.le_refl _), Nat.sub_self]
      rfl
    · have elsewhere : number % size ≠ tail := by
        rw [holds.tail_eq]
        intro same
        rcases Nat.lt_or_gt_of_ne here with before | behind
        · exact here ((mod_eq_mod_iff_of_lap (Nat.le_of_lt before) (by omega)).mp same)
        · exact here ((mod_eq_mod_iff_of_lap (Nat.le_of_lt behind) (by omega)).mp same.symm).symm
      rw [Function.update_of_ne elsewhere, holds.slots number above below, CircularView.slot]
      congr 1
      rcases Nat.lt_or_gt_of_ne here with before | behind
      · rw [List.getElem?_append_left (by omega)]
      · rw [List.getElem?_eq_none (by omega), List.getElem?_eq_none]
        rw [List.length_append, List.length_singleton]
        omega

theorem announce (holds : CircularHolds size data front tail view)
    (more : view.pushed < view.written.length) :
    CircularHolds size data front ((tail + 1) % size) view.announce where
  front_eq := holds.front_eq
  tail_eq := by
    rw [holds.tail_eq, Nat.mod_add_mod]
    rfl
  popped_le := holds.popped_le
  taken_le := Nat.le_succ_of_le holds.taken_le
  pushed_le := more
  room := holds.room
  slots := holds.slots

/-- The next value is in its place. -/
theorem slot_front (holds : CircularHolds size data front tail view)
    (whole : view.taken = view.popped) (more : view.popped < view.pushed) :
    Exists fun value => data front = some value ∧ view.items.head? = some value := by
  have inside := Nat.lt_of_lt_of_le more holds.pushed_le
  refine ⟨view.written[view.popped], ?_, ?_⟩
  · rw [holds.front_eq, holds.slots _ (Nat.le_refl _) (Nat.lt_add_of_pos_right holds.positive),
      CircularView.slot, if_pos (Nat.le_of_eq whole), List.getElem?_eq_getElem inside]
  · rw [CircularView.head?_items more, List.getElem?_eq_getElem inside]

theorem clear (holds : CircularHolds size data front tail view)
    (whole : view.taken = view.popped) (more : view.popped < view.pushed) :
    CircularHolds size (Function.update data front none) front tail view.clear where
  front_eq := holds.front_eq
  tail_eq := holds.tail_eq
  popped_le := Nat.le_succ_of_le holds.popped_le
  taken_le := by
    rw [CircularView.clear, whole]
    exact more
  pushed_le := holds.pushed_le
  room := holds.room
  slots := by
    intro number above below
    change view.popped ≤ number at above
    change number < view.popped + size at below
    rw [CircularView.slot, CircularView.clear]
    dsimp only
    by_cases here : number = view.popped
    · rw [here, ← holds.front_eq, Function.update_self, if_neg]
      rw [whole]
      exact Nat.not_succ_le_self _
    · have elsewhere : number % size ≠ front := by
        rw [holds.front_eq]
        intro same
        exact here ((mod_eq_mod_iff_of_lap above below).mp same.symm).symm
      rw [Function.update_of_ne elsewhere, holds.slots number above below, CircularView.slot,
        if_pos (by omega), if_pos (by omega)]

theorem release (holds : CircularHolds size data front tail view)
    (cleared : view.taken = view.popped + 1) :
    CircularHolds size data ((front + 1) % size) tail view.release where
  front_eq := by
    rw [holds.front_eq, Nat.mod_add_mod]
    rfl
  tail_eq := holds.tail_eq
  popped_le := Nat.le_of_eq cleared.symm
  taken_le := holds.taken_le
  pushed_le := holds.pushed_le
  room := by
    have room := holds.room
    rw [CircularView.release]
    dsimp only
    omega
  slots := by
    intro number above below
    change view.popped + 1 ≤ number at above
    change number < view.popped + 1 + size at below
    by_cases last : number = view.popped + size
    · -- the place that has been given back, for the value of the next lap
      have old := holds.slots view.popped (Nat.le_refl _) (Nat.lt_add_of_pos_right holds.positive)
      have room := holds.room
      rw [CircularView.slot, if_neg (by omega)] at old
      rw [last, Nat.add_mod_right, old, CircularView.slot, CircularView.release]
      dsimp only
      rw [List.getElem?_eq_none (Nat.le_of_lt room), ite_self]
    · exact holds.slots number (by omega) (by omega)

end CircularHolds

namespace CircularView

variable {α : Type u} {view : CircularView α}

theorem items_fill (value : α) (within : view.pushed ≤ view.written.length) :
    (view.fill value).items = view.items := by
  rw [items, fill, items, List.take_append_of_le_length within]

theorem items_announce (order : view.popped ≤ view.pushed) {value : α}
    (next : view.written[view.pushed]? = some value) :
    view.announce.items = view.items ++ [value] := by
  have inside := (List.getElem?_eq_some_iff.mp next).1
  rw [items, announce, items, List.take_add_one, next, Option.toList_some,
    List.drop_append_of_le_length]
  rw [List.length_take]
  dsimp only
  omega

theorem items_eq_nil (none : view.popped = view.pushed) : view.items = [] := by
  rw [items, none, List.drop_eq_nil_iff, List.length_take]
  exact Nat.min_le_left ..

theorem items_release {value : α} (front : view.items.head? = some value) :
    view.items = value :: view.release.items := by
  have rest : view.items.tail = view.release.items := by
    rw [items, List.tail_drop]
    rfl
  rcases List.head?_eq_some_iff.mp front with ⟨later, all⟩
  rw [← rest, all]
  rfl

end CircularView

/-- A buffer of clear places that nothing has passed through. -/
theorem CircularHolds.empty {α : Type u} {size : Nat} (positive : 0 < size) :
    CircularHolds size (fun _ => none) 0 0 (CircularView.empty : CircularView α) where
  front_eq := (Nat.zero_mod size).symm
  tail_eq := (Nat.zero_mod size).symm
  popped_le := Nat.le_refl _
  taken_le := Nat.le_refl _
  pushed_le := Nat.le_refl _
  room := by
    rw [CircularView.empty]
    exact Nat.lt_add_of_pos_right positive
  slots := by
    intro number _ _
    rw [CircularView.slot, CircularView.empty, List.getElem?_nil, ite_self]

end NetSystem
