import Mathlib.Data.List.Basic
import Mathlib.Data.List.Range

namespace NetSystem

universe u

/-!
# Flat addressable memory

A memory assigns a cell to every address.  Reading a block returns its cells
as a list, and writing a block replaces exactly the cells it covers.  There
is no notion of an allocated range here: a development that needs bounds
states them about the addresses it uses, so that an access outside a block is
visible as a false bound and never silently repaired.

The lemmas below describe how a read sees an earlier write: the block itself,
a prefix of it, or a block that does not meet it.
-/

/-- One cell for every address. -/
abbrev Memory (α : Type u) := Nat -> α

namespace Memory

variable {α : Type u}

/-- The cells of the block of `count` addresses that begins at `start`. -/
def read (memory : Memory α) (start count : Nat) : List α :=
  (List.range count).map fun index => memory (start + index)

/-- Replace the cells from `start` on by `values`. -/
def write (memory : Memory α) (start : Nat) (values : List α) : Memory α :=
  fun address =>
    if start ≤ address then (values[address - start]?).getD (memory address)
    else memory address

@[simp] theorem length_read (memory : Memory α) (start count : Nat) :
    (memory.read start count).length = count := by
  simp [read]

theorem getElem?_read (memory : Memory α) (start count index : Nat) :
    (memory.read start count)[index]? =
      if index < count then some (memory (start + index)) else none := by
  by_cases inside : index < count
  · simp [read, inside]
  · simp [read, inside]

/-- Two memories that agree on a block give the same read. -/
theorem read_congr {left right : Memory α} {first second count : Nat}
    (agree : forall index, index < count -> left (first + index) = right (second + index)) :
    left.read first count = right.read second count := by
  apply List.map_congr_left
  intro index member
  exact agree index (List.mem_range.mp member)

/-- A block is its first part followed by its second part. -/
theorem read_add (memory : Memory α) (start first second : Nat) :
    memory.read start (first + second) =
      memory.read start first ++ memory.read (start + first) second := by
  simp [read, List.range_add, Function.comp_def, Nat.add_assoc]

theorem take_read (memory : Memory α) (start count size : Nat) :
    (memory.read start count).take size = memory.read start (min size count) := by
  apply List.ext_getElem?
  intro index
  simp only [List.getElem?_take, getElem?_read]
  by_cases below : index < size
  · have same : index < min size count ↔ index < count := by omega
    simp [below, same]
  · have outside : ¬ index < min size count := by omega
    rw [if_neg below, if_neg outside]

theorem drop_read (memory : Memory α) (start count size : Nat) :
    (memory.read start count).drop size = memory.read (start + size) (count - size) := by
  apply List.ext_getElem?
  intro index
  simp only [List.getElem?_drop, getElem?_read]
  by_cases inside : index < count - size
  · have shifted : size + index < count := by omega
    simp [inside, shifted, Nat.add_assoc]
  · have shifted : ¬ size + index < count := by omega
    simp [inside, shifted]

theorem write_of_lt (memory : Memory α) (start : Nat) (values : List α) {address : Nat}
    (before : address < start) : memory.write start values address = memory address := by
  simp [write, Nat.not_le.mpr before]

theorem write_of_ge (memory : Memory α) (start : Nat) (values : List α) {address : Nat}
    (after : start + values.length ≤ address) :
    memory.write start values address = memory address := by
  have beyond : values.length ≤ address - start := by omega
  simp [write, beyond]

theorem write_add (memory : Memory α) (start : Nat) (values : List α) (index : Nat) :
    memory.write start values (start + index) =
      (values[index]?).getD (memory (start + index)) := by
  simp [write]

@[simp] theorem write_nil (memory : Memory α) (start : Nat) :
    memory.write start [] = memory := by
  funext address
  simp [write]

/-- A block that does not meet the written one keeps its cells. -/
theorem read_write_disjoint (memory : Memory α) {start first count : Nat} {values : List α}
    (disjoint : first + count ≤ start ∨ start + values.length ≤ first) :
    (memory.write start values).read first count = memory.read first count := by
  apply read_congr
  intro index inside
  rcases disjoint with before | after
  · exact write_of_lt memory start values (by omega)
  · exact write_of_ge memory start values (by omega)

/-- The written block reads back. -/
theorem read_write_self (memory : Memory α) (start : Nat) (values : List α) :
    (memory.write start values).read start values.length = values := by
  apply List.ext_getElem?
  intro index
  rw [getElem?_read]
  by_cases inside : index < values.length
  · rw [if_pos inside, write_add, List.getElem?_eq_getElem inside]
    rfl
  · rw [if_neg inside, List.getElem?_eq_none (Nat.le_of_not_lt inside)]

/-- A write inside a block splices the written values into its contents. -/
theorem read_write_inside (memory : Memory α) {start count offset : Nat} {values : List α}
    (inside : offset + values.length ≤ count) :
    (memory.write (start + offset) values).read start count =
      (memory.read start count).take offset ++ values ++
        (memory.read start count).drop (offset + values.length) := by
  have split : count = offset + (values.length + (count - (offset + values.length))) := by omega
  have front : min offset count = offset := by omega
  rw [take_read, drop_read, front]
  conv_lhs => rw [split, read_add, read_add]
  rw [read_write_disjoint memory (Or.inl (Nat.le_refl _)), read_write_self,
    read_write_disjoint memory (Or.inr (Nat.le_refl _)), List.append_assoc, Nat.add_assoc]

/-- Values written right behind a block extend it. -/
theorem read_write_extend (memory : Memory α) (start count : Nat) (values : List α) :
    (memory.write (start + count) values).read start (count + values.length) =
      memory.read start count ++ values := by
  rw [read_add, read_write_disjoint memory (Or.inl (Nat.le_refl _)), read_write_self]

/-- Writing a row of values writes its first value and then the others behind it. -/
theorem write_cons (memory : Memory α) (start : Nat) (value : α) (values : List α) :
    memory.write start (value :: values) = (memory.write start [value]).write (start + 1) values := by
  funext address
  rcases Nat.lt_trichotomy address start with before | here | after
  · rw [write_of_lt _ _ _ before, write_of_lt _ _ _ (by omega), write_of_lt _ _ _ before]
  · rw [here, write_of_lt _ _ _ (Nat.lt_succ_self start)]
    simp [write]
  · rcases Nat.exists_eq_add_of_lt after with ⟨index, rfl⟩
    have behind := (memory.write start [value]).write_add (start + 1) values index
    have other : start + 1 + index = start + (index + 1) := by omega
    rw [other, write_of_ge memory start [value] (by simp)] at behind
    rw [Nat.add_assoc start, write_add, behind]
    rfl

/-- Rows of one length that are written to one place differ in what is there. -/
theorem write_inj (memory : Memory α) (start : Nat) {left right : List α}
    (length : left.length = right.length) :
    memory.write start left = memory.write start right ↔ left = right := by
  constructor
  · intro same
    have first := memory.read_write_self start left
    rw [same, length, read_write_self] at first
    exact first.symm
  · exact fun same => congrArg _ same

end Memory
end NetSystem
