import Mathlib.Data.List.TakeWhile

namespace NetSystem

/-!
# Strings that a NUL ends

A buffer holds a string at an address if its characters from there on, up to the first
NUL, are those of the string.  The string does not change when the buffer does elsewhere.
-/

/-- The characters at `ptr` up to the first NUL are `text`. -/
structure CStringAt (buffer : List Char) (ptr : Nat) (text : List Char) : Prop where
  char : forall index, index < text.length -> buffer[ptr + index]? = text[index]?
  terminated : buffer[ptr + text.length]? = some '\x00'
  unbroken : '\x00' ∉ text

/-- The characters at `ptr` up to the first NUL, which the buffer has to hold. -/
def cString (buffer : List Char) (ptr : Nat) : Option (List Char) :=
  let text := (buffer.drop ptr).takeWhile (· ≠ '\x00')
  if ptr + text.length < buffer.length then some text else none

/-- `strlen`. -/
def strlen (buffer : List Char) (ptr : Nat) : Nat :=
  ((buffer.drop ptr).takeWhile (· ≠ '\x00')).length

namespace CStringAt

variable {before after : List Char} {ptr : Nat} {text : List Char}

theorem drop_eq (string : CStringAt before ptr text) :
    before.drop ptr = text ++ '\x00' :: before.drop (ptr + text.length + 1) := by
  apply List.ext_getElem?
  intro index
  rw [List.getElem?_drop]
  rcases Nat.lt_trichotomy index text.length with inside | last | behind
  · rw [List.getElem?_append_left inside, string.char index inside]
  · rw [last, List.getElem?_append_right (Nat.le_refl _), Nat.sub_self, string.terminated]
    rfl
  · rcases Nat.exists_eq_add_of_lt behind with ⟨further, rfl⟩
    rw [List.getElem?_append_right (by omega)]
    have later : text.length + further + 1 - text.length = further + 1 := by omega
    rw [later, List.getElem?_cons_succ, List.getElem?_drop]
    congr 1
    omega

theorem takeWhile_eq (string : CStringAt before ptr text) :
    (before.drop ptr).takeWhile (· ≠ '\x00') = text := by
  have all : forall c, c ∈ text -> decide (c ≠ '\x00') = true := by
    intro c member
    apply decide_eq_true
    rintro rfl
    exact string.unbroken member
  rw [string.drop_eq, List.takeWhile_append_of_pos all]
  simp

theorem strlen_eq (string : CStringAt before ptr text) : strlen before ptr = text.length := by
  rw [strlen, string.takeWhile_eq]

theorem cString_eq (string : CStringAt before ptr text) : cString before ptr = some text := by
  have inside := (List.getElem?_eq_some_iff.mp string.terminated).1
  rw [cString, string.takeWhile_eq, if_pos inside]

/-- A place holds one string. -/
theorem unique {other : List Char} (string : CStringAt before ptr text)
    (again : CStringAt before ptr other) : text = other :=
  string.takeWhile_eq.symm.trans again.takeWhile_eq

/-- A string without its first characters, at the place behind them. -/
theorem drop (string : CStringAt before ptr text) {count : Nat} (inside : count ≤ text.length) :
    CStringAt before (ptr + count) (text.drop count) where
  char := by
    intro index below
    rw [List.length_drop] at below
    rw [List.getElem?_drop, Nat.add_assoc]
    exact string.char _ (by omega)
  terminated := by
    rw [List.length_drop, Nat.add_assoc, Nat.add_sub_cancel' inside]
    exact string.terminated
  unbroken := fun member => string.unbroken (List.mem_of_mem_drop member)

/-- A string that begins in another one is the rest of that one. -/
theorem eq_drop {later : Nat} {other : List Char} (string : CStringAt before ptr text)
    (rest : CStringAt before later other) (above : ptr ≤ later)
    (below : later ≤ ptr + text.length) : other = text.drop (later - ptr) := by
  have dropped := string.drop (show later - ptr ≤ text.length by omega)
  rw [Nat.add_sub_cancel' above] at dropped
  exact rest.unique dropped

/-- A buffer that begins with a text and a NUL. -/
theorem of_append (unbroken : '\x00' ∉ text) (rest : List Char) :
    CStringAt (text ++ '\x00' :: rest) 0 text where
  char := by
    intro index inside
    rw [Nat.zero_add, List.getElem?_append_left inside]
  terminated := by
    rw [Nat.zero_add, List.getElem?_append_right (Nat.le_refl _), Nat.sub_self]
    rfl
  unbroken := unbroken

/-- There is a string wherever a NUL follows. -/
theorem of_mem {buffer : List Char} (nul : '\x00' ∈ buffer.drop ptr) :
    Exists fun text => CStringAt buffer ptr text := by
  rcases List.eq_append_cons_of_mem nul with ⟨front, back, cut, unbroken⟩
  have string := of_append unbroken back
  rw [← cut] at string
  refine ⟨front, fun index inside => ?_, ?_, unbroken⟩
  · have char := string.char index inside
    rw [List.getElem?_drop, Nat.zero_add] at char
    exact char
  · have terminated := string.terminated
    rw [List.getElem?_drop, Nat.zero_add] at terminated
    exact terminated

/-- Buffers that agree up to the NUL hold the same string. -/
theorem congr (string : CStringAt before ptr text)
    (agree : forall address, ptr ≤ address -> address ≤ ptr + text.length ->
      after[address]? = before[address]?) : CStringAt after ptr text where
  char := by
    intro index inside
    rw [agree _ (Nat.le_add_right ..) (by omega)]
    exact string.char index inside
  terminated := by
    rw [agree _ (Nat.le_add_right ..) (Nat.le_refl _)]
    exact string.terminated
  unbroken := string.unbroken

end CStringAt
end NetSystem
