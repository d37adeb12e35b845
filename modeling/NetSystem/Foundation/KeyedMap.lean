import Mathlib.Data.List.AList
import Mathlib.Data.List.Perm.Basic
import Mathlib.Tactic.Ring

namespace NetSystem

universe u v w

/-!
# Maps as containers of values

A map from keys to values, seen as the collection of the values it holds.  The
order of a collection never matters: every fact is up to permutation.  Adding
under a new key adds one value, erasing a key removes the value found there,
and in a map of maps the same is said of one inner map at a time.
-/

/-- A finite map with distinct keys. -/
abbrev KeyedMap (κ : Type u) (ν : Type v) := AList fun _ : κ => ν

namespace KeyedMap

variable {σ : Type w} {κ : Type u} {ν : Type v}

/-- The values held. -/
def values (map : KeyedMap κ ν) : List ν := map.entries.map Sigma.snd

@[simp] theorem values_empty : values (∅ : KeyedMap κ ν) = [] := rfl

theorem values_of_perm {map : KeyedMap κ ν} {order : List (Sigma fun _ : κ => ν)}
    (iterates : order.Perm map.entries) : (order.map Sigma.snd).Perm map.values :=
  iterates.map Sigma.snd

theorem length_values (map : KeyedMap κ ν) : map.values.length = map.entries.length :=
  List.length_map _

section Keys

variable [DecidableEq κ]

theorem mem_values_iff {map : KeyedMap κ ν} {value : ν} :
    value ∈ map.values ↔ Exists fun key => map.lookup key = some value := by
  constructor
  · intro member
    rcases List.mem_map.mp member with ⟨⟨key, held⟩, inside, rfl⟩
    exact ⟨key, AList.mem_lookup_iff.mpr inside⟩
  · rintro ⟨key, found⟩
    exact List.mem_map.mpr ⟨⟨key, value⟩, AList.mem_lookup_iff.mp found, rfl⟩

theorem values_insert (map : KeyedMap κ ν) (key : κ) (value : ν) :
    values (map.insert key value) = value :: values (map.erase key) := by
  rw [values, AList.entries_insert, List.map_cons]
  rfl

theorem values_erase_of_absent {map : KeyedMap κ ν} {key : κ} (absent : map.lookup key = none) :
    values (map.erase key) = map.values := by
  change (List.kerase key map.entries).map Sigma.snd = map.entries.map Sigma.snd
  rw [List.kerase_of_notMem_keys (AList.lookup_eq_none.mp absent)]

/-- The value found under a key is one of the values, besides those under the
other keys. -/
theorem values_split {map : KeyedMap κ ν} {key : κ} {value : ν}
    (found : map.lookup key = some value) : map.values.Perm (value :: values (map.erase key)) := by
  have member : key ∈ map.entries.keys := AList.lookup_isSome.mp (by rw [found]; rfl)
  rcases List.exists_of_kerase member with ⟨held, front, back, _, split, erased⟩
  have same : held = value := by
    have inside : Sigma.mk key held ∈ map.entries := by
      rw [split]
      exact List.mem_append_right _ (List.mem_cons_self ..)
    have lookup := AList.mem_lookup_iff.mpr inside
    rw [found] at lookup
    exact (Option.some.inj lookup).symm
  change (map.entries.map Sigma.snd).Perm (value :: (List.kerase key map.entries).map Sigma.snd)
  rw [erased, split, List.map_append, List.map_append, List.map_cons, same]
  exact List.perm_middle

end Keys

/-! ## Maps of maps -/

/-- The values of all inner maps. -/
def allValues (outer : KeyedMap σ (KeyedMap κ ν)) : List ν := outer.values.flatMap values

/-- The number of values is the sum of the sizes. -/
theorem length_allValues (outer : KeyedMap σ (KeyedMap κ ν)) :
    outer.allValues.length = (outer.values.map fun inner => inner.entries.length).sum := by
  rw [allValues, List.length_flatMap]
  congr 1
  exact List.map_congr_left fun inner _ => length_values inner

variable [DecidableEq σ]

theorem allValues_insert (outer : KeyedMap σ (KeyedMap κ ν)) (place : σ) (inner : KeyedMap κ ν) :
    allValues (outer.insert place inner) = inner.values ++ allValues (outer.erase place) := by
  rw [allValues, values_insert, List.flatMap_cons]
  rfl

theorem allValues_split {outer : KeyedMap σ (KeyedMap κ ν)} {place : σ} {inner : KeyedMap κ ν}
    (found : outer.lookup place = some inner) :
    outer.allValues.Perm (inner.values ++ allValues (outer.erase place)) := by
  have split := (values_split found).flatMap_right values
  rw [List.flatMap_cons] at split
  exact split

/-- All values, as those of the inner map at one place, which is empty when
there is none, and the others. -/
theorem allValues_split_getD (outer : KeyedMap σ (KeyedMap κ ν)) (place : σ) :
    outer.allValues.Perm
      (values ((outer.lookup place).getD ∅) ++ allValues (outer.erase place)) := by
  cases found : outer.lookup place with
  | none =>
      rw [allValues, allValues, values_erase_of_absent found]
      exact List.Perm.refl _
  | some inner => exact allValues_split found

/-- Clearing an inner map removes its values. -/
theorem allValues_clear {outer : KeyedMap σ (KeyedMap κ ν)} {place : σ} {inner : KeyedMap κ ν}
    (found : outer.lookup place = some inner) :
    outer.allValues.Perm (inner.values ++ allValues (outer.insert place ∅)) := by
  rw [allValues_insert, values_empty, List.nil_append]
  exact allValues_split found

variable [DecidableEq κ]

/-- The value is held at the place under the key. -/
def Holds (outer : KeyedMap σ (KeyedMap κ ν)) (place : σ) (key : κ) (value : ν) : Prop :=
  Exists fun inner => outer.lookup place = some inner ∧ inner.lookup key = some value

theorem mem_allValues_iff {outer : KeyedMap σ (KeyedMap κ ν)} {value : ν} :
    value ∈ outer.allValues ↔ Exists fun place => Exists fun key => outer.Holds place key value := by
  constructor
  · intro member
    rcases List.mem_flatMap.mp member with ⟨inner, inside, held⟩
    rcases mem_values_iff.mp inside with ⟨place, found⟩
    rcases mem_values_iff.mp held with ⟨key, at_key⟩
    exact ⟨place, key, inner, found, at_key⟩
  · rintro ⟨place, key, inner, found, at_key⟩
    exact List.mem_flatMap.mpr
      ⟨inner, mem_values_iff.mpr ⟨place, found⟩, mem_values_iff.mpr ⟨key, at_key⟩⟩

/-- A value that is held only once is held at one place. -/
theorem Holds.place_unique [DecidableEq ν] {outer : KeyedMap σ (KeyedMap κ ν)} {place other : σ}
    {key otherKey : κ} {value : ν} (once : outer.allValues.count value ≤ 1)
    (holds : outer.Holds place key value) (again : outer.Holds other otherKey value) :
    other = place := by
  by_contra different
  rcases holds with ⟨inner, found, held⟩
  rcases again with ⟨otherInner, otherFound, otherHeld⟩
  have here : 0 < inner.values.count value :=
    List.count_pos_iff.mpr (mem_values_iff.mpr ⟨key, held⟩)
  have elsewhere : 0 < (allValues (outer.erase place)).count value := by
    refine List.count_pos_iff.mpr (mem_allValues_iff.mpr ⟨other, otherKey, otherInner, ?_, otherHeld⟩)
    rw [AList.lookup_erase_ne different]
    exact otherFound
  have total := (allValues_split found).count_eq value
  rw [List.count_append] at total
  omega

/-- Assign to a key of the inner map at a place, which is created on demand. -/
def assign (outer : KeyedMap σ (KeyedMap κ ν)) (place : σ) (key : κ) (value : ν) :
    KeyedMap σ (KeyedMap κ ν) :=
  outer.insert place (((outer.lookup place).getD ∅).insert key value)

/-- Assigning under a key that is not in use adds a value. -/
theorem allValues_assign {outer : KeyedMap σ (KeyedMap κ ν)} {place : σ} {key : κ} (value : ν)
    (unused : forall other, ¬ outer.Holds place key other) :
    (outer.assign place key value).allValues.Perm (value :: outer.allValues) := by
  have absent : ((outer.lookup place).getD ∅).lookup key = none := by
    cases found : outer.lookup place with
    | none => rfl
    | some inner =>
        cases held : inner.lookup key with
        | none => exact held
        | some other => exact absurd ⟨inner, found, held⟩ (unused other)
  rw [assign, allValues_insert, values_insert, values_erase_of_absent absent, List.cons_append]
  exact ((allValues_split_getD outer place).symm).cons value

/-- Erasing a key of an inner map removes the value found there. -/
theorem allValues_erase {outer : KeyedMap σ (KeyedMap κ ν)} {place : σ} {inner : KeyedMap κ ν}
    {key : κ} {value : ν} (found : outer.lookup place = some inner)
    (held : inner.lookup key = some value) :
    outer.allValues.Perm (value :: allValues (outer.insert place (inner.erase key))) := by
  rw [allValues_insert, ← List.cons_append]
  exact (allValues_split found).trans ((values_split held).append_right _)

/-- What is held after a change of one inner map. -/
theorem Holds.of_insert {outer : KeyedMap σ (KeyedMap κ ν)} {place other : σ}
    {inner : KeyedMap κ ν} {key : κ} {value : ν}
    (held : Holds (outer.insert place inner) other key value) :
    (other = place ∧ inner.lookup key = some value) ∨ outer.Holds other key value := by
  rcases held with ⟨found, lookup, at_key⟩
  by_cases same : other = place
  · rw [same, AList.lookup_insert] at lookup
    cases lookup
    exact Or.inl ⟨same, at_key⟩
  · rw [AList.lookup_insert_ne same] at lookup
    exact Or.inr ⟨found, lookup, at_key⟩

theorem Holds.of_assign {outer : KeyedMap σ (KeyedMap κ ν)} {place other : σ} {key at_key : κ}
    {value held : ν} (holds : (outer.assign place key value).Holds other at_key held) :
    (at_key = key ∧ held = value) ∨ outer.Holds other at_key held := by
  rcases holds.of_insert with ⟨same, lookup⟩ | before
  · by_cases sameKey : at_key = key
    · rw [sameKey, AList.lookup_insert] at lookup
      exact Or.inl ⟨sameKey, (Option.some.inj lookup).symm⟩
    · rw [AList.lookup_insert_ne sameKey] at lookup
      cases found : outer.lookup place with
      | none =>
          rw [found] at lookup
          cases lookup
      | some inner =>
          rw [found] at lookup
          exact Or.inr ⟨inner, same ▸ found, lookup⟩
  · exact Or.inr before

theorem Holds.of_erase {outer : KeyedMap σ (KeyedMap κ ν)} {place other : σ}
    {inner : KeyedMap κ ν} {key at_key : κ} {held : ν} (found : outer.lookup place = some inner)
    (holds : Holds (outer.insert place (inner.erase key)) other at_key held) :
    outer.Holds other at_key held := by
  rcases holds.of_insert with ⟨same, lookup⟩ | before
  · by_cases sameKey : at_key = key
    · rw [sameKey, AList.lookup_erase] at lookup
      cases lookup
    · rw [AList.lookup_erase_ne sameKey] at lookup
      exact ⟨inner, same ▸ found, lookup⟩
  · exact before

theorem Holds.of_clear {outer : KeyedMap σ (KeyedMap κ ν)} {place other : σ} {at_key : κ}
    {held : ν} (holds : Holds (outer.insert place ∅) other at_key held) :
    outer.Holds other at_key held := by
  rcases holds.of_insert with ⟨_, lookup⟩ | before
  · cases lookup
  · exact before

/-! ## Erasing while iterating -/

section EraseIf

/-- Walk over a map and erase the entries that a test picks. -/
def eraseIf (test : κ -> ν -> Bool) (map : KeyedMap κ ν) : KeyedMap κ ν where
  entries := map.entries.filter fun entry => !test entry.1 entry.2
  nodupKeys := map.nodupKeys.sublist List.filter_sublist

theorem lookup_eraseIf_iff (test : κ -> ν -> Bool) (map : KeyedMap κ ν) (key : κ) (value : ν) :
    (eraseIf test map).lookup key = some value ↔
      map.lookup key = some value ∧ test key value = false := by
  constructor
  · intro found
    have member : Sigma.mk key value ∈ (eraseIf test map).entries := AList.mem_lookup_iff.mp found
    have parts := List.mem_filter.mp member
    exact ⟨AList.mem_lookup_iff.mpr parts.1, by simpa using parts.2⟩
  · rintro ⟨found, spared⟩
    apply AList.mem_lookup_iff.mpr
    apply List.mem_filter.mpr
    exact ⟨AList.mem_lookup_iff.mp found, by simp [spared]⟩

/-- The keys of the entries that a test picks. -/
def keysIf (test : κ -> ν -> Bool) (map : KeyedMap κ ν) : List κ :=
  (map.entries.filter fun entry => test entry.1 entry.2).keys

theorem mem_keysIf_iff (test : κ -> ν -> Bool) (map : KeyedMap κ ν) (key : κ) :
    key ∈ keysIf test map ↔
      Exists fun value => map.lookup key = some value ∧ test key value = true := by
  constructor
  · intro member
    rcases List.mem_map.mp member with ⟨⟨_, value⟩, inside, rfl⟩
    have parts := List.mem_filter.mp inside
    exact ⟨value, AList.mem_lookup_iff.mpr parts.1, parts.2⟩
  · rintro ⟨value, found, picked⟩
    apply List.mem_map.mpr
    exact ⟨⟨key, value⟩, List.mem_filter.mpr ⟨AList.mem_lookup_iff.mp found, picked⟩, rfl⟩

omit [DecidableEq κ] in
theorem nodup_keysIf (test : κ -> ν -> Bool) (map : KeyedMap κ ν) : (keysIf test map).Nodup :=
  map.nodupKeys.sublist List.filter_sublist

end EraseIf

end KeyedMap
end NetSystem
