import Mathlib.Data.List.Basic

namespace NetSystem

universe u

/-!
# Text in a buffer that may be too small

A writer puts out a text piece by piece into a buffer of a fixed size, whose last place is
for a terminator, and keeps a counter.  As long as the text fits, the counter is its length.
After that it only matters that the counter has come to the last place.
-/

/-- A buffer and the counter. -/
structure TextSink (α : Type u) where
  out : List α
  len : Nat

namespace TextSink

variable {α : Type u}

/-- A write to the buffer, which has no result outside of it. -/
def store (sink : TextSink α) (index : Nat) (c : α) : Option (TextSink α) :=
  if index < sink.out.length then some { sink with out := sink.out.set index c } else none

/-- A write behind what has been written. -/
def put (sink : TextSink α) (c : α) : Option (TextSink α) :=
  (sink.store sink.len c).map fun sink => { sink with len := sink.len + 1 }

/-- Writes of several elements. -/
def puts (sink : TextSink α) : List α -> Option (TextSink α)
  | [] => some sink
  | c :: text => (sink.put c).bind fun sink => sink.puts text

/-- The buffer shows the text as far as it fits in front of the last place. -/
structure Shows (size : Nat) (sink : TextSink α) (text : List α) : Prop where
  length : sink.out.length = size
  counted : text.length < size -> sink.len = text.length
  stopped : size ≤ text.length -> size ≤ sink.len + 1
  taken : sink.out.take (min text.length (size - 1)) = text.take (size - 1)

namespace Shows

variable {size : Nat} {sink : TextSink α} {text : List α}

theorem start (out : List α) : Shows out.length ⟨out, 0⟩ [] where
  length := rfl
  counted _ := rfl
  stopped empty := Nat.le_trans empty (Nat.zero_le _)
  taken := by rw [List.length_nil, Nat.zero_min, List.take_zero, List.take_nil]

/-- In front of the last place the counter is the length of the text. -/
theorem len_eq (shown : Shows size sink text) (room : sink.len + 1 < size) :
    sink.len = text.length := by
  apply shown.counted
  by_contra long
  exact Nat.not_le_of_lt room (shown.stopped (Nat.le_of_not_lt long))

/-- In front of the last place the whole text is there. -/
theorem take_len (shown : Shows size sink text) (room : sink.len + 1 < size) :
    sink.out.take sink.len = text := by
  have here := shown.len_eq room
  have short : text.length ≤ size - 1 := by omega
  have taken := shown.taken
  rw [Nat.min_eq_left short, List.take_of_length_le short] at taken
  rw [here]
  exact taken

theorem length_ge (shown : Shows size sink text) (stopped : size ≤ sink.len + 1) :
    size - 1 ≤ text.length := by
  have counted := shown.counted
  omega

/-- At the last place more text makes no difference. -/
theorem full (shown : Shows size sink text) (stopped : size ≤ sink.len + 1) (more : List α) :
    Shows size sink (text ++ more) := by
  have covered := shown.length_ge stopped
  have longer := Nat.le_trans covered (Nat.le_add_right text.length more.length)
  have counted := shown.counted
  refine ⟨shown.length, fun short => ?_, fun _ => stopped, ?_⟩
  · rw [List.length_append] at short ⊢
    omega
  · have taken := shown.taken
    rw [Nat.min_eq_right covered] at taken
    rw [List.length_append, Nat.min_eq_right longer, taken, List.take_append_of_le_length covered]

/-- Of a text that does not fit, the counter may go on and the last place may change. -/
theorem go_on (shown : Shows size sink text) (long : size ≤ text.length) {next : TextSink α}
    (stopped : size ≤ next.len + 1) (length : next.out.length = size)
    (kept : next.out.take (size - 1) = sink.out.take (size - 1)) : Shows size next text := by
  refine ⟨length, fun short => absurd long (Nat.not_le_of_lt short), fun _ => stopped, ?_⟩
  have taken := shown.taken
  rw [Nat.min_eq_right (Nat.le_trans (Nat.sub_le _ _) long)] at taken ⊢
  rw [kept, taken]

/-- A write, which may be to the last place. -/
theorem put (shown : Shows size sink text) (inside : sink.len < size) (c : α) :
    Exists fun next => sink.put c = some next ∧ next.len = sink.len + 1 ∧
      Shows size next (text ++ [c]) := by
  have length := shown.length
  refine ⟨⟨sink.out.set sink.len c, sink.len + 1⟩, ?_, rfl, ?_⟩
  · rw [TextSink.put, store, if_pos (by rw [length]; exact inside)]
    rfl
  have longer : (text ++ [c]).length = text.length + 1 := List.length_append ..
  by_cases room : sink.len + 1 < size
  · have here := shown.len_eq room
    have short : sink.len + 1 ≤ size - 1 := Nat.le_sub_one_of_lt room
    have within : sink.len < (sink.out.set sink.len c).length := by
      rw [List.length_set, length]
      exact inside
    rw [← here] at longer
    refine ⟨(List.length_set ..).trans length, fun _ => longer.symm, fun long => ?_, ?_⟩
    · rw [longer] at long
      exact Nat.le_trans long (Nat.le_succ _)
    · rw [longer, Nat.min_eq_left short,
        List.take_of_length_le (Nat.le_trans (Nat.le_of_eq longer) short),
        List.take_succ_eq_append_getElem within, List.take_set_of_le (Nat.le_refl _),
        List.getElem_set_self, shown.take_len room]
  · have last := Nat.le_of_not_lt room
    have covered := shown.length_ge last
    apply (shown.full last [c]).go_on
    · rw [longer]
      omega
    · exact Nat.le_trans last (Nat.le_succ _)
    · exact (List.length_set ..).trans length
    · exact List.take_set_of_le (by omega)

theorem puts (shown : Shows size sink text) {more : List α}
    (inside : sink.len + more.length ≤ size) :
    Exists fun next => sink.puts more = some next ∧ next.len = sink.len + more.length ∧
      Shows size next (text ++ more) := by
  induction more generalizing sink text with
  | nil =>
      rw [List.append_nil]
      exact ⟨sink, rfl, rfl, shown⟩
  | cons c more inductionHypothesis =>
      rw [List.length_cons] at inside
      rcases shown.put (Nat.lt_of_lt_of_le (Nat.lt_add_of_pos_right (Nat.succ_pos _)) inside) c with
        ⟨middle, done, len, after⟩
      rcases inductionHypothesis after (by omega) with ⟨next, rest, counted, ended⟩
      refine ⟨next, ?_, ?_, ?_⟩
      · rw [TextSink.puts, done]
        exact rest
      · rw [counted, len, List.length_cons]
        exact Nat.add_right_comm ..
      · rw [List.append_assoc] at ended
        exact ended

/-- Writes up to the end of the buffer. -/
theorem puts_take (shown : Shows size sink text) (more : List α) {count : Nat}
    (cut : sink.len + count = size) (long : count ≤ more.length) :
    Exists fun next => sink.puts (more.take count) = some next ∧
      Shows size next (text ++ more) := by
  have length : (more.take count).length = count := List.length_take_of_le long
  have inside : sink.len + (more.take count).length ≤ size := by omega
  rcases shown.puts inside with ⟨next, done, len, after⟩
  refine ⟨next, done, ?_⟩
  have rest := after.full (by omega) (more.drop count)
  rw [List.append_assoc, List.take_append_drop] at rest
  exact rest

/-- The terminator behind the text, or in the last place. -/
theorem terminate (shown : Shows size sink text) (positive : 0 < size) (terminator : α) :
    Exists fun next =>
      sink.store (if sink.len < size then sink.len else size - 1) terminator = some next ∧
        next.out.length = size ∧
        next.out.take (min text.length (size - 1) + 1) = text.take (size - 1) ++ [terminator] := by
  have counted := shown.counted
  have stopped := shown.stopped
  have length := shown.length
  have place : (if sink.len < size then sink.len else size - 1) = min text.length (size - 1) := by
    split <;> omega
  have inside : min text.length (size - 1) < sink.out.length := by omega
  rw [place, store, if_pos inside]
  refine ⟨_, rfl, (List.length_set ..).trans length, ?_⟩
  rw [List.take_succ_eq_append_getElem (by rw [List.length_set]; exact inside),
    List.take_set_of_le (Nat.le_refl _), List.getElem_set_self, shown.taken]

end Shows

/-! ## Writers -/

/-- A writer that adds to the text, whatever has been put out before. -/
def Writes (size : Nat) (write : TextSink α -> Option (TextSink α)) (more : List α) : Prop :=
  forall sink text, Shows size sink text ->
    Exists fun next => write sink = some next ∧ Shows size next (text ++ more)

namespace Writes

variable {size : Nat} {first second : TextSink α -> Option (TextSink α)} {before after : List α}

theorem nothing (size : Nat) : Writes size (some : TextSink α -> Option (TextSink α)) [] := by
  intro sink text shown
  rw [List.append_nil]
  exact ⟨sink, rfl, shown⟩

/-- One writer after another. -/
theorem bind (writes : Writes size first before) (then_ : Writes size second after) :
    Writes size (fun sink => (first sink).bind second) (before ++ after) := by
  intro sink text shown
  rcases writes sink text shown with ⟨middle, done, shown⟩
  rcases then_ middle _ shown with ⟨next, rest, shown⟩
  refine ⟨next, ?_, ?_⟩
  · change (first sink).bind second = some next
    rw [done]
    exact rest
  · rw [List.append_assoc] at shown
    exact shown

end Writes
end TextSink
end NetSystem
