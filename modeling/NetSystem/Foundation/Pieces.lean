import Mathlib.Data.List.Basic

namespace NetSystem

universe u

/-!
# The pieces of a list between separators

A separator ends the piece in front of it.  What follows the last separator is a
piece only if it is not empty, so a list that ends with a separator has as many
pieces as separators, and the empty list has none.
-/

variable {α : Type u}

/-- Each piece with the separator that ends it. -/
def ended (sep : α) (closed : List (List α)) : List α := closed.flatMap (· ++ [sep])

theorem ended_append (sep : α) (front back : List (List α)) :
    ended sep (front ++ back) = ended sep front ++ ended sep back :=
  List.flatMap_append

theorem ended_concat (sep : α) (closed : List (List α)) (piece : List α) :
    ended sep (closed ++ [piece]) = ended sep closed ++ (piece ++ [sep]) := by
  rw [ended_append]
  exact congrArg _ (List.append_nil _)

/-- Later pieces end later. -/
theorem length_ended_take_le (sep : α) (tokens : List (List α)) {first second : Nat}
    (before : first ≤ second) :
    (ended sep (tokens.take first)).length ≤ (ended sep (tokens.take second)).length := by
  rw [← Nat.add_sub_cancel' before, List.take_add, ended_append, List.length_append]
  exact Nat.le_add_right ..

/-- The piece behind some pieces, with its separator. -/
theorem length_ended_take_succ (sep : α) {tokens : List (List α)} {k : Nat} {piece : List α}
    (found : tokens[k]? = some piece) :
    (ended sep (tokens.take (k + 1))).length =
      (ended sep (tokens.take k)).length + piece.length + 1 := by
  rw [List.take_add_one, found, Option.toList_some, ended_concat]
  simp [Nat.add_assoc]

variable [DecidableEq α] {sep : α}

/-- The segments between the separators, without a last one that is empty. -/
def pieces (sep : α) (text : List α) : List (List α) :=
  if (text.splitOn sep).getLast? = some [] then (text.splitOn sep).dropLast
  else text.splitOn sep

theorem pieces_of_not_mem {text : List α} (free : sep ∉ text) :
    pieces sep text = if text = [] then [] else [text] := by
  rw [pieces, List.splitOn_eq_singleton free]
  by_cases empty : text = []
  · rw [if_pos empty, empty]
    rfl
  · rw [if_neg empty, if_neg]
    rw [List.getLast?_singleton]
    exact fun same => empty (Option.some.inj same)

/-- The first separator ends the first piece. -/
theorem pieces_append_sep {front : List α} (free : sep ∉ front) (rest : List α) :
    pieces sep (front ++ sep :: rest) = front :: pieces sep rest := by
  have some_piece : rest.splitOn sep ≠ [] := List.splitOn_ne_nil sep rest
  rw [pieces, List.splitOn_append_cons_self_of_not_mem free,
    List.getLast?_cons_of_ne_nil some_piece, List.dropLast_cons_of_ne_nil some_piece, pieces]
  by_cases trailing : (rest.splitOn sep).getLast? = some []
  · rw [if_pos trailing, if_pos trailing]
  · rw [if_neg trailing, if_neg trailing]

theorem pieces_ended_append {closed : List (List α)}
    (free : forall piece, piece ∈ closed -> sep ∉ piece) (rest : List α) :
    pieces sep (ended sep closed ++ rest) = closed ++ pieces sep rest := by
  induction closed with
  | nil => rfl
  | cons piece closed inductionHypothesis =>
      have later := inductionHypothesis fun other member =>
        free other (List.mem_cons_of_mem _ member)
      have here := free piece (List.mem_cons_self ..)
      rw [ended, List.flatMap_cons, List.append_assoc, List.append_assoc, List.singleton_append,
        pieces_append_sep here, ← ended, later]
      rfl

/-- Where a piece is in the list: behind those before it, with their separators, and in
front of a separator or the end. -/
theorem pieces_cut {text piece : List α} {k : Nat} (found : (pieces sep text)[k]? = some piece) :
    sep ∉ piece ∧ Exists fun rest =>
      text = ended sep ((pieces sep text).take k) ++ (piece ++ rest) ∧
        (rest = [] ∨ rest.head? = some sep) := by
  induction k generalizing text with
  | zero =>
      by_cases member : sep ∈ text
      · rcases List.eq_append_cons_of_mem member with ⟨front, back, rfl, free⟩
        rw [pieces_append_sep free] at found
        cases found
        exact ⟨free, sep :: back, rfl, .inr rfl⟩
      · rw [pieces_of_not_mem member] at found
        by_cases empty : text = []
        · rw [if_pos empty] at found
          cases found
        · rw [if_neg empty] at found
          cases found
          exact ⟨member, [], (List.append_nil _).symm, .inl rfl⟩
  | succ k inductionHypothesis =>
      by_cases member : sep ∈ text
      · rcases List.eq_append_cons_of_mem member with ⟨front, back, rfl, free⟩
        rw [pieces_append_sep free] at found ⊢
        rcases inductionHypothesis found with ⟨apart, rest, cut, ends⟩
        refine ⟨apart, rest, ?_, ends⟩
        rw [List.take_succ_cons, ended, List.flatMap_cons, List.append_assoc, List.append_assoc,
          ← ended, ← cut, List.singleton_append]
      · rw [pieces_of_not_mem member] at found
        by_cases empty : text = []
        · rw [if_pos empty] at found
          cases found
        · rw [if_neg empty] at found
          cases found

/-- No piece goes beyond the end of the list. -/
theorem length_of_piece_le {text piece : List α} {k : Nat}
    (found : (pieces sep text)[k]? = some piece) :
    (ended sep ((pieces sep text).take k)).length + piece.length ≤ text.length := by
  rcases (pieces_cut found).2 with ⟨rest, cut, _⟩
  have length := congrArg List.length cut
  simp only [List.length_append] at length
  omega

/-- Pieces that are not empty, joined by separators, are found again. -/
theorem pieces_intercalate {tokens : List (List α)}
    (free : forall token, token ∈ tokens -> sep ∉ token ∧ token ≠ []) :
    pieces sep ([sep].intercalate tokens) = tokens := by
  induction tokens with
  | nil => rfl
  | cons token tokens inductionHypothesis =>
      rcases free token (List.mem_cons_self ..) with ⟨apart, nonempty⟩
      have later := inductionHypothesis fun other member =>
        free other (List.mem_cons_of_mem _ member)
      by_cases last : tokens = []
      · rw [last, List.intercalate_singleton, pieces_of_not_mem apart, if_neg nonempty]
      · rw [List.intercalate_cons_of_ne_nil last, List.append_assoc, List.singleton_append,
          pieces_append_sep apart, later]

end NetSystem
