import Mathlib.Data.List.Chain
import Mathlib.Data.List.Nodup

namespace NetSystem

universe u

/-!
# Circular lists

The members of a circular list in the order of their links, from any of them on.
-/

/-- Each member is linked to the one behind it, and the last one to the first. -/
structure LinkedRing {ι : Type u} (next : ι -> ι) (ring : List ι) : Prop where
  nodup : ring.Nodup
  linked : (ring ++ ring.take 1).IsChain fun member following => next member = following

/-- All members but the last one have a link in a chain. -/
theorem isChain_concat_imp {ι : Type u} {link other : ι -> ι -> Prop} {members : List ι} {last : ι}
    (implied : forall member, member ∈ members -> forall following,
      link member following -> other member following)
    (chain : (members ++ [last]).IsChain link) : (members ++ [last]).IsChain other := by
  induction members with
  | nil => exact List.isChain_singleton last
  | cons member members inductionHypothesis =>
      rw [List.cons_append, List.isChain_cons] at chain ⊢
      refine ⟨fun following isHead => ?_, inductionHypothesis ?_ chain.2⟩
      · exact implied member (List.mem_cons_self ..) following (chain.1 following isHead)
      · exact fun third inside => implied third (List.mem_cons_of_mem member inside)

namespace LinkedRing

variable {ι : Type u} {next : ι -> ι}

/-- Where a link leads. -/
theorem next_eq {before after : List ι} {member : ι}
    (ring : LinkedRing next (before ++ member :: after)) :
    (after ++ (before ++ member :: after).take 1).head? = some (next member) := by
  have linked := ring.linked
  rw [List.append_assoc] at linked
  have behind := linked.right_of_append
  cases following : after ++ (before ++ member :: after).take 1 with
  | nil =>
      have nothing := (List.append_eq_nil_iff.mp following).2
      rw [List.take_eq_nil_iff] at nothing
      rcases nothing with one | nothing
      · cases one
      · cases (List.append_eq_nil_iff.mp nothing).2
  | cons other later =>
      rw [List.cons_append, following, List.isChain_cons_cons] at behind
      rw [behind.1]
      rfl

/-- A member behind another one is not the first one. -/
theorem ne_first {before after : List ι} {member other first : ι}
    (ring : LinkedRing next (before ++ member :: other :: after))
    (isFirst : (before ++ member :: other :: after).head? = some first) : other ≠ first := by
  intro same
  have nodup := ring.nodup
  rw [List.append_cons] at nodup isFirst
  have inside : first ∈ before ++ [member] := by
    refine List.mem_of_head? ?_
    cases before with
    | nil => exact isFirst
    | cons third before => exact isFirst
  exact (List.nodup_append.mp nodup).2.2 first inside other (List.mem_cons_self ..) same.symm

theorem rotate {first : ι} {rest : List ι} (ring : LinkedRing next (first :: rest)) :
    LinkedRing next (rest ++ [first]) where
  nodup := by
    rw [List.nodup_append_comm]
    exact ring.nodup
  linked := by
    have linked := ring.linked
    cases rest with
    | nil => exact linked
    | cons second rest =>
        have link : next first = second := (List.isChain_cons_cons.mp linked).1
        refine (List.isChain_cons_cons.mp linked).2.append (List.isChain_singleton second) ?_
        intro last isLast other isOther
        cases isOther
        change (second :: (rest ++ [first])).getLast? = some last at isLast
        rw [← List.cons_append, List.getLast?_append] at isLast
        cases isLast
        exact link

/-- The links of the members make the ring. -/
theorem congr {other : ι -> ι} {ring : List ι} (linked : LinkedRing next ring)
    (same : forall member, member ∈ ring -> other member = next member) :
    LinkedRing other ring where
  nodup := linked.nodup
  linked := by
    refine List.IsChain.imp_of_mem_imp ?_ linked.linked
    intro member following isMember _ link
    rcases List.mem_append.mp isMember with inside | first
    · rw [same member inside]
      exact link
    · rw [same member (List.mem_of_mem_take first)]
      exact link

/-- A new member is linked in behind another one. -/
theorem insert {other : ι -> ι} {before after : List ι} {member new : ι}
    (ring : LinkedRing next (before ++ member :: after))
    (fresh : new ∉ before ++ member :: after) (link : other member = new)
    (onward : other new = next member)
    (same : forall third, third ∈ before ++ member :: after -> third ≠ member ->
      other third = next third) :
    LinkedRing other (before ++ member :: new :: after) where
  nodup := by
    rw [List.append_cons before member (new :: after)]
    rw [List.append_cons before member after] at fresh ring
    exact List.perm_middle.nodup_iff.mpr (List.nodup_cons.mpr ⟨fresh, ring.nodup⟩)
  linked := by
    have target := ring.next_eq
    have linked := ring.linked
    rcases List.nodup_append.mp ring.nodup with ⟨_, behind, disjoint⟩
    have outside : member ∉ after := (List.nodup_cons.mp behind).1
    have closing : (before ++ member :: new :: after).take 1 =
        (before ++ member :: after).take 1 := by
      cases before <;> rfl
    have single : Exists fun first => (before ++ member :: after).take 1 = [first] := by
      cases before with
      | nil => exact ⟨member, rfl⟩
      | cons first before => exact ⟨first, rfl⟩
    rcases single with ⟨first, single⟩
    rw [closing, single]
    rw [single] at linked target
    rw [List.append_assoc, List.cons_append, List.isChain_split] at linked ⊢
    refine ⟨isChain_concat_imp ?_ linked.1, (List.isChain_cons_cons.mpr ⟨link, ?_⟩)⟩
    · intro third isBefore following leads
      have inside := List.mem_append_left (member :: after) isBefore
      rw [same third inside fun here => disjoint third isBefore member (List.mem_cons_self ..) here]
      exact leads
    · refine (isChain_concat_imp ?_ (List.isChain_cons.mp linked.2).2).cons ?_
      · intro third isAfter following leads
        have inside := List.mem_append_right before (List.mem_cons_of_mem member isAfter)
        rw [same third inside fun here => outside (here ▸ isAfter)]
        exact leads
      · intro following isHead
        rw [onward]
        exact Option.some.inj (target.symm.trans isHead)

end LinkedRing
end NetSystem
