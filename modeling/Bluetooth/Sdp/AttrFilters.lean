import Bluetooth.Lib.Loop
import Bluetooth.Lib.AdjacentSwap

set_option linter.all false

/-!
# Sorting the attribute filters of a discovery database

`SDP_InitDiscoveryDb` copies the attribute ids a client asks for into `attr_filters` and sorts
them with `sdpu_sort_attr_list`, which scans neighbours from the start and, at the first pair
out of order, swaps it and starts the scan again.  Each swap removes one inversion and a scan
is at most `SDP_MAX_ATTR_FILTERS` turns long, so the loop ends within a bound that holds for
every array; it leaves the first `min(num_attr, SDP_MAX_ATTR_FILTERS)` ids sorted and permuted,
and the rest of the array as it was (`sort_attr_list_sorts_prefix`).
-/

namespace Bluetooth.Sdp

open AdjacentSwap

/-- `SDP_MAX_ATTR_FILTERS`. -/
def sdpMaxAttrFilters : Nat := 15

/-- One turn of the loop of `sdpu_sort_attr_list` over `attr_filters[0 .. last]`, from
`(attr_filters, i)`: a pair out of order is swapped and the scan starts again from `0`. -/
def sortAttrBody {size : Nat} (last : Fin size) (state : Vector UInt16 size × Nat) :
    (Vector UInt16 size × Nat) ⊕ Vector UInt16 size :=
  if inside : state.2 < last.val then
    have : state.2 + 1 < size := by omega
    if state.1[state.2] > state.1[state.2 + 1] then
      let x := state.1[state.2]
      let filters := state.1.set state.2 state.1[state.2 + 1]
      .inl (filters.set (state.2 + 1) x, 0)
    else .inl (state.1, state.2 + 1)
  else .inr state.1

/-- `num_attr - 1` after `num_attr` is capped at `SDP_MAX_ATTR_FILTERS`: the last position the
loop compares. -/
def sortBound (numAttr : UInt16) : Fin sdpMaxAttrFilters :=
  ⟨(if numAttr.toNat > sdpMaxAttrFilters then sdpMaxAttrFilters else numAttr.toNat) - 1, by
    unfold sdpMaxAttrFilters
    split <;> omega⟩

/-- `sdpu_sort_attr_list(num_attr, p_db)` on `p_db->attr_filters`, its loop run for at most
`fuel` turns. -/
def sdpuSortAttrList (fuel : Nat) (numAttr : UInt16) (attrFilters : Vector UInt16 sdpMaxAttrFilters) :
    Option (Vector UInt16 sdpMaxAttrFilters) :=
  if numAttr.toNat ≤ 1 then some attrFilters
  else Loop.run (sortAttrBody (sortBound numAttr)) fuel (attrFilters, 0)

section Body

variable {size : Nat} (last : Fin size)

/-- The swap of the loop is the exchange of two neighbours. -/
theorem toList_swap (filters : Vector UInt16 size) (i : Nat) (inside : i + 1 < size) :
    ((filters.set i filters[i + 1]).set (i + 1) filters[i]).toList =
      swapAdjacent filters.toList i (by simpa using inside) := by
  simp only [Vector.toList_set, swapAdjacent, Vector.getElem_toList]

/-- What one turn of the loop can do: swap a pair out of order and restart, step past a pair in
order, or leave at the end of the scan. -/
theorem sortAttrBody_cases {filters : Vector UInt16 size} {i : Nat} {outcome}
    (turn : sortAttrBody last (filters, i) = outcome) :
    (∃ (inside : i + 1 < size), i < last.val ∧ filters[i + 1] < filters[i] ∧
      outcome = .inl ((filters.set i filters[i + 1]).set (i + 1) filters[i], 0)) ∨
    (∃ (inside : i + 1 < size), i < last.val ∧ filters[i] ≤ filters[i + 1] ∧
      outcome = .inl (filters, i + 1)) ∨
    (last.val ≤ i ∧ outcome = .inr filters) := by
  unfold sortAttrBody at turn
  dsimp only at turn
  split_ifs at turn with inside inverted
  · exact .inl ⟨by omega, inside, inverted, turn.symm⟩
  · exact .inr (.inl ⟨by omega, inside, UInt16.not_lt.mp inverted, turn.symm⟩)
  · exact .inr (.inr ⟨by omega, turn.symm⟩)

/-- Inversions first, then the distance to the end of the scan: every turn that goes on lowers
it. -/
def sortMeasure (state : Vector UInt16 size × Nat) : Nat :=
  inversions state.1.toList * size + (last.val - state.2)

theorem sortMeasure_lt {state next : Vector UInt16 size × Nat}
    (turn : sortAttrBody last state = .inl next) :
    sortMeasure last next < sortMeasure last state := by
  obtain ⟨filters, i⟩ := state
  rcases sortAttrBody_cases last turn with ⟨inside, scanning, inverted, swapped⟩ |
    ⟨_, scanning, _, stepped⟩ | ⟨_, left⟩
  · cases Sum.inl.inj swapped
    have fewer := inversions_swapAdjacent filters.toList i (by simpa using inside)
      (by simpa using inverted)
    have bounded := last.isLt
    unfold sortMeasure
    dsimp only
    rw [toList_swap filters i inside]
    -- one inversion fewer outweighs a scan started again from `0`
    have restart : (inversions (swapAdjacent filters.toList i (by simpa using inside)) + 1) * size =
        inversions (swapAdjacent filters.toList i (by simpa using inside)) * size + size := by
      rw [Nat.add_mul, Nat.one_mul]
    rw [fewer] at restart
    omega
  · cases Sum.inl.inj stepped
    unfold sortMeasure
    dsimp only
    omega
  · cases left

/-- What every turn keeps, from the array the loop started on: the first `last + 1` ids are a
permutation of what they were, the rest are untouched, and the neighbours before the scan
position are in order. -/
def SortInvariant (original : Vector UInt16 size) (state : Vector UInt16 size × Nat) : Prop :=
  (state.1.toList.take (last.val + 1)).Perm (original.toList.take (last.val + 1)) ∧
    state.1.toList.drop (last.val + 1) = original.toList.drop (last.val + 1) ∧
    ∀ j (h : j + 1 < size), j < state.2 → state.1[j] ≤ state.1[j + 1]

theorem sortInvariant_start (original : Vector UInt16 size) :
    SortInvariant last original (original, 0) :=
  ⟨List.Perm.refl _, rfl, fun _ _ before => absurd before (Nat.not_lt_zero _)⟩

theorem SortInvariant.turn {original : Vector UInt16 size} {state next : Vector UInt16 size × Nat}
    (holds : SortInvariant last original state) (turn : sortAttrBody last state = .inl next) :
    SortInvariant last original next := by
  obtain ⟨filters, i⟩ := state
  obtain ⟨permuted, untouched, ordered⟩ := holds
  rcases sortAttrBody_cases last turn with ⟨inside, scanning, _, swapped⟩ |
    ⟨inside, scanning, inOrder, stepped⟩ | ⟨_, left⟩
  · cases Sum.inl.inj swapped
    have pair : i + 2 ≤ last.val + 1 := by omega
    refine ⟨?_, ?_, fun _ _ before => absurd before (Nat.not_lt_zero _)⟩
    · rw [toList_swap filters i inside]
      exact (perm_take_swapAdjacent _ i _ pair).trans permuted
    · rw [toList_swap filters i inside, drop_swapAdjacent _ i _ pair]
      exact untouched
  · cases Sum.inl.inj stepped
    refine ⟨permuted, untouched, fun j within before => ?_⟩
    rcases Nat.lt_or_ge j i with earlier | current
    · exact ordered j within earlier
    · have same : j = i := by omega
      subst same
      exact inOrder
  · cases left

/-- Where the loop leaves, the first `last + 1` ids are sorted. -/
theorem SortInvariant.sorted {original filters : Vector UInt16 size} {i : Nat}
    (holds : SortInvariant last original (filters, i)) (done : last.val ≤ i) :
    (filters.toList.take (last.val + 1)).Pairwise (· ≤ ·) := by
  apply pairwise_take_of_adjacent
  intro j within before
  simp only [Vector.getElem_toList]
  exact holds.2.2 j (by simpa using within) (by omega)

/-- Whatever the loop returns is the array with its first `last + 1` ids sorted, a permutation of
what they were, and the rest untouched. -/
theorem run_sortAttrBody {original sorted : Vector UInt16 size} {fuel : Nat}
    (ran : Loop.run (sortAttrBody last) fuel (original, 0) = some sorted) :
    (sorted.toList.take (last.val + 1)).Pairwise (· ≤ ·) ∧
      (sorted.toList.take (last.val + 1)).Perm (original.toList.take (last.val + 1)) ∧
      sorted.toList.drop (last.val + 1) = original.toList.drop (last.val + 1) := by
  refine Loop.run_invariant (SortInvariant last original)
    (fun sorted => (sorted.toList.take (last.val + 1)).Pairwise (· ≤ ·) ∧
      (sorted.toList.take (last.val + 1)).Perm (original.toList.take (last.val + 1)) ∧
      sorted.toList.drop (last.val + 1) = original.toList.drop (last.val + 1))
    (fun _ _ holds turn => holds.turn last turn) ?_ fuel _ sorted (sortInvariant_start last original) ran
  rintro ⟨filters, i⟩ result holds turn
  rcases sortAttrBody_cases last turn with ⟨_, _, _, swapped⟩ | ⟨_, _, _, stepped⟩ | ⟨done, left⟩
  · cases swapped
  · cases stepped
  · cases Sum.inr.inj left
    exact ⟨holds.sorted last done, holds.1, holds.2.1⟩

/-- More turns than inversions times the array's size, plus one scan, end the loop. -/
theorem isSome_run_sortAttrBody (original : Vector UInt16 size) {fuel : Nat}
    (enough : inversions original.toList * size + size ≤ fuel) :
    (Loop.run (sortAttrBody last) fuel (original, 0)).isSome := by
  refine Loop.isSome_run_of_measure (fun _ => True) (sortMeasure last)
    (fun _ _ _ _ => trivial) (fun _ _ _ turn => sortMeasure_lt last turn) fuel _ trivial ?_
  have bounded := last.isLt
  unfold sortMeasure
  dsimp only
  omega

end Body

theorem sortBound_succ {numAttr : UInt16} (several : 1 < numAttr.toNat) :
    (sortBound numAttr).val + 1 = min numAttr.toNat sdpMaxAttrFilters := by
  unfold sortBound sdpMaxAttrFilters
  dsimp only
  split_ifs with capped <;> omega

/-- For every array and every `num_attr`, `sdpu_sort_attr_list` ends within
`SDP_MAX_ATTR_FILTERS ^ 3 + SDP_MAX_ATTR_FILTERS` turns of its loop, and leaves the first
`min(num_attr, SDP_MAX_ATTR_FILTERS)` ids sorted and a permutation of what they were, and the
rest of the array untouched. -/
theorem sort_attr_list_sorts_prefix (numAttr : UInt16) (attrFilters : Vector UInt16 sdpMaxAttrFilters) :
    (∀ fuel, sdpMaxAttrFilters ^ 3 + sdpMaxAttrFilters ≤ fuel →
      (sdpuSortAttrList fuel numAttr attrFilters).isSome) ∧
    ∀ fuel sorted, sdpuSortAttrList fuel numAttr attrFilters = some sorted →
      (sorted.toList.take (min numAttr.toNat sdpMaxAttrFilters)).Pairwise (· ≤ ·) ∧
      (sorted.toList.take (min numAttr.toNat sdpMaxAttrFilters)).Perm
        (attrFilters.toList.take (min numAttr.toNat sdpMaxAttrFilters)) ∧
      sorted.toList.drop (min numAttr.toNat sdpMaxAttrFilters) =
        attrFilters.toList.drop (min numAttr.toNat sdpMaxAttrFilters) := by
  unfold sdpuSortAttrList
  by_cases few : numAttr.toNat ≤ 1
  · -- at most one id: nothing to sort
    simp only [if_pos few]
    refine ⟨fun _ _ => rfl, fun _ sorted returned => ?_⟩
    cases Option.some_inj.mp returned
    have single : min numAttr.toNat sdpMaxAttrFilters ≤ 1 := by omega
    refine ⟨?_, List.Perm.refl _, rfl⟩
    apply List.Pairwise.sublist (List.take_sublist_take_left single)
    cases attrFilters.toList with
    | nil => exact List.Pairwise.nil
    | cons head _ => exact List.pairwise_singleton _ head
  · simp only [if_neg few]
    rw [← sortBound_succ (by omega)]
    refine ⟨fun fuel enough => isSome_run_sortAttrBody _ attrFilters ?_,
      fun fuel sorted ran => run_sortAttrBody _ ran⟩
    have counted := inversions_le attrFilters.toList
    rw [Vector.length_toList] at counted
    have cubed : inversions attrFilters.toList * sdpMaxAttrFilters ≤ sdpMaxAttrFilters ^ 3 := by
      calc inversions attrFilters.toList * sdpMaxAttrFilters
          ≤ sdpMaxAttrFilters * sdpMaxAttrFilters * sdpMaxAttrFilters :=
            Nat.mul_le_mul_right _ counted
        _ = sdpMaxAttrFilters ^ 3 := by rw [Nat.pow_succ, Nat.pow_two]
    omega

end Bluetooth.Sdp
