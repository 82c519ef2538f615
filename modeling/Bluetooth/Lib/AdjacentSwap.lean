import Mathlib

set_option linter.all false

/-!
# Swaps of adjacent inverted pairs

A sort that only ever exchanges two neighbours found out of order keeps the list a permutation
of itself, and lowers its number of inversions, the pairs of positions whose entries stand in
the wrong order, by one at each exchange.  That number bounds the exchanges, whatever order
they are made in.  A list whose neighbours are in order up to some position is sorted up to it.
-/

namespace AdjacentSwap

variable {α : Type*}

/-- `x = l[i]; l[i] = l[i + 1]; l[i + 1] = x`. -/
def swapAdjacent (l : List α) (i : Nat) (inside : i + 1 < l.length) : List α :=
  (l.set i l[i + 1]).set (i + 1) l[i]

section Swap

variable (l : List α) (i : Nat) (inside : i + 1 < l.length)

/-- A list seen around two neighbours. -/
theorem eq_around : l = l.take i ++ l[i] :: l[i + 1] :: l.drop (i + 2) := by
  have tail : l.drop i = l[i] :: l[i + 1] :: l.drop (i + 2) := by
    rw [List.drop_eq_getElem_cons (by omega), List.drop_eq_getElem_cons inside]
  conv_lhs => rw [← List.take_append_drop i l, tail]

theorem swapAdjacent_eq :
    swapAdjacent l i inside = l.take i ++ l[i + 1] :: l[i] :: l.drop (i + 2) := by
  have front : (l.take i).length = i := by simp; omega
  apply List.ext_getElem (by simp [swapAdjacent]; omega)
  intro j _ _
  simp only [swapAdjacent, List.getElem_set]
  -- the entries before the pair, the pair itself, and the entries after it
  rcases Nat.lt_trichotomy j i with before | rfl | after
  · rw [if_neg (by omega), if_neg (by omega), List.getElem_append_left (by omega),
      List.getElem_take]
  · rw [if_neg (by omega), if_pos rfl, List.getElem_append_right (by omega)]
    simp [front]
  · rcases Nat.lt_or_ge (i + 1) j with later | at_next
    · rw [if_neg (by omega), if_neg (by omega), List.getElem_append_right (by omega)]
      simp only [front, List.getElem_cons, List.getElem_drop]
      split_ifs <;> first | omega | (congr 1; omega)
    · have next : j = i + 1 := by omega
      subst next
      rw [if_pos rfl, List.getElem_append_right (by omega)]
      simp [front]

theorem length_swapAdjacent : (swapAdjacent l i inside).length = l.length := by
  simp [swapAdjacent]

/-- An exchange of neighbours permutes the list. -/
theorem perm_swapAdjacent : (swapAdjacent l i inside).Perm l := by
  rw [swapAdjacent_eq]
  conv_rhs => rw [eq_around l i inside]
  exact List.Perm.append_left _ (List.Perm.swap _ _ _)

/-- Past the two neighbours, nothing moves. -/
theorem drop_swapAdjacent {k : Nat} (past : i + 2 ≤ k) :
    (swapAdjacent l i inside).drop k = l.drop k := by
  have around := eq_around l i inside
  rw [swapAdjacent_eq]
  conv_rhs => rw [around]
  have sizes : (l.take i).length = i := by simp; omega
  obtain ⟨extra, rfl⟩ : ∃ extra, k = i + 2 + extra := ⟨k - (i + 2), by omega⟩
  simp [List.drop_append, sizes, show i + 2 + extra - i = extra + 2 by omega]
  omega

/-- A prefix that holds both neighbours is permuted. -/
theorem perm_take_swapAdjacent {k : Nat} (past : i + 2 ≤ k) :
    ((swapAdjacent l i inside).take k).Perm (l.take k) := by
  have whole := perm_swapAdjacent l i inside
  rw [← List.take_append_drop k (swapAdjacent l i inside), drop_swapAdjacent l i inside past] at whole
  conv_rhs at whole => rw [← List.take_append_drop k l]
  exact (List.perm_append_right_iff _).mp whole

end Swap

section Inversions

variable [LT α] [DecidableRel (α := α) (· < ·)]

/-- The pairs of positions `i < j` with `l[j] < l[i]`. -/
def inversions : List α → Nat
  | [] => 0
  | x :: rest => rest.countP (· < x) + inversions rest

/-- No more inversions than pairs of positions. -/
theorem inversions_le (l : List α) : inversions l ≤ l.length * l.length := by
  induction l with
  | nil => simp [inversions]
  | cons x rest induction =>
    have counted : rest.countP (· < x) ≤ rest.length := List.countP_le_length
    rw [inversions, List.length_cons, Nat.succ_mul, Nat.mul_succ]
    omega

variable [Std.Asymm (α := α) (· < ·)]

/-- Exchanging two neighbours out of order removes exactly their inversion. -/
theorem inversions_append_swap (front : List α) {x y : α} (back : List α) (inverted : y < x) :
    inversions (front ++ y :: x :: back) + 1 = inversions (front ++ x :: y :: back) := by
  induction front with
  | nil =>
    have notBefore : ¬x < y := Std.Asymm.asymm y x inverted
    simp only [List.nil_append, inversions, List.countP_cons, decide_eq_true_eq, inverted,
      notBefore, if_true, if_false]
    omega
  | cons head front induction =>
    have sameCount : (front ++ y :: x :: back).countP (· < head) =
        (front ++ x :: y :: back).countP (· < head) :=
      List.Perm.countP_eq _ (List.Perm.append_left _ (List.Perm.swap _ _ _))
    simp only [List.cons_append, inversions, sameCount]
    omega

theorem inversions_swapAdjacent (l : List α) (i : Nat) (inside : i + 1 < l.length)
    (inverted : l[i + 1] < l[i]) :
    inversions (swapAdjacent l i inside) + 1 = inversions l := by
  rw [swapAdjacent_eq, inversions_append_swap _ _ inverted, ← eq_around l i inside]

end Inversions

/-- Neighbours in order up to position `last` make the first `last + 1` entries sorted. -/
theorem pairwise_take_of_adjacent [LE α] [Trans (α := α) (· ≤ ·) (· ≤ ·) (· ≤ ·)] (l : List α) (last : Nat)
    (ordered : ∀ j (h : j + 1 < l.length), j < last → l[j] ≤ l[j + 1]) :
    (l.take (last + 1)).Pairwise (· ≤ ·) := by
  apply List.isChain_iff_pairwise.mp
  rw [List.isChain_iff_getElem]
  intro j within
  simp only [List.length_take] at within
  simp only [List.getElem_take]
  exact ordered j (by omega) (by omega)

end AdjacentSwap
