import Mathlib

set_option linter.all false

/-!
# Sums over tables with distinct keys

A map kept as a list of entries with distinct keys changes at one key at a time.  A sum over
its entries then changes by the term of that entry alone: when the entry is dropped
(`sum_filter_key_ne_add`) and when it is rewritten (`sum_map_update_key`).  Counting, for each
entry, the items of another list that carry its key counts once each item whose key is in the
table (`sum_countP_key`).
-/

namespace KeyedSum

variable {α β κ M : Type*} [DecidableEq κ] [AddCommMonoid M] (key : α → κ)

/-- A sum over the entries that pass a test is a sum over all entries of the terms that pass. -/
theorem sum_map_filter (l : List α) (p : α → Prop) [DecidablePred p] (g : α → M) :
    ((l.filter p).map g).sum = (l.map fun a => if p a then g a else 0).sum := by
  induction l with
  | nil => rfl
  | cons a l induction =>
    by_cases holds : p a <;> simp [holds, induction]

/-- Dropping the entry of one key from a table with distinct keys takes its term off a sum. -/
theorem sum_filter_key_ne_add {l : List α} (nodup : (l.map key).Nodup) {a : α} (mem : a ∈ l)
    (g : α → M) : ((l.filter fun b => key b ≠ key a).map g).sum + g a = (l.map g).sum := by
  induction l with
  | nil => cases mem
  | cons b l induction =>
    rw [List.map_cons, List.nodup_cons] at nodup
    rcases List.mem_cons.1 mem with rfl | later
    · have kept : l.filter (fun b => key b ≠ key a) = l := by
        refine List.filter_eq_self.2 fun b member => decide_eq_true fun same => nodup.1 ?_
        rw [← same]
        exact List.mem_map_of_mem member
      rw [List.filter_cons_of_neg (by simp), kept, List.map_cons, List.sum_cons, add_comm]
    · have differs : key b ≠ key a := fun same => nodup.1 (by
        rw [same]
        exact List.mem_map_of_mem later)
      simp only [List.filter_cons, ne_eq, differs, not_false_eq_true, decide_true, if_true,
        List.map_cons, List.sum_cons, add_assoc, induction nodup.2 later]

/-- Rewriting the entry of one key in a table with distinct keys changes a sum by its term. -/
theorem sum_map_update_key {l : List α} (nodup : (l.map key).Nodup) {a : α} (mem : a ∈ l)
    (g g' : α → M) (others : ∀ b ∈ l, key b ≠ key a → g' b = g b) :
    (l.map g').sum + g a = (l.map g).sum + g' a := by
  have same : ((l.filter fun b => key b ≠ key a).map g').sum =
      ((l.filter fun b => key b ≠ key a).map g).sum := by
    refine congrArg List.sum (List.map_congr_left fun b member => ?_)
    rw [List.mem_filter] at member
    exact others b member.1 (by simpa using member.2)
  rw [← sum_filter_key_ne_add key nodup mem g', ← sum_filter_key_ne_add key nodup mem g, same,
    add_right_comm]

/-- Two tests that no item passes together count, added, the items that pass one of them. -/
theorem countP_add_of_disjoint (items : List β) {p q : β → Prop} [DecidablePred p]
    [DecidablePred q] (disjoint : ∀ x ∈ items, p x → ¬q x) :
    items.countP (fun x => p x) + items.countP (fun x => q x) =
      items.countP fun x => p x ∨ q x := by
  induction items with
  | nil => rfl
  | cons x items induction =>
    have rest := induction fun y member => disjoint y (List.mem_cons_of_mem x member)
    have first := disjoint x List.mem_cons_self
    simp only [List.countP_cons, decide_eq_true_eq, ← rest]
    by_cases px : p x <;> by_cases qx : q x <;> simp_all <;> omega

/-- Counting for each entry the items with its key counts the items whose key is in the table. -/
theorem sum_countP_key (itemKey : β → κ) (items : List β) {l : List α}
    (nodup : (l.map key).Nodup) :
    (l.map fun a => items.countP fun x => itemKey x = key a).sum =
      items.countP fun x => itemKey x ∈ l.map key := by
  induction l with
  | nil => simp
  | cons a l induction =>
    rw [List.map_cons, List.nodup_cons] at nodup
    rw [List.map_cons, List.sum_cons, induction nodup.2, countP_add_of_disjoint]
    · simp
    · intro x _ same inside
      exact nodup.1 (same ▸ inside)

end KeyedSum
