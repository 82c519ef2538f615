import Mathlib

set_option linter.all false

/-!
# Most-recently-used lists

A cache of bounded size kept as a list of entries from the most to the least recently used, no
two under one key.  A use of a key moves its entry to the front.  A write puts the entry at the
front, and a new key written into a full cache first evicts the entry at the back, the least
recently used one, which the write returns.

Each operation is described by `lookup` and by the front of the list, and keeps the keys distinct
(`nodup_put`) and the length within the capacity (`length_put_le`).
-/

namespace Mru

variable {Key T : Type} [DecidableEq Key]

/-- The entries without the one of `key`. -/
def remove (key : Key) (entries : List (Key × T)) : List (Key × T) :=
  entries.filter fun entry => entry.1 ≠ key

/-- A use of `key`: its entry, if there is one, moves to the front. -/
def touch (key : Key) (entries : List (Key × T)) : List (Key × T) :=
  match entries.lookup key with
  | some value => (key, value) :: remove key entries
  | none => entries

/-- A write of `value` under `key` in a cache of `capacity` entries: the entry goes to the front,
and a new key in a full cache first evicts the entry at the back, which is returned. -/
def put (capacity : Nat) (key : Key) (value : T) (entries : List (Key × T)) :
    Option (Key × T) × List (Key × T) :=
  if (entries.lookup key).isSome then (none, (key, value) :: remove key entries)
  else if entries.length = capacity then (entries.getLast?, (key, value) :: entries.dropLast)
  else (none, (key, value) :: entries)

/-- A write that leaves the value of a key already there, only moving it to the front: whether it
wrote, the entry it evicted, and the entries. -/
def putIfAbsent (capacity : Nat) (key : Key) (value : T) (entries : List (Key × T)) :
    Bool × Option (Key × T) × List (Key × T) :=
  if (entries.lookup key).isSome then (false, none, touch key entries)
  else (true, put capacity key value entries)

/-- The keys of the entries, in order. -/
def keys (entries : List (Key × T)) : List Key := entries.map Prod.fst

theorem touch_of_lookup_eq_some {key : Key} {value : T} {entries : List (Key × T)}
    (found : entries.lookup key = some value) :
    touch key entries = (key, value) :: remove key entries := by
  rw [touch, found]

theorem touch_of_lookup_eq_none {key : Key} {entries : List (Key × T)}
    (absent : entries.lookup key = none) : touch key entries = entries := by
  rw [touch, absent]

section Lookup

theorem lookup_eq_none_iff {entries : List (Key × T)} {key : Key} :
    entries.lookup key = none ↔ key ∉ keys entries := by
  induction entries with
  | nil => simp [keys]
  | cons entry entries induction =>
    obtain ⟨k, v⟩ := entry
    by_cases same : key = k
    · subst same
      simp [keys]
    · have skipped : ((k, v) :: entries).lookup key = entries.lookup key := by
        simp [List.lookup_cons, beq_eq_false_iff_ne.2 same]
      simpa [skipped, keys, same] using induction

theorem lookup_remove (key k : Key) (entries : List (Key × T)) :
    (remove key entries).lookup k = if k = key then none else entries.lookup k := by
  induction entries with
  | nil => simp [remove]
  | cons entry entries induction =>
    obtain ⟨k', v⟩ := entry
    by_cases kept : k' = key
    · subst kept
      have skipped : remove k' ((k', v) :: entries) = remove k' entries := by simp [remove]
      rw [skipped, induction]
      by_cases same : k = k'
      · simp [same]
      · simp [same, List.lookup_cons, beq_eq_false_iff_ne.2 same]
    · have kept' : remove key ((k', v) :: entries) = (k', v) :: remove key entries := by
        simp [remove, kept]
      rw [kept', List.lookup_cons, List.lookup_cons, induction]
      by_cases same : k = k'
      · subst same
        simp [kept]
      · simp [beq_eq_false_iff_ne.2 same]

@[simp] theorem keys_remove (key : Key) (entries : List (Key × T)) :
    keys (remove key entries) = (keys entries).filter (· ≠ key) := by
  simp [keys, remove, List.filter_map, Function.comp_def]

theorem remove_of_lookup_eq_none {key : Key} {entries : List (Key × T)}
    (absent : entries.lookup key = none) : remove key entries = entries := by
  have absent := lookup_eq_none_iff.1 absent
  refine List.filter_eq_self.2 fun entry mem => ?_
  have other : entry.1 ≠ key := fun same => absent (List.mem_map.2 ⟨entry, mem, same⟩)
  simpa using other

end Lookup

/-- In a list whose images under `f` are distinct, an element followed by the others, in order,
is a permutation of it. -/
theorem perm_cons_filter {α β : Type} [DecidableEq β] {f : α → β} {l : List α}
    (nodup : (l.map f).Nodup) {a : α} (mem : a ∈ l) :
    List.Perm l (a :: l.filter fun x => f x ≠ f a) := by
  induction l with
  | nil => cases mem
  | cons b rest induction =>
    rw [List.map_cons, List.nodup_cons] at nodup
    rcases List.mem_cons.1 mem with rfl | later
    · have kept : rest.filter (fun x => f x ≠ f a) = rest :=
        List.filter_eq_self.2 fun x member => by
          simpa using fun same => nodup.1 (List.mem_map.2 ⟨x, member, same⟩)
      rw [List.filter_cons_of_neg (by simp), kept]
    · have other : f b ≠ f a := fun same => nodup.1 (same ▸ List.mem_map_of_mem later)
      rw [List.filter_cons_of_pos (by simpa using other)]
      exact ((induction nodup.2 later).cons b).trans (List.Perm.swap a b _)

section Keys

variable {entries : List (Key × T)} (nodup : (keys entries).Nodup)

theorem not_mem_keys_remove (key : Key) (entries : List (Key × T)) :
    key ∉ keys (remove key entries) := by
  simp

include nodup

theorem nodup_remove (key : Key) : (keys (remove key entries)).Nodup := by
  rw [keys_remove]
  exact nodup.filter _

/-- Without the last key, the entries are all but the last. -/
theorem remove_of_getLast? {last : Key × T} (back : entries.getLast? = some last) :
    remove last.1 entries = entries.dropLast := by
  have split := List.dropLast_append_getLast? last back
  have front : last.1 ∉ keys entries.dropLast := by
    rw [← split, keys, List.map_append, List.nodup_append] at nodup
    exact fun mem => nodup.2.2 _ mem _ (List.mem_singleton_self _) rfl
  calc remove last.1 entries = remove last.1 (entries.dropLast ++ [last]) := by rw [split]
    _ = remove last.1 entries.dropLast := by simp [remove]
    _ = entries.dropLast := remove_of_lookup_eq_none (lookup_eq_none_iff.2 front)

/-- The entry found moves to the front; the others keep their order. -/
theorem perm_cons_remove {key : Key} {value : T} (found : entries.lookup key = some value) :
    List.Perm entries ((key, value) :: remove key entries) := by
  obtain ⟨front, back, split, -⟩ := List.lookup_eq_some_iff.1 found
  have mem : (key, value) ∈ entries := by
    rw [split]
    exact List.mem_append_right _ List.mem_cons_self
  exact perm_cons_filter nodup mem

theorem perm_touch (key : Key) : List.Perm (touch key entries) entries := by
  cases found : entries.lookup key with
  | none => rw [touch_of_lookup_eq_none found]
  | some value =>
    rw [touch_of_lookup_eq_some found]
    exact (perm_cons_remove nodup found).symm

/-- A use of the key at the front changes nothing. -/
theorem touch_of_head? {key : Key} {value : T} (front : entries.head? = some (key, value)) :
    touch key entries = entries := by
  obtain ⟨rest, rfl⟩ : ∃ rest, entries = (key, value) :: rest := by
    cases entries with
    | nil => cases front
    | cons first rest =>
      cases front
      exact ⟨rest, rfl⟩
  rw [keys, List.map_cons, List.nodup_cons] at nodup
  have absent : rest.lookup key = none := lookup_eq_none_iff.2 nodup.1
  have skipped : remove key ((key, value) :: rest) = remove key rest := by simp [remove]
  have found : ((key, value) :: rest).lookup key = some value := by simp
  rw [touch_of_lookup_eq_some found, skipped, remove_of_lookup_eq_none absent]

theorem nodup_touch (key : Key) : (keys (touch key entries)).Nodup :=
  ((perm_touch nodup key).map Prod.fst).nodup_iff.2 nodup

theorem length_touch (key : Key) : (touch key entries).length = entries.length :=
  (perm_touch nodup key).length_eq

theorem nodup_put (capacity : Nat) (key : Key) (value : T) :
    (keys (put capacity key value entries).2).Nodup := by
  unfold put
  split
  · exact List.nodup_cons.2 ⟨not_mem_keys_remove key entries, nodup_remove nodup key⟩
  · rename_i absent
    have absent : key ∉ keys entries :=
      lookup_eq_none_iff.1 (Option.not_isSome_iff_eq_none.1 absent)
    split
    · have dropped : (keys entries.dropLast).Sublist (keys entries) :=
        (List.dropLast_sublist entries).map _
      exact List.nodup_cons.2 ⟨fun mem => absent (dropped.subset mem), nodup.sublist dropped⟩
    · exact List.nodup_cons.2 ⟨absent, nodup⟩

theorem nodup_putIfAbsent (capacity : Nat) (key : Key) (value : T) :
    (keys (putIfAbsent capacity key value entries).2.2).Nodup := by
  unfold putIfAbsent
  split
  · exact nodup_touch nodup key
  · exact nodup_put nodup capacity key value

end Keys

section Length

variable {capacity : Nat} (capacity_pos : 0 < capacity) {entries : List (Key × T)}
  (nodup : (keys entries).Nodup) (bounded : entries.length ≤ capacity)
include capacity_pos nodup bounded

theorem length_put_le (key : Key) (value : T) :
    (put capacity key value entries).2.length ≤ capacity := by
  unfold put
  split
  · rename_i present
    obtain ⟨current, found⟩ := Option.isSome_iff_exists.1 present
    have same := length_touch nodup key
    rw [touch_of_lookup_eq_some found] at same
    simp only [List.length_cons] at same ⊢
    omega
  · split
    · rename_i full
      simp only [List.length_cons, List.length_dropLast]
      omega
    · rename_i room
      simp only [List.length_cons]
      omega

theorem length_putIfAbsent_le (key : Key) (value : T) :
    (putIfAbsent capacity key value entries).2.2.length ≤ capacity := by
  unfold putIfAbsent
  split
  · rw [length_touch nodup key]
    exact bounded
  · exact length_put_le capacity_pos nodup bounded key value

end Length

section Front

@[simp] theorem lookup_touch (key k : Key) (entries : List (Key × T)) :
    (touch key entries).lookup k = entries.lookup k := by
  cases found : entries.lookup key with
  | none => rw [touch_of_lookup_eq_none found]
  | some value =>
    rw [touch_of_lookup_eq_some found, List.lookup_cons, lookup_remove]
    by_cases same : k = key
    · subst same
      simp [found]
    · simp [beq_eq_false_iff_ne.2 same, same]

theorem head?_touch {key : Key} {value : T} {entries : List (Key × T)}
    (found : entries.lookup key = some value) : (touch key entries).head? = some (key, value) := by
  rw [touch_of_lookup_eq_some found]
  rfl

@[simp] theorem head?_put (capacity : Nat) (key : Key) (value : T) (entries : List (Key × T)) :
    (put capacity key value entries).2.head? = some (key, value) := by
  unfold put
  split_ifs <;> rfl

/-- Whether it wrote or only moved the entry there, the key is at the front. -/
theorem head?_putIfAbsent (capacity : Nat) (key : Key) (value : T) (entries : List (Key × T)) :
    ((putIfAbsent capacity key value entries).2.2.head?.map Prod.fst) = some key := by
  unfold putIfAbsent
  split
  · rename_i present
    obtain ⟨current, found⟩ := Option.isSome_iff_exists.1 present
    rw [head?_touch found]
    rfl
  · rw [head?_put]
    rfl

/-- A write leaves `value` under `key`, drops the entry at the back when it evicts, and leaves
every other key as it was. -/
theorem lookup_put {entries : List (Key × T)} (nodup : (keys entries).Nodup) (capacity : Nat)
    (key : Key) (value : T) (k : Key) :
    (put capacity key value entries).2.lookup k =
      if k = key then some value
      else if entries.lookup key = none ∧ entries.length = capacity ∧
          (entries.getLast?.map Prod.fst) = some k then none
      else entries.lookup k := by
  by_cases same : k = key
  · subst same
    rw [if_pos rfl]
    unfold put
    split_ifs <;> simp
  rw [if_neg same]
  unfold put
  split
  · rename_i present
    have present : entries.lookup key ≠ none := by simpa [Option.isSome_iff_ne_none] using present
    simp only [List.lookup_cons, beq_eq_false_iff_ne.2 same, lookup_remove, if_neg same, present,
      false_and, if_false]
  · rename_i absent
    have absent := Option.not_isSome_iff_eq_none.1 absent
    split
    · rename_i full
      simp only [List.lookup_cons, beq_eq_false_iff_ne.2 same, absent, full, true_and]
      cases back : entries.getLast? with
      | none =>
        rw [List.getLast?_eq_none_iff.1 back]
        rfl
      | some last =>
        rw [← remove_of_getLast? nodup back, lookup_remove]
        by_cases evicted : k = last.1
        · simp [evicted]
        · simp [evicted, Ne.symm evicted]
    · rename_i room
      simp [List.lookup_cons, beq_eq_false_iff_ne.2 same, room]

end Front

end Mru
