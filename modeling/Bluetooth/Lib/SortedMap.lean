import Mathlib

set_option linter.all false

/-!
# Sorted maps

A map kept as a list of entries in strictly increasing order of key, which is how `std::map`
iterates its entries; the order is a field of the structure, so no two entries share a key.
Insertion leaves an entry already present alone, as `std::map::insert` does.

Each operation is described by `find`, and `AllValues` states a property of every entry, which
an update of every value establishes and erasure keeps.
-/

/-- A list of entries in strictly increasing order of key. -/
structure SortedMap (κ ν : Type) [LinearOrder κ] where
  entries : List (κ × ν)
  sorted : entries.Pairwise fun a b => a.1 < b.1

namespace SortedMap

variable {κ ν : Type} [LinearOrder κ]

/-- The map with no entry. -/
def empty : SortedMap κ ν := ⟨[], .nil⟩

/-- The value stored under `key`. -/
def find (m : SortedMap κ ν) (key : κ) : Option ν := m.entries.lookup key

/-- The entries with `(key, value)` put in its place, unless `key` already has an entry. -/
def insertEntry (key : κ) (value : ν) : List (κ × ν) → List (κ × ν)
  | [] => [(key, value)]
  | entry :: rest =>
    if key < entry.1 then (key, value) :: entry :: rest
    else if key = entry.1 then entry :: rest
    else entry :: insertEntry key value rest

theorem mem_insertEntry {key : κ} {value : ν} {entries : List (κ × ν)} {entry : κ × ν}
    (mem : entry ∈ insertEntry key value entries) : entry = (key, value) ∨ entry ∈ entries := by
  induction entries with
  | nil => simpa [insertEntry] using mem
  | cons first rest induction =>
    unfold insertEntry at mem
    split_ifs at mem
    · simpa using mem
    · exact .inr mem
    · rcases List.mem_cons.1 mem with rfl | later
      · exact .inr List.mem_cons_self
      · exact (induction later).imp_right (List.mem_cons_of_mem _)

theorem pairwise_insertEntry (key : κ) (value : ν) {entries : List (κ × ν)}
    (sorted : entries.Pairwise fun a b => a.1 < b.1) :
    (insertEntry key value entries).Pairwise fun a b => a.1 < b.1 := by
  induction entries with
  | nil => simp [insertEntry]
  | cons first rest induction =>
    rw [List.pairwise_cons] at sorted
    unfold insertEntry
    split_ifs with before same
    · refine List.Pairwise.cons (fun entry mem => ?_) (.cons sorted.1 sorted.2)
      rcases List.mem_cons.1 mem with rfl | later
      · exact before
      · exact before.trans (sorted.1 entry later)
    · exact .cons sorted.1 sorted.2
    · refine List.Pairwise.cons (fun entry mem => ?_) (induction sorted.2)
      rcases mem_insertEntry mem with rfl | later
      · exact lt_of_le_of_ne (not_lt.1 before) (Ne.symm same)
      · exact sorted.1 entry later

/-- `std::map::insert`: an entry for `key`, unless it has one. -/
def insert (m : SortedMap κ ν) (key : κ) (value : ν) : SortedMap κ ν :=
  ⟨insertEntry key value m.entries, pairwise_insertEntry key value m.sorted⟩

/-- The value under `key`, if any, changed by `f`. -/
def modify (m : SortedMap κ ν) (key : κ) (f : ν → ν) : SortedMap κ ν :=
  ⟨m.entries.map fun entry => if entry.1 = key then (entry.1, f entry.2) else entry, by
    rw [List.pairwise_map]
    refine m.sorted.imp fun {a b} below => ?_
    split_ifs <;> exact below⟩

/-- Every value changed by `f`. -/
def mapValues (m : SortedMap κ ν) (f : κ → ν → ν) : SortedMap κ ν :=
  ⟨m.entries.map fun entry => (entry.1, f entry.1 entry.2), by
    rw [List.pairwise_map]
    exact m.sorted⟩

/-- `std::map::erase`. -/
def erase (m : SortedMap κ ν) (key : κ) : SortedMap κ ν :=
  ⟨m.entries.filter fun entry => entry.1 ≠ key, m.sorted.sublist List.filter_sublist⟩

/-- Every entry's value has `property`. -/
def AllValues (m : SortedMap κ ν) (property : ν → Prop) : Prop :=
  ∀ entry ∈ m.entries, property entry.2

theorem lookup_cons_of_ne {key k : κ} (differs : key ≠ k) (value : ν) (rest : List (κ × ν)) :
    ((k, value) :: rest).lookup key = rest.lookup key := by
  have unequal : (key == k) = false := by simpa using differs
  simp only [List.lookup_cons, unequal]

theorem find_insertEntry_self {key : κ} {value : ν} {entries : List (κ × ν)}
    (absent : entries.lookup key = none) :
    (insertEntry key value entries).lookup key = some value := by
  induction entries with
  | nil => simp [insertEntry]
  | cons first rest induction =>
    obtain ⟨k, v⟩ := first
    have differs : key ≠ k := by
      rintro rfl
      simp at absent
    rw [lookup_cons_of_ne differs] at absent
    unfold insertEntry
    split_ifs
    · simp
    · rw [lookup_cons_of_ne differs, induction absent]

/-- A key above every key of the entries goes last. -/
theorem insertEntry_of_lt {key : κ} (value : ν) {entries : List (κ × ν)}
    (above : ∀ entry ∈ entries, entry.1 < key) :
    insertEntry key value entries = entries ++ [(key, value)] := by
  induction entries with
  | nil => rfl
  | cons first rest induction =>
      have below := above first List.mem_cons_self
      unfold insertEntry
      rw [if_neg (not_lt.2 below.le), if_neg (ne_of_gt below),
        induction fun entry mem => above entry (List.mem_cons_of_mem _ mem)]
      rfl

/-- Two maps with the same entries are equal. -/
theorem ext {m m' : SortedMap κ ν} (same : m.entries = m'.entries) : m = m' := by
  cases m
  cases m'
  cases same
  rfl

theorem find_insert_self {m : SortedMap κ ν} {key : κ} (value : ν) (absent : m.find key = none) :
    (m.insert key value).find key = some value :=
  find_insertEntry_self absent

theorem lookup_modify_self {entries : List (κ × ν)} {key : κ} {value : ν} (f : ν → ν)
    (present : entries.lookup key = some value) :
    (entries.map fun entry => if entry.1 = key then (entry.1, f entry.2) else entry).lookup key =
      some (f value) := by
  induction entries with
  | nil => simp at present
  | cons first rest induction =>
    obtain ⟨k, v⟩ := first
    by_cases same : k = key
    · subst same
      simp_all
    · rw [lookup_cons_of_ne (Ne.symm same)] at present
      simp only [List.map_cons, same, if_false, lookup_cons_of_ne (Ne.symm same), induction present]

theorem find_modify_self {m : SortedMap κ ν} {key : κ} {value : ν} (f : ν → ν)
    (present : m.find key = some value) : (m.modify key f).find key = some (f value) :=
  lookup_modify_self f present

theorem allValues_mapValues (m : SortedMap κ ν) {f : κ → ν → ν} {property : ν → Prop}
    (always : ∀ key value, property (f key value)) : (m.mapValues f).AllValues property := by
  intro entry mem
  obtain ⟨original, -, rfl⟩ := List.mem_map.1 mem
  exact always _ _

theorem AllValues.erase {m : SortedMap κ ν} {property : ν → Prop} (holds : m.AllValues property)
    (key : κ) : (m.erase key).AllValues property :=
  fun entry mem => holds entry (List.mem_filter.1 mem).1

end SortedMap
