import Mathlib

set_option linter.all false

/-!
# `common::ListMap` and `common::LruCache`

A `ListMap` keeps its entries in a list, in the order they were put in, next to an index from
keys to list positions, so no two entries share a key.  An `LruCache` is a `ListMap` with a
positive capacity: a lookup splices the entry found to the front, and an insertion of a new key
puts it at the front after extracting the entry at the back when the map is full.  The capacity
bound is a field of `LruCache`, kept by every operation.

Each operation is described by `find`: an equation where the result is determined
(`find_insertOrAssign`, `find_erase`), and otherwise an implication saying which entries it may
have dropped (`find_evict`).  The storage layer's invariants are proved through these lemmas.
-/

namespace Bluetooth.Common

section Lookup

variable {Key T : Type} [DecidableEq Key]

theorem lookup_cons_of_ne {key k : Key} (differs : k ≠ key) (value : T)
    (entries : List (Key × T)) : ((key, value) :: entries).lookup k = entries.lookup k := by
  have unequal : (k == key) = false := by simpa using differs
  simp only [List.lookup_cons, unequal]

/-- In a list whose keys are distinct, `lookup` finds exactly the entries of the list. -/
theorem lookup_eq_some_iff {entries : List (Key × T)} (nodup : (entries.map Prod.fst).Nodup)
    {key : Key} {value : T} : entries.lookup key = some value ↔ (key, value) ∈ entries := by
  induction entries with
  | nil => simp
  | cons entry entries induction =>
    obtain ⟨k, v⟩ := entry
    rw [List.map_cons, List.nodup_cons] at nodup
    by_cases same : key = k
    · subst same
      have absent : (key, value) ∉ entries := fun mem => nodup.1 (List.mem_map.2 ⟨_, mem, rfl⟩)
      simp [absent, eq_comm]
    · simp only [lookup_cons_of_ne same, induction nodup.2, List.mem_cons, Prod.mk.injEq, same,
        false_and, false_or]

theorem lookup_eq_none_iff_not_mem {entries : List (Key × T)} {key : Key} :
    entries.lookup key = none ↔ key ∉ entries.map Prod.fst := by
  simp only [List.lookup_eq_none_iff, bne_iff_ne, ne_eq, List.mem_map, not_exists, not_and]
  exact ⟨fun absent entry mem same => absent entry mem same.symm,
    fun absent entry mem same => absent entry mem same.symm⟩

/-- Changing the value of one key in place changes what `lookup` finds for that key only. -/
theorem lookup_map_modify (entries : List (Key × T)) (key k : Key) (f : T → T) :
    (entries.map fun entry => if entry.1 = key then (entry.1, f entry.2) else entry).lookup k =
      if k = key then (entries.lookup key).map f else entries.lookup k := by
  induction entries with
  | nil => split <;> rfl
  | cons entry entries induction =>
    obtain ⟨k', v⟩ := entry
    by_cases same : k' = key
    · subst same
      by_cases found : k = k'
      · subst found
        simp
      · simp [lookup_cons_of_ne found, induction, found]
    · by_cases found : k = k'
      · subst found
        simp [same]
      · simp only [List.map_cons, same, if_false, lookup_cons_of_ne found, induction,
          lookup_cons_of_ne (Ne.symm same)]

theorem lookup_map_values (entries : List (Key × T)) (f : Key → T → T) (k : Key) :
    (entries.map fun entry => (entry.1, f entry.1 entry.2)).lookup k =
      (entries.lookup k).map (f k) := by
  induction entries with
  | nil => rfl
  | cons entry entries induction =>
    obtain ⟨k', v⟩ := entry
    by_cases found : k = k'
    · subst found
      simp
    · simp [lookup_cons_of_ne found, induction]

omit [DecidableEq Key] in
/-- Inserting an entry with a fresh key at any position keeps the keys distinct. -/
theorem nodup_insertIdx {entries : List (Key × T)} (nodup : (entries.map Prod.fst).Nodup)
    {key : Key} (fresh : key ∉ entries.map Prod.fst) {pos : Nat} (within : pos ≤ entries.length)
    (value : T) : ((entries.insertIdx pos (key, value)).map Prod.fst).Nodup :=
  ((List.perm_insertIdx (key, value) entries within).map Prod.fst).nodup_iff.2
    (List.nodup_cons.2 ⟨fresh, nodup⟩)

/-- Removing the first entry of a key removes that key from the keys once. -/
theorem keys_eraseP (entries : List (Key × T)) (key : Key) :
    (entries.eraseP fun entry => entry.1 == key).map Prod.fst =
      (entries.map Prod.fst).erase key := by
  rw [List.erase_eq_eraseP', List.eraseP_map]
  rfl

theorem map_fst_modify (entries : List (Key × T)) (key : Key) (f : T → T) :
    (entries.map fun entry => if entry.1 = key then (entry.1, f entry.2) else entry).map
      Prod.fst = entries.map Prod.fst := by
  rw [List.map_map]
  exact List.map_congr_left fun entry _ => by
    simp only [Function.comp_apply]
    split <;> rfl

end Lookup

/-- `common::ListMap`: the entries of `node_list_` in order.  The index `key_map_` holds one
position per key, so the keys of the list are distinct. -/
structure ListMap (Key T : Type) where
  entries : List (Key × T)
  nodup : (entries.map Prod.fst).Nodup
deriving DecidableEq

namespace ListMap

variable {Key T : Type} [DecidableEq Key]

/-- The keys, in list order. -/
def keys (m : ListMap Key T) : List Key := m.entries.map Prod.fst

/-- A map with no entries. -/
def empty : ListMap Key T := ⟨[], List.nodup_nil⟩

/-- `size`. -/
def size (m : ListMap Key T) : Nat := m.entries.length

/-- `find`: the value stored under `key`. -/
def find (m : ListMap Key T) (key : Key) : Option T := m.entries.lookup key

/-- `contains`. -/
def contains (m : ListMap Key T) (key : Key) : Bool := (m.find key).isSome

/-- `try_emplace(pos, key, value)`: an entry for `key` before the position `pos`, unless `key`
has one already; the flag says whether it was added. -/
def tryEmplace (m : ListMap Key T) (pos : Fin (m.size + 1)) (key : Key) (value : T) :
    ListMap Key T × Bool :=
  if present : m.contains key then (m, false)
  else
    have fresh : key ∉ m.keys := by
      rwa [contains, Option.isSome_iff_ne_none, ne_eq, not_not, find,
        lookup_eq_none_iff_not_mem] at present
    (⟨m.entries.insertIdx pos (key, value),
      nodup_insertIdx m.nodup fresh (Nat.lt_succ_iff.1 pos.isLt) value⟩, true)

/-- `try_emplace_back`. -/
def tryEmplaceBack (m : ListMap Key T) (key : Key) (value : T) : ListMap Key T × Bool :=
  m.tryEmplace (Fin.last m.size) key value

/-- `f` applied in place to the value of `key`: an assignment through the iterator that
`find(key)` returns. -/
def modify (m : ListMap Key T) (key : Key) (f : T → T) : ListMap Key T :=
  ⟨m.entries.map fun entry => if entry.1 = key then (entry.1, f entry.2) else entry, by
    rw [map_fst_modify]
    exact m.nodup⟩

/-- `insert_or_assign(pos, key, value)`: the value of `key` assigned in place, or a new entry
before `pos`. -/
def insertOrAssign (m : ListMap Key T) (pos : Fin (m.size + 1)) (key : Key) (value : T) :
    ListMap Key T :=
  if m.contains key then m.modify key fun _ => value else (m.tryEmplace pos key value).1

/-- `insert_or_assign(key, value)`, which inserts at `end()`. -/
def insertOrAssignBack (m : ListMap Key T) (key : Key) (value : T) : ListMap Key T :=
  m.insertOrAssign (Fin.last m.size) key value

/-- `erase` of the entry of `key`. -/
def erase (m : ListMap Key T) (key : Key) : ListMap Key T :=
  ⟨m.entries.eraseP fun entry => entry.1 == key, m.nodup.sublist (List.eraseP_sublist.map _)⟩

theorem keys_erase (m : ListMap Key T) (key : Key) : (m.erase key).keys = m.keys.erase key :=
  keys_eraseP m.entries key

theorem not_mem_keys_erase (m : ListMap Key T) (key : Key) : key ∉ (m.erase key).keys := by
  have nodup : m.keys.Nodup := m.nodup
  rw [keys_erase, nodup.mem_erase_iff]
  exact fun ⟨differs, _⟩ => differs rfl

/-- `extract`: the entry of `key` if there is one, and the map without it. -/
def extract (m : ListMap Key T) (key : Key) : Option (Key × T) × ListMap Key T :=
  match m.find key with
  | some value => (some (key, value), m.erase key)
  | none => (none, m)

/-- `splice(begin(), *this, it)` for the entry `it` of `key`: that entry moves to the front. -/
def spliceToFront (m : ListMap Key T) (key : Key) : ListMap Key T :=
  match m.find key with
  | some value =>
    ⟨(key, value) :: (m.erase key).entries,
      List.nodup_cons.2 ⟨m.not_mem_keys_erase key, (m.erase key).nodup⟩⟩
  | none => m

/-- The loop `for (it = begin(); it != end();) if (drop(*it)) it = erase(it); else it++;`. -/
def eraseIf (m : ListMap Key T) (drop : Key → T → Bool) : ListMap Key T :=
  ⟨m.entries.filter fun entry => !drop entry.1 entry.2,
    m.nodup.sublist (List.filter_sublist.map _)⟩

/-- A range-for over the entries that updates each value in place. -/
def mapValues (m : ListMap Key T) (f : Key → T → T) : ListMap Key T :=
  ⟨m.entries.map fun entry => (entry.1, f entry.1 entry.2), by
    rw [List.map_map]
    exact m.nodup⟩

section Find

variable (m : ListMap Key T)

theorem find_eq_some_iff {key : Key} {value : T} :
    m.find key = some value ↔ (key, value) ∈ m.entries :=
  lookup_eq_some_iff m.nodup

theorem find_eq_none_iff {key : Key} : m.find key = none ↔ key ∉ m.keys :=
  lookup_eq_none_iff_not_mem

theorem contains_eq_false_iff {key : Key} : m.contains key = false ↔ m.find key = none := by
  rw [contains, Option.isSome_eq_false_iff, Option.isNone_iff_eq_none]

@[simp] theorem find_empty (key : Key) : (empty : ListMap Key T).find key = none := rfl

theorem tryEmplace_of_contains {key : Key} (present : m.contains key) (pos : Fin (m.size + 1))
    (value : T) : m.tryEmplace pos key value = (m, false) := by
  rw [tryEmplace, dif_pos present]

theorem find_tryEmplace_of_find_eq_none {key : Key} (absent : m.find key = none)
    (pos : Fin (m.size + 1)) (value : T) (k : Key) :
    (m.tryEmplace pos key value).1.find k = if k = key then some value else m.find k := by
  have present : ¬ m.contains key := by
    rw [Bool.not_eq_true, contains_eq_false_iff]
    exact absent
  rw [tryEmplace, dif_neg present]
  apply Option.ext
  intro v
  rw [find, lookup_eq_some_iff (nodup_insertIdx m.nodup _ _ _), List.mem_insertIdx
    (Nat.lt_succ_iff.1 pos.isLt), ← find_eq_some_iff]
  · split
    · rename_i found
      subst found
      simp [absent, eq_comm]
    · rename_i differs
      simp [differs]
  · rwa [find_eq_none_iff] at absent
  · exact Nat.lt_succ_iff.1 pos.isLt

theorem find_modify (key : Key) (f : T → T) (k : Key) :
    (m.modify key f).find k = if k = key then (m.find key).map f else m.find k :=
  lookup_map_modify m.entries key k f

theorem find_insertOrAssign (pos : Fin (m.size + 1)) (key : Key) (value : T) (k : Key) :
    (m.insertOrAssign pos key value).find k = if k = key then some value else m.find k := by
  rw [insertOrAssign]
  split
  · rename_i present
    rw [find_modify]
    obtain ⟨current, found⟩ := Option.isSome_iff_exists.1 present
    simp [found]
  · rename_i present
    rw [Bool.not_eq_true, contains_eq_false_iff] at present
    exact m.find_tryEmplace_of_find_eq_none present pos value k

theorem find_erase (key k : Key) :
    (m.erase key).find k = if k = key then none else m.find k := by
  split
  · rename_i found
    subst found
    exact ((m.erase k).find_eq_none_iff).2 (m.not_mem_keys_erase k)
  · rename_i differs
    apply Option.ext
    intro v
    have kept : ¬ ((k, v).1 == key) = true := by simpa using differs
    rw [find_eq_some_iff, find_eq_some_iff]
    exact @List.mem_eraseP_of_neg _ (fun entry => entry.1 == key) (k, v) m.entries kept

theorem extract_fst (key : Key) : (m.extract key).1 = (m.find key).map (key, ·) := by
  unfold extract
  split <;> rename_i found <;> simp [found]

theorem find_extract (key k : Key) :
    (m.extract key).2.find k = if k = key then none else m.find k := by
  unfold extract
  split
  · exact m.find_erase key k
  · rename_i absent
    split
    · rename_i found
      rw [found, absent]
    · rfl

theorem find_spliceToFront (key k : Key) : (m.spliceToFront key).find k = m.find k := by
  unfold spliceToFront
  split
  · rename_i value found
    by_cases same : k = key
    · subst same
      rw [found]
      exact List.lookup_cons_self
    · exact (lookup_cons_of_ne same value _).trans ((m.find_erase key k).trans (if_neg same))
  · rfl

theorem find_eraseIf (drop : Key → T → Bool) (k : Key) :
    (m.eraseIf drop).find k = (m.find k).filter fun v => !drop k v := by
  apply Option.ext
  intro v
  rw [Option.filter_eq_some_iff, find_eq_some_iff, find_eq_some_iff, eraseIf, List.mem_filter]

theorem find_mapValues (f : Key → T → T) (k : Key) :
    (m.mapValues f).find k = (m.find k).map (f k) :=
  lookup_map_values m.entries f k

end Find

section Size

variable (m : ListMap Key T)

theorem size_tryEmplace_le (pos : Fin (m.size + 1)) (key : Key) (value : T) :
    (m.tryEmplace pos key value).1.size ≤ m.size + 1 := by
  unfold tryEmplace
  split
  · exact Nat.le_succ _
  · simp only [size, List.length_insertIdx]
    split <;> omega

theorem size_modify (key : Key) (f : T → T) : (m.modify key f).size = m.size :=
  List.length_map _

theorem size_insertOrAssign_le (pos : Fin (m.size + 1)) (key : Key) (value : T) :
    (m.insertOrAssign pos key value).size ≤ m.size + 1 := by
  unfold insertOrAssign
  split
  · rw [size_modify]
    exact Nat.le_succ _
  · exact m.size_tryEmplace_le pos key value

theorem size_erase_le (key : Key) : (m.erase key).size ≤ m.size :=
  List.eraseP_sublist.length_le

theorem size_erase_of_mem {key : Key} {value : T} (mem : (key, value) ∈ m.entries) :
    (m.erase key).size = m.size - 1 :=
  List.length_eraseP_of_mem mem (beq_self_eq_true key)

theorem size_extract_le (key : Key) : (m.extract key).2.size ≤ m.size := by
  unfold extract
  split
  · exact m.size_erase_le key
  · exact Nat.le_refl _

theorem size_spliceToFront (key : Key) : (m.spliceToFront key).size = m.size := by
  unfold spliceToFront
  split
  · rename_i value found
    have mem := (m.find_eq_some_iff).1 found
    have positive : 0 < m.size := List.length_pos_of_mem mem
    change (m.erase key).size + 1 = m.size
    rw [m.size_erase_of_mem mem]
    omega
  · rfl

omit [DecidableEq Key] in
theorem size_eraseIf_le (drop : Key → T → Bool) : (m.eraseIf drop).size ≤ m.size :=
  List.filter_sublist.length_le

omit [DecidableEq Key] in
theorem size_mapValues (f : Key → T → T) : (m.mapValues f).size = m.size :=
  List.length_map _

end Size

section Keys

variable (m : ListMap Key T)

theorem mem_keys_iff {key : Key} : key ∈ m.keys ↔ m.find key ≠ none := by
  rw [ne_eq, find_eq_none_iff, not_not]

@[simp] theorem keys_modify (key : Key) (f : T → T) : (m.modify key f).keys = m.keys :=
  map_fst_modify m.entries key f

theorem mem_keys_insertOrAssign (pos : Fin (m.size + 1)) (key : Key) (value : T) {k : Key} :
    k ∈ (m.insertOrAssign pos key value).keys ↔ k = key ∨ k ∈ m.keys := by
  rw [mem_keys_iff, mem_keys_iff, find_insertOrAssign]
  split
  · rename_i same
    simp [same]
  · rename_i differs
    simp [differs]

theorem mem_keys_extract (key : Key) {k : Key} :
    k ∈ (m.extract key).2.keys ↔ k ≠ key ∧ k ∈ m.keys := by
  rw [mem_keys_iff, mem_keys_iff, find_extract]
  split
  · rename_i same
    simp [same]
  · rename_i differs
    simp [differs]

omit [DecidableEq Key] in
theorem size_pos_of_mem_keys {key : Key} (mem : key ∈ m.keys) : 0 < m.size := by
  have positive := List.length_pos_of_mem mem
  rwa [keys, List.length_map] at positive

/-- `find(key)`, `try_emplace_back(key, default)` when that found nothing, then `f` through the
iterator: the value of `key` becomes `f` of the old one, or of `default`. -/
theorem find_modify_tryEmplaceBack (key : Key) (default : T) (f : T → T) (k : Key) :
    ((m.tryEmplaceBack key default).1.modify key f).find k =
      if k = key then some (f ((m.find key).getD default)) else m.find k := by
  rw [find_modify]
  by_cases present : m.contains key
  · obtain ⟨v, found⟩ := Option.isSome_iff_exists.1 present
    rw [tryEmplaceBack, tryEmplace_of_contains m present, found]
    rfl
  · have absent := (contains_eq_false_iff m).1 (by simpa using present)
    rw [tryEmplaceBack, find_tryEmplace_of_find_eq_none m absent,
      find_tryEmplace_of_find_eq_none m absent, absent, if_pos rfl]
    split <;> rfl

end Keys

/-- Every entry of `m'` is an entry of `m`. -/
def Submap (m' m : ListMap Key T) : Prop :=
  ∀ ⦃k : Key⦄ ⦃v : T⦄, m'.find k = some v → m.find k = some v

namespace Submap

variable {m m' m'' : ListMap Key T}

theorem refl (m : ListMap Key T) : Submap m m := fun _ _ found => found

theorem trans (first : Submap m'' m') (second : Submap m' m) : Submap m'' m :=
  fun _ _ found => second (first found)

theorem find_eq_none (sub : Submap m' m) {k : Key} (absent : m.find k = none) :
    m'.find k = none := by
  cases found : m'.find k with
  | none => rfl
  | some v => rw [sub found] at absent; cases absent

end Submap

theorem submap_erase (m : ListMap Key T) (key : Key) : Submap (m.erase key) m := by
  intro k v found
  rw [find_erase] at found
  split at found
  · cases found
  · exact found

theorem submap_extract (m : ListMap Key T) (key : Key) : Submap (m.extract key).2 m := by
  intro k v found
  rw [find_extract] at found
  split at found
  · cases found
  · exact found

theorem submap_eraseIf (m : ListMap Key T) (drop : Key → T → Bool) :
    Submap (m.eraseIf drop) m := by
  intro k v found
  rw [find_eraseIf, Option.filter_eq_some_iff] at found
  exact found.1

end ListMap

/-- `common::LruCache`: a `ListMap` whose capacity is positive (the constructor asserts it) and
which never holds more entries than its capacity. -/
structure LruCache (Key T : Type) where
  capacity : Nat
  listMap : ListMap Key T
  capacity_pos : 0 < capacity
  size_le : listMap.size ≤ capacity
deriving DecidableEq

namespace LruCache

variable {Key T : Type} [DecidableEq Key]

/-- A cache of the given capacity with no entries. -/
def empty (capacity : Nat) (capacity_pos : 0 < capacity) : LruCache Key T :=
  ⟨capacity, ListMap.empty, capacity_pos, Nat.zero_le _⟩

/-- `size`. -/
def size (c : LruCache Key T) : Nat := c.listMap.size

/-- `find`: the value of `key`, with its entry spliced to the front. -/
def find (c : LruCache Key T) (key : Key) : Option T × LruCache Key T :=
  (c.listMap.find key,
    { c with
      listMap := c.listMap.spliceToFront key
      size_le := (c.listMap.size_spliceToFront key).symm ▸ c.size_le })

/-- `contains`, which goes through `find` and so moves the entry found to the front. -/
def contains (c : LruCache Key T) (key : Key) : Bool × LruCache Key T :=
  ((c.find key).1.isSome, (c.find key).2)

/-- The key at the back, `std::prev(list_map_.end())->first`: the least recently used one. -/
def coldest (c : LruCache Key T) : Option Key := c.listMap.keys.getLast?

/-- What `insert_or_assign` and `try_emplace` extract before they add a key: the entry at the
back when the cache is full.  The map that remains has room for one more entry. -/
def evict (c : LruCache Key T) : Option (Key × T) × ListMap Key T :=
  if c.listMap.size = c.capacity then
    match c.listMap.entries.getLast? with
    | some (key, _) => c.listMap.extract key
    | none => (none, c.listMap)
  else (none, c.listMap)

theorem size_evict_lt (c : LruCache Key T) : c.evict.2.size < c.capacity := by
  unfold evict
  split
  · rename_i full
    split
    · rename_i key value last
      have mem := List.mem_of_getLast? last
      have found : c.listMap.find key = some value := (c.listMap.find_eq_some_iff).2 mem
      have shrunk := c.listMap.size_erase_of_mem mem
      simp only [ListMap.extract, found]
      have positive := c.capacity_pos
      omega
    · rename_i empty
      have none := List.getLast?_eq_none_iff.1 empty
      have positive := c.capacity_pos
      simp only [ListMap.size, none, List.length_nil] at full
      omega
  · rename_i room
    exact Nat.lt_of_le_of_ne c.size_le room

theorem find_evict (c : LruCache Key T) {k : Key} {v : T} (kept : c.evict.2.find k = some v) :
    c.listMap.find k = some v := by
  unfold evict at kept
  split at kept
  · split at kept
    · rename_i key _ _
      rw [ListMap.find_extract] at kept
      split at kept
      · cases kept
      · exact kept
    · exact kept
  · exact kept

/-- `insert_or_assign`: the value of a key the cache holds is assigned at the front, where
`contains` moved it; a new key goes to the front after the eviction.  The evicted entry is
returned. -/
def insertOrAssign (c : LruCache Key T) (key : Key) (value : T) :
    Option (Key × T) × LruCache Key T :=
  if (c.contains key).1 then
    (none,
      { (c.contains key).2 with
        listMap := (c.contains key).2.listMap.modify key fun _ => value
        size_le := ((c.contains key).2.listMap.size_modify key _).symm ▸ (c.contains key).2.size_le })
  else
    (c.evict.1,
      { c with
        listMap := c.evict.2.insertOrAssign 0 key value
        size_le := Nat.le_trans (c.evict.2.size_insertOrAssign_le 0 key value)
          (Nat.succ_le_of_lt c.size_evict_lt) })

/-- `try_emplace`: a new entry at the front after the eviction, unless the cache holds `key`
(which `contains` then moved to the front).  Returns whether it was added, the evicted entry
and the cache. -/
def tryEmplace (c : LruCache Key T) (key : Key) (value : T) :
    Bool × Option (Key × T) × LruCache Key T :=
  if (c.contains key).1 then (false, none, (c.contains key).2)
  else
    ((c.evict.2.tryEmplace 0 key value).2, c.evict.1,
      { c with
        listMap := (c.evict.2.tryEmplace 0 key value).1
        size_le := Nat.le_trans (c.evict.2.size_tryEmplace_le 0 key value)
          (Nat.succ_le_of_lt c.size_evict_lt) })

/-- `extract`. -/
def extract (c : LruCache Key T) (key : Key) : Option (Key × T) × LruCache Key T :=
  ((c.listMap.extract key).1,
    { c with
      listMap := (c.listMap.extract key).2
      size_le := Nat.le_trans (c.listMap.size_extract_le key) c.size_le })

/-- `erase` of the entry of `key`. -/
def erase (c : LruCache Key T) (key : Key) : LruCache Key T :=
  { c with
    listMap := c.listMap.erase key
    size_le := Nat.le_trans (c.listMap.size_erase_le key) c.size_le }

/-- `f` applied in place to the value of `key`, through an iterator into the cache. -/
def modify (c : LruCache Key T) (key : Key) (f : T → T) : LruCache Key T :=
  { c with
    listMap := c.listMap.modify key f
    size_le := (c.listMap.size_modify key f).symm ▸ c.size_le }

/-- The erasing loop over the cache's entries. -/
def eraseIf (c : LruCache Key T) (drop : Key → T → Bool) : LruCache Key T :=
  { c with
    listMap := c.listMap.eraseIf drop
    size_le := Nat.le_trans (c.listMap.size_eraseIf_le drop) c.size_le }

/-- A range-for over the cache's entries that updates each value in place. -/
def mapValues (c : LruCache Key T) (f : Key → T → T) : LruCache Key T :=
  { c with
    listMap := c.listMap.mapValues f
    size_le := (c.listMap.size_mapValues f).symm ▸ c.size_le }

section Find

variable (c : LruCache Key T)

@[simp] theorem find_fst (key : Key) : (c.find key).1 = c.listMap.find key := rfl

@[simp] theorem find_find (key k : Key) : (c.find key).2.listMap.find k = c.listMap.find k :=
  c.listMap.find_spliceToFront key k

@[simp] theorem contains_fst (key : Key) : (c.contains key).1 = (c.listMap.find key).isSome := rfl

@[simp] theorem find_contains (key k : Key) :
    (c.contains key).2.listMap.find k = c.listMap.find k :=
  c.find_find key k

theorem find_insertOrAssign_self (key : Key) (value : T) :
    (c.insertOrAssign key value).2.listMap.find key = some value := by
  unfold insertOrAssign
  split
  · rename_i present
    rw [contains_fst] at present
    obtain ⟨current, found⟩ := Option.isSome_iff_exists.1 present
    change ((c.contains key).2.listMap.modify key _).find key = _
    rw [ListMap.find_modify, if_pos rfl, find_contains, found, Option.map_some]
  · exact (c.evict.2.find_insertOrAssign 0 key value key).trans (if_pos rfl)

theorem find_insertOrAssign_of_ne {key k : Key} (differs : k ≠ key) (value : T) {v : T}
    (found : (c.insertOrAssign key value).2.listMap.find k = some v) :
    c.listMap.find k = some v := by
  unfold insertOrAssign at found
  split at found
  · change ((c.contains key).2.listMap.modify key _).find k = _ at found
    rwa [ListMap.find_modify, if_neg differs, find_contains] at found
  · change (c.evict.2.insertOrAssign 0 key value).find k = _ at found
    rw [ListMap.find_insertOrAssign, if_neg differs] at found
    exact c.find_evict found

/-- The eviction drops the coldest entry when the cache is full, and nothing else. -/
theorem find_evict_eq (k : Key) :
    c.evict.2.find k =
      if c.listMap.size = c.capacity ∧ c.coldest = some k then none else c.listMap.find k := by
  unfold evict coldest
  split
  · rename_i full
    split
    · rename_i key value last
      rw [ListMap.find_extract, ListMap.keys, List.getLast?_map, last]
      simp [full, eq_comm]
    · rename_i empty
      simp [ListMap.keys, List.getLast?_map, empty]
  · rename_i room
    simp [room]

theorem find_of_coldest {k : Key} (cold : c.coldest = some k) : c.listMap.find k ≠ none :=
  (c.listMap.mem_keys_iff).1 (List.mem_of_getLast? cold)

omit [DecidableEq Key] in
/-- A full cache has a coldest entry, the capacity being positive. -/
theorem exists_coldest_of_full (full : c.listMap.size = c.capacity) : ∃ k, c.coldest = some k := by
  cases cold : c.coldest with
  | some k => exact ⟨k, rfl⟩
  | none =>
    rw [coldest, List.getLast?_eq_none_iff, ListMap.keys, List.map_eq_nil_iff] at cold
    have positive := c.capacity_pos
    rw [ListMap.size, cold, List.length_nil] at full
    omega

theorem find_evict_of_find_eq_none {key : Key} (absent : c.listMap.find key = none) :
    c.evict.2.find key = none := by
  rw [find_evict_eq, absent]
  exact ite_self none

/-- `try_emplace` of a key the cache does not hold: the new entry, after the eviction. -/
theorem find_tryEmplace_eq {key : Key} (absent : c.listMap.find key = none) (value : T) (k : Key) :
    (c.tryEmplace key value).2.2.listMap.find k =
      if k = key then some value else c.evict.2.find k := by
  unfold tryEmplace
  rw [if_neg (by simp [absent])]
  exact c.evict.2.find_tryEmplace_of_find_eq_none (c.find_evict_of_find_eq_none absent) 0 value k

theorem find_tryEmplace_of_find_eq_none {key : Key} (absent : c.listMap.find key = none)
    (value : T) : (c.tryEmplace key value).2.2.listMap.find key = some value :=
  (c.find_tryEmplace_eq absent value key).trans (if_pos rfl)

theorem find_tryEmplace_of_ne {key k : Key} (differs : k ≠ key) (value : T) {v : T}
    (found : (c.tryEmplace key value).2.2.listMap.find k = some v) :
    c.listMap.find k = some v := by
  unfold tryEmplace at found
  split at found
  · rwa [find_contains] at found
  · change (c.evict.2.tryEmplace 0 key value).1.find k = _ at found
    by_cases present : c.evict.2.contains key
    · rw [c.evict.2.tryEmplace_of_contains present] at found
      exact c.find_evict found
    · rw [Bool.not_eq_true, ListMap.contains_eq_false_iff] at present
      rw [c.evict.2.find_tryEmplace_of_find_eq_none present, if_neg differs] at found
      exact c.find_evict found

@[simp] theorem extract_fst (key : Key) :
    (c.extract key).1 = (c.listMap.find key).map (key, ·) :=
  c.listMap.extract_fst key

@[simp] theorem find_extract (key k : Key) :
    (c.extract key).2.listMap.find k = if k = key then none else c.listMap.find k :=
  c.listMap.find_extract key k

@[simp] theorem find_erase (key k : Key) :
    (c.erase key).listMap.find k = if k = key then none else c.listMap.find k :=
  c.listMap.find_erase key k

@[simp] theorem find_modify (key : Key) (f : T → T) (k : Key) :
    (c.modify key f).listMap.find k =
      if k = key then (c.listMap.find key).map f else c.listMap.find k :=
  c.listMap.find_modify key f k

@[simp] theorem find_eraseIf (drop : Key → T → Bool) (k : Key) :
    (c.eraseIf drop).listMap.find k = (c.listMap.find k).filter fun v => !drop k v :=
  c.listMap.find_eraseIf drop k

@[simp] theorem find_mapValues (f : Key → T → T) (k : Key) :
    (c.mapValues f).listMap.find k = (c.listMap.find k).map (f k) :=
  c.listMap.find_mapValues f k

theorem submap_evict : ListMap.Submap c.evict.2 c.listMap := fun _ _ => c.find_evict

/-- `find(key)`, then `try_emplace(key, default)` when that found nothing: the cache holds
`key`, with its old value or `default`. -/
theorem find_findOrEmplace_self (key : Key) (default : T) :
    (if (c.find key).1.isSome then (c.find key).2
      else ((c.find key).2.tryEmplace key default).2.2).listMap.find key =
      some ((c.listMap.find key).getD default) := by
  cases found : c.listMap.find key with
  | some v =>
    rw [if_pos (by simp [found]), find_find, found]
    rfl
  | none =>
    rw [if_neg (by simp [found])]
    exact (c.find key).2.find_tryEmplace_of_find_eq_none (by rw [find_find, found]) default

/-- A lookup of a key the cache does not hold leaves it as it was. -/
theorem find_listMap_of_find_eq_none {key : Key} (absent : c.listMap.find key = none) :
    (c.find key).2.listMap = c.listMap := by
  simp only [find, ListMap.spliceToFront, absent]

/-- `find(key)`, then `try_emplace(key, default)` when that found nothing: every other key keeps
its value, but for the coldest one, evicted when `key` was new and the cache full. -/
theorem find_findOrEmplace_eq {key k : Key} (differs : k ≠ key) (default : T) :
    (if (c.find key).1.isSome then (c.find key).2
      else ((c.find key).2.tryEmplace key default).2.2).listMap.find k =
      if c.listMap.find key = none ∧ c.listMap.size = c.capacity ∧ c.coldest = some k then none
      else c.listMap.find k := by
  cases found : c.listMap.find key with
  | some v =>
    rw [if_pos (by simp [found]), find_find]
    simp
  | none =>
    have unchanged := c.find_listMap_of_find_eq_none found
    rw [if_neg (by simp [found]),
      (c.find key).2.find_tryEmplace_eq (by rw [find_find, found]) default k, if_neg differs,
      find_evict_eq]
    simp only [coldest, unchanged, true_and]
    rfl

theorem find_findOrEmplace_of_ne {key k : Key} (differs : k ≠ key) (default : T) {v : T}
    (found : (if (c.find key).1.isSome then (c.find key).2
      else ((c.find key).2.tryEmplace key default).2.2).listMap.find k = some v) :
    c.listMap.find k = some v := by
  split at found
  · rwa [find_find] at found
  · rw [← find_find c key k]
    exact (c.find key).2.find_tryEmplace_of_ne differs default found

end Find

end LruCache

end Bluetooth.Common
