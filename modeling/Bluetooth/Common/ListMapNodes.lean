import Bluetooth.Common.ListMap
import Bluetooth.Lib.Mru

set_option linter.all false

/-!
# `ListMap` and `LruCache` with their nodes and index

`Common/ListMap.lean` keeps only the entries of a map.  Here the two structures the code keeps are
modelled as it keeps them.  `node_list_` is a list of nodes, each at an address that an iterator
holds.  `key_map_` maps a key to the address of its node, and the allocator hands out fresh
addresses.  `splice` moves a node within its own list and leaves `key_map_` alone.  The copy
constructor allocates new nodes and rebuilds `key_map_` from them.

`NodeListMap.Consistent` says that `key_map_` maps every key to the address of the node holding
it, and to nothing else.  Every operation keeps it.  Under it the cache refines the list model of
`Mru`: each operation gives the result and the entries that the list model gives
(`NodeLruCache.apply_refines`), and so does every run of operations from an empty cache.
-/

namespace Bluetooth.Common

/-- A node of `node_list_`: the address an iterator to it holds, its key and its value. -/
structure Node (Key T : Type) where
  addr : Nat
  key : Key
  value : T
deriving DecidableEq, Repr

variable {Key T : Type}

/-- The pair the node holds, its `value_type`. -/
def Node.entry (node : Node Key T) : Key × T := (node.key, node.value)

/-- `node_list_.emplace(pos, ...)`: the node goes before the one at `pos`, or at the end when `pos`
is `end()`. -/
def insertBefore (pos : Option Nat) (node : Node Key T) : List (Node Key T) → List (Node Key T)
  | [] => [node]
  | first :: rest =>
    if pos = some first.addr then node :: first :: rest else first :: insertBefore pos node rest

theorem perm_insertBefore (pos : Option Nat) (node : Node Key T) (nodes : List (Node Key T)) :
    List.Perm (insertBefore pos node nodes) (node :: nodes) := by
  induction nodes with
  | nil => exact List.Perm.refl _
  | cons first rest induction =>
    unfold insertBefore
    split
    · exact List.Perm.refl _
    · exact (induction.cons first).trans (List.Perm.swap node first rest)

/-- Emplacing before `begin()` puts the node at the front. -/
theorem insertBefore_head? (node : Node Key T) (nodes : List (Node Key T)) :
    insertBefore (nodes.head?.map Node.addr) node nodes = node :: nodes := by
  cases nodes with
  | nil => rfl
  | cons first rest => simp [insertBefore]

/-- `common::ListMap` as the code keeps it: `node_list_`, `key_map_`, and the next address the
allocator hands out. -/
structure NodeListMap (Key T : Type) where
  nodeList : List (Node Key T)
  keyMap : Key → Option Nat
  nextAddr : Nat

namespace NodeListMap

/-- A map with no node. -/
def empty : NodeListMap Key T := ⟨[], fun _ => none, 0⟩

/-- The entries in list order, which is the order of iteration. -/
def entries (m : NodeListMap Key T) : List (Key × T) := m.nodeList.map Node.entry

/-- `size`. -/
def size (m : NodeListMap Key T) : Nat := m.nodeList.length

/-- `begin()`: the address of the first node, or `end()`. -/
def begin (m : NodeListMap Key T) : Option Nat := m.nodeList.head?.map Node.addr

/-- The node an iterator at `it` points to. -/
def nodeAt (m : NodeListMap Key T) (it : Nat) : Option (Node Key T) :=
  m.nodeList.find? (·.addr = it)

/-- `find`: the iterator `key_map_` holds for `key`, or `end()`. -/
def find (m : NodeListMap Key T) (key : Key) : Option Nat := m.keyMap key

/-- `contains`. -/
def contains (m : NodeListMap Key T) (key : Key) : Bool := (m.find key).isSome

/-- The value of the node at `it` replaced. -/
def assign (it : Nat) (value : T) (nodes : List (Node Key T)) : List (Node Key T) :=
  nodes.map fun node => if node.addr = it then { node with value := value } else node

/-- `begin()->second = value`. -/
def assignBegin (m : NodeListMap Key T) (value : T) : NodeListMap Key T :=
  match m.begin with
  | some it => { m with nodeList := assign it value m.nodeList }
  | none => m

/-- `splice(pos, *this, it)`: `node_list_.splice` moves the node at `it` before `pos`, which
leaves the list as it is when `pos` is `it`, and `key_map_` is left alone. -/
def splice (m : NodeListMap Key T) (pos : Option Nat) (it : Nat) : NodeListMap Key T :=
  if pos = some it then m
  else
    match m.nodeAt it with
    | some node => { m with nodeList := insertBefore pos node (m.nodeList.filter (·.addr ≠ it)) }
    | none => m

@[simp] theorem keyMap_splice (m : NodeListMap Key T) (pos : Option Nat) (it : Nat) :
    (m.splice pos it).keyMap = m.keyMap := by
  unfold NodeListMap.splice
  split
  · rfl
  · split <;> rfl

/-- What the code keeps true of the two structures: nodes have distinct addresses, all handed
out before `nextAddr`, and `key_map_` maps a key to the address of the node holding it, and to
nothing else. -/
structure Consistent (m : NodeListMap Key T) : Prop where
  addrs_nodup : (m.nodeList.map Node.addr).Nodup
  addr_lt : ∀ node ∈ m.nodeList, node.addr < m.nextAddr
  keyMap_eq_some : ∀ key it, m.keyMap key = some it ↔
    ∃ node ∈ m.nodeList, node.addr = it ∧ node.key = key

theorem consistent_empty : (empty : NodeListMap Key T).Consistent where
  addrs_nodup := List.nodup_nil
  addr_lt _ mem := by cases mem
  keyMap_eq_some _ _ := by simp [empty]

/-- What `Consistent` reads of a node: its address and its key. -/
def label (node : Node Key T) : Nat × Key := (node.addr, node.key)

theorem exists_label_iff (nodes : List (Node Key T)) (it : Nat) (key : Key) :
    (∃ node ∈ nodes, node.addr = it ∧ node.key = key) ↔ (it, key) ∈ nodes.map label := by
  simp [label, List.mem_map]

section Consistent

variable {m : NodeListMap Key T} (consistent : m.Consistent)
include consistent

theorem Consistent.eq_of_addr_eq {first second : Node Key T} (firstMem : first ∈ m.nodeList)
    (secondMem : second ∈ m.nodeList) (same : first.addr = second.addr) : first = second :=
  List.inj_on_of_nodup_map consistent.addrs_nodup firstMem secondMem same

theorem Consistent.keyMap_key {node : Node Key T} (mem : node ∈ m.nodeList) :
    m.keyMap node.key = some node.addr :=
  (consistent.keyMap_eq_some _ _).2 ⟨node, mem, rfl, rfl⟩

/-- The node at the address `key_map_` holds for `key` is the one node with that key. -/
theorem Consistent.addr_eq_iff {key : Key} {it : Nat} (found : m.keyMap key = some it)
    {node : Node Key T} (mem : node ∈ m.nodeList) : node.addr = it ↔ node.key = key := by
  constructor
  · rintro rfl
    obtain ⟨other, otherMem, same, keyed⟩ := (consistent.keyMap_eq_some _ _).1 found
    rw [consistent.eq_of_addr_eq mem otherMem same.symm, keyed]
  · rintro rfl
    exact Option.some_inj.1 ((consistent.keyMap_key mem).symm.trans found)

theorem Consistent.nodeAt_addr {node : Node Key T} (mem : node ∈ m.nodeList) :
    m.nodeAt node.addr = some node := by
  cases found : m.nodeAt node.addr with
  | none =>
    have missing := List.find?_eq_none.1 found node mem
    simp at missing
  | some other =>
    have otherMem := List.mem_of_find?_eq_some found
    have same : other.addr = node.addr := by simpa using List.find?_some found
    rw [consistent.eq_of_addr_eq otherMem mem same]

/-- The iterator `key_map_` holds for `key` points to a node with that key. -/
theorem Consistent.nodeAt_of_keyMap {key : Key} {it : Nat} (found : m.keyMap key = some it) :
    ∃ node ∈ m.nodeList, node.addr = it ∧ node.key = key ∧ m.nodeAt it = some node := by
  obtain ⟨node, mem, rfl, keyed⟩ := (consistent.keyMap_eq_some _ _).1 found
  exact ⟨node, mem, rfl, keyed, consistent.nodeAt_addr mem⟩

/-- No two nodes hold one key. -/
theorem Consistent.nodup : (Mru.keys m.entries).Nodup := by
  rw [Mru.keys, entries, List.map_map]
  refine (consistent.addrs_nodup.of_map _).map_on fun first firstMem second secondMem same => ?_
  have found := consistent.keyMap_key firstMem
  exact consistent.eq_of_addr_eq firstMem secondMem
    ((consistent.addr_eq_iff found secondMem).2 same.symm).symm

/-- The nodes in another order, with the same index. -/
theorem Consistent.perm {nodes : List (Node Key T)} (perm : List.Perm nodes m.nodeList) :
    ({ m with nodeList := nodes } : NodeListMap Key T).Consistent where
  addrs_nodup := (perm.map Node.addr).nodup_iff.2 consistent.addrs_nodup
  addr_lt node mem := consistent.addr_lt node (perm.subset mem)
  keyMap_eq_some key it := by
    simp only [consistent.keyMap_eq_some key it, perm.mem_iff]

/-- Nodes with the addresses and keys of the old ones, in the same order. -/
theorem Consistent.of_labels {nodes : List (Node Key T)}
    (same : nodes.map label = m.nodeList.map label) :
    ({ m with nodeList := nodes } : NodeListMap Key T).Consistent := by
  have addrs : nodes.map Node.addr = m.nodeList.map Node.addr := by
    have projected := congrArg (List.map Prod.fst) same
    simpa [List.map_map, Function.comp_def, label] using projected
  refine ⟨addrs ▸ consistent.addrs_nodup, fun node mem => ?_, fun key it => ?_⟩
  · have labelled : node.addr ∈ m.nodeList.map Node.addr := addrs ▸ List.mem_map_of_mem mem
    obtain ⟨old, oldMem, addressed⟩ := List.mem_map.1 labelled
    exact addressed ▸ consistent.addr_lt old oldMem
  · dsimp only
    rw [consistent.keyMap_eq_some, exists_label_iff, exists_label_iff, same]

theorem Consistent.assign (it : Nat) (value : T) :
    ({ m with nodeList := assign it value m.nodeList } : NodeListMap Key T).Consistent := by
  refine consistent.of_labels ?_
  simp only [NodeListMap.assign, List.map_map]
  refine List.map_congr_left fun node _ => ?_
  by_cases here : node.addr = it <;> simp [here, label]

theorem Consistent.splice (pos : Option Nat) (it : Nat) : (m.splice pos it).Consistent := by
  unfold NodeListMap.splice
  split
  · exact consistent
  · split
    · rename_i node located
      have mem := List.mem_of_find?_eq_some located
      have addressed : node.addr = it := by simpa using List.find?_some located
      subst addressed
      refine consistent.perm ((perm_insertBefore pos node _).trans ?_)
      exact (Mru.perm_cons_filter consistent.addrs_nodup mem).symm
    · exact consistent

/-- After a splice, an iterator still points to its node. -/
theorem Consistent.nodeAt_splice (pos : Option Nat) {node : Node Key T}
    (mem : node ∈ m.nodeList) : (m.splice pos node.addr).nodeAt node.addr = some node := by
  refine (consistent.splice pos node.addr).nodeAt_addr ?_
  unfold NodeListMap.splice
  split
  · exact mem
  · rw [consistent.nodeAt_addr mem]
    exact (perm_insertBefore pos node _).mem_iff.2 List.mem_cons_self

theorem Consistent.assignBegin (value : T) : (m.assignBegin value).Consistent := by
  unfold NodeListMap.assignBegin
  split
  · exact consistent.assign _ value
  · exact consistent

/-- `begin()->second = value` on a list whose front entry is `(key, _)`. -/
theorem Consistent.entries_assignBegin {key : Key} {current : T} {rest : List (Key × T)}
    (front : m.entries = (key, current) :: rest) (value : T) :
    (m.assignBegin value).entries = (key, value) :: rest := by
  obtain ⟨first, others, nodes⟩ : ∃ first others, m.nodeList = first :: others := by
    cases split : m.nodeList with
    | nil => simp [entries, split] at front
    | cons first others => exact ⟨first, others, rfl⟩
  have distinct : ∀ node ∈ others, node.addr ≠ first.addr := by
    have nodup := consistent.addrs_nodup
    rw [nodes, List.map_cons, List.nodup_cons] at nodup
    exact fun node mem same => nodup.1 (same ▸ List.mem_map_of_mem mem)
  have kept : others.map (fun node => if node.addr = first.addr then { node with value := value }
      else node) = others :=
    (List.map_congr_left fun node mem => if_neg (distinct node mem)).trans (List.map_id others)
  have split := front
  rw [entries, nodes, List.map_cons, List.cons.injEq] at split
  obtain ⟨entry, restEntries⟩ := split
  have keyed : first.key = key := congrArg Prod.fst entry
  unfold NodeListMap.assignBegin
  rw [show m.begin = some first.addr by simp [begin, nodes]]
  simp only [entries, nodes, NodeListMap.assign, List.map_cons, if_pos, kept, restEntries]
  simp [Node.entry, keyed]

end Consistent

section Index

variable [DecidableEq Key]

/-- `node_list_.emplace(pos, key, value)` and `key_map_.emplace(key, it)`: a node at a fresh
address, and the iterator to it. -/
def emplace (m : NodeListMap Key T) (pos : Option Nat) (key : Key) (value : T) :
    NodeListMap Key T × Nat :=
  ({ nodeList := insertBefore pos ⟨m.nextAddr, key, value⟩ m.nodeList
     keyMap := Function.update m.keyMap key (some m.nextAddr)
     nextAddr := m.nextAddr + 1 }, m.nextAddr)

theorem entries_emplace_begin (m : NodeListMap Key T) (key : Key) (value : T) :
    (m.emplace m.begin key value).1.entries = (key, value) :: m.entries := by
  simp [emplace, entries, begin, insertBefore_head?, Node.entry]

/-- `try_emplace(pos, key, value)`: the iterator to the new node and `true`, or `end()` and
`false` when `key_map_` holds the key. -/
def tryEmplace (m : NodeListMap Key T) (pos : Option Nat) (key : Key) (value : T) :
    NodeListMap Key T × Option Nat × Bool :=
  match m.keyMap key with
  | some _ => (m, none, false)
  | none => ((m.emplace pos key value).1, some (m.emplace pos key value).2, true)

/-- `insert_or_assign(pos, key, value)`: the value assigned through the iterator `key_map_` holds,
or a new node before `pos`. -/
def insertOrAssign (m : NodeListMap Key T) (pos : Option Nat) (key : Key) (value : T) :
    NodeListMap Key T :=
  match m.keyMap key with
  | some it => { m with nodeList := assign it value m.nodeList }
  | none => (m.emplace pos key value).1

theorem tryEmplace_of_keyMap_eq_none {m : NodeListMap Key T} {key : Key}
    (absent : m.keyMap key = none) (pos : Option Nat) (value : T) :
    m.tryEmplace pos key value =
      ((m.emplace pos key value).1, some (m.emplace pos key value).2, true) := by
  rw [tryEmplace, absent]

theorem insertOrAssign_of_keyMap_eq_none {m : NodeListMap Key T} {key : Key}
    (absent : m.keyMap key = none) (pos : Option Nat) (value : T) :
    m.insertOrAssign pos key value = (m.emplace pos key value).1 := by
  rw [insertOrAssign, absent]

/-- `extract(key)`: the pair of the node `key_map_` holds, which is erased from both
structures. -/
def extract (m : NodeListMap Key T) (key : Key) : Option (Key × T) × NodeListMap Key T :=
  match m.keyMap key with
  | none => (none, m)
  | some it =>
    ((m.nodeAt it).map Node.entry,
      { m with
        nodeList := m.nodeList.filter (·.addr ≠ it)
        keyMap := Function.update m.keyMap key none })

/-- `erase(iter)`: `key_map_.erase(iter->first)`, then the node at `iter`. -/
def erase (m : NodeListMap Key T) (it : Nat) : NodeListMap Key T :=
  match m.nodeAt it with
  | some node =>
    { m with
      keyMap := Function.update m.keyMap node.key none
      nodeList := m.nodeList.filter (·.addr ≠ it) }
  | none => m

variable {m : NodeListMap Key T} (consistent : m.Consistent)
include consistent

theorem Consistent.lookup_of_mem {node : Node Key T} (mem : node ∈ m.nodeList) :
    m.entries.lookup node.key = some node.value :=
  (lookup_eq_some_iff consistent.nodup).2 (List.mem_map.2 ⟨node, mem, rfl⟩)

/-- `key_map_` holds no iterator for exactly the keys the list holds no entry for. -/
theorem Consistent.keyMap_eq_none_iff {key : Key} :
    m.keyMap key = none ↔ m.entries.lookup key = none := by
  rw [Mru.lookup_eq_none_iff, Mru.keys, entries, List.map_map]
  constructor
  · intro absent mem
    obtain ⟨node, nodeMem, rfl⟩ := List.mem_map.1 mem
    change m.keyMap node.key = none at absent
    rw [consistent.keyMap_key nodeMem] at absent
    cases absent
  · intro absent
    cases found : m.keyMap key with
    | none => rfl
    | some it =>
      obtain ⟨node, nodeMem, -, keyed⟩ := (consistent.keyMap_eq_some _ _).1 found
      exact absurd (List.mem_map.2 ⟨node, nodeMem, keyed⟩) absent

/-- Dropping the node at the address `key_map_` holds for `key` drops the entry of `key`. -/
theorem Consistent.entries_filter {key : Key} {it : Nat} (found : m.keyMap key = some it) :
    (m.nodeList.filter (·.addr ≠ it)).map Node.entry = Mru.remove key m.entries := by
  rw [Mru.remove, entries, List.filter_map]
  congr 1
  refine List.filter_congr fun node mem => ?_
  by_cases keyed : node.key = key <;> simp [Node.entry, keyed, consistent.addr_eq_iff found mem]

/-- The node of `key` dropped from both structures. -/
theorem Consistent.filter {key : Key} {it : Nat} (found : m.keyMap key = some it) :
    ({ m with
      nodeList := m.nodeList.filter (·.addr ≠ it)
      keyMap := Function.update m.keyMap key none } : NodeListMap Key T).Consistent where
  addrs_nodup := consistent.addrs_nodup.sublist (List.filter_sublist.map _)
  addr_lt node mem := consistent.addr_lt node (List.mem_of_mem_filter mem)
  keyMap_eq_some k it' := by
    dsimp only
    by_cases same : k = key
    · subst same
      simp only [Function.update_self, reduceCtorEq, false_iff, not_exists, not_and,
        List.mem_filter, decide_eq_true_eq]
      exact fun node ⟨mem, away⟩ _ keyed => away ((consistent.addr_eq_iff found mem).2 keyed)
    · rw [Function.update_of_ne same, consistent.keyMap_eq_some]
      constructor
      · rintro ⟨node, mem, addressed, keyed⟩
        refine ⟨node, List.mem_filter.2 ⟨mem, ?_⟩, addressed, keyed⟩
        simpa [consistent.addr_eq_iff found mem, keyed] using same
      · rintro ⟨node, mem, addressed, keyed⟩
        exact ⟨node, List.mem_of_mem_filter mem, addressed, keyed⟩

/-- A new node at a fresh address for a key `key_map_` does not hold. -/
theorem Consistent.emplace {key : Key} (absent : m.keyMap key = none) (pos : Option Nat)
    (value : T) : (m.emplace pos key value).1.Consistent := by
  have fresh : m.nextAddr ∉ m.nodeList.map Node.addr := fun mem => by
    obtain ⟨node, nodeMem, same⟩ := List.mem_map.1 mem
    exact absurd (consistent.addr_lt node nodeMem) (by omega)
  have front : ({ m with
      nodeList := ⟨m.nextAddr, key, value⟩ :: m.nodeList
      keyMap := Function.update m.keyMap key (some m.nextAddr)
      nextAddr := m.nextAddr + 1 } : NodeListMap Key T).Consistent := by
    refine ⟨List.nodup_cons.2 ⟨fresh, consistent.addrs_nodup⟩, fun node mem => ?_, fun k it => ?_⟩
    · rcases List.mem_cons.1 mem with rfl | mem
      · exact Nat.lt_succ_self _
      · exact Nat.lt_succ_of_lt (consistent.addr_lt node mem)
    · dsimp only
      by_cases same : k = key
      · subst same
        rw [Function.update_self]
        constructor
        · intro stored
          exact ⟨⟨m.nextAddr, k, value⟩, List.mem_cons_self, Option.some_inj.1 stored, rfl⟩
        · rintro ⟨node, mem, rfl, keyed⟩
          rcases List.mem_cons.1 mem with rfl | mem
          · rfl
          · rw [← keyed, consistent.keyMap_key mem] at absent
            cases absent
      · rw [Function.update_of_ne same, consistent.keyMap_eq_some]
        constructor
        · rintro ⟨node, mem, found⟩
          exact ⟨node, List.mem_cons_of_mem _ mem, found⟩
        · rintro ⟨node, mem, addressed, keyed⟩
          rcases List.mem_cons.1 mem with rfl | mem
          · exact absurd keyed.symm same
          · exact ⟨node, mem, addressed, keyed⟩
  exact front.perm (perm_insertBefore pos _ _)

theorem Consistent.extract (key : Key) : (m.extract key).2.Consistent := by
  unfold NodeListMap.extract
  split
  · exact consistent
  · rename_i it found
    exact consistent.filter found

theorem Consistent.extract_fst (key : Key) :
    (m.extract key).1 = (m.entries.lookup key).map (key, ·) := by
  unfold NodeListMap.extract
  split
  · rename_i absent
    rw [consistent.keyMap_eq_none_iff.1 absent]
    rfl
  · rename_i it found
    obtain ⟨node, mem, -, rfl, located⟩ := consistent.nodeAt_of_keyMap found
    rw [located, consistent.lookup_of_mem mem]
    rfl

theorem Consistent.entries_extract (key : Key) :
    (m.extract key).2.entries = Mru.remove key m.entries := by
  unfold NodeListMap.extract
  split
  · rename_i absent
    exact (Mru.remove_of_lookup_eq_none (consistent.keyMap_eq_none_iff.1 absent)).symm
  · rename_i it found
    exact consistent.entries_filter found

/-- `erase` through an iterator to a node is `extract` of its key. -/
theorem Consistent.erase_addr {node : Node Key T} (mem : node ∈ m.nodeList) :
    m.erase node.addr = (m.extract node.key).2 := by
  unfold NodeListMap.erase NodeListMap.extract
  rw [consistent.nodeAt_addr mem, consistent.keyMap_key mem]

/-- `splice(begin(), *this, it)` for the iterator `key_map_` holds for `key`: a use of `key` in
the list model. -/
theorem Consistent.entries_splice {key : Key} {it : Nat} (found : m.keyMap key = some it) :
    (m.splice m.begin it).entries = Mru.touch key m.entries := by
  obtain ⟨node, mem, rfl, rfl, located⟩ := consistent.nodeAt_of_keyMap found
  unfold NodeListMap.splice
  split
  · -- the node is at the front already
    rename_i front
    obtain ⟨first, rest, nodes⟩ : ∃ first rest, m.nodeList = first :: rest := by
      cases split : m.nodeList with
      | nil => simp [begin, split] at front
      | cons first rest => exact ⟨first, rest, rfl⟩
    have same : first = node := consistent.eq_of_addr_eq (by simp [nodes]) mem
      (by simpa [begin, nodes] using front)
    have head : m.entries.head? = some (node.key, node.value) := by
      simp [entries, nodes, same, Node.entry]
    exact (Mru.touch_of_head? consistent.nodup head).symm
  · rename_i away
    rw [located]
    have moved : insertBefore m.begin node (m.nodeList.filter (·.addr ≠ node.addr)) =
        node :: m.nodeList.filter (·.addr ≠ node.addr) := by
      cases nodes : m.nodeList with
      | nil => rfl
      | cons first rest =>
        have kept : first.addr ≠ node.addr := fun same => away (by simp [begin, nodes, same])
        simp [begin, nodes, kept, insertBefore]
    simp only [entries, moved, List.map_cons]
    change node.entry :: _ = Mru.touch node.key m.entries
    rw [consistent.entries_filter found, Mru.touch_of_lookup_eq_some (consistent.lookup_of_mem mem)]
    rfl

end Index

section Copy

/-- The nodes of a copy of `node_list_`, allocated in order from `addr`. -/
def copyNodes : Nat → List (Node Key T) → List (Node Key T)
  | _, [] => []
  | addr, node :: nodes => ⟨addr, node.key, node.value⟩ :: copyNodes (addr + 1) nodes

theorem copyNodes_map (addr : Nat) (nodes : List (Node Key T)) :
    (copyNodes addr nodes).map Node.entry = nodes.map Node.entry ∧
    (copyNodes addr nodes).map Node.addr = List.range' addr nodes.length := by
  induction nodes generalizing addr with
  | nil => exact ⟨rfl, rfl⟩
  | cons node nodes induction =>
    obtain ⟨entries, addrs⟩ := induction (addr + 1)
    refine ⟨?_, ?_⟩ <;> simp [copyNodes, entries, addrs, List.range'_succ, Node.entry]

variable [DecidableEq Key]

/-- `key_map_.emplace(iter->first, iter)` for each node in turn; `emplace` leaves a key that is
there already. -/
def indexNodes (keyMap : Key → Option Nat) : List (Node Key T) → Key → Option Nat
  | [] => keyMap
  | node :: nodes =>
    indexNodes
      (if (keyMap node.key).isSome then keyMap
        else Function.update keyMap node.key (some node.addr)) nodes

/-- The copy constructor: new nodes for the list, and `key_map_` rebuilt from them. -/
def copy (m : NodeListMap Key T) : NodeListMap Key T :=
  { nodeList := copyNodes 0 m.nodeList
    keyMap := indexNodes (fun _ => none) (copyNodes 0 m.nodeList)
    nextAddr := m.nodeList.length }

/-- Building the index from nodes with distinct keys, none of them indexed already. -/
theorem indexNodes_eq_some {nodes : List (Node Key T)} (nodup : (nodes.map Node.key).Nodup)
    {keyMap : Key → Option Nat} (fresh : ∀ node ∈ nodes, keyMap node.key = none) (key : Key)
    (it : Nat) :
    indexNodes keyMap nodes key = some it ↔
      keyMap key = some it ∨ ∃ node ∈ nodes, node.addr = it ∧ node.key = key := by
  induction nodes generalizing keyMap with
  | nil => simp [indexNodes]
  | cons first rest induction =>
    rw [List.map_cons, List.nodup_cons] at nodup
    have unindexed : (keyMap first.key).isSome = false := by
      simp [fresh first List.mem_cons_self]
    have others : ∀ node ∈ rest, node.key ≠ first.key := fun node mem same =>
      nodup.1 (same ▸ List.mem_map_of_mem mem)
    rw [indexNodes, if_neg (by simp [unindexed]),
      induction nodup.2 fun node mem => by
        rw [Function.update_of_ne (others node mem)]
        exact fresh node (List.mem_cons_of_mem _ mem)]
    by_cases same : key = first.key
    · subst same
      have missing : ¬ ∃ node ∈ rest, node.addr = it ∧ node.key = first.key :=
        fun ⟨node, mem, _, keyed⟩ => others node mem keyed
      simp only [Function.update_self, Option.some_inj, missing, or_false,
        fresh first List.mem_cons_self, reduceCtorEq, false_or, List.mem_cons, exists_eq_or_imp,
        and_true]
    · simp only [Function.update_of_ne same, List.mem_cons, exists_eq_or_imp, Ne.symm same,
        and_false, false_or]

/-- The copy has consistent structures, and the same entries in the same order. -/
theorem Consistent.copy {m : NodeListMap Key T} (consistent : m.Consistent) :
    m.copy.Consistent ∧ m.copy.entries = m.entries := by
  obtain ⟨entries, addrs⟩ := copyNodes_map 0 m.nodeList
  have keys : ((copyNodes 0 m.nodeList).map Node.key).Nodup := by
    have nodup := consistent.nodup
    rw [Mru.keys, NodeListMap.entries, ← entries, List.map_map] at nodup
    exact nodup
  refine ⟨⟨?_, fun node mem => ?_, fun key it => ?_⟩, entries⟩
  · change ((copyNodes 0 m.nodeList).map Node.addr).Nodup
    rw [addrs]
    exact List.nodup_range'
  · have addressed : node.addr ∈ List.range' 0 m.nodeList.length :=
      addrs ▸ List.mem_map_of_mem mem
    change node.addr < m.nodeList.length
    simpa [List.mem_range'] using addressed
  · have fresh : ∀ node ∈ copyNodes 0 m.nodeList, (fun _ : Key => (none : Option Nat)) node.key = none :=
      fun _ _ => rfl
    change indexNodes (fun _ => none) (copyNodes 0 m.nodeList) key = some it ↔
      ∃ node ∈ copyNodes 0 m.nodeList, node.addr = it ∧ node.key = key
    rw [indexNodes_eq_some keys fresh]
    simp

end Copy

end NodeListMap

/-- `common::LruCache` over the node model; the constructor asserts a positive capacity. -/
structure NodeLruCache (Key T : Type) where
  capacity : Nat
  listMap : NodeListMap Key T
  capacity_pos : 0 < capacity

/-- The operations of `LruCache` a client calls.  `erase` is given the key of the entry that its
iterator points to. -/
inductive LruOp (Key T : Type) where
  | find (key : Key)
  | contains (key : Key)
  | insertOrAssign (key : Key) (value : T)
  | tryEmplace (key : Key) (value : T)
  | extract (key : Key)
  | erase (key : Key)

/-- What an operation returns, with the iterators it returns read. -/
inductive LruResult (Key T : Type) where
  | found (value : Option T)
  | contained (present : Bool)
  | evicted (entry : Option (Key × T))
  | emplaced (inserted : Bool) (evicted : Option (Key × T))
  | extracted (entry : Option (Key × T))
  | erased
deriving DecidableEq, Repr

namespace LruOp

variable [DecidableEq Key]

/-- The operation on the list model of a cache of `capacity` entries. -/
def onList (capacity : Nat) (entries : List (Key × T)) :
    LruOp Key T → LruResult Key T × List (Key × T)
  | .find key => (.found (entries.lookup key), Mru.touch key entries)
  | .contains key => (.contained (entries.lookup key).isSome, Mru.touch key entries)
  | .insertOrAssign key value =>
    (.evicted (Mru.put capacity key value entries).1, (Mru.put capacity key value entries).2)
  | .tryEmplace key value =>
    (.emplaced (Mru.putIfAbsent capacity key value entries).1
      (Mru.putIfAbsent capacity key value entries).2.1,
      (Mru.putIfAbsent capacity key value entries).2.2)
  | .extract key => (.extracted ((entries.lookup key).map (key, ·)), Mru.remove key entries)
  | .erase key => (.erased, Mru.remove key entries)

/-- The operations in order on the list model, with their results. -/
def runOnList (capacity : Nat) (entries : List (Key × T)) :
    List (LruOp Key T) → List (LruResult Key T) × List (Key × T)
  | [] => ([], entries)
  | op :: ops =>
    ((op.onList capacity entries).1 :: (runOnList capacity (op.onList capacity entries).2 ops).1,
      (runOnList capacity (op.onList capacity entries).2 ops).2)

/-- Whether the operation writes a value under `key`. -/
def writes (key : Key) : LruOp Key T → Bool
  | .insertOrAssign k _ => k = key
  | .tryEmplace k _ => k = key
  | _ => false

section ListModel

variable {capacity : Nat} {entries : List (Key × T)} (nodup : (Mru.keys entries).Nodup)
include nodup

theorem nodup_onList (op : LruOp Key T) : (Mru.keys (op.onList capacity entries).2).Nodup := by
  cases op with
  | find key => exact Mru.nodup_touch nodup key
  | contains key => exact Mru.nodup_touch nodup key
  | insertOrAssign key value => exact Mru.nodup_put nodup capacity key value
  | tryEmplace key value => exact Mru.nodup_putIfAbsent nodup capacity key value
  | extract key => exact Mru.nodup_remove nodup key
  | erase key => exact Mru.nodup_remove nodup key

theorem length_onList_le (capacity_pos : 0 < capacity) (bounded : entries.length ≤ capacity)
    (op : LruOp Key T) : (op.onList capacity entries).2.length ≤ capacity := by
  cases op with
  | find key => exact (Mru.length_touch nodup key).symm ▸ bounded
  | contains key => exact (Mru.length_touch nodup key).symm ▸ bounded
  | insertOrAssign key value => exact Mru.length_put_le capacity_pos nodup bounded key value
  | tryEmplace key value => exact Mru.length_putIfAbsent_le capacity_pos nodup bounded key value
  | extract key => exact Nat.le_trans (List.length_filter_le _ _) bounded
  | erase key => exact Nat.le_trans (List.length_filter_le _ _) bounded

/-- An operation that writes nothing under `key` leaves its value there, or drops it. -/
theorem lookup_onList {key : Key} (op : LruOp Key T) (silent : op.writes key = false) :
    (op.onList capacity entries).2.lookup key = entries.lookup key ∨
      (op.onList capacity entries).2.lookup key = none := by
  have dropped : ∀ k, (Mru.remove k entries).lookup key = entries.lookup key ∨
      (Mru.remove k entries).lookup key = none := fun k => by
    rw [Mru.lookup_remove]
    split
    · exact .inr rfl
    · exact .inl rfl
  have written : ∀ k value, key ≠ k → (Mru.put capacity k value entries).2.lookup key =
      entries.lookup key ∨ (Mru.put capacity k value entries).2.lookup key = none := fun k value other => by
    rw [Mru.lookup_put nodup, if_neg other]
    split
    · exact .inr rfl
    · exact .inl rfl
  cases op with
  | find k => exact .inl (Mru.lookup_touch k key entries)
  | contains k => exact .inl (Mru.lookup_touch k key entries)
  | insertOrAssign k value =>
    exact written k value (by simpa [writes, eq_comm] using silent)
  | tryEmplace k value =>
    simp only [onList]
    by_cases present : (entries.lookup k).isSome
    · rw [Mru.putIfAbsent, if_pos present]
      exact .inl (Mru.lookup_touch k key entries)
    · rw [Mru.putIfAbsent, if_neg present]
      exact written k value (by simpa [writes, eq_comm] using silent)
  | extract k => exact dropped k
  | erase k => exact dropped k

/-- Operations that write nothing under `key` leave its value there, or drop it. -/
theorem lookup_runOnList {key : Key} (ops : List (LruOp Key T))
    (silent : ∀ op ∈ ops, op.writes key = false) :
    (runOnList capacity entries ops).2.lookup key = entries.lookup key ∨
      (runOnList capacity entries ops).2.lookup key = none := by
  induction ops generalizing entries with
  | nil => exact .inl rfl
  | cons op ops induction =>
    have step : (Mru.keys (op.onList capacity entries).2).Nodup := nodup_onList nodup op
    have later := induction step fun other mem => silent other (List.mem_cons_of_mem _ mem)
    simp only [runOnList]
    rcases lookup_onList nodup op (silent op List.mem_cons_self) with kept | gone
    · rwa [kept] at later
    · rw [gone, or_self] at later
      exact .inr later

end ListModel

end LruOp

namespace NodeLruCache

/-- `LruCache(capacity)`. -/
def empty (capacity : Nat) (capacity_pos : 0 < capacity) : NodeLruCache Key T :=
  ⟨capacity, .empty, capacity_pos⟩

/-- The entries from the most to the least recently used, the order of iteration. -/
def entries (c : NodeLruCache Key T) : List (Key × T) := c.listMap.entries

/-- What the code keeps true: `key_map_` agrees with `node_list_`, and the cache holds at most
its capacity. -/
structure Valid (c : NodeLruCache Key T) : Prop where
  consistent : c.listMap.Consistent
  size_le : c.listMap.size ≤ c.capacity

theorem valid_empty (capacity : Nat) (capacity_pos : 0 < capacity) :
    (empty capacity capacity_pos : NodeLruCache Key T).Valid :=
  ⟨NodeListMap.consistent_empty, Nat.zero_le _⟩

@[simp] theorem length_entries (c : NodeLruCache Key T) : c.entries.length = c.listMap.size :=
  List.length_map _

variable [DecidableEq Key]

/-- `find`: the iterator `key_map_` holds for `key`, its node spliced to the front. -/
def find (c : NodeLruCache Key T) (key : Key) : Option Nat × NodeLruCache Key T :=
  match c.listMap.find key with
  | none => (none, c)
  | some it => (some it, { c with listMap := c.listMap.splice c.listMap.begin it })

/-- `contains`, which goes through `find`. -/
def contains (c : NodeLruCache Key T) (key : Key) : Bool × NodeLruCache Key T :=
  ((c.find key).1.isSome, (c.find key).2)

/-- What `insert_or_assign` and `try_emplace` do before they add a key: when the cache is full,
`list_map_.extract(std::prev(list_map_.end())->first)`. -/
def evict (c : NodeLruCache Key T) : Option (Key × T) × NodeListMap Key T :=
  if c.listMap.size = c.capacity then
    match c.listMap.nodeList.getLast? with
    | some last => c.listMap.extract last.key
    | none => (none, c.listMap)
  else (none, c.listMap)

/-- `insert_or_assign`: through `begin()` when `contains` found the key, which it moved to the
front; otherwise a new node at the front after the eviction, which is returned. -/
def insertOrAssign (c : NodeLruCache Key T) (key : Key) (value : T) :
    Option (Key × T) × NodeLruCache Key T :=
  if (c.contains key).1 then
    (none, { (c.contains key).2 with listMap := (c.contains key).2.listMap.assignBegin value })
  else
    (c.evict.1, { c with listMap := c.evict.2.insertOrAssign c.evict.2.begin key value })

/-- `try_emplace`: the iterator to the new node, whether it was added, and the evicted entry;
`end()`, `false` and nothing when `contains` found the key. -/
def tryEmplace (c : NodeLruCache Key T) (key : Key) (value : T) :
    Option Nat × Bool × Option (Key × T) × NodeLruCache Key T :=
  if (c.contains key).1 then (none, false, none, (c.contains key).2)
  else
    ((c.evict.2.tryEmplace c.evict.2.begin key value).2.1,
      (c.evict.2.tryEmplace c.evict.2.begin key value).2.2, c.evict.1,
      { c with listMap := (c.evict.2.tryEmplace c.evict.2.begin key value).1 })

/-- `extract`. -/
def extract (c : NodeLruCache Key T) (key : Key) : Option (Key × T) × NodeLruCache Key T :=
  ((c.listMap.extract key).1, { c with listMap := (c.listMap.extract key).2 })

/-- `erase(iter)`. -/
def erase (c : NodeLruCache Key T) (it : Nat) : NodeLruCache Key T :=
  { c with listMap := c.listMap.erase it }

/-- One operation.  The iterator `find` returns is read after the splice.  `erase` is given the
iterator to the node of `key` found by walking the list, which warms nothing up. -/
def apply (c : NodeLruCache Key T) : LruOp Key T → LruResult Key T × NodeLruCache Key T
  | .find key =>
    (.found ((c.find key).1.bind fun it => ((c.find key).2.listMap.nodeAt it).map Node.value),
      (c.find key).2)
  | .contains key => (.contained (c.contains key).1, (c.contains key).2)
  | .insertOrAssign key value =>
    (.evicted (c.insertOrAssign key value).1, (c.insertOrAssign key value).2)
  | .tryEmplace key value =>
    (.emplaced (c.tryEmplace key value).2.1 (c.tryEmplace key value).2.2.1,
      (c.tryEmplace key value).2.2.2)
  | .extract key => (.extracted (c.extract key).1, (c.extract key).2)
  | .erase key =>
    match c.listMap.nodeList.find? (·.key = key) with
    | some node => (.erased, c.erase node.addr)
    | none => (.erased, c)

/-- The operations in order, with their results. -/
def run (c : NodeLruCache Key T) : List (LruOp Key T) → List (LruResult Key T) × NodeLruCache Key T
  | [] => ([], c)
  | op :: ops => ((c.apply op).1 :: ((c.apply op).2.run ops).1, ((c.apply op).2.run ops).2)

omit [DecidableEq Key] in
theorem capacity_find (c : NodeLruCache Key T) (key : Key) :
    (c.find key).2.capacity = c.capacity := by
  unfold NodeLruCache.find
  split <;> rfl

theorem capacity_apply (c : NodeLruCache Key T) (op : LruOp Key T) :
    (c.apply op).2.capacity = c.capacity := by
  cases op with
  | find key => exact c.capacity_find key
  | contains key => exact c.capacity_find key
  | insertOrAssign key value =>
    show (c.insertOrAssign key value).2.capacity = _
    unfold NodeLruCache.insertOrAssign
    split
    · exact c.capacity_find key
    · rfl
  | tryEmplace key value =>
    show (c.tryEmplace key value).2.2.2.capacity = _
    unfold NodeLruCache.tryEmplace
    split
    · exact c.capacity_find key
    · rfl
  | extract key => rfl
  | erase key =>
    simp only [NodeLruCache.apply]
    split <;> rfl

section Refinement

variable {c : NodeLruCache Key T} (valid : c.Valid)
include valid

omit [DecidableEq Key] in
theorem Valid.nodup : (Mru.keys c.entries).Nodup := valid.consistent.nodup

theorem Valid.keyMap_eq_none_iff {key : Key} :
    c.listMap.keyMap key = none ↔ c.entries.lookup key = none :=
  valid.consistent.keyMap_eq_none_iff

theorem Valid.entries_find (key : Key) : (c.find key).2.entries = Mru.touch key c.entries := by
  unfold NodeLruCache.find
  split
  · rename_i absent
    exact (Mru.touch_of_lookup_eq_none (valid.keyMap_eq_none_iff.1 absent)).symm
  · rename_i it found
    exact valid.consistent.entries_splice found

omit [DecidableEq Key] in
theorem Valid.consistent_find (key : Key) : (c.find key).2.listMap.Consistent := by
  unfold NodeLruCache.find
  split
  · exact valid.consistent
  · exact valid.consistent.splice _ _

/-- The iterator `find` returns, read after the splice, holds the value of `key`. -/
theorem Valid.find_value (key : Key) :
    ((c.find key).1.bind fun it => ((c.find key).2.listMap.nodeAt it).map Node.value) =
      c.entries.lookup key := by
  unfold NodeLruCache.find
  split
  · rename_i absent
    exact (valid.keyMap_eq_none_iff.1 absent).symm
  · rename_i it found
    obtain ⟨node, mem, rfl, rfl, -⟩ := valid.consistent.nodeAt_of_keyMap found
    rw [Option.bind_some, valid.consistent.nodeAt_splice _ mem, Option.map_some,
      NodeLruCache.entries, valid.consistent.lookup_of_mem mem]

theorem Valid.contains_fst (key : Key) : (c.contains key).1 = (c.entries.lookup key).isSome := by
  unfold NodeLruCache.contains NodeLruCache.find
  split
  · rename_i absent
    rw [valid.keyMap_eq_none_iff.1 absent]
    rfl
  · rename_i it found
    obtain ⟨node, mem, -, rfl, -⟩ := valid.consistent.nodeAt_of_keyMap found
    rw [NodeLruCache.entries, valid.consistent.lookup_of_mem mem]
    rfl

/-- The eviction extracts the entry at the back when the cache is full, and nothing else. -/
theorem Valid.evict_eq :
    c.evict.1 = (if c.entries.length = c.capacity then c.entries.getLast? else none) ∧
    c.evict.2.entries = (if c.entries.length = c.capacity then c.entries.dropLast else c.entries) ∧
    c.evict.2.Consistent := by
  unfold NodeLruCache.evict
  rw [length_entries]
  split
  · split
    · rename_i last back
      have mem := List.mem_of_getLast? back
      have lastEntry : c.entries.getLast? = some last.entry := by
        simp [NodeLruCache.entries, NodeListMap.entries, List.getLast?_map, back]
      refine ⟨?_, ?_, valid.consistent.extract _⟩
      · rw [valid.consistent.extract_fst, valid.consistent.lookup_of_mem mem, lastEntry]
        rfl
      · rw [valid.consistent.entries_extract, ← Mru.remove_of_getLast? valid.nodup lastEntry]
        rfl
    · rename_i empty
      have none : c.listMap.nodeList = [] := List.getLast?_eq_none_iff.1 empty
      refine ⟨?_, ?_, valid.consistent⟩ <;>
        simp [NodeLruCache.entries, NodeListMap.entries, none]
  · exact ⟨rfl, rfl, valid.consistent⟩

/-- A key the cache does not hold is not in what remains after the eviction. -/
theorem Valid.evict_keyMap {key : Key} (absent : c.entries.lookup key = none) :
    c.evict.2.keyMap key = none := by
  obtain ⟨-, evicted, consistent⟩ := valid.evict_eq
  rw [consistent.keyMap_eq_none_iff, evicted]
  split
  · cases kept : c.entries.dropLast.lookup key with
    | none => rfl
    | some v =>
      have present := (List.dropLast_sublist c.entries).lookup_isSome (by rw [kept]; rfl)
      rw [absent] at present
      cases present
  · exact absent

/-- `insert_or_assign` writes as the list model does, and returns the entry it evicts. -/
theorem Valid.insertOrAssign (key : Key) (value : T) :
    (c.insertOrAssign key value).1 = (Mru.put c.capacity key value c.entries).1 ∧
    (c.insertOrAssign key value).2.entries = (Mru.put c.capacity key value c.entries).2 ∧
    (c.insertOrAssign key value).2.listMap.Consistent := by
  unfold NodeLruCache.insertOrAssign Mru.put
  rw [valid.contains_fst]
  split
  · rename_i present
    obtain ⟨current, found⟩ := Option.isSome_iff_exists.1 present
    have touched := valid.entries_find key
    rw [Mru.touch_of_lookup_eq_some found] at touched
    exact ⟨rfl, (valid.consistent_find key).entries_assignBegin touched value,
      (valid.consistent_find key).assignBegin value⟩
  · rename_i absent
    have absent := Option.not_isSome_iff_eq_none.1 absent
    obtain ⟨evicted, evictedEntries, consistent⟩ := valid.evict_eq
    have emplaced := NodeListMap.insertOrAssign_of_keyMap_eq_none (valid.evict_keyMap absent)
      c.evict.2.begin value
    refine ⟨?_, ?_, ?_⟩
    · rw [evicted]
      split <;> rfl
    · change (c.evict.2.insertOrAssign c.evict.2.begin key value).entries = _
      rw [emplaced, NodeListMap.entries_emplace_begin, evictedEntries]
      split <;> rfl
    · change (c.evict.2.insertOrAssign c.evict.2.begin key value).Consistent
      rw [emplaced]
      exact consistent.emplace (valid.evict_keyMap absent) _ value

/-- `try_emplace` writes as the list model does, and says whether it wrote. -/
theorem Valid.tryEmplace (key : Key) (value : T) :
    (c.tryEmplace key value).2.1 = (Mru.putIfAbsent c.capacity key value c.entries).1 ∧
    (c.tryEmplace key value).2.2.1 = (Mru.putIfAbsent c.capacity key value c.entries).2.1 ∧
    (c.tryEmplace key value).2.2.2.entries = (Mru.putIfAbsent c.capacity key value c.entries).2.2 ∧
    (c.tryEmplace key value).2.2.2.listMap.Consistent := by
  unfold NodeLruCache.tryEmplace Mru.putIfAbsent
  rw [valid.contains_fst]
  split
  · exact ⟨rfl, rfl, valid.entries_find key, valid.consistent_find key⟩
  · -- a new key is written as by `insert_or_assign`
    rename_i absent
    have absent := Option.not_isSome_iff_eq_none.1 absent
    obtain ⟨evicted, written, consistent⟩ := valid.insertOrAssign key value
    have same : c.insertOrAssign key value =
        (c.evict.1, { c with listMap := (c.evict.2.emplace c.evict.2.begin key value).1 }) := by
      unfold NodeLruCache.insertOrAssign
      rw [if_neg (by simp [valid.contains_fst, absent]),
        NodeListMap.insertOrAssign_of_keyMap_eq_none (valid.evict_keyMap absent)]
    rw [same] at evicted written consistent
    rw [NodeListMap.tryEmplace_of_keyMap_eq_none (valid.evict_keyMap absent)]
    exact ⟨rfl, evicted, written, consistent⟩

theorem Valid.extract (key : Key) :
    (c.extract key).1 = (c.entries.lookup key).map (key, ·) ∧
    (c.extract key).2.entries = Mru.remove key c.entries ∧
    (c.extract key).2.listMap.Consistent :=
  ⟨valid.consistent.extract_fst key, valid.consistent.entries_extract key,
    valid.consistent.extract key⟩

/-- `erase` through the iterator to the node of `key`. -/
theorem Valid.erase (key : Key) :
    (c.apply (.erase key)).2.entries = Mru.remove key c.entries ∧
    (c.apply (.erase key)).2.listMap.Consistent := by
  simp only [NodeLruCache.apply]
  split
  · rename_i node found
    have mem := List.mem_of_find?_eq_some found
    have keyed : node.key = key := by simpa using List.find?_some found
    subst keyed
    change (c.listMap.erase node.addr).entries = _ ∧ (c.listMap.erase node.addr).Consistent
    rw [valid.consistent.erase_addr mem]
    exact ⟨valid.consistent.entries_extract _, valid.consistent.extract _⟩
  · rename_i missing
    refine ⟨(Mru.remove_of_lookup_eq_none ?_).symm, valid.consistent⟩
    refine Mru.lookup_eq_none_iff.2 fun mem => ?_
    obtain ⟨node, nodeMem, keyed⟩ := List.mem_map.1 (by simpa [Mru.keys, NodeLruCache.entries,
      NodeListMap.entries, List.map_map] using mem)
    have other := List.find?_eq_none.1 missing node nodeMem
    simp only [decide_eq_true_eq] at other
    exact other keyed

/-- Each operation gives the result and the entries of the list model. -/
theorem Valid.apply_refines (op : LruOp Key T) :
    (c.apply op).1 = (op.onList c.capacity c.entries).1 ∧
    (c.apply op).2.entries = (op.onList c.capacity c.entries).2 ∧
    (c.apply op).2.listMap.Consistent := by
  cases op with
  | find key =>
    exact ⟨congrArg LruResult.found (valid.find_value key), valid.entries_find key,
      valid.consistent_find key⟩
  | contains key =>
    exact ⟨congrArg LruResult.contained (valid.contains_fst key), valid.entries_find key,
      valid.consistent_find key⟩
  | insertOrAssign key value =>
    obtain ⟨evicted, written, consistent⟩ := valid.insertOrAssign key value
    exact ⟨congrArg LruResult.evicted evicted, written, consistent⟩
  | tryEmplace key value =>
    obtain ⟨inserted, evicted, written, consistent⟩ := valid.tryEmplace key value
    refine ⟨?_, written, consistent⟩
    show LruResult.emplaced _ _ = LruResult.emplaced _ _
    rw [inserted, evicted]
  | extract key =>
    obtain ⟨extracted, written, consistent⟩ := valid.extract key
    exact ⟨congrArg LruResult.extracted extracted, written, consistent⟩
  | erase key =>
    obtain ⟨written, consistent⟩ := valid.erase key
    refine ⟨?_, written, consistent⟩
    simp only [NodeLruCache.apply, LruOp.onList]
    split <;> rfl

theorem Valid.apply (op : LruOp Key T) : (c.apply op).2.Valid := by
  obtain ⟨-, written, consistent⟩ := valid.apply_refines op
  refine ⟨consistent, ?_⟩
  rw [← length_entries, written, c.capacity_apply op]
  exact LruOp.length_onList_le valid.nodup c.capacity_pos (length_entries c ▸ valid.size_le) op

/-- Every run gives the results and the entries of the list model. -/
theorem Valid.run_refines (ops : List (LruOp Key T)) :
    (c.run ops).1 = (LruOp.runOnList c.capacity c.entries ops).1 ∧
    (c.run ops).2.entries = (LruOp.runOnList c.capacity c.entries ops).2 ∧
    (c.run ops).2.Valid ∧ (c.run ops).2.capacity = c.capacity := by
  induction ops generalizing c with
  | nil => exact ⟨rfl, rfl, valid, rfl⟩
  | cons op ops induction =>
    obtain ⟨result, written, -⟩ := valid.apply_refines op
    obtain ⟨results, later, laterValid, laterCapacity⟩ := induction (valid.apply op)
    rw [c.capacity_apply op, written] at results later
    refine ⟨?_, later, laterValid, laterCapacity.trans (c.capacity_apply op)⟩
    simp only [NodeLruCache.run, LruOp.runOnList, result, results]

end Refinement

/-- After any run of operations from a new cache of positive capacity, the cache gives the
results and the iteration order of the list model, `key_map_` maps every key to the node holding
it and to nothing else, the keys are distinct and at most `capacity`, an operation that warms a
key moves it to the front, a new key in a full cache evicts and returns the last entry, and the
value read under a key is the last one written there unless the key has gone. -/
theorem lruCache_refines_mru_list (capacity : Nat) (capacity_pos : 0 < capacity)
    (ops : List (LruOp Key T)) (c : NodeLruCache Key T)
    (ran : ((empty capacity capacity_pos).run ops).2 = c) :
    ((empty capacity capacity_pos).run ops).1 = (LruOp.runOnList capacity [] ops).1 ∧
    c.entries = (LruOp.runOnList capacity [] ops).2 ∧
    c.listMap.Consistent ∧ (Mru.keys c.entries).Nodup ∧ c.entries.length ≤ capacity ∧
    (∀ key, (c.entries.lookup key).isSome →
      (c.apply (.find key)).2.entries.head?.map Prod.fst = some key ∧
      (c.apply (.contains key)).2.entries.head?.map Prod.fst = some key) ∧
    (∀ key value, (c.apply (.insertOrAssign key value)).2.entries.head? = some (key, value) ∧
      (c.apply (.tryEmplace key value)).2.entries.head?.map Prod.fst = some key) ∧
    (∀ key value, c.entries.lookup key = none → c.entries.length = capacity →
      (c.apply (.insertOrAssign key value)).1 = .evicted c.entries.getLast? ∧
      (c.apply (.insertOrAssign key value)).2.entries = (key, value) :: c.entries.dropLast) ∧
    (∀ key value later, (∀ op ∈ later, op.writes key = false) →
      ((c.apply (.insertOrAssign key value)).2.run later).2.entries.lookup key = some value ∨
        ((c.apply (.insertOrAssign key value)).2.run later).2.entries.lookup key = none) := by
  obtain ⟨results, entries, valid, kept⟩ := (valid_empty capacity capacity_pos).run_refines ops
  rw [ran] at entries valid kept
  have kept : c.capacity = capacity := kept
  refine ⟨results, entries, valid.consistent, valid.nodup, ?_, ?_, ?_, ?_, ?_⟩
  · rw [length_entries, ← kept]
    exact valid.size_le
  · -- `find` and `contains` splice the node found to the front
    intro key present
    obtain ⟨value, found⟩ := Option.isSome_iff_exists.1 present
    rw [(valid.apply_refines (.find key)).2.1, (valid.apply_refines (.contains key)).2.1]
    simp only [LruOp.onList, Mru.head?_touch found, Option.map_some, and_self]
  · intro key value
    rw [(valid.apply_refines (.insertOrAssign key value)).2.1,
      (valid.apply_refines (.tryEmplace key value)).2.1]
    exact ⟨Mru.head?_put _ key value _, Mru.head?_putIfAbsent _ key value _⟩
  · -- a new key in a full cache: the list model's eviction of the last entry
    intro key value absent full
    obtain ⟨evicted, written, -⟩ := valid.apply_refines (.insertOrAssign key value)
    have full : c.entries.length = c.capacity := full.trans kept.symm
    rw [evicted, written]
    simp only [LruOp.onList, Mru.put, absent, Option.isSome_none, Bool.false_eq_true, if_false,
      full, if_true, and_self]
  · -- the value written stays under its key through operations that write nothing there
    intro key value later silent
    have written := valid.apply (.insertOrAssign key value)
    obtain ⟨-, after, -⟩ := valid.apply_refines (.insertOrAssign key value)
    have front : ((c.apply (.insertOrAssign key value)).2.entries).lookup key = some value := by
      rw [after]
      obtain ⟨rest, split⟩ : ∃ rest, (Mru.put c.capacity key value c.entries).2 =
          (key, value) :: rest := by
        unfold Mru.put
        split_ifs <;> exact ⟨_, rfl⟩
      simp only [LruOp.onList, split, List.lookup_cons_self]
    obtain ⟨-, laterEntries, -, -⟩ := written.run_refines later
    rw [laterEntries, ← front]
    exact LruOp.lookup_runOnList written.nodup later silent

/-- The first section of the source's `put_and_get_sequence_1`, on a cache of capacity three. -/
def putAndGetSequence : List (LruOp Nat Nat) :=
  [.insertOrAssign 1 10, .insertOrAssign 2 20, .insertOrAssign 3 30, .insertOrAssign 4 40,
    .find 1, .find 4, .find 2, .find 3]

/-- The cache `putAndGetSequence` leaves. -/
def sequenceCache : NodeLruCache Nat Nat := ((empty 3 (by decide)).run putAndGetSequence).2

theorem lruCache_refines_mru_list_on_sequence :
    0 < 3 ∧ ((empty 3 (by decide)).run putAndGetSequence).2 = sequenceCache ∧
    ((empty 3 (by decide)).run putAndGetSequence).1 =
      (LruOp.runOnList 3 [] putAndGetSequence).1 ∧
    sequenceCache.entries = (LruOp.runOnList 3 [] putAndGetSequence).2 ∧
    sequenceCache.listMap.Consistent ∧ (Mru.keys sequenceCache.entries).Nodup ∧
    sequenceCache.entries.length ≤ 3 ∧
    (∀ key, (sequenceCache.entries.lookup key).isSome →
      (sequenceCache.apply (.find key)).2.entries.head?.map Prod.fst = some key ∧
      (sequenceCache.apply (.contains key)).2.entries.head?.map Prod.fst = some key) ∧
    (∀ key value,
      (sequenceCache.apply (.insertOrAssign key value)).2.entries.head? = some (key, value) ∧
      (sequenceCache.apply (.tryEmplace key value)).2.entries.head?.map Prod.fst = some key) ∧
    (∀ key value, sequenceCache.entries.lookup key = none → sequenceCache.entries.length = 3 →
      (sequenceCache.apply (.insertOrAssign key value)).1 =
        .evicted sequenceCache.entries.getLast? ∧
      (sequenceCache.apply (.insertOrAssign key value)).2.entries =
        (key, value) :: sequenceCache.entries.dropLast) ∧
    (∀ key value later, (∀ op ∈ later, op.writes key = false) →
      ((sequenceCache.apply (.insertOrAssign key value)).2.run later).2.entries.lookup key =
          some value ∨
        ((sequenceCache.apply (.insertOrAssign key value)).2.run later).2.entries.lookup key =
          none) :=
  ⟨by decide, rfl, lruCache_refines_mru_list 3 (by decide) putAndGetSequence sequenceCache rfl⟩

example : ((empty 3 (by decide)).run putAndGetSequence).1 =
    [.evicted none, .evicted none, .evicted none, .evicted (some (1, 10)), .found none,
      .found (some 40), .found (some 20), .found (some 30)] := by
  decide

example : ((empty 3 (by decide) : NodeLruCache Nat Nat).run putAndGetSequence).2.entries =
    [(3, 30), (2, 20), (4, 40)] := by
  decide

end NodeLruCache

end Bluetooth.Common
