import Bluetooth.Packet.PacketView
import Bluetooth.Packet.Inserter

set_option linter.all false

/-!
# Iterators over packet views

A generated parser reads a `PacketView` through an `Iterator`: a position `index_` in the
fragments, readable while it lies in `[begin_, end_)`.  What is left to read, `remaining`, is
the concatenation of the fragments from `index_`, cut at `NumBytesRemaining()`.  One
`operator*` reads its head and one `operator++` drops it (`deref_eq`, `remaining_next`), so a
run of them reads a prefix whatever the fragmentation (`readBytes_of_le`), and `extract` undoes
`EndianInserter::insert`: the fields a builder wrote, split into views any way at all, are read
back in order (`extractFields_insertFields`).  `Subrange` narrows the readable window
(`remaining_subrange`).
-/

namespace Bluetooth.Packet

/-- `packet::Iterator`: a position in the fragments and the window `[begin_, end_)`. -/
structure Iterator where
  data : List View
  index : Nat
  beginIndex : Nat
  endIndex : Nat

namespace Iterator

/-- `Iterator(data, offset)`: readable over the whole of the fragments. -/
def ofFragments (data : List View) (offset : Nat) : Iterator :=
  ⟨data, offset, 0, (data.map View.size).sum⟩

/-- `operator*`: the loop of `PacketView::at` from `index_`; `none` where an `ASSERT` fails. -/
def deref (it : Iterator) : Option UInt8 :=
  if it.index < it.endIndex ∧ ¬it.beginIndex > it.index then
    PacketView.atFragments it.data it.index
  else none

/-- `operator++`. -/
def next (it : Iterator) : Iterator := { it with index := it.index + 1 }

/-- `NumBytesRemaining()`. -/
def numBytesRemaining (it : Iterator) : Nat :=
  if it.endIndex > it.index ∧ ¬it.beginIndex > it.index then it.endIndex - it.index else 0

/-- `Subrange(index, length)`. -/
def subrange (it : Iterator) (index length : Nat) : Iterator :=
  if it.numBytesRemaining > index then
    let moved := { it with index := it.index + index, beginIndex := it.index + index }
    if moved.numBytesRemaining ≥ length then { moved with endIndex := moved.index + length }
    else moved
  else { it with endIndex := 0 }

/-- `width` rounds of `operator*` then `operator++`: the bytes in the order read. -/
def readBytes : Nat → Iterator → Option (List UInt8 × Iterator)
  | 0, it => some ([], it)
  | width + 1, it => do
    let byte ← it.deref
    let (rest, it) ← readBytes width it.next
    pure (byte :: rest, it)

/-- `extract<T>()` for a `width`-octet unsigned `T`: byte `i` read goes to `value_ptr[slot i]`,
so, `slot` being its own inverse, octet `j` of the value is byte `slot j` read, and the value is
what those octets stand for in memory. -/
def extract (littleEndian : Bool) (width : Nat) (it : Iterator) : Option (Nat × Iterator) :=
  (it.readBytes width).map fun (read, it) => (LittleEndian.decode (orient littleEndian read), it)

/-- The concatenation of the fragments. -/
def flat (it : Iterator) : List UInt8 := it.data.flatMap View.bytes

/-- The bytes left to read: `NumBytesRemaining()` bytes of the concatenation from `index_`. -/
def remaining (it : Iterator) : List UInt8 := (it.flat.drop it.index).take it.numBytesRemaining

/-- Not before `begin_`, as every iterator that `Iterator(data, offset)`, `operator++` and
`Subrange` make. -/
def Valid (it : Iterator) : Prop := it.beginIndex ≤ it.index

theorem valid_ofFragments (data : List View) (offset : Nat) : (ofFragments data offset).Valid :=
  Nat.zero_le _

theorem Valid.next {it : Iterator} (valid : it.Valid) : it.next.Valid :=
  Nat.le_succ_of_le valid

/-- `operator*` reads the first byte left. -/
theorem deref_eq (it : Iterator) : it.deref = it.remaining.head? := by
  rw [deref, remaining, numBytesRemaining]
  by_cases readable : it.index < it.endIndex ∧ ¬it.beginIndex > it.index
  · have some_left : it.endIndex - it.index ≠ 0 := by omega
    rw [if_pos readable, if_pos readable, PacketView.atFragments_eq, List.head?_take,
      if_neg some_left, List.head?_drop]
    rfl
  · rw [if_neg readable, if_neg readable, List.take_zero]
    rfl

theorem numBytesRemaining_next {it : Iterator} (valid : it.Valid) :
    it.next.numBytesRemaining = it.numBytesRemaining - 1 := by
  unfold Valid at valid
  -- `dsimp` rather than `simp`, which would leave the update of `index_` in the conditions'
  -- decidability instances and keep `split_ifs` from matching them
  dsimp only [numBytesRemaining, next]
  split_ifs <;> omega

/-- `operator++` drops the byte `operator*` reads. -/
theorem remaining_next {it : Iterator} (valid : it.Valid) : it.next.remaining = it.remaining.tail := by
  rw [remaining, remaining, ← List.drop_one, List.drop_take, List.drop_drop,
    numBytesRemaining_next valid]
  rfl

/-- A run of `operator*` and `operator++` reads the bytes left in order, whatever the
fragments. -/
theorem readBytes_of_le : ∀ (width : Nat) {it : Iterator}, it.Valid →
    width ≤ it.remaining.length → ∃ after, it.readBytes width = some (it.remaining.take width, after) ∧
      after.Valid ∧ after.remaining = it.remaining.drop width
  | 0, it, valid, _ => ⟨it, rfl, valid, rfl⟩
  | width + 1, it, valid, enough => by
    obtain ⟨byte, rest, split⟩ := List.exists_cons_of_length_pos (show 0 < it.remaining.length by omega)
    have first : it.deref = some byte := by rw [deref_eq, split]; rfl
    have following : it.next.remaining = rest := by rw [remaining_next valid, split]; rfl
    have more : width ≤ it.next.remaining.length := by
      rw [following]
      rw [split, List.length_cons] at enough
      omega
    obtain ⟨after, read, afterValid, afterRemaining⟩ := readBytes_of_le width valid.next more
    refine ⟨after, ?_, afterValid, ?_⟩
    · simp [readBytes, first, read, following, split]
    · rw [afterRemaining, following, split]
      rfl

/-- Past the bytes left, `operator*` fails its `ASSERT` before the run ends. -/
theorem readBytes_of_lt : ∀ (width : Nat) {it : Iterator}, it.Valid →
    it.remaining.length < width → it.readBytes width = none
  | 0, _, _, short => absurd short (Nat.not_lt_zero _)
  | width + 1, it, valid, short => by
    cases split : it.remaining with
    | nil => rw [readBytes, deref_eq, split]; rfl
    | cons byte rest =>
      have following : it.next.remaining = rest := by rw [remaining_next valid, split]; rfl
      have first : it.deref = some byte := by rw [deref_eq, split]; rfl
      rw [split, List.length_cons] at short
      simp [readBytes, first, readBytes_of_lt width valid.next (by rw [following]; omega)]

/-- `extract` reads back the value `EndianInserter::insert` wrote, with the same endianness. -/
theorem extract_octets {it : Iterator} (valid : it.Valid) (field : Field) {rest : List UInt8}
    (reading : it.remaining = field.octets ++ rest) :
    ∃ after, it.extract field.littleEndian field.width = some (field.value, after) ∧
      after.Valid ∧ after.remaining = rest := by
  obtain ⟨after, read, afterValid, afterRemaining⟩ :=
    readBytes_of_le field.width valid (by rw [reading, List.length_append, Field.length_octets]; omega)
  have taken : it.remaining.take field.width = field.octets := by
    rw [reading, List.take_left' (Field.length_octets field)]
  refine ⟨after, ?_, afterValid, ?_⟩
  · rw [extract, read, Option.map_some, taken, Field.octets]
    dsimp only
    rw [orient_orient, LittleEndian.decode_encode field.fits]
  · rw [afterRemaining, reading, List.drop_left' (Field.length_octets field)]

/-- With `begin_` at `index_`, `NumBytesRemaining()` is the distance to `end_`. -/
theorem numBytesRemaining_of_started {it : Iterator} (started : it.beginIndex = it.index) :
    it.numBytesRemaining = it.endIndex - it.index := by
  unfold numBytesRemaining
  split_ifs <;> omega

/-- `Subrange` first moves `index_` and `begin_` on by `index`. -/
theorem numBytesRemaining_moved {it : Iterator} (index : Nat) (inside : index < it.numBytesRemaining) :
    ({ it with index := it.index + index, beginIndex := it.index + index } : Iterator).numBytesRemaining =
      it.numBytesRemaining - index := by
  rw [numBytesRemaining_of_started rfl]
  dsimp only
  unfold numBytesRemaining at *
  split_ifs at * <;> omega

theorem numBytesRemaining_subrange (it : Iterator) (index length : Nat) :
    (it.subrange index length).numBytesRemaining = min length (it.numBytesRemaining - index) := by
  unfold subrange
  by_cases inside : index < it.numBytesRemaining
  · have moved := numBytesRemaining_moved index inside
    rw [if_pos inside]
    dsimp only
    by_cases enough : length ≤ it.numBytesRemaining - index
    · rw [if_pos (by rw [moved]; exact enough), numBytesRemaining_of_started rfl]
      dsimp only
      omega
    · rw [if_neg (by rw [moved]; exact enough), moved]
      omega
  · have ended : ({ it with endIndex := 0 } : Iterator).numBytesRemaining = 0 := by
      simp [numBytesRemaining]
    rw [if_neg inside, ended]
    omega

theorem index_subrange {it : Iterator} (index length : Nat)
    (inside : index < it.numBytesRemaining) :
    (it.subrange index length).index = it.index + index := by
  unfold subrange
  rw [if_pos inside]
  dsimp only
  split_ifs <;> rfl

theorem data_subrange (it : Iterator) (index length : Nat) :
    (it.subrange index length).data = it.data := by
  unfold subrange
  dsimp only
  split_ifs <;> rfl

theorem Valid.subrange {it : Iterator} (valid : it.Valid) (index length : Nat) :
    (it.subrange index length).Valid := by
  unfold Iterator.subrange
  by_cases inside : index < it.numBytesRemaining
  · rw [if_pos inside]
    dsimp only
    split_ifs <;> exact Nat.le_refl _
  · rw [if_neg inside]
    exact valid

/-- `Subrange(index, length)` leaves readable the bytes `[index, index + length)` of what was
left, as many of them as there are. -/
theorem remaining_subrange (it : Iterator) (index length : Nat) :
    (it.subrange index length).remaining =
      (it.flat.drop (it.index + index)).take (min length (it.numBytesRemaining - index)) := by
  rw [remaining, numBytesRemaining_subrange, flat, data_subrange, ← flat]
  by_cases inside : index < it.numBytesRemaining
  · rw [index_subrange index length inside]
  · have nothing : it.numBytesRemaining - index = 0 := by omega
    rw [nothing, Nat.min_zero, List.take_zero, List.take_zero]

end Iterator

namespace PacketView

/-- `PacketView::begin()`. -/
def begin (v : PacketView) : Iterator := Iterator.ofFragments v.fragments 0

/-- From `begin()` every byte of the view is left to read. -/
theorem remaining_begin (v : PacketView) : v.begin.remaining = v.flat := by
  have whole : v.flat.length = (v.fragments.map View.size).sum := by
    simp [flat, List.length_flatMap]
  rw [Iterator.remaining, begin, Iterator.ofFragments, Iterator.numBytesRemaining]
  simp only [Iterator.flat, List.drop_zero]
  split_ifs
  · rw [Nat.sub_zero, ← flat, ← whole, List.take_length]
  · rw [← flat, List.take_zero, eq_comm, ← List.length_eq_zero_iff]
    omega

end PacketView

/-- A parser's run of `extract` calls, one per field with its endianness and width. -/
def extractFields : List (Bool × Nat) → Iterator → Option (List Nat × Iterator)
  | [], it => some ([], it)
  | (littleEndian, width) :: rest, it => do
    let (value, it) ← it.extract littleEndian width
    let (values, it) ← extractFields rest it
    pure (value :: values, it)

/-- Reading the fields back from the octets they were written as gives their values. -/
theorem extractFields_octets : ∀ (fields : List Field) {it : Iterator} {rest : List UInt8},
    it.Valid → it.remaining = fields.flatMap Field.octets ++ rest →
    ∃ after, extractFields (fields.map fun field => (field.littleEndian, field.width)) it =
      some (fields.map Field.value, after) ∧ after.remaining = rest
  | [], it, _, _, reading => ⟨it, rfl, reading⟩
  | field :: others, it, rest, valid, reading => by
    rw [List.flatMap_cons, List.append_assoc] at reading
    obtain ⟨middle, extracted, middleValid, middleRemaining⟩ := Iterator.extract_octets valid field reading
    obtain ⟨after, others_read, afterRemaining⟩ := extractFields_octets others middleValid middleRemaining
    refine ⟨after, ?_, afterRemaining⟩
    simp [extractFields, extracted, others_read]

/-- Whatever views the octets a builder wrote are split into, a parser extracting the same
fields in the same order reads back their values. -/
theorem extractFields_insertFields (fields : List Field) (views : List View)
    (split : views.flatMap View.bytes = (insertFields fields (BitInserter.ofVector [])).output) :
    (extractFields (fields.map fun field => (field.littleEndian, field.width))
      (PacketView.ofFragments views).begin).map Prod.fst = some (fields.map Field.value) := by
  have reading : (PacketView.ofFragments views).begin.remaining = fields.flatMap Field.octets ++ [] := by
    rw [PacketView.remaining_begin, List.append_nil, PacketView.flat]
    simpa [PacketView.ofFragments, BitInserter.ofVector, insertFields_aligned] using split
  obtain ⟨_, read, _⟩ :=
    extractFields_octets fields (Iterator.valid_ofFragments _ _) reading
  rw [PacketView.begin, read]
  rfl

/-- A packet view reads as the concatenation of its fragments: its size and bytes, its
subviews, and a parser's extracts of the fields a builder inserted, split into views any way;
`Subrange` narrows an iterator to a window of what it has left.  `Append` puts the other view's
bytes after its own, but fails its `ASSERT` exactly on a view with no fragment, and the subview
taken at the end of a view is one. -/
theorem views_read_flat_but_append_fails_on_end_subview {v : PacketView}
    (consistent : v.Consistent) (w : PacketView) :
    (v.size = v.flat.length ∧ ∀ i < v.size, v.atIndex i = v.flat[i]?) ∧
    (∀ b e, b ≤ e → e ≤ v.size → ∃ views, v.getSubviewList b e = some views ∧
      views.flatMap View.bytes = (v.flat.drop b).take (e - b)) ∧
    (∀ appended, v.append w = some appended → appended.flat = v.flat ++ w.flat) ∧
    (v.append w = none ↔ v.fragments = []) ∧
    v.getSubviewList v.size v.size = some [] ∧
    (PacketView.ofFragments []).append w = none ∧
    (∀ (fields : List Field) (views : List View),
      views.flatMap View.bytes = (insertFields fields (BitInserter.ofVector [])).output →
      (extractFields (fields.map fun field => (field.littleEndian, field.width))
        (PacketView.ofFragments views).begin).map Prod.fst = some (fields.map Field.value)) ∧
    ∀ (it : Iterator) (index length : Nat), (it.subrange index length).remaining =
      (it.flat.drop (it.index + index)).take (min length (it.numBytesRemaining - index)) := by
  refine ⟨⟨(PacketView.length_flat consistent).symm, fun i inside => ?_⟩,
    fun b e ordered within => PacketView.flat_getSubviewList v ordered within,
    fun appended appending => PacketView.flat_append consistent appending,
    PacketView.append_eq_none_iff consistent w, PacketView.getSubviewList_size consistent, rfl,
    extractFields_insertFields, Iterator.remaining_subrange⟩
  rw [PacketView.atIndex_eq, if_pos inside]

theorem views_read_flat_but_append_fails_on_end_subview_at_three_octets :
    (PacketView.ofVector [1, 2, 3]).Consistent ∧
      (PacketView.ofVector [1, 2, 3]).getSubviewList 3 3 = some [] ∧
      (PacketView.ofFragments []).append (PacketView.ofVector [4]) = none :=
  have laws := @views_read_flat_but_append_fails_on_end_subview (PacketView.ofVector [1, 2, 3]) rfl
    (PacketView.ofVector [4])
  ⟨rfl, laws.2.2.2.2.1, laws.2.2.2.2.2.1⟩

end Bluetooth.Packet
