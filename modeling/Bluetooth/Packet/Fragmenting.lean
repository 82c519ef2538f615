import Mathlib

set_option linter.all false

/-!
# Fragmenting inserter

`packet::FragmentingInserter` is the serializer that both gd L2CAP data controllers use to cut an
SDU into segments.  Bytes are added to the current `RawBuilder(mtu)`; once it holds `mtu` bytes
it is emitted and a fresh builder is started, and `finalize` emits a non-empty remainder.

A `RawBuilder` refuses an octet that would take it past its `max_bytes_`, so a zero `mtu`
emits one empty packet per byte.  For every positive `mtu` no byte is refused, the segments
concatenate back to the input and there are `⌈n / mtu⌉` of them.
-/

namespace Bluetooth.Packet

/-- The state of a `FragmentingInserter` between two octets. -/
structure FragmentingInserter where
  /-- Size at which the current packet is emitted (`mtu_`). -/
  mtu : Nat
  /-- Packets already pushed through `iterator_`. -/
  emitted : List (List UInt8)
  /-- Payload of `curr_packet_`. -/
  current : List UInt8
  deriving DecidableEq, Repr

namespace FragmentingInserter

/-- A fresh inserter, with an empty `RawBuilder(mtu)`. -/
def init (mtu : Nat) : FragmentingInserter := ⟨mtu, [], []⟩

/-- `RawBuilder::AddOctets1` on a builder of capacity `mtu`: the octet is dropped when full. -/
def addOctets1 (mtu : Nat) (payload : List UInt8) (byte : UInt8) : List UInt8 :=
  if payload.length + 1 ≤ mtu then payload ++ [byte] else payload

/-- `insert_bits` for one whole octet. -/
def insertByte (inserter : FragmentingInserter) (byte : UInt8) : FragmentingInserter :=
  let current := addOctets1 inserter.mtu inserter.current byte
  if inserter.mtu ≤ current.length then
    { inserter with emitted := inserter.emitted ++ [current], current := [] }
  else
    { inserter with current := current }

/-- `finalize`: a non-empty current packet is emitted. -/
def finalize (inserter : FragmentingInserter) : List (List UInt8) :=
  if inserter.current.length ≠ 0 then inserter.emitted ++ [inserter.current] else inserter.emitted

end FragmentingInserter

/-- Serialize `bytes` through a `FragmentingInserter(mtu)` and finalize it. -/
def fragment (mtu : Nat) (bytes : List UInt8) : List (List UInt8) :=
  (bytes.foldl FragmentingInserter.insertByte (FragmentingInserter.init mtu)).finalize

namespace FragmentingInserter

/-- While the current packet is below a positive `mtu`, every octet is accepted. -/
def Filling (inserter : FragmentingInserter) : Prop :=
  0 < inserter.mtu ∧ inserter.current.length < inserter.mtu

theorem addOctets1_of_lt {mtu : Nat} {payload : List UInt8} (byte : UInt8)
    (below : payload.length < mtu) : addOctets1 mtu payload byte = payload ++ [byte] := by
  simp [addOctets1, show payload.length + 1 ≤ mtu by omega]

@[simp] theorem mtu_insertByte (inserter : FragmentingInserter) (byte : UInt8) :
    (inserter.insertByte byte).mtu = inserter.mtu := by
  dsimp only [insertByte]
  split <;> rfl

/-- Below the `mtu` an octet is appended, and the packet is emitted once it is full. -/
theorem insertByte_of_filling {inserter : FragmentingInserter} (filling : inserter.Filling)
    (byte : UInt8) :
    inserter.insertByte byte =
      if inserter.mtu ≤ inserter.current.length + 1 then
        { inserter with emitted := inserter.emitted ++ [inserter.current ++ [byte]], current := [] }
      else
        { inserter with current := inserter.current ++ [byte] } := by
  dsimp only [insertByte]
  rw [addOctets1_of_lt byte filling.2, List.length_append, List.length_singleton]

@[simp] theorem mtu_foldl (inserter : FragmentingInserter) (bytes : List UInt8) :
    (bytes.foldl insertByte inserter).mtu = inserter.mtu := by
  induction bytes generalizing inserter with
  | nil => rfl
  | cons byte bytes induction => simp [List.foldl_cons, induction]

theorem filling_insertByte {inserter : FragmentingInserter} (filling : inserter.Filling)
    (byte : UInt8) : (inserter.insertByte byte).Filling := by
  rw [insertByte_of_filling filling byte]
  split
  · exact ⟨filling.1, by simpa using filling.1⟩
  · next full => exact ⟨filling.1, by simpa using full⟩

theorem filling_foldl {inserter : FragmentingInserter} (filling : inserter.Filling)
    (bytes : List UInt8) : (bytes.foldl insertByte inserter).Filling := by
  induction bytes generalizing inserter with
  | nil => exact filling
  | cons byte bytes induction => exact induction (filling_insertByte filling byte)

/-- One octet either extends the current packet or completes it. -/
theorem flatten_insertByte {inserter : FragmentingInserter} (filling : inserter.Filling)
    (byte : UInt8) :
    (inserter.insertByte byte).emitted.flatten ++ (inserter.insertByte byte).current =
      inserter.emitted.flatten ++ inserter.current ++ [byte] := by
  rw [insertByte_of_filling filling byte]
  split <;> simp

theorem count_insertByte {inserter : FragmentingInserter} (filling : inserter.Filling)
    (byte : UInt8) :
    (inserter.insertByte byte).emitted.length * inserter.mtu +
        (inserter.insertByte byte).current.length =
      inserter.emitted.length * inserter.mtu + inserter.current.length + 1 := by
  rw [insertByte_of_filling filling byte]
  split
  · next full =>
      have complete : inserter.current.length + 1 = inserter.mtu := by
        have := filling.2
        omega
      simp only [List.length_append, List.length_singleton, List.length_nil, Nat.add_zero]
      rw [Nat.add_mul, ← complete]
      omega
  · simp only [List.length_append, List.length_singleton]
    omega

theorem flatten_foldl {inserter : FragmentingInserter} (filling : inserter.Filling)
    (bytes : List UInt8) :
    (bytes.foldl insertByte inserter).emitted.flatten ++ (bytes.foldl insertByte inserter).current =
      inserter.emitted.flatten ++ inserter.current ++ bytes := by
  induction bytes generalizing inserter with
  | nil => simp
  | cons byte bytes induction =>
      rw [List.foldl_cons, induction (filling_insertByte filling byte),
        flatten_insertByte filling byte]
      simp

theorem count_foldl {inserter : FragmentingInserter} (filling : inserter.Filling)
    (bytes : List UInt8) :
    (bytes.foldl insertByte inserter).emitted.length * inserter.mtu +
        (bytes.foldl insertByte inserter).current.length =
      inserter.emitted.length * inserter.mtu + inserter.current.length + bytes.length := by
  induction bytes generalizing inserter with
  | nil => simp
  | cons byte bytes induction =>
      have step := induction (filling_insertByte filling byte)
      rw [mtu_insertByte, count_insertByte filling byte] at step
      rw [List.foldl_cons, step, List.length_cons]
      omega

end FragmentingInserter

open FragmentingInserter in
/-- With a positive `mtu` the segments concatenate back to the serialized bytes. -/
theorem flatten_fragment {mtu : Nat} (positive : 0 < mtu) (bytes : List UInt8) :
    (fragment mtu bytes).flatten = bytes := by
  have filling : (init mtu).Filling := ⟨positive, by simp [init, positive]⟩
  have whole := flatten_foldl filling bytes
  unfold fragment
  generalize bytes.foldl insertByte (init mtu) = final at whole ⊢
  simp only [init, List.flatten_nil, List.nil_append] at whole
  unfold finalize
  split
  · simpa using whole
  · next empty =>
      have : final.current = [] := by simpa using empty
      simpa [this] using whole

open FragmentingInserter in
/-- With a positive `mtu` there are `⌈n / mtu⌉` segments. -/
theorem length_fragment {mtu : Nat} (positive : 0 < mtu) (bytes : List UInt8) :
    (fragment mtu bytes).length = (bytes.length + mtu - 1) / mtu := by
  have filling : (init mtu).Filling := ⟨positive, by simp [init, positive]⟩
  have count := count_foldl filling bytes
  have below := (filling_foldl filling bytes).2
  have same_mtu := mtu_foldl (init mtu) bytes
  unfold fragment
  generalize bytes.foldl insertByte (init mtu) = final at count below same_mtu ⊢
  simp only [init, List.length_nil, Nat.zero_mul, Nat.zero_add] at count below same_mtu
  rw [same_mtu] at below
  rw [← count]
  unfold finalize
  split
  · next nonempty =>
      simp only [List.length_append, List.length_singleton]
      symm
      rw [Nat.div_eq_iff positive, Nat.add_mul, Nat.one_mul]
      omega
  · next empty =>
      have zero : final.current.length = 0 := by simpa using empty
      rw [zero, Nat.add_zero]
      symm
      rw [Nat.div_eq_iff positive]
      omega

/-- A non-empty serialization yields at least one segment. -/
theorem fragment_ne_nil {mtu : Nat} (positive : 0 < mtu) {bytes : List UInt8}
    (nonempty : bytes ≠ []) : fragment mtu bytes ≠ [] := by
  intro empty
  have := flatten_fragment positive bytes
  rw [empty] at this
  exact nonempty this.symm


namespace FragmentingInserter

/-- Packets already emitted stay in front of those a run emits. -/
theorem foldl_emitted (mtu : Nat) (emitted : List (List UInt8)) (current bytes : List UInt8) :
    bytes.foldl insertByte ⟨mtu, emitted, current⟩ =
      ⟨mtu, emitted ++ (bytes.foldl insertByte ⟨mtu, [], current⟩).emitted,
        (bytes.foldl insertByte ⟨mtu, [], current⟩).current⟩ := by
  induction bytes generalizing emitted current with
  | nil => simp
  | cons byte bytes induction =>
      simp only [List.foldl_cons, insertByte]
      split
      · rw [induction, List.nil_append, induction [_]]
        simp
      · exact induction emitted _

/-- Octets that leave the current packet below the `mtu` are appended to it. -/
theorem foldl_of_lt {mtu : Nat} {emitted : List (List UInt8)} {current bytes : List UInt8}
    (below : current.length + bytes.length < mtu) :
    bytes.foldl insertByte ⟨mtu, emitted, current⟩ = ⟨mtu, emitted, current ++ bytes⟩ := by
  induction bytes generalizing current with
  | nil => simp
  | cons byte bytes induction =>
      simp only [List.length_cons] at below
      have filling : Filling ⟨mtu, emitted, current⟩ :=
        ⟨show 0 < mtu by omega, show current.length < mtu by omega⟩
      have not_full : ¬ mtu ≤ current.length + 1 := by omega
      rw [List.foldl_cons, insertByte_of_filling filling byte, if_neg not_full]
      rw [induction (by simp only [List.length_append, List.length_singleton]; omega)]
      simp

/-- Octets that fill the current packet up to the `mtu` emit it. -/
theorem foldl_of_eq {mtu : Nat} {emitted : List (List UInt8)} {current bytes : List UInt8}
    (nonempty : bytes ≠ []) (full : current.length + bytes.length = mtu) :
    bytes.foldl insertByte ⟨mtu, emitted, current⟩ = ⟨mtu, emitted ++ [current ++ bytes], []⟩ := by
  obtain ⟨front, last, rfl⟩ : ∃ front last, bytes = front ++ [last] :=
    ⟨bytes.dropLast, bytes.getLast nonempty, (List.dropLast_append_getLast nonempty).symm⟩
  simp only [List.length_append, List.length_singleton] at full
  have filling : Filling ⟨mtu, emitted, current ++ front⟩ :=
    ⟨show 0 < mtu by omega, show (current ++ front).length < mtu by simp; omega⟩
  have completes : mtu ≤ (current ++ front).length + 1 := by simp; omega
  have before : front.foldl insertByte ⟨mtu, emitted, current⟩ =
      ⟨mtu, emitted, current ++ front⟩ := foldl_of_lt (by omega)
  rw [List.foldl_append, before, List.foldl_cons, List.foldl_nil,
    insertByte_of_filling filling last, if_pos completes]
  simp

theorem finalize_cons (mtu : Nat) (packet : List UInt8) (emitted : List (List UInt8))
    (current : List UInt8) :
    finalize ⟨mtu, packet :: emitted, current⟩ = packet :: finalize ⟨mtu, emitted, current⟩ := by
  unfold finalize
  split <;> rfl

end FragmentingInserter

open FragmentingInserter

@[simp] theorem fragment_nil (mtu : Nat) : fragment mtu [] = [] := by
  simp [fragment, finalize, init]

/-- The first segment is the first `mtu` octets, and the rest are the segments of the others. -/
theorem fragment_eq_cons {mtu : Nat} (positive : 0 < mtu) {bytes : List UInt8}
    (nonempty : bytes ≠ []) :
    fragment mtu bytes = bytes.take mtu :: fragment mtu (bytes.drop mtu) := by
  by_cases short : bytes.length < mtu
  · have whole : bytes.foldl insertByte (init mtu) = ⟨mtu, [], bytes⟩ :=
      foldl_of_lt (by simpa using short)
    rw [fragment, whole, List.take_of_length_le short.le, List.drop_of_length_le short.le,
      fragment_nil]
    simp [finalize, nonempty]
  · have first : (bytes.take mtu).foldl insertByte (init mtu) = ⟨mtu, [bytes.take mtu], []⟩ := by
      have taken : bytes.take mtu ≠ [] := by simp [nonempty]; omega
      simpa [init] using @foldl_of_eq mtu [] [] _ taken (by simp; omega)
    have split : fragment mtu bytes =
        finalize ((bytes.drop mtu).foldl insertByte ((bytes.take mtu).foldl insertByte (init mtu))) := by
      rw [← List.foldl_append, List.take_append_drop]
      rfl
    rw [split, first, foldl_emitted, List.singleton_append, finalize_cons]
    rfl

/-- Every segment of a positive `mtu` holds between one and `mtu` octets. -/
theorem length_mem_fragment {mtu : Nat} (positive : 0 < mtu) :
    ∀ (bytes : List UInt8), ∀ segment ∈ fragment mtu bytes,
      0 < segment.length ∧ segment.length ≤ mtu
  | [], segment, member => by simp at member
  | byte :: rest, segment, member => by
      rw [fragment_eq_cons positive (List.cons_ne_nil _ _), List.mem_cons] at member
      rcases member with rfl | later
      · simp
        omega
      · exact length_mem_fragment positive _ segment later
termination_by bytes => bytes.length
decreasing_by simp only [List.length_drop, List.length_cons]; omega

end Bluetooth.Packet
