import Mathlib

set_option linter.all false

/-!
# Fragmented packet views

`packet::PacketView` holds a `std::forward_list` of `View`s, each a window `[begin_, end_)` on a
shared byte vector, and a `length_` that its constructors set to the sum of their sizes.  What
a packet view stands for is the concatenation of its fragments, `flat`.  `at` and
`GetSubviewList` read that concatenation (`atIndex_eq`, `flat_getSubviewList`).  `Append`
walks to the fragment at which the length is used up and inserts the other view's fragments
after it, so the concatenation grows by the other's (`flat_append`).  With no fragment at all
there is nothing to insert after, and its `ASSERT` fails: that is the case of the zero-length
subview taken at the end of a packet, whose fragment list is empty
(`append_fails_on_end_subview`).
-/

namespace Bluetooth.Packet

/-- `packet::View`: the bytes `[begin_, end_)` of a shared vector. -/
structure View where
  data : List UInt8
  beginIndex : Nat
  endIndex : Nat
  begin_le_end : beginIndex ≤ endIndex
  end_le_size : endIndex ≤ data.length

namespace View

/-- `View::size`. -/
def size (view : View) : Nat := view.endIndex - view.beginIndex

/-- `View(data, begin, end)`: the bounds are clamped to the vector. -/
def ofVector (data : List UInt8) (b e : Nat) (ordered : b ≤ e) : View :=
  ⟨data, min b data.length, min e data.length, by omega, by omega⟩

/-- `View(view, begin, end)`: a window of a view, the bounds clamped to its size. -/
def sub (view : View) (b e : Nat) (ordered : b ≤ e) : View :=
  ⟨view.data, min b view.size + view.beginIndex, min e view.size + view.beginIndex, by omega, by
    have := view.begin_le_end
    have := view.end_le_size
    simp only [size]
    omega⟩

/-- `View::operator[]`: `none` where its `ASSERT` fails. -/
def get (view : View) (i : Nat) : Option UInt8 :=
  if i + view.beginIndex < view.endIndex then view.data[i + view.beginIndex]? else none

/-- The bytes the view stands for. -/
def bytes (view : View) : List UInt8 := (view.data.drop view.beginIndex).take view.size

@[simp] theorem length_bytes (view : View) : view.bytes.length = view.size := by
  have := view.end_le_size
  simp only [bytes, size, List.length_take, List.length_drop]
  omega

theorem get_eq (view : View) (i : Nat) : view.get i = view.bytes[i]? := by
  simp only [get, bytes, List.getElem?_take, List.getElem?_drop, size]
  by_cases inside : i + view.beginIndex < view.endIndex
  · rw [if_pos inside, if_pos (by omega), Nat.add_comm]
  · rw [if_neg inside, if_neg (by omega)]

/-- A window of a view stands for those of its bytes. -/
theorem bytes_sub (view : View) {b e : Nat} (ordered : b ≤ e) (inside : e ≤ view.size) :
    (view.sub b e ordered).bytes = (view.bytes.drop b).take (e - b) := by
  simp only [sub, bytes, size] at *
  rw [Nat.min_eq_left (show b ≤ view.endIndex - view.beginIndex by omega), Nat.min_eq_left inside,
    List.drop_take, List.drop_drop, List.take_take, Nat.min_eq_left (by omega),
    Nat.add_comm view.beginIndex b]
  congr 1
  omega

end View

/-- `packet::PacketView`: its fragments and `length_`. -/
structure PacketView where
  fragments : List View
  length : Nat

namespace PacketView

/-- `PacketView(fragments)`: `length_` is the sum of the fragments' sizes. -/
def ofFragments (fragments : List View) : PacketView := ⟨fragments, (fragments.map View.size).sum⟩

/-- `PacketView(packet)`: one fragment, the whole vector. -/
def ofVector (packet : List UInt8) : PacketView :=
  ⟨[View.ofVector packet 0 packet.length (Nat.zero_le _)], packet.length⟩

/-- `size()`. -/
def size (v : PacketView) : Nat := v.length

/-- The bytes the view stands for: its fragments one after the other. -/
def flat (v : PacketView) : List UInt8 := v.fragments.flatMap View.bytes

/-- `length_` is the sum of the fragments' sizes, as every constructor sets it. -/
def Consistent (v : PacketView) : Prop := v.length = (v.fragments.map View.size).sum

/-- The loop of `at` over the fragments. -/
def atFragments : List View → Nat → Option UInt8
  | [], _ => none
  | fragment :: rest, index =>
    if index < fragment.size then fragment.get index else atFragments rest (index - fragment.size)

/-- `at(index)`: `none` where an `ASSERT` fails. -/
def atIndex (v : PacketView) (index : Nat) : Option UInt8 :=
  if index < v.length then atFragments v.fragments index else none

/-- The loop of `GetSubviewList`: fragments before `begin` are skipped, and a window of each
later one is taken, of at most the `length` still wanted. -/
def subviewList : List View → Nat → Nat → List View
  | [], _, _ => []
  | fragment :: rest, begin, length =>
    if fragment.size ≤ begin then subviewList rest (begin - fragment.size) length
    else
      let view := fragment.sub begin (begin + min length (fragment.size - begin)) (by omega)
      view :: subviewList rest 0 (length - view.size)

/-- `GetSubviewList(begin, end)`: `none` where an `ASSERT` fails. -/
def getSubviewList (v : PacketView) (b e : Nat) : Option (List View) :=
  if b ≤ e ∧ e ≤ v.length then some (subviewList v.fragments b (e - b)) else none

/-- The loop of `Append` that looks for the insertion point: `remaining_length` taken down by
the size of each fragment until it is used up, the point moved on while it is not.  `none`
stands for reading past the last fragment, which a consistent view never does. -/
def insertionIndex : Nat → List View → Option Nat
  | 0, _ => some 0
  | _ + 1, [] => none
  | remaining + 1, fragment :: rest =>
    if remaining + 1 - fragment.size > 0 then
      (insertionIndex (remaining + 1 - fragment.size) rest).map (· + 1)
    else some 0

/-- `Append(to_add)`: `none` where `ASSERT(insertion_point != fragments_.end())` fails. -/
def append (v w : PacketView) : Option PacketView :=
  match insertionIndex v.length v.fragments with
  | none => none
  | some index =>
    if index < v.fragments.length then
      some ⟨v.fragments.take (index + 1) ++ w.fragments ++ v.fragments.drop (index + 1),
        v.length + w.length⟩
    else none

theorem length_flat {v : PacketView} (consistent : v.Consistent) : v.flat.length = v.size := by
  simp only [flat, size, List.length_flatMap, View.length_bytes]
  exact consistent.symm

/-- The loop of `at` reads the concatenation of the fragments. -/
theorem atFragments_eq : ∀ (fragments : List View) (index : Nat),
    atFragments fragments index = (fragments.flatMap View.bytes)[index]?
  | [], _ => rfl
  | fragment :: rest, index => by
    rw [atFragments, List.flatMap_cons]
    by_cases inside : index < fragment.size
    · rw [if_pos inside, View.get_eq, List.getElem?_append_left (by simpa using inside)]
    · rw [if_neg inside, atFragments_eq rest, List.getElem?_append_right (by simp; omega),
        View.length_bytes]

/-- `at` reads byte `index` of the concatenation, and fails its `ASSERT` past the end. -/
theorem atIndex_eq (v : PacketView) (index : Nat) :
    v.atIndex index = if index < v.size then v.flat[index]? else none := by
  rw [atIndex, atFragments_eq]
  rfl

/-- The loop of `GetSubviewList` stands for `length` bytes of the concatenation from `begin`. -/
theorem flatMap_subviewList : ∀ (fragments : List View) (begin length : Nat),
    (subviewList fragments begin length).flatMap View.bytes =
      ((fragments.flatMap View.bytes).drop begin).take length
  | [], _, _ => by simp [subviewList]
  | fragment :: rest, begin, length => by
    rw [subviewList, List.flatMap_cons, List.drop_append, View.length_bytes]
    by_cases skipped : fragment.size ≤ begin
    · rw [if_pos skipped, flatMap_subviewList rest,
        List.drop_eq_nil_of_le (show fragment.bytes.length ≤ begin by simpa using skipped),
        List.nil_append]
    · rw [if_neg skipped]
      have window : begin + min length (fragment.size - begin) ≤ fragment.size := by omega
      have taken : (fragment.sub begin (begin + min length (fragment.size - begin))
          (Nat.le_add_right _ _)).size = min length (fragment.size - begin) := by
        rw [← View.length_bytes, View.bytes_sub _ _ window]
        simp
      have first : List.take (min length (fragment.size - begin)) (fragment.bytes.drop begin) =
          List.take length (fragment.bytes.drop begin) := by
        rw [List.take_eq_take_iff]
        simp
      rw [List.flatMap_cons, View.bytes_sub _ _ window, taken, flatMap_subviewList rest,
        List.drop_zero, Nat.add_sub_cancel_left, first,
        Nat.sub_eq_zero_of_le (show begin ≤ fragment.size by omega), List.drop_zero,
        List.take_append, List.length_drop, View.length_bytes]
      congr 2
      omega

/-- `GetSubviewList(b, e)` stands for the bytes `[b, e)` of the concatenation. -/
theorem flat_getSubviewList (v : PacketView) {b e : Nat} (ordered : b ≤ e) (inside : e ≤ v.size) :
    ∃ views, v.getSubviewList b e = some views ∧
      views.flatMap View.bytes = (v.flat.drop b).take (e - b) :=
  ⟨_, if_pos ⟨ordered, inside⟩, flatMap_subviewList v.fragments b (e - b)⟩

/-- Every fragment lies before a `begin` past the end, so none is taken. -/
theorem subviewList_of_sum_le : ∀ (fragments : List View) {begin : Nat} (length : Nat),
    (fragments.map View.size).sum ≤ begin → subviewList fragments begin length = []
  | [], _, _, _ => rfl
  | fragment :: rest, begin, length, past => by
    rw [List.map_cons, List.sum_cons] at past
    rw [subviewList, if_pos (by omega), subviewList_of_sum_le rest length (by omega)]

/-- The subview of a consistent view taken at its end has no fragment at all. -/
theorem getSubviewList_size {v : PacketView} (consistent : v.Consistent) :
    v.getSubviewList v.size v.size = some [] := by
  rw [getSubviewList, if_pos ⟨Nat.le_refl _, Nat.le_refl _⟩,
    subviewList_of_sum_le v.fragments _
      (show (v.fragments.map View.size).sum ≤ v.size from Nat.le_of_eq consistent.symm)]

theorem flatMap_bytes_eq_nil {fragments : List View} (empty : (fragments.map View.size).sum = 0) :
    fragments.flatMap View.bytes = [] := by
  apply List.eq_nil_of_length_eq_zero
  simpa [List.length_flatMap] using empty

/-- On the sum of the sizes, the loop of `Append` stops inside the list, at a fragment after
which every one is empty. -/
theorem insertionIndex_sum : ∀ fragments : List View, ∃ index,
    insertionIndex (fragments.map View.size).sum fragments = some index ∧
      (fragments ≠ [] → index < fragments.length) ∧
      ((fragments.drop (index + 1)).map View.size).sum = 0
  | [] => ⟨0, rfl, fun nonempty => absurd rfl nonempty, rfl⟩
  | fragment :: rest => by
    obtain ⟨index, found, inside, after⟩ := insertionIndex_sum rest
    rw [List.map_cons, List.sum_cons]
    rcases Nat.eq_zero_or_pos (fragment.size + (rest.map View.size).sum) with empty | positive
    · refine ⟨0, by rw [empty]; rfl, fun _ => by simp, ?_⟩
      simp only [List.drop_succ_cons, List.drop_zero]
      omega
    obtain ⟨remaining, total⟩ : ∃ remaining,
        fragment.size + (rest.map View.size).sum = remaining + 1 :=
      ⟨_, (Nat.succ_pred_eq_of_pos positive).symm⟩
    have rest_sum : remaining + 1 - fragment.size = (rest.map View.size).sum := by omega
    rw [total, insertionIndex, rest_sum]
    by_cases later : (rest.map View.size).sum > 0
    · have nonempty : rest ≠ [] := by
        rintro rfl
        simp at later
      rw [if_pos later, found]
      exact ⟨index + 1, rfl, fun _ => by simpa using inside nonempty, by simpa using after⟩
    · rw [if_neg later]
      exact ⟨0, rfl, fun _ => by simp, by simp only [List.drop_succ_cons, List.drop_zero]; omega⟩

/-- `Append` on a consistent view fails its `ASSERT` exactly when there is no fragment. -/
theorem append_eq_none_iff {v : PacketView} (consistent : v.Consistent) (w : PacketView) :
    v.append w = none ↔ v.fragments = [] := by
  obtain ⟨index, found, inside, _⟩ := insertionIndex_sum v.fragments
  rw [← consistent] at found
  rw [append, found]
  dsimp only
  constructor
  · intro failed
    by_contra nonempty
    rw [if_pos (inside nonempty)] at failed
    exact Option.some_ne_none _ failed
  · intro empty
    rw [if_neg (by simp [empty])]

/-- What `Append` inserts lands after every byte of the view. -/
theorem flat_append {v : PacketView} (consistent : v.Consistent) {w appended : PacketView}
    (appending : v.append w = some appended) : appended.flat = v.flat ++ w.flat := by
  obtain ⟨index, found, _, after⟩ := insertionIndex_sum v.fragments
  rw [← consistent] at found
  rw [append, found] at appending
  dsimp only at appending
  split at appending
  · have trailing := flatMap_bytes_eq_nil after
    have whole : v.flat = (v.fragments.take (index + 1)).flatMap View.bytes := by
      conv_lhs => rw [flat, ← List.take_append_drop (index + 1) v.fragments]
      rw [List.flatMap_append, trailing, List.append_nil]
    rw [← Option.some_inj.mp appending]
    calc (v.fragments.take (index + 1) ++ w.fragments ++ v.fragments.drop (index + 1)).flatMap
          View.bytes
        = (v.fragments.take (index + 1)).flatMap View.bytes ++ w.flat := by
          simp only [List.flatMap_append, trailing, List.append_nil, flat]
      _ = v.flat ++ w.flat := by rw [whole]
  · exact absurd appending (Option.some_ne_none _).symm

/-- `Append` keeps `length_` the sum of the fragments' sizes. -/
theorem Consistent.append {v w appended : PacketView} (consistent : v.Consistent)
    (wConsistent : w.Consistent) (appending : v.append w = some appended) :
    appended.Consistent := by
  obtain ⟨index, found, _, _⟩ := insertionIndex_sum v.fragments
  rw [← consistent] at found
  rw [PacketView.append, found] at appending
  dsimp only at appending
  split at appending
  · rw [← Option.some_inj.mp appending, Consistent, consistent, wConsistent]
    conv_lhs => rw [← List.take_append_drop (index + 1) v.fragments]
    simp only [List.map_append, List.sum_append]
    omega
  · exact absurd appending (Option.some_ne_none _).symm

end PacketView

end Bluetooth.Packet
