import Mathlib

set_option linter.all false

/-!
# Reading little-endian fields from a received byte string

A parser that walks a packet with a pointer reads fields of one, two or four octets at an
offset.  Each reader here checks that every octet it touches lies inside the string and
fails with the offset of the read when one does not, so a parser built from these readers is
memory safe on an input exactly when it does not fail on it.

The readers live in `Except Nat`; `ok_bind` and `error_bind` evaluate the monad, and the
`_of_le` lemmas say what a read inside the string returns.
-/

namespace ByteStream

@[simp] theorem ok_bind {ε α β : Type} (a : α) (f : α → Except ε β) :
    (Except.ok a >>= f) = f a := rfl

@[simp] theorem error_bind {ε α β : Type} (e : ε) (f : α → Except ε β) :
    (Except.error e >>= f) = Except.error e := rfl

@[simp] theorem pure_eq_ok {ε α : Type} (a : α) : (pure a : Except ε α) = .ok a := rfl

/-- A bound computation that succeeds ran its first part to a value. -/
theorem bind_eq_ok {ε α β : Type} {x : Except ε α} {f : α → Except ε β} {r : β} :
    (x >>= f) = .ok r ↔ ∃ a, x = .ok a ∧ f a = .ok r := by
  cases x with
  | error e => simp
  | ok a => simp

/-- A computation whose first part succeeds, and whose rest succeeds from every value of it,
succeeds. -/
theorem exists_ok_bind {ε α β : Type} {x : Except ε α} {f : α → Except ε β}
    (first : ∃ a, x = .ok a) (rest : ∀ a, ∃ b, f a = .ok b) : ∃ b, (x >>= f) = .ok b := by
  obtain ⟨a, read⟩ := first
  rw [read]
  exact rest a

/-- A choice between two computations that both succeed succeeds. -/
theorem exists_ok_ite {ε α : Type} {c : Prop} [Decidable c] {x y : Except ε α}
    (yes : c → ∃ a, x = .ok a) (no : ¬c → ∃ a, y = .ok a) : ∃ a, (if c then x else y) = .ok a := by
  by_cases holds : c
  · rw [if_pos holds]
    exact yes holds
  · rw [if_neg holds]
    exact no holds

/-- Every value `x` succeeds with satisfies `Post`: a postcondition of a parser, which says
nothing of the inputs it fails on. -/
def Ensures {ε α : Type} (x : Except ε α) (Post : α → Prop) : Prop := ∀ a, x = .ok a → Post a

theorem ensures_pure {ε α : Type} {Post : α → Prop} {a : α} (holds : Post a) :
    Ensures (.ok a : Except ε α) Post := by
  intro b ran
  cases ran
  exact holds

theorem ensures_bind {ε α β : Type} {x : Except ε α} {f : α → Except ε β} {Mid : α → Prop}
    {Post : β → Prop} (first : Ensures x Mid) (rest : ∀ a, Mid a → Ensures (f a) Post) :
    Ensures (x >>= f) Post := by
  intro b ran
  obtain ⟨a, read, later⟩ := bind_eq_ok.mp ran
  exact rest a (first a read) b later

theorem ensures_ite {ε α : Type} {c : Prop} [Decidable c] {x y : Except ε α} {Post : α → Prop}
    (yes : c → Ensures x Post) (no : ¬c → Ensures y Post) :
    Ensures (if c then x else y) Post := by
  by_cases holds : c
  · rw [if_pos holds]
    exact yes holds
  · rw [if_neg holds]
    exact no holds

theorem ensures_any {ε α : Type} (x : Except ε α) : Ensures x fun _ => True :=
  fun _ _ => trivial

/-- The elements of `xs` from `start` up to, not including, `stop`. -/
def slice {α : Type} (xs : List α) (start stop : Nat) : List α :=
  (xs.drop start).take (stop - start)

section Slice

variable {α : Type} {xs : List α} {start stop : Nat}

theorem slice_of_le (empty : stop ≤ start) : slice xs start stop = [] := by
  simp [slice, Nat.sub_eq_zero_of_le empty]

theorem length_slice (within : stop ≤ xs.length) : (slice xs start stop).length = stop - start := by
  simp [slice]
  omega

theorem slice_eq_cons (inside : start < stop) (within : stop ≤ xs.length) :
    slice xs start stop = xs[start] :: slice xs (start + 1) stop := by
  rw [slice, List.drop_eq_getElem_cons (by omega), show stop - start = (stop - (start + 1)) + 1 by
    omega, List.take_succ_cons]
  rfl

theorem take_slice {count : Nat} (fits : start + count ≤ stop) :
    (slice xs start stop).take count = slice xs start (start + count) := by
  simp only [slice, List.take_take, Nat.add_sub_cancel_left]
  congr 1
  omega

theorem drop_slice {count : Nat} :
    (slice xs start stop).drop count = slice xs (start + count) stop := by
  simp only [slice, List.drop_take, List.drop_drop]
  congr 1
  omega

theorem slice_contiguous : slice xs start stop <:+: xs :=
  (List.take_prefix _ _).isInfix.trans (List.drop_suffix _ _).isInfix

end Slice

/-- The octet at `offset`. -/
def u8 (bytes : List UInt8) (offset : Nat) : Except Nat UInt8 :=
  if h : offset < bytes.length then .ok bytes[offset] else .error offset

/-- Two octets at `offset`, least significant first. -/
def u16 (bytes : List UInt8) (offset : Nat) : Except Nat UInt16 := do
  let low ← u8 bytes offset
  let high ← u8 bytes (offset + 1)
  return low.toUInt16 + (high.toUInt16 <<< 8)

/-- Four octets at `offset`, least significant first. -/
def u32 (bytes : List UInt8) (offset : Nat) : Except Nat UInt32 := do
  let low ← u16 bytes offset
  let high ← u16 bytes (offset + 2)
  return low.toUInt32 + (high.toUInt32 <<< 16)

/-- `BE_STREAM_TO_UINT16`: two octets at `offset`, most significant first. -/
def be16 (bytes : List UInt8) (offset : Nat) : Except Nat UInt16 := do
  let high ← u8 bytes offset
  let low ← u8 bytes (offset + 1)
  return (high.toUInt16 <<< 8) + low.toUInt16

/-- `BE_STREAM_TO_UINT32`: four octets at `offset`, most significant first. -/
def be32 (bytes : List UInt8) (offset : Nat) : Except Nat UInt32 := do
  let high ← be16 bytes offset
  let low ← be16 bytes (offset + 2)
  return (high.toUInt32 <<< 16) + low.toUInt32

/-- The `count` octets from `offset`. -/
def octets (bytes : List UInt8) (offset count : Nat) : Except Nat (List UInt8) :=
  if offset + count ≤ bytes.length then .ok ((bytes.drop offset).take count)
  else .error offset

/-- `UINT16_TO_STREAM`: two octets, least significant first. -/
def le16 (value : UInt16) : List UInt8 := [value.toUInt8, (value >>> 8).toUInt8]

@[simp] theorem length_le16 (value : UInt16) : (le16 value).length = 2 := rfl

/-- The `int16_t` a value is stored as. -/
def wrapInt16 (value : Int) : Int := (value + 32768) % 65536 - 32768

theorem wrapInt16_of_le {value : Int} (low : -32768 ≤ value) (high : value < 32768) :
    wrapInt16 value = value := by
  unfold wrapInt16
  omega

theorem wrapInt16_mem (value : Int) : -32768 ≤ wrapInt16 value ∧ wrapInt16 value < 32768 := by
  unfold wrapInt16
  omega

/-- The two-octet field at `offset` of a written string, as a number. -/
def field16 (bytes : List UInt8) (offset : Nat) : Nat :=
  (bytes.getD offset 0).toNat + 256 * (bytes.getD (offset + 1) 0).toNat

/-- A two-octet field fits in a `uint16_t`. -/
theorem field16_lt (bytes : List UInt8) (offset : Nat) : field16 bytes offset < 2 ^ 16 := by
  have low := (bytes.getD offset 0).toNat_lt
  have high := (bytes.getD (offset + 1) 0).toNat_lt
  unfold field16
  omega

/-- The two octets `le16` writes make up the value again. -/
theorem toNat_le16 (value : UInt16) :
    value.toUInt8.toNat + 256 * (value >>> 8).toUInt8.toNat = value.toNat := by
  simp only [UInt16.toNat_toUInt8, UInt16.toNat_shiftRight]
  have bounded := value.toNat_lt
  simp only [UInt16.reduceToNat, Nat.mod_eq_of_lt (show 8 < 16 by decide)]
  omega

/-- The field `le16` writes after `front` reads back as its value. -/
theorem field16_append_le16 (front : List UInt8) (value : UInt16) (rest : List UInt8) :
    field16 (front ++ le16 value ++ rest) front.length = value.toNat := by
  have low : (front ++ le16 value ++ rest).getD front.length 0 = value.toUInt8 := by
    simp [le16, List.getD_eq_getElem?_getD]
  have high : (front ++ le16 value ++ rest).getD (front.length + 1) 0 = (value >>> 8).toUInt8 := by
    simp [le16, List.getD_eq_getElem?_getD]
  rw [field16, low, high, toNat_le16]

section Reads

variable {bytes : List UInt8} {offset : Nat}

theorem u8_of_lt (inside : offset < bytes.length) :
    u8 bytes offset = .ok bytes[offset] := by
  simp [u8, inside]

theorem u8_of_le (outside : bytes.length ≤ offset) : u8 bytes offset = .error offset := by
  simp [u8, Nat.not_lt.mpr outside]

theorem u16_of_le (inside : offset + 2 ≤ bytes.length) :
    u16 bytes offset = .ok (bytes[offset].toUInt16 + (bytes[offset + 1].toUInt16 <<< 8)) := by
  simp [u16, u8_of_lt (show offset < bytes.length by omega),
    u8_of_lt (show offset + 1 < bytes.length by omega)]

theorem be16_of_le (inside : offset + 2 ≤ bytes.length) :
    be16 bytes offset = .ok ((bytes[offset].toUInt16 <<< 8) + bytes[offset + 1].toUInt16) := by
  simp [be16, u8_of_lt (show offset < bytes.length by omega),
    u8_of_lt (show offset + 1 < bytes.length by omega)]

theorem be32_of_le (inside : offset + 4 ≤ bytes.length) :
    be32 bytes offset = .ok ((((bytes[offset].toUInt16 <<< 8) + bytes[offset + 1].toUInt16).toUInt32 <<< 16) +
      ((bytes[offset + 2].toUInt16 <<< 8) + bytes[offset + 2 + 1].toUInt16).toUInt32) := by
  simp [be32, be16_of_le (show offset + 2 ≤ bytes.length by omega),
    be16_of_le (show offset + 2 + 2 ≤ bytes.length by omega)]

theorem u32_of_le (inside : offset + 4 ≤ bytes.length) :
    u32 bytes offset = .ok ((bytes[offset].toUInt16 + (bytes[offset + 1].toUInt16 <<< 8)).toUInt32 +
      ((bytes[offset + 2].toUInt16 + (bytes[offset + 2 + 1].toUInt16 <<< 8)).toUInt32 <<< 16)) := by
  simp [u32, u16_of_le (show offset + 2 ≤ bytes.length by omega),
    u16_of_le (show offset + 2 + 2 ≤ bytes.length by omega)]

theorem octets_of_le {count : Nat} (inside : offset + count ≤ bytes.length) :
    octets bytes offset count = .ok (slice bytes offset (offset + count)) := by
  simp [octets, inside, slice]

/-- `le16` read back by `u16` gives the value. -/
theorem u16_le16 (front : List UInt8) (value : UInt16) (back : List UInt8) :
    u16 (front ++ le16 value ++ back) front.length = .ok value := by
  rw [u16_of_le (by simp)]
  have octets := toNat_le16 value
  congr 1
  apply UInt16.toNat_inj.mp
  simp [le16, UInt16.toNat_add, UInt16.toNat_shiftLeft] at octets ⊢
  omega

/-- The octet written after `front` is read back at `front.length`. -/
theorem u8_append (front : List UInt8) (byte : UInt8) (rest : List UInt8) :
    u8 (front ++ byte :: rest) front.length = .ok byte := by
  rw [u8_of_lt (by simp)]
  simp

/-- `UINT16_TO_BE_STREAM` read back by `be16`. -/
theorem be16_append (front : List UInt8) (value : UInt16) (rest : List UInt8) :
    be16 (front ++ (value >>> 8).toUInt8 :: value.toUInt8 :: rest) front.length = .ok value := by
  rw [be16_of_le (by simp)]
  congr 1
  apply UInt16.toNat_inj.mp
  have bounded := value.toNat_lt
  simp [UInt16.toNat_add, UInt16.toNat_shiftLeft, UInt16.toNat_shiftRight]
  omega

/-- The octet `k` places into what was written after `front`. -/
theorem u8_append_add (front rest : List UInt8) {k : Nat} (inside : k < rest.length) :
    u8 (front ++ rest) (front.length + k) = .ok rest[k] := by
  rw [u8_of_lt (by simp; omega)]
  simp [List.getElem_append_right]

theorem be16_append_add (front rest : List UInt8) {k : Nat} (inside : k + 2 ≤ rest.length) :
    be16 (front ++ rest) (front.length + k) =
      .ok ((rest[k].toUInt16 <<< 8) + rest[k + 1].toUInt16) := by
  rw [be16_of_le (by simp; omega)]
  simp [List.getElem_append_right, Nat.add_assoc]

theorem octets_append (front bytes back : List UInt8) :
    octets (front ++ bytes ++ back) front.length bytes.length = .ok bytes := by
  rw [octets_of_le (by simp)]
  simp [slice, List.append_assoc]

/-- A two-octet read fails exactly when it does not fit. -/
theorem u16_eq_error (outside : bytes.length < offset + 2) :
    ∃ fault, u16 bytes offset = .error fault := by
  by_cases first : offset < bytes.length
  · simp [u16, u8_of_lt first, u8_of_le (show bytes.length ≤ offset + 1 by omega)]
  · simp [u16, u8_of_le (Nat.not_lt.mp first)]

end Reads

end ByteStream
