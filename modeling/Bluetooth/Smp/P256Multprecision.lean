import Mathlib

set_option linter.all false

/-!
# Multiprecision arithmetic modulo the P-256 prime

`p_256_multprecision.cc` keeps a 256-bit number in `KEY_LENGTH_DWORDS_P256 = 8` words of 32
bits, least significant first, and a product in 16.  The carry loops of
`multiprecision_add`, `multiprecision_sub`, `multiprecision_compare` and
`multiprecision_lshift` run over the words of the arrays, here over their lists; the
multiplication and `multiprecision_fast_mod_P256` are transcribed statement by statement.

`multiprecision_fast_mod_P256` reduces a 512-bit product by the Solinas identities for
`p = 2^256 - 2^224 + 2^192 + 2^96 - 1`.  Between two words it carries a signed `U` in a
`uint32_t`, and `carryInto` is the block that adds it into the next word.  When `U` is
negative and the word is smaller than `-U`, the block borrows, but it stores the borrow as
`U = 1` where the next word needs `-1` (`carryInto_value`).  Already `2 * 2^255` is
reduced wrongly (`multiprecisionMersennsMultMod_ne_mod`).
-/

namespace Bluetooth.Smp

/-- `uint32_t[KEY_LENGTH_DWORDS_P256]`, least significant word first. -/
abbrev Dwords := Vector UInt32 8

/-- The number little-endian 32-bit words stand for. -/
def dwordsValue {n : Nat} (a : Vector UInt32 n) : Nat :=
  Nat.ofDigits (2 ^ 32) (a.toList.map UInt32.toNat)

/-- The P-256 prime. -/
def primeP256 : Nat := 2 ^ 256 - 2 ^ 224 + 2 ^ 192 + 2 ^ 96 - 1

/-- `curve_p256.p` as `p_256_init_curve` sets it. -/
def curveP256P : Dwords :=
  #v[0xFFFFFFFF, 0xFFFFFFFF, 0xFFFFFFFF, 0x0, 0x0, 0x0, 0x00000001, 0xFFFFFFFF]

theorem dwordsValue_curveP256P : dwordsValue curveP256P = primeP256 := by
  decide

/-- A comparison of the source, as the 0 or 1 it evaluates to. -/
def ltBit (x y : UInt32) : UInt32 := if x < y then 1 else 0

/-- The same comparison stored in a `uint8_t`. -/
def ltBit8 (x y : UInt32) : UInt8 := if x < y then 1 else 0

/-- The loop of `multiprecision_add` from the least significant word, with the carry in. -/
def addWords : List UInt32 → List UInt32 → UInt32 → List UInt32 × UInt32
  | a :: as, b :: bs, carrier =>
      let temp := a + carrier
      let carrier := ltBit temp carrier
      let temp := temp + b
      let carrier := carrier ||| ltBit temp b
      let rest := addWords as bs carrier
      (temp :: rest.1, rest.2)
  | _, _, carrier => ([], carrier)

/-- The loop of `multiprecision_sub` from the least significant word, with the borrow in. -/
def subWords : List UInt32 → List UInt32 → UInt32 → List UInt32 × UInt32
  | a :: as, b :: bs, borrow =>
      let temp := a - borrow
      let borrow := ltBit a temp
      let c := temp - b
      let borrow := borrow ||| ltBit temp c
      let rest := subWords as bs borrow
      (c :: rest.1, rest.2)
  | _, _, borrow => ([], borrow)

/-- The loop of `multiprecision_lshift` from the least significant word, with the bit shifted
in. -/
def lshiftWords : List UInt32 → UInt32 → List UInt32 × UInt32
  | a :: as, carrier =>
      let rest := lshiftWords as (a >>> 31)
      (((a <<< 1) ||| carrier) :: rest.1, rest.2)
  | [], carrier => ([], carrier)

/-- The loop of `multiprecision_compare`, from the most significant word. -/
def compareWords : List UInt32 → List UInt32 → Int
  | a :: as, b :: bs => if a > b then 1 else if a < b then -1 else compareWords as bs
  | _, _ => 0

@[simp] theorem length_addWords (as bs : List UInt32) (carrier : UInt32)
    (same : as.length = bs.length) : (addWords as bs carrier).1.length = as.length := by
  induction as generalizing bs carrier with
  | nil => simp [addWords]
  | cons a as induction =>
      cases bs with
      | nil => simp at same
      | cons b bs =>
          simp only [List.length_cons, Nat.add_right_cancel_iff] at same
          simp [addWords, induction bs _ same]

@[simp] theorem length_subWords (as bs : List UInt32) (borrow : UInt32)
    (same : as.length = bs.length) : (subWords as bs borrow).1.length = as.length := by
  induction as generalizing bs borrow with
  | nil => simp [subWords]
  | cons a as induction =>
      cases bs with
      | nil => simp at same
      | cons b bs =>
          simp only [List.length_cons, Nat.add_right_cancel_iff] at same
          simp [subWords, induction bs _ same]

@[simp] theorem length_lshiftWords (as : List UInt32) (carrier : UInt32) :
    (lshiftWords as carrier).1.length = as.length := by
  induction as generalizing carrier with
  | nil => rfl
  | cons a as induction => simp [lshiftWords, induction]

/-- `multiprecision_add`: `c = a + b` and the carry out. -/
def multiprecisionAdd (a b : Dwords) : Dwords × UInt32 :=
  (⟨(addWords a.toList b.toList 0).1.toArray, by simp⟩, (addWords a.toList b.toList 0).2)

/-- `multiprecision_sub`: `c = a - b` and the borrow out. -/
def multiprecisionSub (a b : Dwords) : Dwords × UInt32 :=
  (⟨(subWords a.toList b.toList 0).1.toArray, by simp⟩, (subWords a.toList b.toList 0).2)

/-- `multiprecision_lshift`: `c = a << 1` and the bit shifted out. -/
def multiprecisionLshift (a : Dwords) : Dwords × UInt32 :=
  (⟨(lshiftWords a.toList 0).1.toArray, by simp⟩, (lshiftWords a.toList 0).2)

/-- `multiprecision_compare`: 1, -1 or 0 as `a` is above, below or equal to `b`. -/
def multiprecisionCompare (a b : Dwords) : Int :=
  compareWords a.toList.reverse b.toList.reverse

/-- `multiprecision_add_mod`. -/
def multiprecisionAddMod (a b : Dwords) : Dwords :=
  let (c, carrier) := multiprecisionAdd a b
  if carrier ≠ 0 then (multiprecisionSub c curveP256P).1
  else if multiprecisionCompare c curveP256P ≥ 0 then (multiprecisionSub c curveP256P).1
  else c

/-- `multiprecision_sub_mod`. -/
def multiprecisionSubMod (a b : Dwords) : Dwords :=
  let (c, borrow) := multiprecisionSub a b
  if borrow ≠ 0 then (multiprecisionAdd c curveP256P).1 else c

/-- `multiprecision_lshift_mod`. -/
def multiprecisionLshiftMod (a : Dwords) : Dwords :=
  let (c, carrier) := multiprecisionLshift a
  if carrier ≠ 0 then (multiprecisionSub c curveP256P).1
  else if multiprecisionCompare c curveP256P ≥ 0 then (multiprecisionSub c curveP256P).1
  else c

/-- `multiprecision_mult`: the schoolbook product, one row of partial products per word of
`a`.  `multiprecision_init` clears the low eight words of `c`; round `i` reads `c[i .. i+7]`,
all written before, and writes `c[i + 8]`, so the high words start as zeros here. -/
def multiprecisionMult (a b : Dwords) : Vector UInt32 16 := Id.run do
  let mut c : Vector UInt32 16 := Vector.replicate 16 0
  for i in List.finRange 8 do
    let mut U : UInt32 := 0
    for j in List.finRange 8 do
      let result : UInt64 := a[i].toUInt64 * b[j].toUInt64
      let W : UInt32 := (result >>> 32).toUInt32
      let mut V : UInt32 := a[i] * b[j]
      V := V + U
      U := ltBit V U
      U := U + W
      -- `(c)` keeps the `c[...]` cycle notation of Mathlib out of the index
      let old := (c)[i.val + j.val]
      V := V + old
      U := U + ltBit V old
      c := c.set (i.val + j.val) V
    c := c.set (i.val + 8) U
  return c

/-- The block of `multiprecision_fast_mod_P256` that adds the signed carry `U` of the word
below into `a[k]`: the new word and the carry out. -/
def carryInto (ak U : UInt32) : UInt32 × UInt32 :=
  if U &&& 0x80000000 ≠ 0 then
    let UU := 0 - U
    (ak - UU, ltBit ak UU)
  else
    let ck := ak + U
    (ck, ltBit ck ak)

/-- `c[k] += x; U += (c[k] < x);` -/
def addInto (ck U x : UInt32) : UInt32 × UInt32 :=
  (ck + x, U + ltBit (ck + x) x)

/-- `U -= (c[k] < x); c[k] -= x;` -/
def subFrom (ck U x : UInt32) : UInt32 × UInt32 :=
  (ck - x, U - ltBit ck x)

/-- `multiprecision_fast_mod_P256`: `c` from the 512-bit `a`. -/
def multiprecisionFastModP256 (a : Vector UInt32 16) : Dwords := Id.run do
  -- C = a[13] + a[14] + a[15]
  let mut C := a.get 13
  C := C + a.get 14
  let mut UC := ltBit8 C (a.get 14)
  C := C + a.get 15
  UC := UC + ltBit8 C (a.get 15)
  -- E = a[8] + a[9]
  let E := a.get 8 + a.get 9
  let UE := ltBit8 E (a.get 9)
  -- F = a[9] + a[10]
  let F := a.get 9 + a.get 10
  let UF := ltBit8 F (a.get 10)
  -- G = a[10] + a[11]
  let G := a.get 10 + a.get 11
  let UG := ltBit8 G (a.get 11)
  -- B = a[12] + a[13] + a[14] + a[15] == C + a[12]
  let mut B := C
  let mut UB := UC
  B := B + a.get 12
  UB := UB + ltBit8 B (a.get 12)
  -- A = a[11] + a[12] + a[13] + a[14] == B + a[11] - a[15]
  let mut A := B
  let mut UA := UB
  A := A + a.get 11
  UA := UA + ltBit8 A (a.get 11)
  UA := UA - ltBit8 A (a.get 15)
  A := A - a.get 15
  -- D = a[10] + a[11] + a[12] + a[13] == A + a[10] - a[14]
  let mut D := A
  let mut UD := UA
  D := D + a.get 10
  UD := UD + ltBit8 D (a.get 10)
  UD := UD - ltBit8 D (a.get 14)
  D := D - a.get 14
  let mut U : UInt32 := 0
  -- c[0]
  let mut c0 := a.get 0 + E
  U := ltBit c0 E
  U := U + UE.toUInt32
  U := U - ltBit c0 A
  U := U - UA.toUInt32
  c0 := c0 - A
  -- c[1]
  let (c1, U1) := carryInto (a.get 1) U
  let mut c1 := c1
  U := U1
  (c1, U) := addInto c1 U F
  U := U + UF.toUInt32
  (c1, U) := subFrom c1 U B
  U := U - UB.toUInt32
  -- c[2]
  let (c2, U2) := carryInto (a.get 2) U
  let mut c2 := c2
  U := U2
  (c2, U) := addInto c2 U G
  U := U + UG.toUInt32
  (c2, U) := subFrom c2 U C
  U := U - UC.toUInt32
  -- c[3]
  let (c3, U3) := carryInto (a.get 3) U
  let mut c3 := c3
  U := U3
  (c3, U) := addInto c3 U A
  U := U + UA.toUInt32
  (c3, U) := addInto c3 U (a.get 11)
  (c3, U) := addInto c3 U (a.get 12)
  (c3, U) := subFrom c3 U (a.get 14)
  (c3, U) := subFrom c3 U (a.get 15)
  (c3, U) := subFrom c3 U E
  U := U - UE.toUInt32
  -- c[4]
  let (c4, U4) := carryInto (a.get 4) U
  let mut c4 := c4
  U := U4
  (c4, U) := addInto c4 U B
  U := U + UB.toUInt32
  (c4, U) := subFrom c4 U (a.get 15)
  (c4, U) := addInto c4 U (a.get 12)
  (c4, U) := addInto c4 U (a.get 13)
  (c4, U) := subFrom c4 U F
  U := U - UF.toUInt32
  -- c[5]
  let (c5, U5) := carryInto (a.get 5) U
  let mut c5 := c5
  U := U5
  (c5, U) := addInto c5 U C
  U := U + UC.toUInt32
  (c5, U) := addInto c5 U (a.get 13)
  (c5, U) := addInto c5 U (a.get 14)
  (c5, U) := subFrom c5 U G
  U := U - UG.toUInt32
  -- c[6]
  let (c6, U6) := carryInto (a.get 6) U
  let mut c6 := c6
  U := U6
  (c6, U) := addInto c6 U C
  U := U + UC.toUInt32
  (c6, U) := addInto c6 U (a.get 14)
  (c6, U) := addInto c6 U (a.get 14)
  (c6, U) := addInto c6 U (a.get 15)
  (c6, U) := subFrom c6 U E
  U := U - UE.toUInt32
  -- c[7]
  let (c7, U7) := carryInto (a.get 7) U
  let mut c7 := c7
  U := U7
  (c7, U) := addInto c7 U (a.get 15)
  (c7, U) := addInto c7 U (a.get 15)
  (c7, U) := addInto c7 U (a.get 15)
  (c7, U) := addInto c7 U (a.get 8)
  (c7, U) := subFrom c7 U D
  U := U - UD.toUInt32
  let mut c : Dwords := #v[c0, c1, c2, c3, c4, c5, c6, c7]
  -- the correction loops add or subtract `p` until `U` reaches 0, ignoring each carry
  if U &&& 0x80000000 ≠ 0 then
    c := Nat.repeat (fun c => (multiprecisionAdd c curveP256P).1) (2 ^ 32 - U.toNat) c
  else if U ≠ 0 then
    c := Nat.repeat (fun c => (multiprecisionSub c curveP256P).1) U.toNat c
  if multiprecisionCompare c curveP256P ≥ 0 then
    c := (multiprecisionSub c curveP256P).1
  return c

/-- `multiprecision_mersenns_mult_mod`: `c = a * b mod p`. -/
def multiprecisionMersennsMultMod (a b : Dwords) : Dwords :=
  multiprecisionFastModP256 (multiprecisionMult a b)

/-- The signed carry `U` that `multiprecision_fast_mod_P256` keeps in a `uint32_t`, read by
its test `U & 0x80000000`. -/
def signedCarry (U : UInt32) : Int :=
  if U &&& 0x80000000 ≠ 0 then (U.toNat : Int) - 2 ^ 32 else U.toNat

theorem and_signBit_ne_zero_iff (U : UInt32) : U &&& 0x80000000 ≠ 0 ↔ 2 ^ 31 ≤ U.toNat := by
  have bounded := U.toNat_lt
  have bit : (U &&& 0x80000000).toNat = U.toNat &&& 2 ^ 31 := by
    rw [UInt32.toNat_and]
    rfl
  rw [ne_eq, ← UInt32.toNat_inj, bit, UInt32.toNat_zero, Nat.and_two_pow,
    Nat.testBit_eq_decide_div_mod_eq]
  by_cases top : U.toNat / 2 ^ 31 % 2 = 1
  · simp only [top, decide_true, Bool.toNat_true, one_mul]
    omega
  · simp only [top, decide_false, Bool.toNat_false, zero_mul, not_true_eq_false, false_iff]
    omega

theorem signedCarry_ltBit (x y : UInt32) :
    signedCarry (ltBit x y) = if x < y then 1 else 0 := by
  unfold ltBit
  split <;> rfl

/-- The carry block adds the signed carry exactly, except where a negative carry borrows from
the word: the borrow comes out as `+1`, so the sum it stands for is `2^33` too large. -/
theorem carryInto_value (ak U : UInt32) :
    (ak.toNat : Int) + signedCarry U +
        (if U &&& 0x80000000 ≠ 0 ∧ ak < 0 - U then 2 ^ 33 else 0) =
      (carryInto ak U).1.toNat + 2 ^ 32 * signedCarry (carryInto ak U).2 := by
  have word := ak.toNat_lt
  have carry := U.toNat_lt
  by_cases negative : U &&& 0x80000000 ≠ 0
  · -- `U` stands for `U - 2^32`, and the block subtracts its magnitude `UU`
    have top := (and_signBit_ne_zero_iff U).mp negative
    have magnitude : (0 - U).toNat = 2 ^ 32 - U.toNat := by
      rw [UInt32.toNat_sub, UInt32.toNat_zero]
      omega
    have difference : (ak - (0 - U)).toNat = (ak.toNat + U.toNat) % 2 ^ 32 := by
      rw [UInt32.toNat_sub, magnitude]
      omega
    rw [carryInto, if_pos negative]
    dsimp only
    rw [signedCarry_ltBit, difference, signedCarry, if_pos negative]
    by_cases borrows : ak < 0 - U
    · rw [if_pos ⟨negative, borrows⟩, if_pos borrows]
      rw [UInt32.lt_iff_toNat_lt, magnitude] at borrows
      omega
    · rw [if_neg (fun both => borrows both.2), if_neg borrows]
      rw [UInt32.lt_iff_toNat_lt, magnitude] at borrows
      omega
  · have low : U.toNat < 2 ^ 31 := by
      rw [and_signBit_ne_zero_iff] at negative
      omega
    rw [carryInto, if_neg negative, if_neg (fun both => negative both.1), signedCarry,
      if_neg negative]
    dsimp only
    rw [signedCarry_ltBit, UInt32.toNat_add]
    by_cases wraps : ak + U < ak
    · rw [if_pos wraps]
      rw [UInt32.lt_iff_toNat_lt, UInt32.toNat_add] at wraps
      omega
    · rw [if_neg wraps]
      rw [UInt32.lt_iff_toNat_lt, UInt32.toNat_add] at wraps
      omega

/-- Two numbers below `p` whose product `2^256` the reduction gets wrong: the borrow out of
`c[3]` is carried into `c[4]` as `+1`. -/
theorem multiprecisionMersennsMultMod_ne_mod :
    ∃ a b : Dwords, dwordsValue a < primeP256 ∧ dwordsValue b < primeP256 ∧
      dwordsValue (multiprecisionMersennsMultMod a b) ≠
        dwordsValue a * dwordsValue b % primeP256 :=
  ⟨#v[2, 0, 0, 0, 0, 0, 0, 0], #v[0, 0, 0, 0, 0, 0, 0, 0x80000000], by decide +kernel⟩

end Bluetooth.Smp
