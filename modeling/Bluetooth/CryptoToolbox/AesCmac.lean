import Mathlib

set_option linter.all false

/-!
# AES-CMAC of the crypto toolbox

`crypto_toolbox::aes_cmac` keeps the message in a scratch buffer of `16 n` octets from
`alloca`, little-endian and right-aligned, and runs the CBC chain of RFC 4493 from the top
block down.  The block cipher is left abstract: `aes_128` calls it on the reversed key and
message and reverses its output.

The buffer is a region of memory with its allocated size, and every access of sixteen octets
checks that it lies inside it; an access outside the region is a fault of the run.  The
octets of the region start with whatever the stack held, so nothing proved here depends on
them.

The chain is driven by `uint8_t i` counting from 1 while `i <= round`.  A message of more than
254 blocks makes the counter wrap to 0 before it exceeds `round`, and the next access is the
block just past the buffer (`aesCmac_outOfBounds_of_long`).
-/

namespace Bluetooth.CryptoToolbox

/-- Sixteen octets, `Octet16` of the stack, least significant octet first. -/
abbrev Octet16 := Vector UInt8 16

/-- A block cipher keyed by its first argument, on big-endian blocks: the `aes_encrypt` that
`aes_128` calls, left abstract. -/
abbrev BlockCipher := Octet16 → Octet16 → Octet16

/-- The all-zero block. -/
def Octet16.zero : Octet16 := .replicate 16 0

/-- `const_Rb`, least significant octet first. -/
def constRb : Octet16 := #v[0x87, 0, 0, 0, 0, 0, 0, 0, 0, 0, 0, 0, 0, 0, 0, 0]

/-- `xor_128`. -/
def xor128 (a b : Octet16) : Octet16 := Vector.zipWith (· ^^^ ·) a b

/-- `aes_128`: the stack's octet order is the reverse of the cipher's. -/
def aes128 (encrypt : BlockCipher) (key message : Octet16) : Octet16 :=
  (encrypt key.reverse message.reverse).reverse

/-- `padding`: the loop `for (i = length; i < 16; i++)` writes `0x80` and then zeros from
the most significant octet of the unused part downwards. -/
def padding (dest : Octet16) (length : UInt8) : Octet16 :=
  (List.range' length.toNat (16 - length.toNat)).foldl
    (fun p i => p.setIfInBounds (16 - i - 1) (if i = length.toNat then 0x80 else 0)) dest

/-- `leftshift_onebit`: the loop over the octets of `input`, least significant first, writes
each shifted octet with the carry out of the one below into `output`. -/
def leftshiftOnebit (input output : Octet16) : Octet16 :=
  ((List.finRange 16).foldl
    (fun (state : Octet16 × UInt8) (i : Fin 16) =>
      let nextOverflow : UInt8 := if input[i] &&& 0x80 ≠ 0 then 1 else 0
      (state.1.set i ((input[i] <<< 1) ||| state.2) i.isLt, nextOverflow))
    (output, 0)).1

/-- What stops a run of `aes_cmac` in the model. -/
inductive CmacFault where
  /-- An access to the sixteen octets at `offset` that leaves the buffer. -/
  | outOfBounds (offset : Nat)
  /-- The loop ran out of the fuel the model gives it. -/
  | outOfFuel
  deriving DecidableEq, Repr

/-- The scratch buffer: `size` octets from `alloca`.  `octets` also gives the memory past the
end, which a run may not touch. -/
structure Buffer where
  octets : Nat → UInt8
  size : Nat

namespace Buffer

/-- The sixteen octets at `offset`, without a bounds check. -/
def read (buffer : Buffer) (offset : Nat) : Octet16 :=
  Vector.ofFn fun j => buffer.octets (offset + j)

/-- Overwrite the sixteen octets at `offset`, without a bounds check. -/
def write (buffer : Buffer) (offset : Nat) (block : Octet16) : Buffer :=
  { buffer with
    octets := fun k => if h : offset ≤ k ∧ k < offset + 16 then block[k - offset] else buffer.octets k }

/-- Overwrite the octets from `offset` with `input`, without a bounds check. -/
def copyUnchecked (buffer : Buffer) (offset : Nat) (input : List UInt8) : Buffer :=
  { buffer with
    octets := fun k =>
      if offset ≤ k ∧ k < offset + input.length then input.getD (k - offset) 0 else buffer.octets k }

/-- Reading `&text[offset]` as an `Octet16`. -/
def block (buffer : Buffer) (offset : Nat) : Except CmacFault Octet16 :=
  if offset + 16 ≤ buffer.size then .ok (buffer.read offset) else .error (.outOfBounds offset)

/-- Writing an `Octet16` to `&text[offset]`. -/
def setBlock (buffer : Buffer) (offset : Nat) (block : Octet16) : Except CmacFault Buffer :=
  if offset + 16 ≤ buffer.size then .ok (buffer.write offset block)
  else .error (.outOfBounds offset)

/-- `xor_128((Octet16*)&text[offset], b)`. -/
def xorBlock (buffer : Buffer) (offset : Nat) (b : Octet16) : Except CmacFault Buffer := do
  buffer.setBlock offset (xor128 (← buffer.block offset) b)

/-- `memcpy(&text[offset], input, length)`. -/
def copy (buffer : Buffer) (offset : Nat) (input : List UInt8) : Except CmacFault Buffer :=
  if offset + input.length ≤ buffer.size then .ok (buffer.copyUnchecked offset input)
  else .error (.outOfBounds offset)

@[simp] theorem size_write (buffer : Buffer) (offset : Nat) (block : Octet16) :
    (buffer.write offset block).size = buffer.size := rfl

@[simp] theorem size_copyUnchecked (buffer : Buffer) (offset : Nat) (input : List UInt8) :
    (buffer.copyUnchecked offset input).size = buffer.size := rfl

@[simp] theorem read_write (buffer : Buffer) (offset : Nat) (block : Octet16) :
    (buffer.write offset block).read offset = block := by
  ext j bound
  simp [read, write]

@[simp] theorem write_write (buffer : Buffer) (offset : Nat) (first second : Octet16) :
    (buffer.write offset first).write offset second = buffer.write offset second := by
  simp only [write, Buffer.mk.injEq, and_true]
  funext k
  split <;> rfl

theorem block_of_le {buffer : Buffer} {offset : Nat} (inside : offset + 16 ≤ buffer.size) :
    buffer.block offset = .ok (buffer.read offset) := by
  simp [block, inside]

theorem block_of_lt {buffer : Buffer} {offset : Nat} (outside : buffer.size < offset + 16) :
    buffer.block offset = .error (.outOfBounds offset) := by
  simp [block, Nat.not_le.mpr outside]

theorem xorBlock_of_le {buffer : Buffer} {offset : Nat} (b : Octet16)
    (inside : offset + 16 ≤ buffer.size) :
    buffer.xorBlock offset b = .ok (buffer.write offset (xor128 (buffer.read offset) b)) := by
  simp [xorBlock, block_of_le inside, setBlock, inside, bind, Except.bind]

theorem xorBlock_of_lt {buffer : Buffer} {offset : Nat} (b : Octet16)
    (outside : buffer.size < offset + 16) :
    buffer.xorBlock offset b = .error (.outOfBounds offset) := by
  simp [xorBlock, block_of_lt outside, bind, Except.bind]

theorem copy_of_le {buffer : Buffer} {offset : Nat} {input : List UInt8}
    (inside : offset + input.length ≤ buffer.size) :
    buffer.copy offset input = .ok (buffer.copyUnchecked offset input) := by
  simp [copy, inside]

end Buffer

/-- `tCMAC_CB`, the thread-local state of one `aes_cmac` call. -/
structure CmacCb where
  /-- `text`, the scratch buffer. -/
  text : Buffer
  /-- `len`, the length of the message. -/
  len : UInt16
  /-- `round`, the number of blocks. -/
  round : UInt16

/-- The loop of `cmac_aes_k_calculate` from counter `i`, with chaining value `x`.  The
counter has 256 values, so 256 rounds of fuel reach the end of the loop or a fault. -/
def cmacAesKCalculateLoop (encrypt : BlockCipher) (key : Octet16) :
    Nat → CmacCb → UInt8 → Octet16 → Octet16 → Except CmacFault Octet16
  | 0, _, _, _, _ => .error .outOfFuel
  | fuel + 1, cb, i, x, output =>
      if i.toNat ≤ cb.round.toNat then do
        -- `(cmac_cb.round - i) * OCTET16_LEN`, not negative inside the loop
        let offset := (cb.round.toNat - i.toNat) * 16
        let text ← cb.text.xorBlock offset x
        let output := aes128 encrypt key (← text.block offset)
        cmacAesKCalculateLoop encrypt key fuel { cb with text } (i + 1) output output
      else .ok output

/-- `cmac_aes_k_calculate`.  Its `output` starts uninitialised; the loop writes it before it
is read, as `round` is at least one. -/
def cmacAesKCalculate (encrypt : BlockCipher) (cb : CmacCb) (key : Octet16) :
    Except CmacFault Octet16 :=
  cmacAesKCalculateLoop encrypt key 256 cb 1 Octet16.zero Octet16.zero

/-- `cmac_prepare_last_block`: a complete last block is XORed with `k1`, any other is padded
and XORed with `k2`. -/
def cmacPrepareLastBlock (cb : CmacCb) (k1 k2 : Octet16) : Except CmacFault CmacCb := do
  if cb.len % 16 = 0 ∧ cb.len ≠ 0 then
    return { cb with text := ← cb.text.xorBlock 0 k1 }
  else
    let padded := padding (← cb.text.block 0) (cb.len % 16).toUInt8
    let text ← cb.text.setBlock 0 padded
    return { cb with text := ← text.xorBlock 0 k2 }

/-- `cmac_generate_subkey`: `k1` and `k2` by doubling `aes_128(key, 0)`.  The arrays `k1` and
`k2` start uninitialised, and `leftshift_onebit` writes every octet of them. -/
def cmacGenerateSubkey (encrypt : BlockCipher) (cb : CmacCb) (key : Octet16) :
    Except CmacFault CmacCb :=
  let p := aes128 encrypt key Octet16.zero
  let k1 :=
    if p[15] &&& 0x80 ≠ 0 then xor128 (leftshiftOnebit p Octet16.zero) constRb
    else leftshiftOnebit p Octet16.zero
  let k2 :=
    if k1[15] &&& 0x80 ≠ 0 then xor128 (leftshiftOnebit k1 Octet16.zero) constRb
    else leftshiftOnebit k1 Octet16.zero
  cmacPrepareLastBlock cb k1 k2

/-- The number of blocks `aes_cmac` allocates for `length` octets: `n`, at least one. -/
def blockCount (length : UInt16) : UInt16 :=
  let n : UInt16 := UInt16.ofNat ((length.toNat + 16 - 1) / 16)
  if n = 0 then 1 else n

/-- `aes_cmac(key, input, length)` with `length = input.length`.  The buffer's octets start
as `stack`, whatever `alloca` returns. -/
def aesCmac (encrypt : BlockCipher) (stack : Nat → UInt8) (key : Octet16)
    (input : List UInt8) : Except CmacFault Octet16 := do
  let length : UInt16 := UInt16.ofNat input.length
  let n := blockCount length
  let len : UInt32 := n.toUInt32 * 16
  let text : Buffer := ⟨stack, len.toNat⟩
  let diff : UInt16 := len.toUInt16 - length
  -- `input != NULL && length > 0`; a null input comes with length 0
  let cb : CmacCb ←
    if 0 < length then pure (CmacCb.mk (← text.copy diff.toNat input) length n)
    else pure (CmacCb.mk text 0 n)
  let cb ← cmacGenerateSubkey encrypt cb key
  cmacAesKCalculate encrypt cb key

/-- `cmac_prepare_last_block` writes the last block, which is the lowest one, with its
subkey. -/
theorem cmacPrepareLastBlock_of_room (cb : CmacCb) (k1 k2 : Octet16)
    (room : 16 ≤ cb.text.size) :
    cmacPrepareLastBlock cb k1 k2 =
      .ok { cb with
        text := cb.text.write 0
          (if cb.len % 16 = 0 ∧ cb.len ≠ 0 then xor128 (cb.text.read 0) k1
            else xor128 (padding (cb.text.read 0) (cb.len % 16).toUInt8) k2) } := by
  have inside : 0 + 16 ≤ cb.text.size := by omega
  unfold cmacPrepareLastBlock
  split
  · simp [Buffer.xorBlock_of_le _ inside, bind, Except.bind, pure, Except.pure, *]
  · have padded : 0 + 16 ≤
        (cb.text.write 0 (padding (cb.text.read 0) (cb.len % 16).toUInt8)).size := inside
    simp [Buffer.block_of_le inside, Buffer.setBlock, inside, Buffer.xorBlock_of_le _ padded, bind,
      Except.bind, pure, Except.pure]

/-- `cmac_generate_subkey` succeeds on a buffer of one block or more, and keeps `round` and
the size of the buffer. -/
theorem cmacGenerateSubkey_bind_of_room {α : Type} (encrypt : BlockCipher) (cb : CmacCb)
    (key : Octet16) (continuation : CmacCb → Except CmacFault α) (result : Except CmacFault α)
    (room : 16 ≤ cb.text.size)
    (rest : ∀ prepared : CmacCb, prepared.round = cb.round →
      prepared.text.size = cb.text.size → continuation prepared = result) :
    (cmacGenerateSubkey encrypt cb key).bind continuation = result := by
  rw [cmacGenerateSubkey, cmacPrepareLastBlock_of_room _ _ _ room]
  exact rest _ rfl rfl

/-- `n` is the number of blocks of the message, and one for the empty message. -/
theorem blockCount_toNat (length : UInt16) :
    (blockCount length).toNat = max 1 ((length.toNat + 15) / 16) := by
  have bounded := length.toNat_lt
  dsimp only [blockCount]
  split
  · rename_i zero
    have := congrArg UInt16.toNat zero
    rw [UInt16.toNat_ofNat'] at this
    simp only [UInt16.toNat_zero] at this
    simp only [UInt16.toNat_one]
    omega
  · rename_i nonzero
    have : ((length.toNat + 16 - 1) / 16 % 2 ^ 16) ≠ 0 := by
      intro zero
      apply nonzero
      apply UInt16.toNat_inj.mp
      rw [UInt16.toNat_ofNat', zero, UInt16.toNat_zero]
    rw [UInt16.toNat_ofNat']
    omega

section Loop

variable (encrypt : BlockCipher) (key : Octet16)

/-- One round of the chain: the block at `offset` is XORed with `x` in place and enciphered. -/
theorem cmacAesKCalculateLoop_of_inside {fuel offset : Nat} {cb : CmacCb} {i : UInt8}
    (x output : Octet16) (guard : i.toNat ≤ cb.round.toNat)
    (at_offset : (cb.round.toNat - i.toNat) * 16 = offset)
    (inside : offset + 16 ≤ cb.text.size) :
    cmacAesKCalculateLoop encrypt key (fuel + 1) cb i x output =
      cmacAesKCalculateLoop encrypt key fuel
        { cb with text := cb.text.write offset (xor128 (cb.text.read offset) x) } (i + 1)
        (aes128 encrypt key (xor128 (cb.text.read offset) x))
        (aes128 encrypt key (xor128 (cb.text.read offset) x)) := by
  rw [cmacAesKCalculateLoop, if_pos guard, at_offset]
  dsimp only
  rw [Buffer.xorBlock_of_le x inside]
  simp [bind, Except.bind, Buffer.block_of_le (show offset + 16 ≤ (cb.text.write offset _).size
    from inside)]

/-- A round whose block is not inside the buffer stops the run there. -/
theorem cmacAesKCalculateLoop_of_outside {fuel offset : Nat} {cb : CmacCb} {i : UInt8}
    (x output : Octet16) (guard : i.toNat ≤ cb.round.toNat)
    (at_offset : (cb.round.toNat - i.toNat) * 16 = offset)
    (outside : cb.text.size < offset + 16) :
    cmacAesKCalculateLoop encrypt key (fuel + 1) cb i x output =
      .error (.outOfBounds offset) := by
  rw [cmacAesKCalculateLoop, if_pos guard, at_offset]
  dsimp only
  rw [Buffer.xorBlock_of_lt x outside]
  rfl

/-- With at least 255 blocks every value of the counter passes `i <= round`, so the loop only
stops when the counter has wrapped to 0 and addresses the block past the end.  The induction is
on the fuel; `(256 - i) % 256` rounds remain before the counter is 0. -/
theorem cmacAesKCalculateLoop_outOfBounds_of_wrap {fuel : Nat} {cb : CmacCb} {i : UInt8}
    (x output : Octet16) (long : 255 ≤ cb.round.toNat)
    (sized : cb.text.size = cb.round.toNat * 16) (enough : (256 - i.toNat) % 256 < fuel) :
    cmacAesKCalculateLoop encrypt key fuel cb i x output =
      .error (.outOfBounds (cb.round.toNat * 16)) := by
  induction fuel generalizing cb i x output with
  | zero => omega
  | succ fuel induction =>
      have small := i.toNat_lt
      have guard : i.toNat ≤ cb.round.toNat := by omega
      by_cases wrapped : i.toNat = 0
      · exact cmacAesKCalculateLoop_of_outside encrypt key x output guard
          (by rw [wrapped, Nat.sub_zero]) (by omega)
      · rw [cmacAesKCalculateLoop_of_inside encrypt key x output guard rfl (by
          rw [sized, Nat.sub_mul]; omega)]
        refine induction _ _ long ?_ ?_
        · simpa using sized
        · rw [UInt8.toNat_add, UInt8.toNat_one]
          omega

end Loop

/-- For a message of 1 to 65535 octets, `aes_cmac` copies it to the top of a buffer of
`16 n` octets and runs the subkeys and the chain on it. -/
theorem aesCmac_of_pos (encrypt : BlockCipher) (stack : Nat → UInt8) (key : Octet16)
    {input : List UInt8} (nonempty : 0 < input.length) (fits : input.length ≤ 65535) :
    aesCmac encrypt stack key input =
      (cmacGenerateSubkey encrypt
        ⟨(Buffer.mk stack ((input.length + 15) / 16 * 16)).copyUnchecked
            ((input.length + 15) / 16 * 16 - input.length) input,
          UInt16.ofNat input.length, blockCount (UInt16.ofNat input.length)⟩ key).bind
        fun cb => cmacAesKCalculate encrypt cb key := by
  have length_toNat : (UInt16.ofNat input.length).toNat = input.length := by
    rw [UInt16.toNat_ofNat']
    omega
  have count := blockCount_toNat (UInt16.ofNat input.length)
  rw [length_toNat] at count
  have len_toNat : ((blockCount (UInt16.ofNat input.length)).toUInt32 * 16).toNat =
      (input.length + 15) / 16 * 16 := by
    rw [UInt32.toNat_mul, UInt16.toNat_toUInt32, count]
    simp only [UInt32.reduceToNat]
    omega
  have diff_toNat : (blockCount (UInt16.ofNat input.length) * 16 -
      UInt16.ofNat input.length).toNat = (input.length + 15) / 16 * 16 - input.length := by
    rw [UInt16.toNat_sub, UInt16.toNat_mul, count, length_toNat]
    simp only [UInt16.reduceToNat]
    omega
  have positive : 0 < UInt16.ofNat input.length := by
    rw [UInt16.lt_iff_toNat_lt, length_toNat]
    simpa using nonempty
  have inside : (input.length + 15) / 16 * 16 - input.length + input.length ≤
      (Buffer.mk stack ((input.length + 15) / 16 * 16)).size := by
    simp only
    omega
  simp [aesCmac, positive, len_toNat, diff_toNat, Buffer.copy_of_le inside, bind, Except.bind,
    pure, Except.pure]

/-- A message of more than 254 blocks makes `cmac_aes_k_calculate` address the sixteen octets
past the end of its buffer: after 255 rounds the `uint8_t` counter wraps to 0, which still
passes `i <= round`. -/
theorem aesCmac_outOfBounds_of_long (encrypt : BlockCipher) (stack : Nat → UInt8)
    (key : Octet16) (input : List UInt8) (long : 4065 ≤ input.length)
    (fits : input.length ≤ 65535) :
    aesCmac encrypt stack key input = .error (.outOfBounds ((input.length + 15) / 16 * 16)) := by
  rw [aesCmac_of_pos encrypt stack key (by omega) fits]
  apply cmacGenerateSubkey_bind_of_room
  · show 16 ≤ (input.length + 15) / 16 * 16
    omega
  intro prepared round size
  have count := blockCount_toNat (UInt16.ofNat input.length)
  rw [UInt16.toNat_ofNat', Nat.mod_eq_of_lt (by omega)] at count
  have rounds : prepared.round.toNat = (input.length + 15) / 16 := by
    rw [round, count]
    omega
  show cmacAesKCalculateLoop encrypt key 256 prepared 1 Octet16.zero Octet16.zero = _
  rw [← rounds]
  exact cmacAesKCalculateLoop_outOfBounds_of_wrap encrypt key _ _ (by omega)
    (by rw [size, rounds]; rfl) (by decide)

/-- The shortest such message, 4065 zero octets, with the identity for the cipher. -/
theorem aesCmac_outOfBounds_4065 :
    4065 ≤ (List.replicate 4065 (0 : UInt8)).length ∧
      (List.replicate 4065 (0 : UInt8)).length ≤ 65535 ∧
      aesCmac (fun _ block => block) (fun _ => 0) Octet16.zero (List.replicate 4065 0) =
        .error (.outOfBounds 4080) := by
  have length : (List.replicate 4065 (0 : UInt8)).length = 4065 := List.length_replicate
  have long : 4065 ≤ (List.replicate 4065 (0 : UInt8)).length := Nat.le_of_eq length.symm
  have fits : (List.replicate 4065 (0 : UInt8)).length ≤ 65535 := by rw [length]; decide
  refine ⟨long, fits, ?_⟩
  rw [aesCmac_outOfBounds_of_long (fun _ block => block) (fun _ => 0) Octet16.zero _ long fits,
    length]

end Bluetooth.CryptoToolbox
