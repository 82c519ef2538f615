import Mathlib
import Bluetooth.Common.Strings

set_option linter.all false

/-!
# `strtol` and `sscanf` in base 16

The textual forms of addresses and UUIDs are read with the C library: `strtol(token, &end, 16)`
by the address parsers, and the `%02hhx` and `%n` conversions of `sscanf` by `Uuid::FromString`.
Both are modelled after C11 (7.22.1.4 and 7.21.6.2).  White space is skipped first, and a sign
and a `0x` prefix may stand before the digits, so within a field of two characters `"+a"` and
`"-a"` read as numbers, and so does `" a"` for `strtol`, and `"a"` after any white space for
`sscanf`, which does not count the white space in the field's width.  `sscanf` reads a C string,
which ends at its first `'\0'`.
-/

namespace Bluetooth

/-! ## Hexadecimal digits -/

/-- The twenty-two characters `isHexDigit` accepts. -/
def hexDigitChars : List Char := "0123456789abcdefABCDEF".toList

theorem mem_hexDigitChars {c : Char} (hex : isHexDigit c = true) : c ∈ hexDigitChars := by
  simp only [isHexDigit, Char.isDigit, Bool.or_eq_true, Bool.and_eq_true, decide_eq_true_eq,
    Char.le_def, ge_iff_le, UInt32.le_iff_toNat_le] at hex
  have digits : ∀ d : Char, d.val.toNat = d.toNat := fun _ => rfl
  simp only [digits, Char.reduceToNat] at hex
  rw [← Char.ofNat_toNat c]
  rcases hex with (⟨low, high⟩ | ⟨low, high⟩) | ⟨low, high⟩
  all_goals interval_cases c.toNat <;> exact List.elem_iff.mp (by decide)

/-- A test of characters passed by the twenty-two digits is passed by every digit. -/
theorem isHexDigit_all {p : Char → Bool} (checked : hexDigitChars.all p = true) {c : Char}
    (hex : isHexDigit c = true) : p c = true :=
  List.all_eq_true.mp checked c (mem_hexDigitChars hex)

/-- The value of a hexadecimal digit. -/
def hexValue (c : Char) : Nat :=
  if c.isDigit then c.toNat - 48
  else if 'a' ≤ c && c ≤ 'f' then c.toNat - 87
  else c.toNat - 55

/-- The number hexadecimal digits stand for, most significant first. -/
def hexNumber (digits : Text) : Nat := digits.foldl (fun value c => 16 * value + hexValue c) 0

/-- The octet two hexadecimal digits stand for. -/
def pairOctet (high low : Char) : UInt8 := UInt8.ofNat (16 * hexValue high + hexValue low)

/-- The octets an even number of hexadecimal digits stand for, two digits each. -/
def hexOctets : Text → List UInt8
  | high :: low :: rest => pairOctet high low :: hexOctets rest
  | _ => []

section Digit

variable {c : Char}

theorem isSpace_of_isHexDigit (hex : isHexDigit c = true) : isSpace c = false := by
  have checked : hexDigitChars.all (fun d => !isSpace d) = true := by decide
  simpa using isHexDigit_all checked hex

theorem ne_of_isHexDigit (hex : isHexDigit c = true) :
    c ≠ '+' ∧ c ≠ '-' ∧ c ≠ ':' ∧ c ≠ '\x00' ∧ c ≠ 'x' ∧ c ≠ 'X' := by
  have checked : hexDigitChars.all (fun d =>
      d != '+' && d != '-' && d != ':' && d != '\x00' && d != 'x' && d != 'X') = true := by decide
  simpa [and_assoc] using isHexDigit_all checked hex

theorem hexValue_lt (hex : isHexDigit c = true) : hexValue c < 16 := by
  have checked : hexDigitChars.all (fun d => decide (hexValue d < 16)) = true := by decide
  simpa using isHexDigit_all checked hex

theorem isHexDigit_of_isSpace (space : isSpace c = true) : isHexDigit c = false := by
  simp only [isSpace, Bool.or_eq_true, decide_eq_true_eq] at space
  rcases space with ((((rfl | rfl) | rfl) | rfl) | rfl) | rfl <;> rfl

end Digit

theorem hexOctets_append : ∀ {front : Text}, front.length % 2 = 0 → ∀ back : Text,
    hexOctets (front ++ back) = hexOctets front ++ hexOctets back
  | [], _, _ => rfl
  | [_], even, _ => by simp at even
  | _ :: _ :: rest, even, back => by
    simp only [List.length_cons] at even
    simp only [List.cons_append, hexOctets, @hexOctets_append rest (by omega) back]

/-! ## `strtol` -/

/-- A sign at the front of a subject sequence: whether it is `-`, and how many characters it
takes. -/
def signOf : Text → Bool × Nat
  | '+' :: _ => (false, 1)
  | '-' :: _ => (true, 1)
  | _ => (false, 0)

/-- The `0x` or `0X` that `strtol` takes in base 16: only one followed by a digit. -/
def hexPrefixLength : Text → Nat
  | '0' :: x :: digit :: _ => if (x = 'x' || x = 'X') && isHexDigit digit then 2 else 0
  | _ => 0

/-- `LONG_MIN` of a 64-bit `long`. -/
def longMin : Int := -2 ^ 63

/-- `LONG_MAX` of a 64-bit `long`. -/
def longMax : Int := 2 ^ 63 - 1

/-- `strtol(str, &endptr, 16)`: the value returned, and how far `endptr` stands past `str`.
White space is skipped, then a sign, a `0x` before a digit, and the digits.  Without a digit
nothing is converted: the value is 0 and `endptr` is `str`.  A value beyond the range of `long`
is clamped to it. -/
def strtol16 (str : Text) : Int × Nat :=
  let spaces := (str.takeWhile isSpace).length
  let sign := signOf (str.drop spaces)
  let afterSign := str.drop (spaces + sign.2)
  let prefixLength := hexPrefixLength afterSign
  let digits := (afterSign.drop prefixLength).takeWhile isHexDigit
  if digits = [] then (0, 0)
  else
    let magnitude : Int := hexNumber digits
    (max longMin (min longMax (if sign.1 then -magnitude else magnitude)),
      spaces + sign.2 + prefixLength + digits.length)

section Strtol

variable {first second : Char}

/-- Two digits read as the number they stand for. -/
theorem strtol16_pair (firstHex : isHexDigit first = true) (secondHex : isHexDigit second = true) :
    strtol16 [first, second] = (((16 * hexValue first + hexValue second : Nat) : Int), 2) := by
  have firstSmall := hexValue_lt firstHex
  have secondSmall := hexValue_lt secondHex
  obtain ⟨plus, minus, -, -, -, -⟩ := ne_of_isHexDigit firstHex
  simp [strtol16, signOf, hexPrefixLength, hexNumber, isSpace_of_isHexDigit firstHex, firstHex,
    secondHex, plus, minus, longMin, longMax]
  omega

/-- A sign before a digit: the digit's value, negated after a `-`. -/
theorem strtol16_signed (sign : first = '+' ∨ first = '-') (secondHex : isHexDigit second = true) :
    strtol16 [first, second] =
      (if first = '-' then -(hexValue second : Int) else hexValue second, 2) := by
  have secondSmall := hexValue_lt secondHex
  rcases sign with rfl | rfl <;>
    simp [strtol16, signOf, hexPrefixLength, hexNumber, isSpace, secondHex, longMin, longMax] <;>
    omega

/-- White space before a digit is skipped: the digit's value. -/
theorem strtol16_spaced (space : isSpace first = true) (secondHex : isHexDigit second = true) :
    strtol16 [first, second] = (((hexValue second : Nat) : Int), 2) := by
  have secondSmall := hexValue_lt secondHex
  obtain ⟨plus, minus, -, -, -, -⟩ := ne_of_isHexDigit secondHex
  simp [strtol16, signOf, hexPrefixLength, hexNumber, space, isSpace_of_isHexDigit secondHex,
    secondHex, plus, minus, longMin, longMax]
  omega

/-- A digit and then no digit: the first digit alone. -/
theorem strtol16_digit_only (firstHex : isHexDigit first = true)
    (secondOther : isHexDigit second = false) :
    (strtol16 [first, second]).2 = 1 := by
  obtain ⟨plus, minus, -, -, -, -⟩ := ne_of_isHexDigit firstHex
  simp [strtol16, signOf, hexPrefixLength, isSpace_of_isHexDigit firstHex, firstHex, secondOther,
    plus, minus]

/-- A character that is no digit, white space or sign: nothing is converted. -/
theorem strtol16_other (firstOther : isHexDigit first = false) (space : isSpace first = false)
    (plus : first ≠ '+') (minus : first ≠ '-') : (strtol16 [first, second]).2 = 0 := by
  have unsigned : signOf [first, second] = (false, 0) := by
    unfold signOf
    split <;> simp_all
  have unprefixed : hexPrefixLength [first, second] = 0 := by
    unfold hexPrefixLength
    split <;> simp_all
  simp [strtol16, space, unsigned, unprefixed, firstOther]

/-- No digit where one is needed: nothing is converted. -/
theorem strtol16_none (secondOther : isHexDigit second = false)
    (firstOther : isHexDigit first = false) : (strtol16 [first, second]).2 = 0 := by
  have noDigits : ∀ text : Text, text.Sublist [first, second] →
      text.takeWhile isHexDigit = [] := by
    intro text sub
    cases text with
    | nil => rfl
    | cons c rest =>
      have mem : c ∈ [first, second] := sub.subset List.mem_cons_self
      simp only [List.mem_cons, List.not_mem_nil, or_false] at mem
      rcases mem with rfl | rfl <;> simp [firstOther, secondOther]
  simp only [strtol16]
  rw [if_pos (noDigits _ ((List.drop_sublist _ _).trans (List.drop_sublist _ _)))]

/-- `strtol` reads the whole of a two-character token exactly when it is a digit, white space or a
sign before a digit. -/
theorem strtol16_pair_whole :
    (strtol16 [first, second]).2 = 2 ↔
      ((isHexDigit first || isSpace first || first = '+' || first = '-') && isHexDigit second) =
        true := by
  by_cases secondHex : isHexDigit second = true
  · by_cases firstHex : isHexDigit first = true
    · simp [strtol16_pair firstHex secondHex, firstHex, secondHex]
    · by_cases space : isSpace first = true
      · simp [strtol16_spaced space secondHex, space, secondHex]
      · by_cases sign : first = '+' ∨ first = '-'
        · rw [strtol16_signed sign secondHex]
          rcases sign with rfl | rfl <;> simp [secondHex]
        · have none : (strtol16 [first, second]).2 = 0 :=
            strtol16_other (by simpa using firstHex) (by simpa using space)
              (fun same => sign (.inl same)) (fun same => sign (.inr same))
          simp_all
  · rw [Bool.not_eq_true] at secondHex
    by_cases firstHex : isHexDigit first = true
    · simp [strtol16_digit_only firstHex secondHex, secondHex]
    · simp [strtol16_none secondHex (by simpa using firstHex), secondHex]

end Strtol

/-! ## `sscanf` -/

/-- The directives of the formats `Uuid::FromString` gives `sscanf`. -/
inductive ScanDirective
  /-- `%02hhx`: an octet from at most two characters after white space. -/
  | octet
  /-- An ordinary character, which the next character of the input must be. -/
  | literal (c : Char)
  /-- `%n`: how many characters have been read so far. -/
  | count
deriving DecidableEq, Repr

/-- What a run of `sscanf` leaves: the octets it assigned in order, what `%n` stored if the scan
got to it, and whether it stopped at the end of the input (an input failure). -/
structure ScanResult where
  octets : List UInt8
  counted : Option Nat
  inputFailure : Bool
deriving DecidableEq, Repr

/-- The value `sscanf` returns: `EOF` when the input ended before a conversion was made, and
otherwise the number of items assigned. -/
def ScanResult.rc (result : ScanResult) : Int :=
  if result.inputFailure && result.octets.isEmpty then -1 else result.octets.length

/-- The result with octets assigned before those of `result`. -/
def ScanResult.assign (octets : List UInt8) (result : ScanResult) : ScanResult :=
  { result with octets := octets ++ result.octets }

/-- The input item of a `%02hhx` conversion, after the white space: the longest run of at most
two characters that begins `[+-]?(0[xX])?[0-9A-Fa-f]+`, and the octet it stands for.  An item
without a digit is a matching failure.  C11 leaves a negative value undefined for an unsigned
char; the model stores it modulo 256, as the C libraries do. -/
def scanOctetItem (input : Text) : Option (UInt8 × Nat) :=
  let field := input.take 2
  let sign := signOf field
  let afterSign := field.drop sign.2
  let prefixLength := if afterSign = ['0', 'x'] ∨ afterSign = ['0', 'X'] then 2 else 0
  let digits := (afterSign.drop prefixLength).takeWhile isHexDigit
  if digits = [] then none
  else
    let magnitude := hexNumber digits
    some (if sign.1 then UInt8.ofInt (-(magnitude : Int)) else UInt8.ofNat magnitude,
      sign.2 + prefixLength + digits.length)

/-- `%02hhx`: white space skipped, then the item; the octet and the characters read. -/
def scanOctet (input : Text) : Option (UInt8 × Nat) :=
  let spaces := (input.takeWhile isSpace).length
  (scanOctetItem (input.drop spaces)).map fun item => (item.1, spaces + item.2)

/-- `sscanf` running the directives of `format` over the rest of its input, `consumed`
characters in. -/
def scanFrom : List ScanDirective → Nat → Text → ScanResult
  | [], _, _ => ⟨[], none, false⟩
  | .octet :: format, consumed, input =>
    if input.dropWhile isSpace = [] then ⟨[], none, true⟩
    else
      match scanOctet input with
      | none => ⟨[], none, false⟩
      | some (octet, used) => (scanFrom format (consumed + used) (input.drop used)).assign [octet]
  | .literal c :: format, consumed, input =>
    match input with
    | [] => ⟨[], none, true⟩
    | d :: rest => if d = c then scanFrom format (consumed + 1) rest else ⟨[], none, false⟩
  | .count :: format, consumed, input =>
    { scanFrom format consumed input with counted := some consumed }

/-- `sscanf(str, format, ...)` on the C string `str`, which ends at its first `'\0'`. -/
def sscanf (str : Text) (format : List ScanDirective) : ScanResult :=
  scanFrom format 0 (str.takeWhile (· ≠ '\x00'))

section Scan

variable {format : List ScanDirective} {consumed : Nat}

@[simp] theorem assign_nil (result : ScanResult) : result.assign [] = result := rfl

@[simp] theorem octets_assign (octets : List UInt8) (result : ScanResult) :
    (result.assign octets).octets = octets ++ result.octets := rfl

@[simp] theorem counted_assign (octets : List UInt8) (result : ScanResult) :
    (result.assign octets).counted = result.counted := rfl

@[simp] theorem inputFailure_assign (octets : List UInt8) (result : ScanResult) :
    (result.assign octets).inputFailure = result.inputFailure := rfl

@[simp] theorem scanFrom_count (input : Text) :
    scanFrom (.count :: format) consumed input =
      { scanFrom format consumed input with counted := some consumed } := rfl

@[simp] theorem scanFrom_nil (input : Text) : scanFrom [] consumed input = ⟨[], none, false⟩ := rfl

end Scan

end Bluetooth
