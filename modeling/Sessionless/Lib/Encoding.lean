import Mathlib.Data.List.Basic

/-!
# Byte encodings

Byte strings as lists, and the standard encodings of the Go library that a program's
digests and signatures are computed over: big-endian integers, length prefixes, UTF-8,
lowercase hexadecimal, padded base64 and zero-padded decimals.
-/

namespace Sessionless.Lib

abbrev Bytes := List UInt8

/-- `[]byte(value)`. -/
def utf8 (value : String) : Bytes := value.toUTF8.data.toList

theorem utf8_ofList (chars : List Char) : utf8 (String.ofList chars) = chars.flatMap String.utf8EncodeChar := by
  simp [utf8, List.utf8Encode]

/-! ## Integers -/

/-- The low `width` bytes of `n`, most significant first. -/
def bigEndian : Nat → Nat → Bytes
  | 0, _ => []
  | width + 1, n => bigEndian width (n / 256) ++ [UInt8.ofNat (n % 256)]

@[simp] theorem length_bigEndian (width n : Nat) : (bigEndian width n).length = width := by
  induction width generalizing n with
  | zero => rfl
  | succ width ih => simp [bigEndian, ih]

def uint32 (n : Nat) : Bytes := bigEndian 4 n

def uint64 (n : Nat) : Bytes := bigEndian 8 n

/-- `uint64(n)` for a signed `n`: two's complement. -/
def int64 (n : Int) : Bytes := bigEndian 8 (n % 0x10000000000000000).toNat

/-- A field prefixed with its 32-bit length. -/
def field (value : Bytes) : Bytes := uint32 value.length ++ value

/-- A decimal of exactly `width` digits, as `%0<width>d` prints a number that fits. -/
def paddedDecimal : Nat → Nat → List Char
  | 0, _ => []
  | width + 1, n => paddedDecimal width (n / 10) ++ [Nat.digitChar (n % 10)]

@[simp] theorem length_paddedDecimal (width n : Nat) : (paddedDecimal width n).length = width := by
  induction width generalizing n with
  | zero => rfl
  | succ width ih => simp [paddedDecimal, ih]

/-! ## Text forms of byte strings -/

def hexDigits (b : UInt8) : List Char := [Nat.digitChar (b.toNat / 16), Nat.digitChar (b.toNat % 16)]

def hex (value : Bytes) : String := String.ofList (value.flatMap hexDigits)

def base64Digit (n : Nat) : UInt8 :=
  UInt8.ofNat (if n < 26 then 65 + n else if n < 52 then 71 + n else if n < 62 then n - 4 else if n = 62 then 43 else 47)

/-- Standard base64, padded with `=`. -/
def base64 : Bytes → Bytes
  | [] => []
  | [a] => [base64Digit (a.toNat / 4), base64Digit (a.toNat % 4 * 16), 61, 61]
  | [a, b] =>
    [base64Digit (a.toNat / 4), base64Digit (a.toNat % 4 * 16 + b.toNat / 16), base64Digit (b.toNat % 16 * 4), 61]
  | a :: b :: c :: rest =>
    base64Digit (a.toNat / 4) :: base64Digit (a.toNat % 4 * 16 + b.toNat / 16) ::
      base64Digit (b.toNat % 16 * 4 + c.toNat / 64) :: base64Digit (c.toNat % 64) :: base64 rest

end Sessionless.Lib
