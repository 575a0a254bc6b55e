import Sessionless.Lib.Encoding

/-!
# JSON values and their compact rendering

`marshal` is the output of Go's `json.Marshal`: no blanks, object fields in the order they
are given, and strings escaped with HTML escaping on. Strings are their UTF-8 bytes.
-/

namespace Sessionless.Lib

inductive Json
  | null
  | bool (value : Bool)
  | num (value : Int)
  | text (value : Bytes)
  | arr (items : List Json)
  | obj (fields : List (String × Json))

namespace Json

def str (value : String) : Json := text (utf8 value)

def nat (value : Nat) : Json := num value

/-- A byte slice is marshalled as a base64 string. -/
def bytes (value : Bytes) : Json := text (base64 value)

/-! ## Rendering -/

def hexDigit (n : Nat) : UInt8 := UInt8.ofNat (if n < 10 then 48 + n else 87 + n)

/-- The escape of one byte below 0x80: quote, backslash, control characters and `<`, `>`, `&`. -/
def escapeByte (b : UInt8) : Bytes :=
  let n := b.toNat
  if n = 34 ∨ n = 92 then [92, b]
  else if n = 10 then [92, 110]
  else if n = 13 then [92, 114]
  else if n = 9 then [92, 116]
  else if n = 8 then [92, 98]
  else if n = 12 then [92, 102]
  else if n < 32 ∨ n = 60 ∨ n = 62 ∨ n = 38 then [92, 117, 48, 48, hexDigit (n / 16), hexDigit (n % 16)]
  else [b]

/-- U+2028 and U+2029 are escaped as well; other multi-byte characters are copied. -/
def escape : Bytes → Bytes
  | 0xe2 :: 0x80 :: 0xa8 :: rest => [92, 117, 50, 48, 50, 56] ++ escape rest
  | 0xe2 :: 0x80 :: 0xa9 :: rest => [92, 117, 50, 48, 50, 57] ++ escape rest
  | b :: rest => escapeByte b ++ escape rest
  | [] => []

def quote (value : Bytes) : Bytes := 34 :: escape value ++ [34]

def decimal (n : Int) : Bytes :=
  match n with
  | .ofNat m => (Nat.toDigits 10 m).map fun c => UInt8.ofNat c.toNat
  | .negSucc m => 45 :: (Nat.toDigits 10 (m + 1)).map fun c => UInt8.ofNat c.toNat

mutual

/-- `json.Marshal`. -/
def marshal : Json → Bytes
  | null => utf8 "null"
  | bool true => utf8 "true"
  | bool false => utf8 "false"
  | num value => decimal value
  | text value => quote value
  | arr items => 91 :: marshalItems items ++ [93]
  | obj fields => 123 :: marshalFields fields ++ [125]

def marshalItems : List Json → Bytes
  | [] => []
  | [item] => marshal item
  | item :: rest => marshal item ++ 44 :: marshalItems rest

def marshalFields : List (String × Json) → Bytes
  | [] => []
  | [(name, value)] => quote (utf8 name) ++ 58 :: marshal value
  | (name, value) :: rest => quote (utf8 name) ++ 58 :: marshal value ++ 44 :: marshalFields rest

end

end Json

end Sessionless.Lib
