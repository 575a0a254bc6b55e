import Sessionless.Lib.Binary64
import Sessionless.Lib.JsonTree

/-!
# The strict JSON scanner

`strictjson` looks through a document before anything is decoded, with limits on nesting and members, and refuses what
`encoding/json` would silently replace. The position in the input is what is left of it. `ValidateDocument` takes any
number of the grammar, `Parse` only those a caller can compute with. A pass with string bounds charges every name and
string for the bytes it will decode to.
-/

namespace Sessionless.StrictJson

open Lib Json

/-- `ErrInvalid`, the one error: "invalid bounded JSON". -/
inductive ParseError
  | invalid
deriving DecidableEq, Repr

structure StringBounds where
  tokenBytes : UInt64
  totalBytes : UInt64
deriving DecidableEq, Repr

/-- `stringBounds` is none unless `boundedStrings` is set. `stringBytes` is passed along with the position. -/
structure JsonScanner where
  depth : Nat
  members : Nat
  documentNumbers : Bool
  stringBounds : Option StringBounds
deriving DecidableEq, Repr

/-! ## Tokens -/

abbrev space (input : Bytes) : Bytes := skipBlanks input

def take (c : UInt8) : Bytes → Option Bytes
  | [] => none
  | b :: rest => if b = c then some rest else none

/-- `s.b[start:s.i]` -/
def sliced (input rest : Bytes) : Bytes := input.take (input.length - rest.length)

def literal (v : String) (input : Bytes) : Option Bytes :=
  if input.length < (utf8 v).length ∨ input.take (utf8 v).length ≠ utf8 v then none
  else some (input.drop (utf8 v).length)

def hex4 : Bytes → Option (Nat × Bytes)
  | a :: b :: c :: d :: rest => (hexQuad a b c d).map fun n => (n, rest)
  | _ => none

/-- What follows the digits of a `\u` escape: half a surrogate pair asks for the other half. -/
def surrogate (n : Nat) (rest : Bytes) : Option Bytes :=
  if 0xd800 ≤ n ∧ n ≤ 0xdbff then
    (take 92 rest).bind fun rest => (take 117 rest).bind fun rest => (hex4 rest).bind fun low =>
      if low.1 < 0xdc00 ∨ 0xdfff < low.1 then none else some low.2
  else if 0xdc00 ≤ n ∧ n ≤ 0xdfff then none
  else some rest

def escape : Bytes → Option Bytes
  | [] => none
  | c :: rest =>
    if c = 34 ∨ c = 92 ∨ c = 47 ∨ c = 98 ∨ c = 102 ∨ c = 110 ∨ c = 114 ∨ c = 116 then some rest
    else if c = 117 then (hex4 rest).bind fun n => surrogate n.1 n.2
    else none

def stringBody : Nat → Bytes → Option Bytes
  | 0, _ => none
  | _ + 1, [] => none
  | fuel + 1, c :: rest =>
    if c = 34 then some rest
    else if c.toNat < 0x20 then none
    else if c = 92 then (escape rest).bind (stringBody fuel)
    else stringBody fuel rest

def string (input : Bytes) : Option Bytes := (take 34 input).bind fun rest => stringBody (rest.length + 1) rest

/-- `uint64(utf8.RuneLen(r))`: what is no character has the length -1. -/
def runeLen (r : Nat) : Nat :=
  if r < 0x80 then 1
  else if r < 0x800 then 2
  else if 0xd800 ≤ r ∧ r ≤ 0xdfff then 2 ^ 64 - 1
  else if r < 0x10000 then 3
  else if r ≤ 0x10ffff then 4
  else 2 ^ 64 - 1

/-- `utf16.DecodeRune` -/
def decodeRune (high low : Nat) : Nat :=
  if 0xd800 ≤ high ∧ high < 0xdc00 ∧ 0xdc00 ≤ low ∧ low < 0xe000 then
    (high - 0xd800) * 1024 + (low - 0xdc00) + 0x10000
  else 0xfffd

/-- The loop of `decodedStringBytes`, over what is left up to the closing quote. -/
def decodedBytes : Nat → Bytes → Nat
  | fuel + 1, b :: c :: rest =>
    if b ≠ 92 then 1 + decodedBytes fuel (c :: rest)
    else if c ≠ 117 then 1 + decodedBytes fuel rest
    else
      let n := (hex4 rest).getD (0, rest)
      if 0xd800 ≤ n.1 ∧ n.1 ≤ 0xdbff then
        let low := (hex4 (n.2.drop 2)).getD (0, n.2.drop 2)
        runeLen (decodeRune n.1 low.1) + decodedBytes fuel low.2
      else runeLen n.1 + decodedBytes fuel n.2
  | _, _ => 0

def decodedStringBytes (raw : Bytes) : Nat := decodedBytes raw.length raw.tail

namespace JsonScanner

/-- What is charged at the closing quote. The subtraction and the sum are those of 64-bit words. -/
def charge (s : JsonScanner) (token : Bytes) (stringBytes : Nat) : Option Nat :=
  match s.stringBounds with
  | none => some stringBytes
  | some bounds =>
    let n := decodedStringBytes token
    if bounds.tokenBytes.toNat < n ∨ (bounds.totalBytes.toNat + 2 ^ 64 - stringBytes) % 2 ^ 64 < n then none
    else some ((stringBytes + n) % 2 ^ 64)

def chargedString (s : JsonScanner) (input : Bytes) (stringBytes : Nat) : Option (Bytes × Nat) :=
  (string input).bind fun rest => (s.charge (sliced input rest) stringBytes).map fun stringBytes => (rest, stringBytes)

end JsonScanner

/-! ## Numbers -/

def digits (input : Bytes) : Option Bytes :=
  if input.takeWhile isDigit = [] then none else some (input.dropWhile isDigit)

def integer : Bytes → Option Bytes
  | [] => none
  | b :: rest =>
    if b = 48 then some rest else if b.toNat < 49 ∨ 57 < b.toNat then none else digits (b :: rest)

def fraction (input : Bytes) : Option Bytes :=
  match take 46 input with
  | some rest => digits rest
  | none => some input

/-- The loop that adds up the digits of an exponent and stops once it is too large. -/
def smallExponent : Nat → Bytes → Bool
  | _, [] => true
  | exponent, digit :: rest =>
    if 324 < exponent * 10 + (digit.toNat - 48) then false
    else smallExponent (exponent * 10 + (digit.toNat - 48)) rest

def exponentSign (input : Bytes) : Bytes :=
  match take 43 input with
  | some rest => rest
  | none => (take 45 input).getD input

def exponent (documentNumbers : Bool) (input : Bytes) : Option Bytes :=
  match (take 101 input).or (take 69 input) with
  | none => some input
  | some rest => (digits (exponentSign rest)).bind fun after =>
    if documentNumbers || smallExponent 0 (sliced (exponentSign rest) after) then some after else none

/-- `strconv.ParseUint(token, 10, 64)`. -/
def parseUint (token : Bytes) : Option Nat :=
  if token ≠ [] ∧ token.all isDigit = true ∧ natOf token < 2 ^ 64 then some (natOf token) else none

def decimalValue (token : Bytes) : ℚ :=
  let body := (take 45 token).getD token
  let mantissa := body.takeWhile fun b => !isMark b
  let int := mantissa.takeWhile isDigit
  let fraction := (mantissa.dropWhile isDigit).drop 1
  let exponent := (body.dropWhile fun b => !isMark b).drop 1
  let power : Int := natOf (exponent.dropWhile fun b => !isDigit b)
  (if token.head? = some 45 then -1 else 1) * natOf (int ++ fraction) *
    10 ^ ((if exponent.head? = some 45 then -power else power) - fraction.length)

/-- `strconv.ParseFloat(token, 64)`: the nearest double, or none where it overflows. -/
def parseFloat (token : Bytes) : Option ℚ := Binary64.round (decimalValue token)

def finiteNumber (token : Bytes) : Bool :=
  if 128 < token.length then false
  else if !token.any (fun b => b = 46 || isMark b) && (parseUint ((take 45 token).getD token)).isNone then false
  else
    match parseFloat token with
    | none => false
    | some v =>
      if v = 0 then !(token.takeWhile fun b => !isMark b).any fun c => 49 ≤ c.toNat && c.toNat ≤ 57 else true

def number (documentNumbers : Bool) (input : Bytes) : Option Bytes :=
  (integer ((take 45 input).getD input)).bind fun rest => (fraction rest).bind fun rest =>
    (exponent documentNumbers rest).bind fun rest =>
      if documentNumbers || finiteNumber (sliced input rest) then some rest else none

/-! ## Values -/

/-- `json.Unmarshal` of a string token. -/
def unmarshalKey (token : Bytes) : Option Bytes :=
  match Raw.parse token with
  | some (.str body) => unescaped body
  | _ => none

mutual

def value (s : JsonScanner) : Nat → Nat → Bytes → Nat → Option (Bytes × Nat)
  | 0, _, _, _ => none
  | fuel + 1, depth, input, stringBytes =>
    if s.depth < depth then none
    else
      match space input with
      | [] => none
      | b :: rest =>
        if b = 123 then
          match take 125 (space rest) with
          | some rest => some (rest, stringBytes)
          | none => members s fuel depth [] 0 (space rest) stringBytes
        else if b = 91 then
          match take 93 (space rest) with
          | some rest => some (rest, stringBytes)
          | none => items s fuel depth 0 (space rest) stringBytes
        else if b = 34 then s.chargedString (b :: rest) stringBytes
        else
          let scalar :=
            if b = 116 then literal "true" (b :: rest)
            else if b = 102 then literal "false" (b :: rest)
            else if b = 110 then literal "null" (b :: rest)
            else number s.documentNumbers (b :: rest)
          scalar.map fun rest => (rest, stringBytes)

/-- The loop over the members of an object: the names seen so far, and how many they are. -/
def members (s : JsonScanner) : Nat → Nat → List Bytes → Nat → Bytes → Nat → Option (Bytes × Nat)
  | 0, _, _, _, _, _ => none
  | fuel + 1, depth, seen, n, input, stringBytes =>
    (s.chargedString (space input) stringBytes).bind fun name =>
      (unmarshalKey (sliced (space input) name.1)).bind fun key =>
        if key ∈ seen then none
        else if s.members < n + 1 then none
        else (take 58 (space name.1)).bind fun rest => (value s fuel (depth + 1) rest name.2).bind fun read =>
          match take 125 (space read.1) with
          | some rest => some (rest, read.2)
          | none => (take 44 (space read.1)).bind fun rest => members s fuel depth (key :: seen) (n + 1) rest read.2

def items (s : JsonScanner) : Nat → Nat → Nat → Bytes → Nat → Option (Bytes × Nat)
  | 0, _, _, _, _ => none
  | fuel + 1, depth, n, input, stringBytes =>
    if s.members < n + 1 then none
    else (value s fuel (depth + 1) input stringBytes).bind fun read =>
      match take 93 (space read.1) with
      | some rest => some (rest, read.2)
      | none => (take 44 (space read.1)).bind fun rest => items s fuel depth (n + 1) rest read.2

end

/-! ## Documents -/

/-- `utf8.Valid` -/
def ValidUtf8 (b : Bytes) : Prop := ByteArray.IsValidUTF8 ⟨b.toArray⟩

instance (b : Bytes) : Decidable (ValidUtf8 b) := inferInstanceAs (Decidable (ByteArray.IsValidUTF8 ⟨b.toArray⟩))

/-- The limits of one pass. A document neither nests deeper nor holds more members than it has bytes. -/
def scannerFor (b : Bytes) (depth members : Nat) (documentNumbers : Bool) (stringBounds : Option StringBounds) :
    JsonScanner where
  depth := min (min depth b.length) 64
  members := min members b.length
  documentNumbers := documentNumbers
  stringBounds := stringBounds

/-- The lexical pass that the documents and `Parse` share. -/
def lexical (b : Bytes) (byteLimit depth members : Nat) (documentNumbers : Bool)
    (stringBounds : Option StringBounds) : Except ParseError Unit :=
  if b.length = 0 ∨ byteLimit < b.length ∨ ¬ ValidUtf8 b then .error .invalid
  else
    match value (scannerFor b depth members documentNumbers stringBounds) (2 * b.length + 2) 1 b 0 with
    | none => .error .invalid
    | some read => if space read.1 = [] then .ok () else .error .invalid

def validateDocument (b : Bytes) (byteLimit depth members : Nat) : Except ParseError Unit :=
  lexical b byteLimit depth members true none

def validateDocumentStringBounds (b : Bytes) (byteLimit depth members : Nat) (bounds : StringBounds) :
    Except ParseError Unit :=
  lexical b byteLimit depth members true (some bounds)

/-- `json.Decoder.Decode` of the first value of a text, with `UseNumber`. -/
def decode (b : Bytes) : Option Any :=
  (Raw.scan (2 * b.length + 2) Raw.maxNestingDepth b).bind fun read => decodeAny read.1

def parse (b : Bytes) (byteLimit depth members : Nat) : Except ParseError Any := do
  lexical b byteLimit depth members false none
  match decode b with
  | none => .error .invalid
  | some v => .ok v

end Sessionless.StrictJson
