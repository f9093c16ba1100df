import StudioRental.Text.Utf8

/-!
Form encoding (`application/x-www-form-urlencoded`) of name-value pairs.

Encoding writes each pair as `name=value`, pairs joined by `&`. In names and values the ASCII
letters and digits and `*`, `-`, `.`, `_` stand for themselves, a space becomes `+`, and every
other byte of the UTF-8 form is written `%XX` with upper-case hexadecimal digits.

Decoding takes the pieces between `&` in order, skipping empty ones, and splits each at its first
`=` (a piece without one has an empty value). In names and values `+` stands for a space and `%`
with two hexadecimal digits for that byte (any other `%` stays as it is); the bytes are then read
as UTF-8, a broken piece becoming U+FFFD.
-/

namespace StudioRental

namespace FormUrl

/-- The upper-case hexadecimal digit of a value below 16. -/
def hexUpper (n : Nat) : Char :=
  if n < 10 then Char.ofNat (48 + n) else Char.ofNat (55 + n)

/-- Whether a byte stands for itself in a form-encoded text. -/
def isPlain (b : UInt8) : Bool :=
  let c := Char.ofNat b.toNat
  (b < 128 && c.isAlphanum) || c == '*' || c == '-' || c == '.' || c == '_'

/-- A text in form encoding. -/
def encodeText (s : String) : String :=
  String.join (s.toUTF8.toList.map fun b =>
    if isPlain b then (Char.ofNat b.toNat).toString
    else if b == 32 then "+"
    else String.ofList ['%', hexUpper (b.toNat / 16), hexUpper (b.toNat % 16)])

/-- Pairs in form encoding. -/
def encode (pairs : List (String × String)) : String :=
  "&".intercalate (pairs.map fun (k, v) => encodeText k ++ "=" ++ encodeText v)

/-- The value of a hexadecimal digit byte. -/
def hexByte? (b : UInt8) : Option Nat :=
  if 48 ≤ b && b ≤ 57 then some (b.toNat - 48)
  else if 97 ≤ b && b ≤ 102 then some (b.toNat - 87)
  else if 65 ≤ b && b ≤ 70 then some (b.toNat - 55)
  else none

/-- Replace each `%` and two hexadecimal digits by the byte they give; other bytes stay. -/
def percentDecode : List UInt8 → List UInt8
  | [] => []
  | b :: rest =>
    if b = 37 then
      match _hr : rest with
      | h :: l :: more =>
        match hexByte? h, hexByte? l with
        | some x, some y => (x * 16 + y).toUInt8 :: percentDecode more
        | _, _ => b :: percentDecode rest
      | _ => b :: percentDecode rest
    else b :: percentDecode rest
  termination_by bytes => bytes.length
  decreasing_by all_goals simp_all <;> omega

/-- A name or value of a form: `+` is a space, then escapes are decoded and the bytes read. -/
def decodeComponent (bytes : List UInt8) : String :=
  Utf8.decodeLossy (percentDecode (bytes.map fun b => if b = 43 then 32 else b))

/-- The name-value pairs of a form-encoded text, in order. -/
def decode (s : String) : List (String × String) :=
  ((s.toUTF8.data.toList.splitOn 38).filter (!·.isEmpty)).map fun piece =>
    match piece.span (· != 61) with
    | (name, []) => (decodeComponent name, "")
    | (name, _ :: value) => (decodeComponent name, decodeComponent value)

end FormUrl

end StudioRental
