import StudioRental.Digest.Sha256
import StudioRental.Payment.Intent
import StudioRental.Money.Decimal.Text
import StudioRental.Text.Blank

/-!
The gateway's signature scheme.

A signature is the SHA-256 digest, in lower-case hexadecimal, of the signed fields joined by
`:`, followed by `:name=value` for each custom parameter in byte order of the names. Custom
parameters are those whose name starts with `Shp_` in any ASCII case and goes on past it.

A received signature is checked against the expected one after trimming blanks, ignoring ASCII
case, byte by byte over the whole length.
-/

namespace StudioRental

namespace Signature

/-- Sign `parts` and the custom parameters `shp`. -/
def sign (parts : List String) (shp : TextMap) : String :=
  Sha256.ofText (":".intercalate parts ++ String.join (shp.map fun (k, v) => ":" ++ k ++ "=" ++ v))

/-- Equality of two texts when ASCII letters are compared without case. -/
def eqIgnoreAsciiCase (a b : String) : Bool :=
  a.map Char.toLower == b.map Char.toLower

/-- The byte of an ASCII capital letter as the byte of its small letter; every other byte as it
is. -/
def lowerByte (b : UInt8) : UInt8 :=
  if 65 ≤ b ∧ b ≤ 90 then b + 32 else b

/-- Whether the received signature, trimmed of blanks, is the expected one up to ASCII case. The
two must have the same length in bytes; then every pair of bytes is compared, each lower-cased,
and their differences are gathered with `|||` and tested once at the end, so the time taken
does not depend on where the first difference lies. -/
def verify (expected received : String) : Bool :=
  let a := expected.toUTF8.data.toList
  let b := (Text.trimBlank received).toUTF8.data.toList
  if a.length ≠ b.length then false
  else (a.zip b).foldl (fun acc p => acc ||| (lowerByte p.1 ^^^ lowerByte p.2)) 0 == 0

/-- Whether a parameter name is a custom one: `Shp_` in any ASCII case, then at least one more
character. -/
def isShpKey (key : String) : Bool :=
  match key.toList with
  | s :: h :: p :: u :: _ :: _ =>
    s.toLower == 's' && h.toLower == 'h' && p.toLower == 'p' && u == '_'
  | _ => false

/-- An amount as the gateway writes it (`300`, `300.00`), after trimming blanks. -/
def parseAmount (text : String) : Option Decimal :=
  Decimal.parse? (Text.trimBlank text)

end Signature

end StudioRental
