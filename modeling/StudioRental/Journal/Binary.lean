import StudioRental.Text.Map
import StudioRental.Number.Power

/-!
The binary layout of journal records: fixed-width little-endian integers, text as its UTF-8
length in eight bytes followed by the bytes, an optional value as a tag byte (`0` for none,
`1` followed by the value), the variant of an enumeration as its position in four bytes, and a
map as its entry count in eight bytes followed by the entries.

The functions of `Binary` write a value; a `Decoder` reads one at a position of a byte string
and fails on a short string, a malformed UTF-8 text or a tag out of range. Bytes after a
complete value are left unread.
-/

namespace StudioRental

open scoped CorePow

namespace Binary

/-- The low `n` bytes of `v`, least significant first. -/
def littleEndian (n : Nat) (v : Nat) : ByteArray :=
  ⟨((List.range n).map fun i => (v / 256 ^ i % 256).toUInt8).toArray⟩

/-- A number of four bytes. -/
def u32 (v : Nat) : ByteArray := littleEndian 4 v

/-- A number of eight bytes. -/
def u64 (v : Nat) : ByteArray := littleEndian 8 v

/-- A signed number of eight bytes, in two's complement. -/
def i64 (v : Int) : ByteArray := littleEndian 8 (v % 2 ^ (64 : Nat)).toNat

/-- Text: its UTF-8 length, then its bytes. -/
def text (s : String) : ByteArray := u64 s.utf8ByteSize ++ s.toUTF8

/-- An optional value. -/
def option (enc : α → ByteArray) : Option α → ByteArray
  | none => ⟨#[0]⟩
  | some a => ⟨#[1]⟩ ++ enc a

/-- A map of text to text, in its order. -/
def textMap (m : TextMap) : ByteArray :=
  m.foldl (fun acc (k, v) => acc ++ text k ++ text v) (u64 m.length)

end Binary

/-- A reader of a value at a position of a byte string, giving the value and the position after
it. -/
def Decoder (α : Type) : Type := ByteArray → Nat → Option (α × Nat)

namespace Decoder

instance : Monad Decoder where
  pure a := fun _ p => some (a, p)
  bind m f := fun b p => match m b p with
    | some (a, p') => f a b p'
    | none => none

/-- Fail. -/
def fail : Decoder α := fun _ _ => none

/-- Lift an optional value. -/
def ofOption : Option α → Decoder α
  | some a => pure a
  | none => fail

/-- The next `n` bytes. -/
def take (n : Nat) : Decoder ByteArray := fun b p =>
  if p + n ≤ b.size then some (b.extract p (p + n), p + n) else none

/-- The value of bytes read least significant first. -/
def valueOf (bytes : ByteArray) : Nat :=
  bytes.data.toList.foldr (fun x acc => acc * 256 + x.toNat) 0

/-- An unsigned number of `n` bytes. -/
def unsigned (n : Nat) : Decoder Nat := do return valueOf (← take n)

/-- A signed number of eight bytes. -/
def i64 : Decoder Int := do
  let v ← unsigned 8
  return if v < 2 ^ (63 : Nat) then v else (v : Int) - 2 ^ (64 : Nat)

/-- Text: a length, then that many bytes of well-formed UTF-8. -/
def text : Decoder String := do
  let n ← unsigned 8
  ofOption (String.fromUTF8? (← take n))

/-- An optional value. -/
def option (d : Decoder α) : Decoder (Option α) := do
  match ← unsigned 1 with
  | 0 => return none
  | 1 => return some (← d)
  | _ => fail

/-- The variant of an enumeration, read through `ofIndex?`. -/
def variant (ofIndex? : Nat → Option α) : Decoder α := do
  ofOption (ofIndex? (← unsigned 4))

/-- `n` entries of a map of text to text, in the order read. -/
def entries : Nat → Decoder (List (String × String))
  | 0 => pure []
  | n + 1 => do
    let k ← text
    let v ← text
    return (k, v) :: (← entries n)

/-- A map of text to text. A key read twice keeps its last value, and the keys come out in
byte order. -/
def textMap : Decoder TextMap := do
  let n ← unsigned 8
  return TextMap.ofList (← entries n)

/-- Run a reader from the start of a byte string; trailing bytes are allowed. -/
def run (d : Decoder α) (b : ByteArray) : Option α :=
  (d b 0).map (·.1)

end Decoder

end StudioRental
