/-!
Decoding UTF-8 bytes into text, putting U+FFFD in place of each broken piece.

A broken piece is the longest start of a well-formed sequence that cannot be completed (or a
single byte that starts none): a lead byte `C2`-`DF` takes one continuation byte (`80`-`BF`);
`E0` takes `A0`-`BF`, `ED` takes `80`-`9F` and the other `E1`-`EF` take `80`-`BF`, then one more
continuation; `F0` takes `90`-`BF`, `F4` takes `80`-`8F` and `F1`-`F3` take `80`-`BF`, then two
more. Each piece gives one replacement character, and decoding goes on at the byte that broke
it.
-/

namespace StudioRental

namespace Utf8

/-- The replacement character. -/
def replacement : Char := Char.ofNat 0xFFFD

/-- Whether a byte continues a sequence. -/
def isContinuation (b : UInt8) : Bool := 0x80 ≤ b && b ≤ 0xBF

/-- The payload bits of a continuation byte. -/
def low (b : UInt8) : Nat := b.toNat % 64

/-- The range allowed for the byte after a three- or four-byte lead. -/
def secondRange (lead : UInt8) : UInt8 × UInt8 :=
  if lead = 0xE0 then (0xA0, 0xBF)
  else if lead = 0xED then (0x80, 0x9F)
  else if lead = 0xF0 then (0x90, 0xBF)
  else if lead = 0xF4 then (0x80, 0x8F)
  else (0x80, 0xBF)

/-- Decode bytes, `acc` holding the characters so far, last first; each step reads at least one
byte, so fuel of one more than the bytes is enough. -/
def decodeFrom : Nat → List UInt8 → List Char → List Char
  | 0, _, acc => acc.reverse
  | _ + 1, [], acc => acc.reverse
  | fuel + 1, b :: rest, acc =>
    if b < 0x80 then decodeFrom fuel rest (Char.ofNat b.toNat :: acc)
    else if 0xC2 ≤ b && b ≤ 0xDF then
      match rest with
      | c :: more =>
        if isContinuation c then decodeFrom fuel more (Char.ofNat ((b.toNat % 32) * 64 + low c) :: acc)
        else decodeFrom fuel rest (replacement :: acc)
      | [] => decodeFrom fuel rest (replacement :: acc)
    else if 0xE0 ≤ b && b ≤ 0xEF then
      let (lo, hi) := secondRange b
      match rest with
      | c1 :: more1 =>
        if lo ≤ c1 && c1 ≤ hi then
          match more1 with
          | c2 :: more2 =>
            if isContinuation c2 then
              decodeFrom fuel more2
                (Char.ofNat ((b.toNat % 16) * 4096 + low c1 * 64 + low c2) :: acc)
            else decodeFrom fuel more1 (replacement :: acc)
          | [] => decodeFrom fuel more1 (replacement :: acc)
        else decodeFrom fuel rest (replacement :: acc)
      | [] => decodeFrom fuel rest (replacement :: acc)
    else if 0xF0 ≤ b && b ≤ 0xF4 then
      let (lo, hi) := secondRange b
      match rest with
      | c1 :: more1 =>
        if lo ≤ c1 && c1 ≤ hi then
          match more1 with
          | c2 :: more2 =>
            if isContinuation c2 then
              match more2 with
              | c3 :: more3 =>
                if isContinuation c3 then
                  decodeFrom fuel more3 (Char.ofNat ((b.toNat % 8) * 262144 + low c1 * 4096 +
                    low c2 * 64 + low c3) :: acc)
                else decodeFrom fuel more2 (replacement :: acc)
              | [] => decodeFrom fuel more2 (replacement :: acc)
            else decodeFrom fuel more1 (replacement :: acc)
          | [] => decodeFrom fuel more1 (replacement :: acc)
        else decodeFrom fuel rest (replacement :: acc)
      | [] => decodeFrom fuel rest (replacement :: acc)
    else decodeFrom fuel rest (replacement :: acc)

/-- Decode bytes, replacing broken pieces. -/
def decodeLossy (bytes : List UInt8) : String :=
  String.ofList (decodeFrom (bytes.length + 1) bytes [])

/-- How the bytes at the head of a text read: a whole character of `width` bytes, a broken
piece of `length` bytes, or a sequence the bytes end inside of. -/
inductive Lead where
  | whole (width : Nat)
  | broken (length : Nat)
  | cut

/-- How the sequence at the head of nonempty bytes reads. -/
def lead : List UInt8 → Lead
  | [] => .cut
  | b :: rest =>
    if b < 0x80 then .whole 1
    else if 0xC2 ≤ b && b ≤ 0xDF then
      match rest with
      | c :: _ => if isContinuation c then .whole 2 else .broken 1
      | [] => .cut
    else if 0xE0 ≤ b && b ≤ 0xF4 then
      let (lo, hi) := secondRange b
      let width := if b ≤ 0xEF then 3 else 4
      match rest with
      | [] => .cut
      | c1 :: more1 =>
        if !(lo ≤ c1 && c1 ≤ hi) then .broken 1
        else match more1 with
          | [] => .cut
          | c2 :: more2 =>
            if !isContinuation c2 then .broken 2
            else if width = 3 then .whole 3
            else match more2 with
              | [] => .cut
              | c3 :: _ => if isContinuation c3 then .whole 4 else .broken 3
    else .broken 1

/-- Where bytes stop being UTF-8: the length of the well-formed start, and the number of bytes
of the broken piece there, none when the bytes end inside a sequence. -/
structure Flaw where
  validUpTo : Nat
  length : Option Nat
  deriving Repr, DecidableEq

namespace Flaw

/-- The text reporting a flaw. -/
def message (f : Flaw) : String :=
  match f.length with
  | some n => "invalid utf-8 sequence of " ++ toString n ++ " bytes from index " ++
      toString f.validUpTo
  | none => "incomplete utf-8 byte sequence from index " ++ toString f.validUpTo

end Flaw

/-- The first flaw of the bytes after `offset` well-formed ones; fuel of one more than the bytes
is enough, each step reading at least one byte. -/
def flawFrom : Nat → Nat → List UInt8 → Option Flaw
  | 0, _, _ => none
  | _ + 1, _, [] => none
  | fuel + 1, offset, bytes =>
    match lead bytes with
    | .whole w => flawFrom fuel (offset + w) (bytes.drop w)
    | .broken n => some ⟨offset, some n⟩
    | .cut => some ⟨offset, none⟩

/-- The first place the bytes stop being UTF-8, if any. -/
def firstFlaw (bytes : List UInt8) : Option Flaw :=
  flawFrom (bytes.length + 1) 0 bytes

/-- Decode bytes that must be UTF-8, or report the first flaw. -/
def decodeStrict (bytes : List UInt8) : Except Flaw String :=
  match firstFlaw bytes with
  | some f => .error f
  | none => .ok (decodeLossy bytes)

end Utf8

end StudioRental
