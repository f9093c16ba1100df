import StudioRental.Number.Power

/-!
The SHA-256 digest of a byte string, in lower-case hexadecimal.

The message is padded with one `0x80` byte, zeros up to 56 bytes past a multiple of 64, and
its length in bits as a big-endian 64-bit number; each 64-byte block then runs the 64 rounds
of the compression function over the eight state words, and the digest is the final state
written big-endian. All word arithmetic wraps modulo `2^32`, as the standard defines it.
-/

namespace StudioRental

open scoped CorePow

namespace Sha256

/-- The first 32 bits of the fractional parts of the cube roots of the first 64 primes. -/
def roundConstants : List UInt32 :=
  [0x428a2f98, 0x71374491, 0xb5c0fbcf, 0xe9b5dba5, 0x3956c25b, 0x59f111f1, 0x923f82a4, 0xab1c5ed5,
   0xd807aa98, 0x12835b01, 0x243185be, 0x550c7dc3, 0x72be5d74, 0x80deb1fe, 0x9bdc06a7, 0xc19bf174,
   0xe49b69c1, 0xefbe4786, 0x0fc19dc6, 0x240ca1cc, 0x2de92c6f, 0x4a7484aa, 0x5cb0a9dc, 0x76f988da,
   0x983e5152, 0xa831c66d, 0xb00327c8, 0xbf597fc7, 0xc6e00bf3, 0xd5a79147, 0x06ca6351, 0x14292967,
   0x27b70a85, 0x2e1b2138, 0x4d2c6dfc, 0x53380d13, 0x650a7354, 0x766a0abb, 0x81c2c92e, 0x92722c85,
   0xa2bfe8a1, 0xa81a664b, 0xc24b8b70, 0xc76c51a3, 0xd192e819, 0xd6990624, 0xf40e3585, 0x106aa070,
   0x19a4c116, 0x1e376c08, 0x2748774c, 0x34b0bcb5, 0x391c0cb3, 0x4ed8aa4a, 0x5b9cca4f, 0x682e6ff3,
   0x748f82ee, 0x78a5636f, 0x84c87814, 0x8cc70208, 0x90befffa, 0xa4506ceb, 0xbef9a3f7, 0xc67178f2]

/-- The eight working words of the compression function. -/
structure Words where
  a : UInt32
  b : UInt32
  c : UInt32
  d : UInt32
  e : UInt32
  f : UInt32
  g : UInt32
  h : UInt32

/-- The first 32 bits of the fractional parts of the square roots of the first 8 primes. -/
def initial : Words :=
  ⟨0x6a09e667, 0xbb67ae85, 0x3c6ef372, 0xa54ff53a, 0x510e527f, 0x9b05688c, 0x1f83d9ab, 0x5be0cd19⟩

/-- Rotate a word right by `n` places, `0 < n < 32`. -/
def rotr (x : UInt32) (n : UInt32) : UInt32 := (x >>> n) ||| (x <<< (32 - n))

/-- One round: mix the round constant `k` and the schedule word `w` into the working words. -/
def round (s : Words) (k w : UInt32) : Words :=
  let s1 := rotr s.e 6 ^^^ rotr s.e 11 ^^^ rotr s.e 25
  let ch := (s.e &&& s.f) ^^^ (~~~s.e &&& s.g)
  let t1 := s.h + s1 + ch + k + w
  let s0 := rotr s.a 2 ^^^ rotr s.a 13 ^^^ rotr s.a 22
  let maj := (s.a &&& s.b) ^^^ (s.a &&& s.c) ^^^ (s.b &&& s.c)
  ⟨t1 + s0 + maj, s.a, s.b, s.c, s.d + t1, s.e, s.f, s.g⟩

/-- Words added one by one. -/
def Words.add (x y : Words) : Words :=
  ⟨x.a + y.a, x.b + y.b, x.c + y.c, x.d + y.d, x.e + y.e, x.f + y.f, x.g + y.g, x.h + y.h⟩

/-- Big-endian words of a byte string whose length is a multiple of four. -/
def wordsOf : List UInt8 → List UInt32
  | a :: b :: c :: d :: rest =>
    ((a.toUInt32 <<< 24) ||| (b.toUInt32 <<< 16) ||| (c.toUInt32 <<< 8) ||| d.toUInt32) ::
      wordsOf rest
  | _ => []

/-- The 64-word message schedule of a block given as its 16 words. -/
def schedule (block : List UInt32) : Array UInt32 :=
  (List.range 48).foldl (fun w i =>
    let prev (j : Nat) := w.getD (i + 16 - j) 0
    let x := prev 15
    let y := prev 2
    let sigma0 := rotr x 7 ^^^ rotr x 18 ^^^ (x >>> 3)
    let sigma1 := rotr y 17 ^^^ rotr y 19 ^^^ (y >>> 10)
    w.push (sigma1 + prev 7 + sigma0 + prev 16)) block.toArray

/-- Compress one block of 16 words into the state. -/
def compress (state : Words) (block : List UInt32) : Words :=
  let w := (schedule block).toList
  state.add ((roundConstants.zip w).foldl (fun s (k, x) => round s k x) state)

/-- The padded message: the bytes, `0x80`, zeros, and the bit length in eight bytes. -/
def pad (msg : List UInt8) : List UInt8 :=
  let len := msg.length
  let zeros := (119 - len % 64) % 64
  let bits := len * 8
  msg ++ [0x80] ++ List.replicate zeros 0 ++
    (List.range 8).reverse.map fun i => (bits / 2 ^ (8 * i) % 256).toUInt8

/-- A byte string cut into 64-byte blocks. -/
def blocksOf (bytes : List UInt8) : List (List UInt8) :=
  if bytes.length = 0 then []
  else bytes.take 64 :: blocksOf (bytes.drop 64)
termination_by bytes.length
decreasing_by simp only [List.length_drop]; omega

/-- The final state after all blocks of the padded message. -/
def state (msg : List UInt8) : Words :=
  (blocksOf (pad msg)).foldl (fun s b => compress s (wordsOf b)) initial

/-- The hexadecimal digit of a value below 16. -/
def hexDigit (n : Nat) : Char :=
  if n < 10 then Char.ofNat (48 + n) else Char.ofNat (87 + n)

/-- Eight lower-case hexadecimal digits of a word. -/
def wordHex (w : UInt32) : String :=
  String.ofList ((List.range 8).reverse.map fun i => hexDigit (w.toNat / 16 ^ i % 16))

/-- The digest of a byte string in lower-case hexadecimal, 64 digits. -/
def hexDigest (msg : List UInt8) : String :=
  let s := state msg
  String.join ([s.a, s.b, s.c, s.d, s.e, s.f, s.g, s.h].map wordHex)

/-- The digest of a text's UTF-8 bytes. -/
def ofText (s : String) : String := hexDigest s.toUTF8.data.toList

end Sha256

end StudioRental
