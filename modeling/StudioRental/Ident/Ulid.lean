import StudioRental.Number.Power

/-!
Identifiers: 128-bit values written as 26 characters of Crockford's base 32 alphabet
`0123456789ABCDEFGHJKMNPQRSTVWXYZ` (no I, L, O or U).

Reading accepts either case and exactly 26 characters. Twenty-six characters hold 130 bits, so
the two highest bits of the first character fall off: a first character above `7` reads as a
value whose text starts differently. Writing always gives upper case.
-/

namespace StudioRental

open scoped CorePow

/-- A 128-bit identifier. -/
structure Ulid where
  val : Nat
  val_lt : val < 2 ^ (128 : Nat)

instance : DecidableEq Ulid := fun a b =>
  if h : a.val = b.val then isTrue (by cases a; cases b; simp_all) else isFalse (by
    intro e; exact h (congrArg Ulid.val e))

namespace Ulid

/-- The alphabet, digit value first. -/
def alphabet : List Char := "0123456789ABCDEFGHJKMNPQRSTVWXYZ".toList

/-- The value of one character, upper or lower case. -/
def charValue? (c : Char) : Option Nat :=
  alphabet.idxOf? c.toUpper

/-- The nil identifier, all zeros. -/
def nil : Ulid := ⟨0, by decide⟩

instance : Inhabited Ulid := ⟨nil⟩

/-- Read 26 characters, keeping the low 128 bits. -/
def parse? (s : String) : Option Ulid :=
  let cs := s.toList
  if cs.length != 26 then none
  else
    match cs.mapM charValue? with
    | none => none
    | some vs =>
      let v := vs.foldl (fun acc d => acc * 32 + d) 0 % 2 ^ (128 : Nat)
      some ⟨v, Nat.mod_lt _ (Nat.two_pow_pos 128)⟩

/-- The 26-character upper-case text. -/
def render (u : Ulid) : String :=
  String.ofList ((List.range 26).reverse.map fun i =>
    alphabet.getD (u.val / 32 ^ i % 32) '0')

instance : ToString Ulid := ⟨render⟩

end Ulid

end StudioRental
