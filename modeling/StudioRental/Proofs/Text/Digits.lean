import StudioRental.Ident.Ulid
import StudioRental.Proofs.Text.Trim
import Mathlib.Algebra.Group.Nat.Defs

/-!
Numbers written as digits and read back.

The readers of the library gather decimal digits one way: what they have times ten, plus the
next digit. That is the library's `Nat.ofDigitChars 10` (`foldl_decimal_eq`), so zeros in front
of a number change nothing and the digits of a number, padded or not, read back as the number
(`ofDigitChars_padded`).

Identifiers are written in base 32, most significant first. Gathered back, `n` digits of a value
give it modulo `32 ^ n` (`foldl_base_digits`); twenty-six digits hold every 128-bit value, so an
identifier reads back as itself (`Ulid.parse?_render`).
-/

namespace StudioRental

namespace Digits

/-- The fold of the readers is the library's reading of decimal digits. -/
theorem foldl_decimal_eq (ds : List Char) (a : Nat) :
    ds.foldl (fun n c => n * 10 + (c.toNat - '0'.toNat)) a = Nat.ofDigitChars 10 ds a := by
  rw [Nat.ofDigitChars_eq_foldl]
  congr 1
  funext n c
  rw [Nat.mul_comm]

/-- Digits padded with zeros in front read back as the number. -/
theorem ofDigitChars_padded (k n : Nat) :
    Nat.ofDigitChars 10 (List.replicate k '0' ++ Nat.toDigits 10 n) 0 = n := by
  rw [Nat.ofDigitChars_append, Nat.ofDigitChars_replicate_zero, Nat.mul_zero,
    Nat.ofDigitChars_eq_ofDigitChars_zero, Nat.mul_zero, Nat.zero_add, Nat.ofDigitChars_ten_toDigits]

theorem isDigit_of_mem_padded {k n : Nat} {c : Char}
    (h : c ∈ List.replicate k '0' ++ Nat.toDigits 10 n) : c.isDigit = true := by
  rcases List.mem_append.1 h with h | h
  · rw [List.eq_of_mem_replicate h]
    rfl
  · exact Nat.isDigit_of_mem_toDigits (by decide) (by decide) h

theorem length_toDigits_le {n w : Nat} (hw : 0 < w) (h : n < 10 ^ w) :
    (Nat.toDigits 10 n).length ≤ w :=
  (Nat.length_toDigits_le_iff (by decide) hw).2 h

/-- The digits of `v` in base `b`, `n` of them, most significant first, gathered back: `v`
modulo `b ^ n`, after what was gathered before. -/
theorem foldl_base_digits (b v n a : Nat) :
    ((List.range n).reverse.map fun i => v / b ^ i % b).foldl (fun acc d => acc * b + d) a =
      a * b ^ n + v % b ^ n := by
  induction n generalizing a with
  | zero => simp [Nat.mod_one]
  | succ n ih =>
    rw [List.range_succ, List.reverse_append, List.reverse_singleton, List.singleton_append,
      List.map_cons, List.foldl_cons, ih, Nat.mod_pow_succ, Nat.pow_succ]
    -- the leading digit of `n + 1` digits weighs `b ^ n`
    rw [Nat.add_mul, Nat.mul_assoc, Nat.mul_comm b, Nat.mul_comm (v / b ^ n % b)]
    omega

end Digits

namespace Ulid

theorem charValue?_getD {x : Nat} (h : x < 32) : charValue? (alphabet.getD x '0') = some x := by
  have key : ∀ x : Fin 32, charValue? (alphabet.getD x '0') = some x := by decide
  exact key ⟨x, h⟩

/-- An identifier reads back from its text. -/
theorem parse?_render (u : Ulid) : parse? u.render = some u := by
  obtain ⟨v, hv⟩ := u
  have hdigits : ((List.range 26).reverse.map fun i => alphabet.getD (v / 32 ^ i % 32) '0').mapM
      charValue? = some ((List.range 26).reverse.map fun i => v / 32 ^ i % 32) := by
    have hread : (charValue? ∘ fun i => alphabet.getD (v / 32 ^ i % 32) '0') =
        fun i => pure (v / 32 ^ i % 32) := by
      funext i
      exact charValue?_getD (Nat.mod_lt _ (by decide))
    rw [List.mapM_map, hread, List.mapM_pure]
    rfl
  -- twenty-six digits hold 130 bits, so nothing of the value is lost
  have hval : v % 32 ^ 26 % 2 ^ 128 = v := by
    rw [Nat.mod_eq_of_lt (Nat.lt_of_lt_of_le hv (by decide)), Nat.mod_eq_of_lt hv]
  simp only [parse?, render, String.toList_ofList, List.length_map, List.length_reverse,
    List.length_range, bne_self_eq_false, Bool.false_eq_true, if_false, hdigits,
    Digits.foldl_base_digits, Nat.zero_mul, Nat.zero_add, hval]

end Ulid

end StudioRental
