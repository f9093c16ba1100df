import StudioRental.Payment.Signature
import Mathlib.Tactic.SplitIfs

/-!
The check of a received signature is equality up to ASCII case.

`Signature.verify` does not stop at the first pair of bytes that differ: once the lengths agree
it gathers the differences of all pairs with `|||` and tests the result once. A gathered `|||`
is zero only when every byte gathered is (`foldl_or_eq_zero_iff`), and `^^^` of two bytes only
when they are equal; and on lists of one length `zip` pairs every byte with the one at its place
(`map_eq_map_iff_zip`). So the check passes exactly when the two byte strings agree once
lower-cased (`verify_iff_map_lowerByte`).

Lower-casing bytes is lower-casing characters: an ASCII capital is a single byte, moved by 32,
and every byte of a character beyond ASCII lies at 128 or above, where `lowerByte` changes
nothing (`utf8EncodeChar_toLower`). Texts with the same bytes are the same text, so the check is
equality of the two texts with their ASCII capitals lowered (`verify_eq_eqIgnoreAsciiCase`).
Against an expected value in lower-case hexadecimal, such as every signature `sign` makes, it is
equality with the received text trimmed and lowered (`verify_iff_bytes_agree_ignoring_case`).
-/

namespace StudioRental

namespace Signature

/-! ### Gathering differences -/

section Gather

variable {α : Type}

/-- Differences gathered with `|||` are zero exactly when each one is. -/
theorem foldl_or_eq_zero_iff (f : α → UInt8) (l : List α) (init : UInt8) :
    l.foldl (fun acc x => acc ||| f x) init = 0 ↔ init = 0 ∧ ∀ x ∈ l, f x = 0 := by
  induction l generalizing init with
  | nil => simp
  | cons x l ih =>
    rw [List.foldl_cons, ih, UInt8.or_eq_zero_iff, List.forall_mem_cons, and_assoc]

/-- Lists of one length agree after `f` exactly when every pair that `zip` forms does. -/
theorem map_eq_map_iff_zip {β : Type} (f : α → β) :
    ∀ {a b : List α}, a.length = b.length →
      (a.map f = b.map f ↔ ∀ p ∈ a.zip b, f p.1 = f p.2)
  | [], [], _ => by simp
  | x :: a, y :: b, h => by
    simp only [List.map_cons, List.cons.injEq, List.zip_cons_cons, List.forall_mem_cons]
    rw [map_eq_map_iff_zip f (by simpa using h)]
  | [], _ :: _, h | _ :: _, [], h => by simp at h

end Gather

/-- The check passes exactly when the bytes of the expected text and of the trimmed received
text agree once lower-cased. -/
theorem verify_iff_map_lowerByte (expected received : String) :
    verify expected received = true ↔
      expected.toUTF8.data.toList.map lowerByte =
        (Text.trimBlank received).toUTF8.data.toList.map lowerByte := by
  dsimp only [verify]
  split
  · rename_i hlen
    -- byte strings of different lengths never agree
    simp only [Bool.false_eq_true, false_iff]
    exact fun h => hlen (by simpa using congrArg List.length h)
  · rename_i hlen
    rw [beq_iff_eq, foldl_or_eq_zero_iff, map_eq_map_iff_zip _ (Decidable.of_not_not hlen)]
    simp

theorem map_lowerByte_eq_iff (a b : ByteArray) :
    a.data.toList.map lowerByte = b.data.toList.map lowerByte ↔
      a.size = b.size ∧
        ∀ i (h₁ : i < a.size) (h₂ : i < b.size), lowerByte a[i] = lowerByte b[i] := by
  rw [List.ext_getElem_iff]
  simp [ByteArray.getElem_eq_getElem_data]

/-! ### Lower-casing bytes and characters -/

theorem toNat_toLower (c : Char) :
    c.toLower.toNat = if 65 ≤ c.toNat ∧ c.toNat ≤ 90 then c.toNat + 32 else c.toNat := by
  have hA : 'A'.toNat = 65 := rfl
  have hZ : 'Z'.toNat = 90 := rfl
  unfold Char.toLower
  split
  · rename_i h
    simp only [ge_iff_le, UInt32.le_iff_toNat_le, Char.toNat_val] at h
    rw [if_pos (by omega)]
    show (c.val + ('a'.val - 'A'.val)).toNat = c.toNat + 32
    have h32 : ('a'.val - 'A'.val).toNat = 32 := rfl
    rw [UInt32.toNat_add, h32, Char.toNat_val]
    omega
  · rename_i h
    simp only [ge_iff_le, UInt32.le_iff_toNat_le, Char.toNat_val] at h
    rw [if_neg (by omega)]

theorem lowerByte_ofNat {n : Nat} (hn : n < 256) :
    lowerByte (UInt8.ofNat n) = UInt8.ofNat (if 65 ≤ n ∧ n ≤ 90 then n + 32 else n) := by
  unfold lowerByte
  rw [← UInt8.toNat_inj]
  simp only [UInt8.le_iff_toNat_le, UInt8.toNat_ofNat', UInt8.toNat_ofNat, Nat.mod_eq_of_lt hn]
  split_ifs
  all_goals simp only [UInt8.toNat_add, UInt8.toNat_ofNat', UInt8.toNat_ofNat]
  all_goals omega

theorem lowerByte_ofNat_of_not_upper {n : Nat} (hn : n < 256) (h : n < 65 ∨ 90 < n) :
    lowerByte (UInt8.ofNat n) = UInt8.ofNat n := by
  rw [lowerByte_ofNat hn, if_neg (by omega)]

/-- The bytes of a lower-cased character are its bytes lower-cased. -/
theorem utf8EncodeChar_toLower (c : Char) :
    String.utf8EncodeChar c.toLower = (String.utf8EncodeChar c).map lowerByte := by
  have hlow := toNat_toLower c
  by_cases hup : 65 ≤ c.toNat ∧ c.toNat ≤ 90
  · -- a capital letter is one byte, moved up by 32
    rw [if_pos hup] at hlow
    simp only [String.utf8EncodeChar, Char.toNat_val, hlow]
    rw [if_pos (by omega), if_pos (by omega), List.map_singleton, lowerByte_ofNat (by omega),
      if_pos hup]
  · -- nothing else moves, and no byte of the character is a capital letter
    have hc : c.toLower = c := Char.ext (UInt32.toNat_inj.1 (by simpa [hup] using hlow))
    rw [hc]
    simp only [String.utf8EncodeChar, Char.toNat_val]
    split_ifs <;>
      simp (disch := omega) only [List.map_cons, List.map_nil, lowerByte_ofNat_of_not_upper]

theorem utf8Bytes_eq (s : String) :
    s.toUTF8.data.toList = s.toList.flatMap String.utf8EncodeChar := by
  conv => lhs; rw [← String.ofList_toList (s := s)]
  rw [String.toUTF8_eq_toByteArray, String.toByteArray_ofList, List.utf8Encode,
    List.data_toByteArray, List.toList_toArray]

theorem utf8Bytes_map_toLower (s : String) :
    (s.map Char.toLower).toUTF8.data.toList = s.toUTF8.data.toList.map lowerByte := by
  rw [utf8Bytes_eq, utf8Bytes_eq, String.toList_map, List.flatMap_map, List.map_flatMap]
  simp only [utf8EncodeChar_toLower]

theorem utf8Bytes_inj {s t : String} : s.toUTF8.data.toList = t.toUTF8.data.toList ↔ s = t := by
  rw [Array.toList_inj, ← ByteArray.ext_iff, String.toUTF8_eq_toByteArray,
    String.toUTF8_eq_toByteArray, String.toByteArray_inj]

/-- Texts are equal up to ASCII case exactly when their bytes agree once lower-cased. -/
theorem eqIgnoreAsciiCase_iff (a b : String) :
    eqIgnoreAsciiCase a b = true ↔
      a.toUTF8.data.toList.map lowerByte = b.toUTF8.data.toList.map lowerByte := by
  rw [eqIgnoreAsciiCase, beq_iff_eq, ← utf8Bytes_inj, utf8Bytes_map_toLower,
    utf8Bytes_map_toLower]

theorem eqIgnoreAsciiCase_comm (a b : String) : eqIgnoreAsciiCase a b = eqIgnoreAsciiCase b a :=
  Bool.eq_iff_iff.2 (by rw [eqIgnoreAsciiCase_iff, eqIgnoreAsciiCase_iff, eq_comm])

/-- The check of a received signature is equality up to ASCII case with the received text
trimmed. -/
theorem verify_eq_eqIgnoreAsciiCase (expected received : String) :
    verify expected received = eqIgnoreAsciiCase expected (Text.trimBlank received) :=
  Bool.eq_iff_iff.2 ((verify_iff_map_lowerByte _ _).trans (eqIgnoreAsciiCase_iff _ _).symm)

/-! ### Lower-case hexadecimal -/

theorem toLower_hexDigit {n : Nat} (h : n < 16) :
    (Sha256.hexDigit n).toLower = Sha256.hexDigit n := by
  have : ∀ n : Fin 16, (Sha256.hexDigit n).toLower = Sha256.hexDigit n := by decide
  exact this ⟨n, h⟩

theorem hexDigit_of_mem_sign (parts : List String) (shp : TextMap) :
    ∀ c ∈ (sign parts shp).toList, ∃ n < 16, c = Sha256.hexDigit n := by
  intro c hc
  rw [sign, Sha256.ofText, Sha256.hexDigest, String.toList_join, List.mem_flatMap] at hc
  obtain ⟨t, ht, hc⟩ := hc
  obtain ⟨w, -, rfl⟩ := List.mem_map.1 ht
  rw [Sha256.wordHex, String.toList_ofList] at hc
  obtain ⟨k, -, rfl⟩ := List.mem_map.1 hc
  exact ⟨_, Nat.mod_lt _ (by decide), rfl⟩

theorem map_toLower_of_hex {s : String} (h : ∀ c ∈ s.toList, ∃ n < 16, c = Sha256.hexDigit n) :
    s.map Char.toLower = s := by
  rw [← String.toList_inj, String.toList_map, List.map_congr_left (g := id), List.map_id]
  intro c hc
  obtain ⟨n, hn, rfl⟩ := h c hc
  exact toLower_hexDigit hn

/-- The check of a received signature, which never stops at the first difference, is plain
equality: it passes exactly when the expected text and the trimmed received text have the same
length in bytes and agree at every byte once ASCII capitals are lowered; that is equality up to
ASCII case; and against lower-case hexadecimal it is equality with the trimmed received text
lowered. -/
theorem verify_iff_bytes_agree_ignoring_case (expected received : String) :
    (verify expected received = true ↔
      expected.toUTF8.size = (Text.trimBlank received).toUTF8.size ∧
        ∀ i (h₁ : i < expected.toUTF8.size) (h₂ : i < (Text.trimBlank received).toUTF8.size),
          lowerByte expected.toUTF8[i] = lowerByte (Text.trimBlank received).toUTF8[i]) ∧
    verify expected received = eqIgnoreAsciiCase (Text.trimBlank received) expected ∧
    ((∀ c ∈ expected.toList, ∃ n < 16, c = Sha256.hexDigit n) →
      (verify expected received = true ↔
        expected = (Text.trimBlank received).map Char.toLower)) := by
  refine ⟨(verify_iff_map_lowerByte _ _).trans (map_lowerByte_eq_iff _ _), ?_, fun hhex => ?_⟩
  · rw [verify_eq_eqIgnoreAsciiCase, eqIgnoreAsciiCase_comm]
  · rw [verify_eq_eqIgnoreAsciiCase, eqIgnoreAsciiCase, beq_iff_eq, map_toLower_of_hex hhex]

/-- A signature the gateway echoes in capitals, with blanks around it, passes the check exactly
when lowering the trimmed echo gives the signature back. -/
theorem verify_signature_echo_in_capitals :
    (∀ c ∈ (sign ["300", "7", "pw2"] []).toList, ∃ n < 16, c = Sha256.hexDigit n) ∧
      (verify (sign ["300", "7", "pw2"] []) " 9F86D081 " = true ↔
        sign ["300", "7", "pw2"] [] = (Text.trimBlank " 9F86D081 ").map Char.toLower) :=
  ⟨hexDigit_of_mem_sign _ _,
    (verify_iff_bytes_agree_ignoring_case _ _).2.2 (hexDigit_of_mem_sign _ _)⟩

end Signature

end StudioRental
