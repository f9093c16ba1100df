import StudioRental.Server.Payments
import StudioRental.Proofs.Text.Map
import StudioRental.Proofs.Text.Trim
import Mathlib

/-!
Custom parameters are normalised without loss, and normalising again changes nothing.

A custom parameter is signed under `Shp_` and its bare name: its key trimmed of blanks, with a
leading `Shp_` in any ASCII case cut off when the trimmed key is longer than four bytes
(`shpBare`). So `Shp_` alone keeps its four bytes as its bare name, and `user`, `Shp_user` and
`SHP_user ` all name `user`. The main result, `normalizeShp_lossless`, says that normalising
refuses only with a validation error; that it refuses exactly when there are more than 16
parameters, a bare name is empty or holds a character other than an ASCII letter, digit or `_`,
a value is longer than 256 characters, or two parameters have the same bare name; and that
otherwise it gives one entry per parameter, under `Shp_` and its bare name with its value, in
key order, each key a custom parameter name, and a map that normalises to itself.

The normalisation is a fold that enters each parameter or refuses it; `normalizeShp_eq_ok_iff`
reads it through `TextMap.foldlM_enter_eq_ok_iff`. Idempotence rests on `shpBare_prefixed`: a
prefixed well-formed name trims to itself and loses exactly its prefix again.
-/

namespace StudioRental

namespace Server

/-- The bare name a custom parameter is signed under: its key trimmed of blanks, with a leading
`Shp_` in any ASCII case cut off when the trimmed key is longer than four bytes. -/
def shpBare (key : String) : String :=
  let t := Text.trimBlank key
  if 4 < t.utf8ByteSize ∧ (t.toList.take 4).map Char.toLower = "shp_".toList then
    String.ofList (t.toList.drop 4)
  else t

/-- A bare name that may be signed: non-empty, made of ASCII letters, digits and `_`. -/
def NameOk (b : String) : Prop := b ≠ "" ∧ ∀ c ∈ b.toList, c.isAlphanum = true ∨ c = '_'

/-! ### Characters -/

section Chars

variable {c : Char}

theorem utf8Size_of_toLower (h : c.toLower.toNat < 128) : c.utf8Size = 1 := by
  rw [Char.utf8Size_eq_one_iff, UInt32.le_iff_toNat_le]
  unfold Char.toLower at h
  split at h
  · rename_i hupper
    have := (UInt32.le_iff_toNat_le).1 hupper.2
    exact Nat.le_trans this (by decide)
  · exact Nat.le_of_lt_succ h

theorem toLower_eq_underscore : c.toLower = '_' ↔ c = '_' := by
  constructor
  · intro h
    unfold Char.toLower at h
    split at h
    · -- a lowered capital is a small letter, never `_`
      rename_i hupper
      have hval := congrArg (fun d : Char => d.val.toNat) h
      have hZ := (UInt32.le_iff_toNat_le).1 hupper.2
      have hA := (UInt32.le_iff_toNat_le).1 hupper.1
      simp only [UInt32.toNat_add] at hval
      change c.val.toNat ≤ 90 at hZ
      change 65 ≤ c.val.toNat at hA
      change (c.val.toNat + 32) % 4294967296 = 95 at hval
      omega
    · exact h
  · rintro rfl
    decide

theorem toNat_lt_of_nameChar (h : c.isAlphanum = true ∨ c = '_') : c.toNat < 128 := by
  rcases h with h | rfl
  · simp only [Char.isAlphanum, Char.isAlpha, Char.isUpper, Char.isLower, Char.isDigit,
      Bool.or_eq_true, Bool.and_eq_true, decide_eq_true_eq, UInt32.le_iff_toNat_le] at h
    change c.val.toNat < 128
    have : 'z'.val.toNat = 122 := rfl
    have : 'Z'.val.toNat = 90 := rfl
    have : '9'.val.toNat = 57 := rfl
    omega
  · decide

theorem isBlank_of_nameChar (h : c.isAlphanum = true ∨ c = '_') : Text.isBlank c = false := by
  rcases h with h | rfl
  · simp only [Char.isAlphanum, Char.isAlpha, Char.isUpper, Char.isLower, Char.isDigit,
      Bool.or_eq_true, Bool.and_eq_true, decide_eq_true_eq, UInt32.le_iff_toNat_le] at h
    have : 'z'.val.toNat = 122 := rfl
    have : 'A'.val.toNat = 65 := rfl
    have : 'a'.val.toNat = 97 := rfl
    have : '0'.val.toNat = 48 := rfl
    have : 'Z'.val.toNat = 90 := rfl
    have : '9'.val.toNat = 57 := rfl
    exact Text.isBlank_of_lt (by omega) (by omega)
  · decide

end Chars

/-! ### The bare name -/

theorem utf8ByteSize_eq_utf8Len (t : String) : t.utf8ByteSize = String.utf8Len t.toList := by
  rw [← String.utf8ByteSize_ofList, String.ofList_toList]

/-- The code's test for a custom parameter name is the byte-length reading: more than four bytes,
of which the first four are `Shp_` in any ASCII case. -/
theorem isShpKey_iff (t : String) :
    Signature.isShpKey t = true ↔
      4 < t.utf8ByteSize ∧ (t.toList.take 4).map Char.toLower = "shp_".toList := by
  unfold Signature.isShpKey
  rw [utf8ByteSize_eq_utf8Len]
  have hshp : "shp_".toList = ['s', 'h', 'p', '_'] := rfl
  rw [hshp]
  -- the cases follow the number of characters: fewer than four, exactly four, more
  rcases h : t.toList with _ | ⟨a, _ | ⟨b, _ | ⟨c, _ | ⟨d, _ | ⟨e, rest⟩⟩⟩⟩⟩ <;>
    simp only [List.take, List.map, List.cons.injEq, List.map_nil, reduceCtorEq, and_false,
      Bool.false_eq_true, false_iff, not_and, String.utf8Len_cons, String.utf8Len_nil]
  · -- four ASCII characters are four bytes, not more
    intro hlen ha hb hc hd
    rw [utf8Size_of_toLower (c := a) (by rw [ha]; decide),
      utf8Size_of_toLower (c := b) (by rw [hb]; decide),
      utf8Size_of_toLower (c := c) (by rw [hc]; decide),
      utf8Size_of_toLower (c := d) (by rw [hd]; decide)] at hlen
    omega
  · have hpos := Char.utf8Size_pos
    simp only [Bool.and_eq_true, beq_iff_eq, toLower_eq_underscore, and_true]
    constructor
    · rintro ⟨⟨⟨ha, hb⟩, hc⟩, hd⟩
      refine ⟨?_, ha, hb, hc, hd⟩
      have := hpos a
      have := hpos b
      have := hpos c
      have := hpos d
      have := hpos e
      omega
    · rintro ⟨-, ha, hb, hc, hd⟩
      exact ⟨⟨⟨ha, hb⟩, hc⟩, hd⟩

theorem bare_eq_shpBare (key : String) :
    (if Signature.isShpKey (Text.trimBlank key) = true then
      String.ofList ((Text.trimBlank key).toList.drop 4) else Text.trimBlank key) = shpBare key := by
  unfold shpBare
  by_cases h : Signature.isShpKey (Text.trimBlank key) = true
  · rw [if_pos h, if_pos ((isShpKey_iff _).1 h)]
  · rw [if_neg h, if_neg (mt (isShpKey_iff _).2 h)]

theorem nameTest_eq_true_iff (b : String) :
    (b.isEmpty || !b.toList.all fun c => decide (c.toNat < 128) && c.isAlphanum || c == '_') =
      true ↔ ¬ NameOk b := by
  -- the test's own bound on the code point adds nothing for letters, digits and `_`
  have hchar : ∀ c : Char, (decide (c.toNat < 128) && c.isAlphanum || c == '_') = true ↔
      c.isAlphanum = true ∨ c = '_' := by
    intro c
    simp only [Bool.or_eq_true, Bool.and_eq_true, decide_eq_true_eq, beq_iff_eq]
    constructor
    · rintro (⟨-, h⟩ | h)
      · exact .inl h
      · exact .inr h
    · rintro (h | h)
      · exact .inl ⟨toNat_lt_of_nameChar (.inl h), h⟩
      · exact .inr h
  have hall : (b.toList.all fun c => decide (c.toNat < 128) && c.isAlphanum || c == '_') = true ↔
      ∀ c ∈ b.toList, c.isAlphanum = true ∨ c = '_' := by
    rw [List.all_eq_true]
    exact forall₂_congr fun c _ => hchar c
  rw [Bool.or_eq_true, String.isEmpty_iff, Bool.not_eq_true', Bool.eq_false_iff, Ne, hall]
  unfold NameOk
  rw [not_and_or, not_not]

section Prefixed

variable {b : String}

theorem utf8ByteSize_pos (hb : b ≠ "") : 0 < b.utf8ByteSize := by
  rw [utf8ByteSize_eq_utf8Len]
  cases h : b.toList with
  | nil => exact absurd (String.toList_eq_nil_iff.1 h) hb
  | cons c cs =>
    rw [String.utf8Len_cons]
    exact Nat.lt_of_lt_of_le (Char.utf8Size_pos c) (Nat.le_add_left _ _)

theorem toList_shpPrefix_append : (shpPrefix ++ b).toList = ['S', 'h', 'p', '_'] ++ b.toList := by
  rw [String.toList_append]
  rfl

theorem isShpKey_prefixed (hb : NameOk b) : Signature.isShpKey (shpPrefix ++ b) = true := by
  rw [isShpKey_iff, String.utf8ByteSize_append, toList_shpPrefix_append]
  have := utf8ByteSize_pos hb.1
  exact ⟨by rw [show shpPrefix.utf8ByteSize = 4 by decide]; omega, rfl⟩

/-- A prefixed well-formed name trims to itself and loses exactly its prefix again. -/
theorem shpBare_prefixed (hb : NameOk b) : shpBare (shpPrefix ++ b) = b := by
  -- no blank at either end: it starts with `S` and ends with a letter, a digit or `_`
  have htrim : Text.trimBlank (shpPrefix ++ b) = shpPrefix ++ b := by
    have hcore : Text.Trimmed (shpPrefix ++ b).toList := by
      rw [toList_shpPrefix_append]
      refine ⟨fun c hc => ?_, fun c hc => ?_⟩
      · cases hc
        decide
      · rw [List.getLast?_append] at hc
        cases hl : b.toList.getLast? with
        | none => exact absurd (String.toList_eq_nil_iff.1 (List.getLast?_eq_none_iff.1 hl)) hb.1
        | some d =>
          rw [hl, Option.some_or, Option.mem_some_iff] at hc
          subst hc
          exact isBlank_of_nameChar (hb.2 _ (List.mem_of_getLast? hl))
    have := @Text.trimBlank_of_decompose [] _ [] (by simp) (by simp) hcore
    rwa [List.nil_append, List.append_nil, String.ofList_toList] at this
  unfold shpBare
  rw [htrim, if_pos ((isShpKey_iff _).1 (isShpKey_prefixed hb)), toList_shpPrefix_append]
  simp only [List.cons_append, List.drop_succ_cons, List.drop_zero, List.nil_append,
    String.ofList_toList]

end Prefixed

/-! ### The normalisation as a fold -/

/-- Normalising succeeds exactly when there are at most 16 parameters, each has a well-formed bare
name and a value of at most 256 characters, and the prefixed names are distinct; it then enters
each parameter under its prefixed name. -/
theorem normalizeShp_eq_ok_iff (params M : TextMap) :
    normalizeShp params = .ok M ↔ params.length ≤ maxShpParams ∧
      (∀ e ∈ params, NameOk (shpBare e.1) ∧ e.2.length ≤ maxShpValue) ∧
      (params.map fun e => shpPrefix ++ shpBare e.1).Nodup ∧
      M = params.foldl (fun (m : TextMap) e => m.insert (shpPrefix ++ shpBare e.1) e.2) [] := by
  unfold normalizeShp
  simp only [bind, Except.bind, throw, throwThe, MonadExceptOf.throw, pure, Except.pure]
  split
  · rename_i hmany
    exact iff_of_false (fun h => by cases h) fun h => absurd h.1 (Nat.not_le.2 hmany)
  · rename_i hfew
    refine (@TextMap.foldlM_enter_eq_ok_iff (fun e => shpPrefix ++ shpBare e.1)
      (fun e => NameOk (shpBare e.1) ∧ e.2.length ≤ maxShpValue) _ ?_ ?_ params [] M).trans ?_
    · -- a good parameter under a new name is entered
      rintro acc ⟨key, value⟩ ⟨hname, hlen⟩ hnew
      dsimp only
      simp only [bare_eq_shpBare]
      rw [if_neg (mt (nameTest_eq_true_iff _).1 (not_not.2 hname)), if_neg (Nat.not_lt.2 hlen),
        if_neg]
      rw [List.any_eq_true]
      rintro ⟨x, hx, hkey⟩
      exact hnew (beq_iff_eq.1 hkey ▸ List.mem_map_of_mem hx)
    · -- any other parameter is refused with a validation error
      rintro acc ⟨key, value⟩ hbad
      dsimp only at hbad ⊢
      simp only [bare_eq_shpBare]
      split
      · exact ⟨_, rfl⟩
      · rename_i hname
        split
        · exact ⟨_, rfl⟩
        · rename_i hlen
          split
          · exact ⟨_, rfl⟩
          · -- a name not entered before: then the parameter was good, against `hbad`
            rename_i hdup
            refine absurd ⟨⟨not_not.1 (mt (nameTest_eq_true_iff _).2 hname),
              Nat.le_of_not_lt hlen⟩, fun hmem => hdup ?_⟩ hbad
            obtain ⟨x, hx, hkey⟩ := List.mem_map.1 hmem
            exact List.any_eq_true.2 ⟨x, hx, beq_iff_eq.2 hkey⟩
    · simp [Nat.le_of_not_lt hfew]

theorem normalizeShp_error_validation {params : TextMap} {err : Error}
    (h : normalizeShp params = .error err) : ∃ t, err = .validation t := by
  unfold normalizeShp at h
  simp only [bind, Except.bind, throw, throwThe, MonadExceptOf.throw, pure, Except.pure] at h
  split at h
  · exact ⟨_, (Except.error.inj h).symm⟩
  · refine TextMap.foldlM_enter_eq_error ?_ params [] err h
    rintro acc ⟨key, value⟩ e hkv
    dsimp only at hkv
    split_ifs at hkv <;> exact ⟨_, (Except.error.inj hkv).symm⟩

theorem nodup_prefixed_iff (l : TextMap) :
    (l.map fun e => shpPrefix ++ shpBare e.1).Nodup ↔ (l.map fun e => shpBare e.1).Nodup := by
  have hinj : Function.Injective (shpPrefix ++ ·) := fun a b h =>
    String.toList_injective (List.append_cancel_left (by
      rw [← String.toList_append, ← String.toList_append]
      exact congrArg String.toList h))
  have hmap : (l.map fun e => shpPrefix ++ shpBare e.1) =
      (l.map fun e => shpBare e.1).map (shpPrefix ++ ·) := by
    simp only [List.map_map, Function.comp_def]
  rw [hmap, List.nodup_map_iff hinj]

/-- What normalising gives is, in some order, each parameter under its prefixed bare name, and
its keys increase. -/
theorem normalizeShp_perm {params M : TextMap} (h : normalizeShp params = .ok M) :
    M.Perm (params.map fun e => (shpPrefix ++ shpBare e.1, e.2)) ∧ TextMap.Ordered M := by
  obtain ⟨-, -, hnodup, rfl⟩ := (normalizeShp_eq_ok_iff params M).1 h
  have hperm := TextMap.foldl_insert_perm params [] hnodup (by simp)
  rw [List.nil_append] at hperm
  exact ⟨hperm, TextMap.Ordered.foldl_insert List.Pairwise.nil⟩

/-- Normalising custom parameters loses nothing and is idempotent. It refuses only with a
validation error, and exactly when there are more than 16 parameters, some bare name is not
well formed or some value is longer than 256 characters, or two parameters share a bare name.
What it gives has one entry per parameter, holds each parameter under `Shp_` and its bare name
with its value, keeps its keys in order, has only custom parameter names as keys, and normalises
to itself. -/
theorem normalizeShp_lossless (params : TextMap) :
    (∀ err, normalizeShp params = .error err → ∃ t, err = .validation t) ∧
    ((∃ M, normalizeShp params = .ok M) ↔ params.length ≤ maxShpParams ∧
      (∀ e ∈ params, NameOk (shpBare e.1) ∧ e.2.length ≤ maxShpValue) ∧
      (params.map fun e => shpBare e.1).Nodup) ∧
    ∀ M, normalizeShp params = .ok M →
      M.length = params.length ∧ (∀ e ∈ params, (shpPrefix ++ shpBare e.1, e.2) ∈ M) ∧
      TextMap.Ordered M ∧ (∀ x ∈ M, Signature.isShpKey x.1 = true) ∧ normalizeShp M = .ok M := by
  refine ⟨fun err h => normalizeShp_error_validation h, ?_, fun M hM => ?_⟩
  · rw [← nodup_prefixed_iff]
    constructor
    · rintro ⟨M, hM⟩
      obtain ⟨hlen, hgood, hnodup, -⟩ := (normalizeShp_eq_ok_iff params M).1 hM
      exact ⟨hlen, hgood, hnodup⟩
    · rintro ⟨hlen, hgood, hnodup⟩
      exact ⟨_, (normalizeShp_eq_ok_iff params _).2 ⟨hlen, hgood, hnodup, rfl⟩⟩
  · obtain ⟨hlen, hgood, -, -⟩ := (normalizeShp_eq_ok_iff params M).1 hM
    obtain ⟨hperm, hord⟩ := normalizeShp_perm hM
    -- every entry of the result is a parameter under its prefixed, well-formed bare name
    have hentry : ∀ x ∈ M, ∃ e ∈ params, x = (shpPrefix ++ shpBare e.1, e.2) := fun x hx => by
      obtain ⟨e, he, rfl⟩ := List.mem_map.1 (hperm.mem_iff.1 hx)
      exact ⟨e, he, rfl⟩
    have hkey : ∀ x ∈ M, shpPrefix ++ shpBare x.1 = x.1 := fun x hx => by
      obtain ⟨e, he, rfl⟩ := hentry x hx
      exact congrArg (shpPrefix ++ ·) (shpBare_prefixed (hgood e he).1)
    have hlength : M.length = params.length := by rw [hperm.length_eq, List.length_map]
    refine ⟨hlength, fun e he => hperm.mem_iff.2 (List.mem_map_of_mem he), hord,
      fun x hx => ?_, ?_⟩
    · obtain ⟨e, he, rfl⟩ := hentry x hx
      exact isShpKey_prefixed (hgood e he).1
    · -- normalising again meets every check and enters the entries in their own order
      refine (normalizeShp_eq_ok_iff M M).2 ⟨hlength ▸ hlen, fun x hx => ?_, ?_, ?_⟩
      · obtain ⟨e, he, rfl⟩ := hentry x hx
        rw [shpBare_prefixed (hgood e he).1]
        exact hgood e he
      · rw [List.map_congr_left hkey]
        exact hord.imp ne_of_lt
      · rw [List.foldl_ext _ (fun (m : TextMap) x => m.insert x.1 x.2) [] fun m x hx => by
          rw [hkey x hx]]
        exact (TextMap.foldl_insert_ordered M [] hord).symm

/-- Keys that are prefixed once, whatever their case. -/
example : normalizeShp [("Shp_room", "a"), ("user", "42")] =
    .ok [("Shp_room", "a"), ("Shp_user", "42")] := by
  rfl

end Server

end StudioRental
