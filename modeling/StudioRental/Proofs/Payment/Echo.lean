import StudioRental.Payment.Callback
import StudioRental.Proofs.Text.Trim
import StudioRental.Proofs.Payment.Compare

/-!
Reading back what was signed.

An intent is signed over its invoice number printed as text, and the gateway echoes that text
back; the number reads back as itself (`parseInvoice?_toString`). A form echoes a callback when
each of the amount, the invoice number and the signature is given by exactly one parameter,
named up to ASCII case (`CallbackParams.Echo`); its fields are then read trimmed
(`CallbackParams.ofForm_echo`).

A signature is written in lower-case hexadecimal, so none of its characters is blank, and
checking a received signature against it is equality up to ASCII case once the blanks around the
received text are cut (`Signature.verify_iff_matches`). A callback's signature is therefore valid
exactly when the received text matches the signature of the trimmed amount, the invoice number
and the password over the custom parameters (`CallbackParams.signatureValid_echo`).
-/

namespace StudioRental

/-! ### Invoice numbers as text -/

theorem foldl_toDigits (n : Nat) :
    (Nat.toDigits 10 n).foldl (fun acc c => acc * 10 + ((c.toNat : Int) - 48)) 0 = n := by
  induction n using Nat.strongRecOn with
  | ind n ih =>
    rw [Nat.toDigits_eq_if (by decide)]
    split
    next h =>
      simp only [List.foldl_cons, List.foldl_nil, Nat.toNat_digitChar_of_lt_ten h]
      omega
    next h =>
      rw [List.foldl_append, ih (n / 10) (by omega), List.foldl_cons, List.foldl_nil,
        Nat.toNat_digitChar_of_lt_ten (Nat.mod_lt _ (by decide))]
      omega

theorem toDigits_cons (n : Nat) : ∃ d ds, Nat.toDigits 10 n = d :: ds ∧ d ≠ '+' ∧ d ≠ '-' ∧
    ∀ c ∈ d :: ds, c.isDigit = true := by
  obtain ⟨d, ds, h⟩ := List.exists_cons_of_ne_nil (Nat.toDigits_ne_nil (n := n) (b := 10))
  have hdig : ∀ c ∈ d :: ds, c.isDigit = true := fun c hc =>
    Nat.isDigit_of_mem_toDigits (by decide) (by decide) (h ▸ hc)
  have hd := hdig d List.mem_cons_self
  refine ⟨d, ds, h, ?_, ?_, hdig⟩ <;> rintro rfl <;> simp at hd

theorem toString_toList (i : Int) :
    (toString i).toList =
      if 0 ≤ i then Nat.toDigits 10 i.natAbs else '-' :: Nat.toDigits 10 i.natAbs := by
  rw [Int.toString_eq_repr, Int.repr_eq_if]
  split
  · rw [Nat.toList_repr, show i.toNat = i.natAbs by omega]
  · rw [String.toList_append, Nat.toList_repr, show (-i).toNat = i.natAbs by omega]
    rfl

/-- An invoice number reads back from the text it prints as. -/
theorem parseInvoice?_toString {i : Int} (hlo : invoiceMin ≤ i) (hhi : i ≤ invoiceMax) :
    parseInvoice? (toString i) = some i := by
  obtain ⟨d, ds, hds, hplus, hminus, hdig⟩ := toDigits_cons i.natAbs
  have hval := foldl_toDigits i.natAbs
  rw [hds] at hval
  have hall : (d :: ds).all Char.isDigit = true := List.all_eq_true.2 hdig
  unfold parseInvoice?
  rw [toString_toList, hds]
  by_cases hi : 0 ≤ i
  · rw [if_pos hi]
    split
    next neg digits hsplit =>
      -- digits carry no sign, so the whole text is read as digits
      obtain ⟨rfl, rfl⟩ : neg = false ∧ digits = d :: ds := by
        split at hsplit <;> simp_all
      simp only [List.isEmpty_cons, hall, hval, Int.natAbs_of_nonneg hi]
      simp [hlo, hhi]
  · rw [if_neg hi]
    simp only [List.isEmpty_cons, hall, hval,
      Int.ofNat_natAbs_of_nonpos (Int.le_of_lt (Int.not_le.1 hi))]
    simp [hlo, hhi]

namespace Text

theorem trimBlank_eq_self {s : String} (h : ∀ c ∈ s.toList, isBlank c = false) :
    trimBlank s = s := by
  have hcore : Trimmed s.toList :=
    ⟨fun c hc => h c (List.mem_of_mem_head? hc), fun c hc => h c (List.mem_of_mem_getLast? hc)⟩
  have := @trimBlank_of_decompose [] s.toList [] (by simp) (by simp) hcore
  rwa [List.nil_append, List.append_nil, String.ofList_toList] at this

theorem trimBlank_toString (i : Int) : trimBlank (toString i) = toString i := by
  apply trimBlank_eq_self
  intro c hc
  rw [toString_toList] at hc
  -- a digit, or the minus sign
  have hdigit : ∀ c ∈ Nat.toDigits 10 i.natAbs, isBlank c = false := fun c hc =>
    isBlank_of_isDigit (Nat.isDigit_of_mem_toDigits (by decide) (by decide) hc)
  split at hc
  · exact hdigit c hc
  · rcases List.mem_cons.1 hc with rfl | hc
    · decide
    · exact hdigit c hc

end Text

namespace Signature

/-- `received` is `expected` up to ASCII case, with blanks before and after it. -/
def Matches (expected received : String) : Prop :=
  ∃ pre core post : List Char, (∀ c ∈ pre, Text.isBlank c = true) ∧
    (∀ c ∈ post, Text.isBlank c = true) ∧ received.toList = pre ++ core ++ post ∧
    core.map Char.toLower = expected.toList.map Char.toLower

theorem isBlank_hexDigit {n : Nat} (h : n < 16) : Text.isBlank (Sha256.hexDigit n) = false := by
  have : ∀ n : Fin 16, Text.isBlank (Sha256.hexDigit n) = false := by decide
  exact this ⟨n, h⟩

theorem isBlank_sign (parts : List String) (shp : TextMap) :
    ∀ c ∈ (sign parts shp).toList, Text.isBlank c = false := by
  intro c hc
  obtain ⟨n, hn, rfl⟩ := hexDigit_of_mem_sign parts shp c hc
  exact isBlank_hexDigit hn

theorem parseAmount_trimBlank (t : String) : parseAmount (Text.trimBlank t) = parseAmount t := by
  rw [parseAmount, Text.trimBlank_trimBlank, ← parseAmount]

/-- Against a text with no blank character, the check of a received signature is `Matches`. -/
theorem verify_iff_matches {expected received : String}
    (he : ∀ c ∈ expected.toList, Text.isBlank c = false) :
    verify expected received = true ↔ Matches expected received := by
  have hlower : ∀ a b : String, eqIgnoreAsciiCase a b = true ↔
      b.toList.map Char.toLower = a.toList.map Char.toLower := fun a b => by
    rw [eqIgnoreAsciiCase, beq_iff_eq, ← String.toList_inj, String.toList_map, String.toList_map,
      eq_comm]
  rw [verify_eq_eqIgnoreAsciiCase, hlower]
  constructor
  · intro h
    obtain ⟨pre, post, hpre, hpost, hs, -⟩ := Text.trimBlank_decompose received
    exact ⟨pre, _, post, hpre, hpost, hs, h⟩
  · rintro ⟨pre, core, post, hpre, hpost, hs, hcore⟩
    -- every character of the core lowers to one of the expected text, so none is blank
    have hblank : ∀ c ∈ core, Text.isBlank c = false := fun c hc => by
      have : c.toLower ∈ expected.toList.map Char.toLower :=
        hcore ▸ List.mem_map_of_mem hc
      obtain ⟨d, hd, hdc⟩ := List.mem_map.1 this
      rw [← Text.isBlank_toLower, ← hdc, Text.isBlank_toLower]
      exact he d hd
    have htrim : Text.Trimmed core :=
      ⟨fun c hc => hblank c (List.mem_of_mem_head? hc),
        fun c hc => hblank c (List.mem_of_mem_getLast? hc)⟩
    have hrec : received = String.ofList (pre ++ core ++ post) := by
      rw [← hs, String.ofList_toList]
    rw [hrec, Text.trimBlank_of_decompose hpre hpost htrim, String.toList_ofList, hcore]

end Signature

namespace CallbackParams

/-- The values of the parameters whose name is `name` up to ASCII case. -/
def valuesOf (form : TextMap) (name : String) : List String :=
  (form.filter fun (k, _) => Signature.eqIgnoreAsciiCase k name).map (·.2)

/-- A form echoing a callback: one amount, one invoice number and one signature, each named up
to ASCII case, and the custom parameters `shp`. -/
structure Echo (form : TextMap) (outSum invoice signature : String) (shp : TextMap) : Prop where
  outSum : valuesOf form "OutSum" = [outSum]
  invoice : valuesOf form "InvId" = [invoice]
  signature : valuesOf form "SignatureValue" = [signature]
  shp : form.filter (fun (k, _) => Signature.isShpKey k) = shp

theorem field_of_valuesOf {form : TextMap} {name v : String} (h : valuesOf form name = [v]) :
    field form name = some (Text.trimBlank v) := by
  unfold field
  rw [← List.head?_filter]
  unfold valuesOf at h
  cases hf : form.filter fun (k, _) => Signature.eqIgnoreAsciiCase k name with
  | nil => simp [hf] at h
  | cons x xs =>
    simp only [hf, List.map_cons, List.cons.injEq] at h
    simp [h.1]

variable {form : TextMap} {o sv : String} {shp : TextMap} {n : Int}

/-- An echo is read as its amount and signature trimmed, its invoice number and its custom
parameters. -/
theorem ofForm_echo (h : Echo form o (toString n) sv shp) (hlo : invoiceMin ≤ n)
    (hhi : n ≤ invoiceMax) :
    ofForm form = .ok ⟨Text.trimBlank o, n, toString n, Text.trimBlank sv, shp, form⟩ := by
  have hinv := field_of_valuesOf h.invoice
  rw [Text.trimBlank_toString] at hinv
  simp only [ofForm, hinv, pure_bind, parseInvoice?_toString hlo hhi, field_of_valuesOf h.outSum,
    field_of_valuesOf h.signature, Option.getD_some, h.shp]
  rfl

/-- The signature of an echo is valid for a password exactly when the received text matches the
signature of the trimmed amount, the invoice number and the password. -/
theorem signatureValid_echo (password : String) :
    (⟨Text.trimBlank o, n, toString n, Text.trimBlank sv, shp, form⟩ : CallbackParams).signatureValid
      password = true ↔
      Signature.Matches (Signature.sign [Text.trimBlank o, toString n, password] shp) sv := by
  rw [signatureValid, Signature.verify_eq_eqIgnoreAsciiCase, Text.trimBlank_trimBlank,
    ← Signature.verify_eq_eqIgnoreAsciiCase]
  exact Signature.verify_iff_matches (Signature.isBlank_sign _ _)

end CallbackParams

end StudioRental
