import StudioRental.Proofs.Server.Settlement
import StudioRental.Proofs.Engine.Restart

/-!
Issuing an intent, and the callbacks that settle it.

A successful `initPayment` passes every check and stores the intent it signs: created, for the
checked amount and the normalized custom parameters, signed over the merchant login, the amount
as text, the invoice number and the first password (`initPayment_eq_ok`). The gateway's echo of
that intent then settles it (`initPayment_echoes_settle`), provided its signature is the one
over the amount text trimmed of blanks, which is how the callback reads it.
-/

namespace StudioRental

namespace Server

variable {s s' : Server}

theorem nextInvoice_run :
    nextInvoice.run.run s = (.ok (max s.clock.micros (InvoiceIds.succ s.lastInvoice)),
      { s with clock := s.clock.addNanos s.tick,
               lastInvoice := max s.clock.micros (InvoiceIds.succ s.lastInvoice) }) := rfl

theorem insertIntent_eq_ok {i i' : Intent} (h : (insertIntent i).run.run s = (.ok i', s')) :
    s.backend = .embedded ∧ i' = i ∧ s'.engine.getIntent i.invoice = some i ∧
      s'.gateway = s.gateway ∧ s'.backend = s.backend := by
  cases hb : s.backend with
  | unreachable err => simp [insertIntent, withEngine_unreachable _ hb] at h
  | embedded =>
    rw [insertIntent, withEngine_run _ hb] at h
    rcases hins : s.engine.insertIntent i with err | ⟨j, e⟩
    · simp [hins, Except.mapError] at h
    · obtain ⟨-, -, rfl, rfl⟩ := Engine.insertIntent_eq_ok hins
      simp only [hins, Except.mapError, answer_eq_iff, Except.ok.injEq] at h
      obtain ⟨rfl, rfl⟩ := h
      exact ⟨rfl, rfl, Engine.getIntent_fileIntent_self _ _, rfl, hb⟩

/-- An issued intent is stored, created, for the amount and the custom parameters it is signed
over: the merchant login, the amount as text, the invoice number and the first password. -/
theorem initPayment_eq_ok {actor : Actor} {req : PaymentRequest} {r : PaymentInit}
    (h : (initPayment actor req).run.run s = (.ok r, s')) :
    ∃ a S b, normalizeShp req.shp = .ok S ∧ s.engine.getBooking req.booking = some b ∧
      b.status ≠ .cancelled ∧
      (Standing.of actor b (s.catalog.studio? b.studio) = .renter ∨
        Standing.of actor b (s.catalog.studio? b.studio) = .studioStaff) ∧
      r.status = .created ∧
      r.signature = Signature.sign
        [s.gateway.merchantLogin, a.render, toString r.invoice, s.gateway.password1] S ∧
      IntentAt s' s.gateway r.invoice a .created := by
  unfold initPayment at h
  -- the amount, and the checks of the amount and the description, which change nothing
  rcases hA : (Signature.parseAmount req.outSum).filter (Decimal.zero < ·) with _ | a
  · simp only [hA, run_bind, run_throw] at h
    cases h
  simp only [hA] at h
  obtain ⟨a, s₁, hpure, h₁⟩ := run_bind_eq_ok.1 h
  obtain ⟨rfl, rfl⟩ := (answer_eq_iff.1 hpure).imp Except.ok.inj id
  obtain ⟨a, s₁, hmoney, h₂⟩ := run_bind_eq_ok.1 h₁
  obtain ⟨-, rfl⟩ := answer_eq_iff.1 ((ofExcept_run _ _).symm.trans hmoney)
  split at h₂
  · simp only [run_bind, run_throw] at h₂
    cases h₂
  obtain ⟨S, s₁, hshp, h₃⟩ := run_bind_eq_ok.1 h₂
  obtain ⟨hS, rfl⟩ := answer_eq_iff.1 ((ofExcept_run _ _).symm.trans hshp)
  obtain ⟨b, s₁, hread, h₄⟩ := run_bind_eq_ok.1 h₃
  obtain ⟨rfl, hb, hgb, hparty⟩ := getBooking_eq_ok hread
  by_cases hc : (b.status == .cancelled) = true
  · simp only [hc, if_true, run_bind, run_throw] at h₄
    cases h₄
  rw [if_neg hc] at h₄
  -- the invoice number, the gateway, the time, and the intent stored
  obtain ⟨inv, s₂, hinv, h₅⟩ := run_bind_eq_ok.1 h₄
  rw [nextInvoice_run] at hinv
  obtain ⟨rfl, rfl⟩ := (answer_eq_iff.1 hinv).imp Except.ok.inj id
  obtain ⟨g, s₃, hget, h₆⟩ := run_bind_eq_ok.1 h₅
  obtain ⟨rfl, rfl⟩ := (answer_eq_iff.1 ((run_get _).symm.trans hget)).imp Except.ok.inj id
  obtain ⟨t, s₃, hnow, h₇⟩ := run_bind_eq_ok.1 h₆
  obtain ⟨rfl, rfl⟩ := (answer_eq_iff.1 ((now_run _).symm.trans hnow)).imp Except.ok.inj id
  obtain ⟨i, s₄, hins, h₈⟩ := run_bind_eq_ok.1 h₇
  obtain ⟨-, rfl, hstored, hgw, hbe⟩ := insertIntent_eq_ok hins
  -- marking the booking unpaid keeps the intent
  obtain ⟨u, s₅, hsync, h₉⟩ := run_bind_eq_ok.1 h₈
  obtain ⟨s₅', hsync', hk⟩ := tryCatch_unit_run
    (.bind (Preserves.syncPayment b.id .unpaid) fun _ => .pure ⟨⟩) s₄
  rw [hsync'] at hsync
  obtain ⟨-, rfl⟩ := answer_eq_iff.1 hsync
  obtain ⟨rfl, rfl⟩ := (answer_eq_iff.1 ((run_pure _ _).symm.trans h₉)).imp Except.ok.inj id
  exact ⟨a, S, b, hS, hgb, by simpa using hc, hparty, rfl, rfl,
    IntentAt.keeps ⟨hbe.trans hb, hgw, _, hstored, rfl, rfl⟩ hk⟩

/-- An intent issued for a booking is signed over the merchant login, its amount, its invoice
number and the first password with its custom parameters, and is stored created; every echo of
it then settles it as `EchoesSettle` says, with the amount text the gateway sends trimmed. -/
theorem initPayment_echoes_settle {actor : Actor} {req : PaymentRequest} {s₀ s₁ : Server}
    {r : PaymentInit} (hinit : (initPayment actor req).run.run s₀ = (.ok r, s₁))
    (hlo : invoiceMin ≤ r.invoice) (hhi : r.invoice ≤ invoiceMax) :
    ∃ a S, normalizeShp req.shp = .ok S ∧ r.status = .created ∧
      r.signature = Signature.sign
        [s₀.gateway.merchantLogin, a.render, toString r.invoice, s₀.gateway.password1] S ∧
      IntentAt s₁ s₀.gateway r.invoice a .created ∧ EchoesSettle s₀.gateway r.invoice a S := by
  obtain ⟨a, S, -, hS, -, -, -, hst, hsig, hI⟩ := initPayment_eq_ok hinit
  exact ⟨a, S, hS, hst, hsig, hI, echoesSettle hlo hhi _ a S⟩

/-- A server holding one booking, with no catalog. -/
def sessionServer : Server where
  catalog := {}
  engine := ({} : Engine).run [.insertBooking Engine.sessionBooking]
  gateway := ⟨"studio-shop", "first-secret", "second-secret", "https://pay.example.test/Index.aspx",
    true⟩
  clock := ⟨2366841600, 0⟩

def sessionPayment : PaymentRequest := ⟨Ulid.nil, "300.00", "Rehearsal", []⟩

theorem sessionPayment_run :
    ∃ r, (initPayment ⟨Ulid.nil, .renter⟩ sessionPayment).run.run sessionServer =
      (.ok r, ((initPayment ⟨Ulid.nil, .renter⟩ sessionPayment).run.run sessionServer).2) ∧
      r.invoice = 2366841600000000 := by
  have hinv : ((initPayment ⟨Ulid.nil, .renter⟩ sessionPayment).run.run sessionServer).1.toOption.map
      (·.invoice) = some 2366841600000000 := by decide +kernel
  revert hinv
  rcases h : ((initPayment ⟨Ulid.nil, .renter⟩ sessionPayment).run.run sessionServer) with
    ⟨err | r, s₁⟩
  · simp [Except.toOption]
  · intro hinv
    exact ⟨r, rfl, by simpa [Except.toOption] using hinv⟩

theorem sessionPayment_echoes_settle :
    ∃ r s₁, (initPayment ⟨Ulid.nil, .renter⟩ sessionPayment).run.run sessionServer = (.ok r, s₁) ∧
      invoiceMin ≤ r.invoice ∧ r.invoice ≤ invoiceMax ∧
      ∃ a S, normalizeShp sessionPayment.shp = .ok S ∧ r.status = .created ∧
        r.signature = Signature.sign [sessionServer.gateway.merchantLogin, a.render,
          toString r.invoice, sessionServer.gateway.password1] S ∧
        IntentAt s₁ sessionServer.gateway r.invoice a .created ∧
        EchoesSettle sessionServer.gateway r.invoice a S := by
  obtain ⟨r, hinit, hrn⟩ := sessionPayment_run
  have hlo : invoiceMin ≤ r.invoice := by rw [hrn]; decide
  have hhi : r.invoice ≤ invoiceMax := by rw [hrn]; decide
  exact ⟨r, _, hinit, hlo, hhi, initPayment_echoes_settle hinit hlo hhi⟩

/-- A settlement for the session's intent whose amount has a blank before it, signed over the
amount as sent. -/
def spacedEcho : TextMap :=
  [("InvId", "2366841600000000"), ("OutSum", " 300.00"),
   ("SignatureValue", Signature.sign [" 300.00", "2366841600000000", "second-secret"] [])]

/-- The gateway's amount text is read trimmed, so an echo signed over the amount as sent, blank
included, is refused, though the amount it gives is the intent's. -/
theorem spacedAmount_echo_rejected :
    Signature.parseAmount " 300.00" = Signature.parseAmount sessionPayment.outSum ∧
    ∃ r s₁ s₂, (initPayment ⟨Ulid.nil, .renter⟩ sessionPayment).run.run sessionServer =
      (.ok r, s₁) ∧ toString r.invoice = "2366841600000000" ∧
      (handleResult spacedEcho).run.run s₁ = (.error .invalidSignature, s₂) := by
  obtain ⟨r, hinit, hrn⟩ := sessionPayment_run
  obtain ⟨a, S, -, hS, -, -, -, -, -, hI⟩ := initPayment_eq_ok hinit
  have hS : S = [] := by
    have : normalizeShp [] = .ok [] := rfl
    simpa [sessionPayment, this] using hS.symm
  subst hS
  have htext : toString r.invoice = "2366841600000000" := by rw [hrn]; rfl
  have hlo : invoiceMin ≤ r.invoice := by rw [hrn]; decide
  have hhi : r.invoice ≤ invoiceMax := by rw [hrn]; decide
  have hE : CallbackParams.Echo spacedEcho " 300.00" (toString r.invoice)
      (Signature.sign [" 300.00", "2366841600000000", "second-secret"] []) [] := by
    rw [htext]
    exact ⟨by decide +kernel, by decide +kernel, by decide +kernel, by decide +kernel⟩
  -- the signature over the amount as sent is not the one over the trimmed amount
  have hsig : ¬ Signature.Matches (Signature.sign [Text.trimBlank " 300.00", toString r.invoice,
      sessionServer.gateway.password2] [])
      (Signature.sign [" 300.00", "2366841600000000", "second-secret"] []) := by
    rw [← Signature.verify_iff_matches (Signature.isBlank_sign _ _), htext]
    decide +kernel
  obtain ⟨s₂, hres⟩ := echo_result_rejected hE hlo hhi hsig hI
  exact ⟨rfl, r, _, s₂, hinit, htext, hres⟩

end Server

end StudioRental
