import StudioRental.Proofs.Server.Issue
import StudioRental.Http.Api

/-!
Callbacks that are not signed.

A callback names an invoice, and the store may or may not hold it. A callback for an unknown
invoice is told that the invoice is not found only when it is signed with its channel's password;
unsigned, it is told that its signature is wrong (`reconcileCallback_absent`). A stored intent
judges an unsigned callback wrongly signed before it looks at the amount or its own status
(`CallbackCheck.verdict_of_unsigned`). So both handlers refuse every unsigned callback with the
same error whatever the store holds, the payer's return page says `validated: false`, and the
answer "not found" is given to exactly the signed callbacks for unknown invoices
(`unsigned_probe_refused`).
-/

namespace StudioRental

namespace CallbackParams

theorem ofForm_eq_error {raw : TextMap} {e : Error} (h : ofForm raw = .error e) :
    ∃ t, e = .validation t := by
  simp only [ofForm, bind, Except.bind, pure, Except.pure, throw, throwThe, MonadExceptOf.throw]
    at h
  -- the invoice number is missing, or is not a number
  rcases hf : field raw "InvId" with _ | text
  · simp only [hf] at h
    exact ⟨_, (Except.error.inj h).symm⟩
  · rcases hn : parseInvoice? text with _ | n
    · simp only [hf, hn] at h
      exact ⟨_, (Except.error.inj h).symm⟩
    · simp only [hf, hn, reduceCtorEq] at h

end CallbackParams

namespace CallbackCheck

/-- An unsigned callback is judged wrongly signed whatever the intent. -/
theorem verdict_of_unsigned {c : CallbackCheck} (h : c.signatureValid = false) (i : Intent) :
    c.verdict i = .invalidSignature := by
  simp [verdict, h]

end CallbackCheck

namespace Engine

theorem modifyIntent_of_getIntent_eq_none {α : Type} {e : Engine} {n : Int}
    (h : e.getIntent n = none) (f : Intent → Except Error (Intent × α)) :
    e.modifyIntent n f = .error (.notFound ("invoice " ++ toString n)) := by
  simp only [modifyIntent, h]
  rfl

end Engine

namespace Server

variable {s s' : Server} {c : Channel} {p : CallbackParams}

@[simp] theorem callbackCheck_signatureValid :
    (s.callbackCheck c p).signatureValid = p.signatureValid (s.gateway.password c) := by
  simp only [callbackCheck]

/-- A callback for an invoice the store does not hold is told that the invoice is not found when
it is signed, and that its signature is wrong when it is not; only the clock moves. -/
theorem reconcileCallback_absent (hb : s.backend = .embedded)
    (hn : s.engine.getIntent p.invoice = none) :
    (reconcileCallback c p).run.run s =
      (.error (if p.signatureValid (s.gateway.password c) then
          .notFound ("invoice " ++ toString p.invoice) else .invalidSignature),
        { s with clock := s.clock.addNanos s.tick }) := by
  -- one simp, as in `reconcileCallback_run`: a rewrite's motive check would evaluate the signature
  simp only [reconcileCallback, run_bind, run_get, now_run, run_tryCatch,
    reconcile_run (s := { s with clock := s.clock.addNanos s.tick }) _ _ hb,
    Engine.modifyIntent_of_getIntent_eq_none hn]
  -- the error reaches the handler, which looks only at the signature
  cases c <;> cases hv : p.signatureValid _ <;> simp only [GatewayConfig.password, hv] <;> rfl

theorem reconcileCallback_eq_error {e : Error} (hb : s.backend = .embedded)
    (h : (reconcileCallback c p).run.run s = (.error e, s')) :
    s.engine.getIntent p.invoice = none ∧
      e = if p.signatureValid (s.gateway.password c) then
        .notFound ("invoice " ++ toString p.invoice) else .invalidSignature := by
  cases hn : s.engine.getIntent p.invoice with
  | none =>
    rw [reconcileCallback_absent hb hn] at h
    exact ⟨rfl, (Except.error.inj (Prod.mk.inj h).1).symm⟩
  | some y =>
    -- a stored intent always gives a verdict
    obtain ⟨y', s₁, -, -, -, hrun, -⟩ :=
      reconcileCallback_run c (p := p) (⟨hb, rfl, y, hn, rfl, rfl⟩ : IntentAt s s.gateway _ _ _)
    rw [hrun] at h
    cases (Prod.mk.inj h).1

/-- A callback not signed with its channel's password is refused as wrongly signed: by the error
when its invoice is unknown, by the verdict when its intent is stored. -/
theorem reconcileCallback_unsigned (hb : s.backend = .embedded)
    (hs : p.signatureValid (s.gateway.password c) = false) :
    (∃ s', (reconcileCallback c p).run.run s = (.error .invalidSignature, s')) ∨
      ∃ i s', (reconcileCallback c p).run.run s = (.ok (i, .invalidSignature), s') := by
  cases hn : s.engine.getIntent p.invoice with
  | none =>
    refine .inl ⟨{ s with clock := s.clock.addNanos s.tick }, ?_⟩
    rw [reconcileCallback_absent hb hn, hs]
    rfl
  | some y =>
    obtain ⟨y', s₁, hy', -, -, hrun, -⟩ :=
      reconcileCallback_run c (p := p) (⟨hb, rfl, y, hn, rfl, rfl⟩ : IntentAt s s.gateway _ _ _)
    have hv : ((s.callbackCheck c p).apply y').2 = .invalidSignature := by
      rw [CallbackCheck.verdict_apply, CallbackCheck.verdict_of_unsigned (by simpa using hs)]
    refine .inr ⟨((s.callbackCheck c p).apply y').1, s₁, ?_⟩
    rw [hrun, ← hv]

variable {form : TextMap} {t : String}

theorem handleResult_unsigned (hb : s.backend = .embedded) (hp : CallbackParams.ofForm form = .ok p)
    (hs : p.signatureValid s.gateway.password2 = false) :
    ∃ s', (handleResult form).run.run s = (.error .invalidSignature, s') := by
  rcases reconcileCallback_unsigned (c := .result) hb hs with ⟨s₁, hr⟩ | ⟨i, s₁, hr⟩
  · exact ⟨s₁, by simp only [handleResult, run_bind, ofExcept_run, hp, hr]⟩
  · exact ⟨s₁, handleResult_invalidSignature hp hr⟩

theorem handleSuccess_unsigned (hb : s.backend = .embedded)
    (hp : CallbackParams.ofForm form = .ok p) (hs : p.signatureValid s.gateway.password1 = false) :
    ∃ s', (handleSuccess form).run.run s = (.error .invalidSignature, s') := by
  rcases reconcileCallback_unsigned (c := .success) hb hs with ⟨s₁, hr⟩ | ⟨i, s₁, hr⟩
  · exact ⟨s₁, by simp only [handleSuccess, run_bind, ofExcept_run, hp, hr]⟩
  · exact ⟨s₁, by simp only [handleSuccess, run_bind, ofExcept_run, hp, hr, run_throw]⟩

theorem handleResult_notFound (h : ((handleResult form).run.run s).1 = .error (.notFound t)) :
    ∃ p, CallbackParams.ofForm form = .ok p ∧
      ((reconcileCallback .result p).run.run s).1 = .error (.notFound t) := by
  rcases hp : CallbackParams.ofForm form with e | p
  · -- an unreadable callback is a validation error
    obtain ⟨u, rfl⟩ := CallbackParams.ofForm_eq_error hp
    simp only [handleResult, run_bind, ofExcept_run, hp] at h
    cases h
  · refine ⟨p, rfl, ?_⟩
    rcases hr : (reconcileCallback .result p).run.run s with ⟨e | ⟨i, v⟩, s₁⟩
    · simp only [handleResult, run_bind, ofExcept_run, hp, hr] at h
      cases h
      rfl
    · -- every verdict answers, or fails with an error of its own
      cases v with
      | applied =>
        obtain ⟨s₂, hres, -⟩ := handleResult_applied hp hr
        rw [hres] at h
        cases h
      | _ =>
        simp only [handleResult, run_bind, ofExcept_run, hp, hr, run_pure, run_throw] at h
        cases h

theorem handleSuccess_notFound (h : ((handleSuccess form).run.run s).1 = .error (.notFound t)) :
    ∃ p, CallbackParams.ofForm form = .ok p ∧
      ((reconcileCallback .success p).run.run s).1 = .error (.notFound t) := by
  rcases hp : CallbackParams.ofForm form with e | p
  · obtain ⟨u, rfl⟩ := CallbackParams.ofForm_eq_error hp
    simp only [handleSuccess, run_bind, ofExcept_run, hp] at h
    cases h
  · refine ⟨p, rfl, ?_⟩
    rcases hr : (reconcileCallback .success p).run.run s with ⟨e | ⟨i, v⟩, s₁⟩
    · simp only [handleSuccess, run_bind, ofExcept_run, hp, hr] at h
      cases h
      rfl
    · cases v <;> simp only [handleSuccess, run_bind, ofExcept_run, hp, hr, run_pure, run_throw] at h <;>
        cases h

/-- The callback check ends in "not found" exactly for a signed callback naming an unknown
invoice. -/
theorem reconcileCallback_notFound_iff (hb : s.backend = .embedded) :
    ((reconcileCallback c p).run.run s).1 = .error (.notFound t) ↔
      p.signatureValid (s.gateway.password c) = true ∧ s.engine.getIntent p.invoice = none ∧
        t = "invoice " ++ toString p.invoice := by
  constructor
  · intro h
    rcases hr : (reconcileCallback c p).run.run s with ⟨e | a, s₁⟩
    · rw [hr] at h
      obtain ⟨hn, he⟩ := reconcileCallback_eq_error hb hr
      cases hv : p.signatureValid (s.gateway.password c)
      · rw [hv] at he
        subst he
        cases h
      · rw [hv, if_pos rfl] at he
        subst he
        cases h
        exact ⟨rfl, hn, rfl⟩
    · rw [hr] at h
      cases h
  · rintro ⟨hv, hn, rfl⟩
    rw [reconcileCallback_absent hb hn, hv, if_pos rfl]

/-- The payer's return page of a callback refused for its signature or its amount. -/
def unvalidatedPage : Http.Response :=
  .json 200 (Json.obj [("status", .string "ok"), ("validated", .bool false)])

/-- The payer's return page answers `validated: false` for a query read as a callback that is
not signed with the first password. -/
theorem serve_paymentSuccess_unsigned {req : Http.Request} (hb : s.backend = .embedded)
    (hp : CallbackParams.ofForm (TextMap.ofList (FormUrl.decode (req.query?.getD ""))) = .ok p)
    (hs : p.signatureValid s.gateway.password1 = false) :
    ∃ s', (Http.serve req .paymentSuccess).run.run s = (.ok unvalidatedPage, s') := by
  obtain ⟨s₁, hres⟩ := handleSuccess_unsigned hb hp hs
  refine ⟨s₁, ?_⟩
  simp only [Http.serve, run_tryCatch, run_bind, hres]
  rfl

/-- Unsigned callbacks learn nothing about invoices. On a working store, whatever it holds, a
callback that is read but not signed with its channel's password is refused as wrongly signed by
both handlers, and the payer's return page shows it as not validated. A handler says that an
invoice is not found exactly when the callback is signed and its invoice unknown. -/
theorem unsigned_probe_refused (s : Server) (hb : s.backend = .embedded) :
    (∀ form p, CallbackParams.ofForm form = .ok p → p.signatureValid s.gateway.password2 = false →
      ∃ s', (handleResult form).run.run s = (.error .invalidSignature, s')) ∧
    (∀ form p, CallbackParams.ofForm form = .ok p → p.signatureValid s.gateway.password1 = false →
      ∃ s', (handleSuccess form).run.run s = (.error .invalidSignature, s')) ∧
    (∀ (req : Http.Request) p,
      CallbackParams.ofForm (TextMap.ofList (FormUrl.decode (req.query?.getD ""))) = .ok p →
      p.signatureValid s.gateway.password1 = false →
      ∃ s', (Http.serve req .paymentSuccess).run.run s = (.ok unvalidatedPage, s')) ∧
    (∀ form t, ((handleResult form).run.run s).1 = .error (.notFound t) ↔
      ∃ p, CallbackParams.ofForm form = .ok p ∧ p.signatureValid s.gateway.password2 = true ∧
        s.engine.getIntent p.invoice = none ∧ t = "invoice " ++ toString p.invoice) ∧
    (∀ form t, ((handleSuccess form).run.run s).1 = .error (.notFound t) ↔
      ∃ p, CallbackParams.ofForm form = .ok p ∧ p.signatureValid s.gateway.password1 = true ∧
        s.engine.getIntent p.invoice = none ∧ t = "invoice " ++ toString p.invoice) := by
  refine ⟨fun _ _ => handleResult_unsigned hb, fun _ _ => handleSuccess_unsigned hb,
    fun _ _ => serve_paymentSuccess_unsigned hb, fun form t => ⟨?_, ?_⟩, fun form t => ⟨?_, ?_⟩⟩
  · intro h
    obtain ⟨p, hp, hr⟩ := handleResult_notFound h
    exact ⟨p, hp, (reconcileCallback_notFound_iff (c := .result) hb).1 hr⟩
  · rintro ⟨p, hp, hv, hn, rfl⟩
    have hr := reconcileCallback_absent (c := .result) hb hn
    simp only [GatewayConfig.password, hv, if_pos] at hr
    simp only [handleResult, run_bind, ofExcept_run, hp, hr]
  · intro h
    obtain ⟨p, hp, hr⟩ := handleSuccess_notFound h
    exact ⟨p, hp, (reconcileCallback_notFound_iff (c := .success) hb).1 hr⟩
  · rintro ⟨p, hp, hv, hn, rfl⟩
    have hr := reconcileCallback_absent (c := .success) hb hn
    simp only [GatewayConfig.password, hv, if_pos] at hr
    simp only [handleSuccess, run_bind, ofExcept_run, hp, hr]

theorem sessionServer_unsigned_probe_refused :
    sessionServer.backend = .embedded ∧
    (∀ form p, CallbackParams.ofForm form = .ok p →
      p.signatureValid sessionServer.gateway.password2 = false →
      ∃ s', (handleResult form).run.run sessionServer = (.error .invalidSignature, s')) ∧
    (∀ form p, CallbackParams.ofForm form = .ok p →
      p.signatureValid sessionServer.gateway.password1 = false →
      ∃ s', (handleSuccess form).run.run sessionServer = (.error .invalidSignature, s')) ∧
    (∀ (req : Http.Request) p,
      CallbackParams.ofForm (TextMap.ofList (FormUrl.decode (req.query?.getD ""))) = .ok p →
      p.signatureValid sessionServer.gateway.password1 = false →
      ∃ s', (Http.serve req .paymentSuccess).run.run sessionServer = (.ok unvalidatedPage, s')) ∧
    (∀ form t, ((handleResult form).run.run sessionServer).1 = .error (.notFound t) ↔
      ∃ p, CallbackParams.ofForm form = .ok p ∧
        p.signatureValid sessionServer.gateway.password2 = true ∧
        sessionServer.engine.getIntent p.invoice = none ∧ t = "invoice " ++ toString p.invoice) ∧
    (∀ form t, ((handleSuccess form).run.run sessionServer).1 = .error (.notFound t) ↔
      ∃ p, CallbackParams.ofForm form = .ok p ∧
        p.signatureValid sessionServer.gateway.password1 = true ∧
        sessionServer.engine.getIntent p.invoice = none ∧ t = "invoice " ++ toString p.invoice) :=
  ⟨rfl, unsigned_probe_refused sessionServer rfl⟩

end Server

end StudioRental
