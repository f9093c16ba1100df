import StudioRental.Proofs.Server.Frame
import StudioRental.Proofs.Payment.Echo
import StudioRental.Proofs.Payment.Lifecycle

/-!
Settling an intent through the gateway's callbacks.

A callback for a stored intent is checked against the gateway's password for its channel,
applied to the intent under the storage's lock, and answered by its verdict
(`reconcileCallback_run`). `IntentAt` says which intent a server holds, for which amount and in
which status. An echo of the intent (`CallbackParams.Echo`) signed right is judged by its channel
and the intent's status alone (`reconcileCallback_echo`), and from there: a settlement of an
unsettled intent is applied and pays it, a replay is already applied, a payer's return is
acknowledged, and an echo signed over anything but the trimmed amount is refused.
`EchoesSettle` gathers these for one intent.
-/

namespace StudioRental

namespace Intent

theorem status_of_same {a b : Intent} (h : a.same b = true) : a.status = b.status := by
  simp only [same, Bool.and_eq_true, beq_iff_eq] at h
  exact h.1.1.1.1.1.1.1.2

end Intent

namespace GatewayConfig

/-- The password a channel's callbacks are signed with. -/
def password (gw : GatewayConfig) : Channel → String
  | .result => gw.password2
  | .success => gw.password1

end GatewayConfig

namespace Server

/-- The check the server makes of a callback on a channel, dated by its clock. -/
def callbackCheck (s : Server) (ch : Channel) (p : CallbackParams) : CallbackCheck :=
  ⟨ch, p.signatureValid (s.gateway.password ch), Signature.parseAmount p.outSum, p.raw, s.clock⟩

/-- The server stores the intent `n` for the amount `a`, in status `st`, on a working storage,
with the gateway `gw`. -/
structure IntentAt (s : Server) (gw : GatewayConfig) (n : Int) (a : Decimal) (st : IntentStatus) :
    Prop where
  embedded : s.backend = .embedded
  gateway : s.gateway = gw
  stored : ∃ y, s.engine.getIntent n = some y ∧ y.amount = a ∧ y.status = st

variable {s s' : Server} {gw : GatewayConfig} {n : Int} {a : Decimal} {st : IntentStatus}

theorem IntentAt.keeps (h : IntentAt s gw n a st) (hk : KeepsPayments s s') :
    IntentAt s' gw n a st where
  embedded := hk.backend.trans h.embedded
  gateway := hk.gateway.trans h.gateway
  stored := hk.getIntent n ▸ h.stored

/-- A callback for a stored intent is checked and applied under the lock; the stored record is
the one the check gives, up to its update time when nothing else changed. -/
theorem reconcileCallback_run (ch : Channel) {p : CallbackParams} (h : IntentAt s gw p.invoice a st) :
    ∃ y s', s.engine.getIntent p.invoice = some y ∧ y.amount = a ∧ y.status = st ∧
      (reconcileCallback ch p).run.run s = (.ok ((s.callbackCheck ch p).apply y), s') ∧
      IntentAt s' gw p.invoice a ((s.callbackCheck ch p).apply y).1.status := by
  obtain ⟨hb, hgw, y, hy, hya, hys⟩ := h
  let next := ((s.callbackCheck ch p).apply y).1
  let s' : Server :=
    { s with
      clock := s.clock.addNanos s.tick
      engine := if next.same y then s.engine
        else (s.engine.record (.intentChanged next)).fileIntent p.invoice next }
  refine ⟨y, s', hy, hya, hys, ?_, hb, hgw, ?_⟩
  · -- rewritten by simp: the unfolded handler's signature test carries a decision procedure
    -- that a rewrite's motive check would have to evaluate on the signature
    simp only [reconcileCallback, run_bind, run_get, now_run, run_tryCatch,
      reconcile_run (s := { s with clock := s.clock.addNanos s.tick }) _ _ hb,
      Engine.modifyIntent_of_getIntent hy (f := fun i => .ok (CallbackCheck.apply _ i)) rfl]
    rfl
  · -- the record kept is the old one when nothing but the update time would change
    by_cases hsame : next.same y = true
    · refine ⟨y, ?_, hya, (Intent.status_of_same hsame).symm⟩
      show (if next.same y then s.engine else _).getIntent p.invoice = some y
      rw [if_pos hsame, hy]
    · refine ⟨next, ?_, ?_, rfl⟩
      · show (if next.same y then _ else (s.engine.record _).fileIntent p.invoice next).getIntent
          p.invoice = some next
        rw [if_neg hsame, Engine.getIntent_fileIntent_self]
      · rw [CallbackCheck.amount_apply, hya]

variable {form : TextMap} {p : CallbackParams} {i : Intent} {s₁ : Server}

theorem handleResult_applied (hp : CallbackParams.ofForm form = .ok p)
    (hr : (reconcileCallback .result p).run.run s = (.ok (i, .applied), s₁)) :
    ∃ s₂, (handleResult form).run.run s = (.ok p.invoice, s₂) ∧ KeepsPayments s₁ s₂ := by
  obtain ⟨s₂, hsync, hk₂⟩ := tryCatch_unit_run
    (.bind (Preserves.syncPayment i.booking .paid) fun _ => .pure ⟨⟩) s₁
  obtain ⟨s₃, hnotify, hk₃⟩ :=
    notifyPayment_run i.booking (.paymentReceived i.booking i.invoice i.amount) s₂
  refine ⟨s₃, ?_, hk₂.trans hk₃⟩
  simp only [handleResult, run_bind, ofExcept_run, hp, hr, hsync, hnotify, run_pure]

theorem handleResult_alreadyApplied (hp : CallbackParams.ofForm form = .ok p)
    (hr : (reconcileCallback .result p).run.run s = (.ok (i, .alreadyApplied), s₁)) :
    (handleResult form).run.run s = (.ok p.invoice, s₁) := by
  simp only [handleResult, run_bind, ofExcept_run, hp, hr, run_pure]

theorem handleResult_invalidSignature (hp : CallbackParams.ofForm form = .ok p)
    (hr : (reconcileCallback .result p).run.run s = (.ok (i, .invalidSignature), s₁)) :
    (handleResult form).run.run s = (.error .invalidSignature, s₁) := by
  simp only [handleResult, run_bind, ofExcept_run, hp, hr, run_throw]

theorem handleSuccess_acknowledged (hp : CallbackParams.ofForm form = .ok p)
    (hr : (reconcileCallback .success p).run.run s = (.ok (i, .acknowledged), s₁)) :
    (handleSuccess form).run.run s = (.ok i, s₁) := by
  simp only [handleSuccess, run_bind, ofExcept_run, hp, hr, run_pure]

/-! ### Callbacks echoing an intent -/

section Echo

variable {o sv : String} {S : TextMap} {n : Int}

/-- The callback read from an echo of the intent `n`. -/
abbrev echoParams (form : TextMap) (o sv : String) (S : TextMap) (n : Int) : CallbackParams :=
  ⟨Text.trimBlank o, n, toString n, Text.trimBlank sv, S, form⟩

/-- The server's check of an echo is signed right when the echo matches the signature over the
trimmed amount, and it reads the amount the echo gives. -/
theorem callbackCheck_echo (form : TextMap) (n : Int) (ch : Channel) (hgw : s.gateway = gw) :
    ((s.callbackCheck ch (echoParams form o sv S n)).signatureValid = true ↔
      Signature.Matches (Signature.sign [Text.trimBlank o, toString n, gw.password ch] S) sv) ∧
    (s.callbackCheck ch (echoParams form o sv S n)).amount = Signature.parseAmount o := by
  have hvalid : (s.callbackCheck ch (echoParams form o sv S n)).signatureValid =
      (echoParams form o sv S n).signatureValid (s.gateway.password ch) := by
    simp only [callbackCheck]
  have hamount : (s.callbackCheck ch (echoParams form o sv S n)).amount =
      Signature.parseAmount (Text.trimBlank o) := by
    dsimp only [callbackCheck]
  rw [hvalid, hgw, hamount, Signature.parseAmount_trimBlank]
  exact ⟨CallbackParams.signatureValid_echo (gw.password ch), rfl⟩

/-- An echo of the intent, signed with the channel's password over the trimmed amount, is judged
by its channel and the intent's status alone. -/
theorem reconcileCallback_echo (form : TextMap) (ch : Channel)
    (hamt : (Signature.parseAmount o).any (· == a) = true)
    (hsig : Signature.Matches (Signature.sign [Text.trimBlank o, toString n, gw.password ch] S) sv)
    (h : IntentAt s gw n a st) :
    ∃ y s₁, y.status = st ∧
      (reconcileCallback ch (echoParams form o sv S n)).run.run s =
        (.ok (((s.callbackCheck ch (echoParams form o sv S n)).apply y).1,
          (s.callbackCheck ch (echoParams form o sv S n)).verdict y), s₁) ∧
      IntentAt s₁ gw n a ((s.callbackCheck ch (echoParams form o sv S n)).apply y).1.status ∧
      (s.callbackCheck ch (echoParams form o sv S n)).verdict y =
        if ch = .success then .acknowledged
        else if st = .paid then .alreadyApplied
        else if st = .failed then .alreadyFailed
        else .applied := by
  obtain ⟨y, s₁, -, hya, hys, hrun, hI⟩ :=
    reconcileCallback_run ch (p := echoParams form o sv S n) h
  obtain ⟨hsv, hamount⟩ := callbackCheck_echo form n ch h.gateway
  refine ⟨y, s₁, hys, ?_, hI, ?_⟩
  · rw [hrun, ← CallbackCheck.verdict_apply]
  · rw [CallbackCheck.verdict_of_valid (hsv.2 hsig) (by rw [hamount, hya]; exact hamt), hys]
    rfl

/-- A settlement echoing an intent that is not settled is applied and acknowledged, and the intent
is paid after it. -/
theorem echo_result_applied (hE : CallbackParams.Echo form o (toString n) sv S)
    (hlo : invoiceMin ≤ n) (hhi : n ≤ invoiceMax)
    (hamt : (Signature.parseAmount o).any (· == a) = true)
    (hsig : Signature.Matches (Signature.sign [Text.trimBlank o, toString n, gw.password2] S) sv)
    (h : IntentAt s gw n a st) (hst : st = .created ∨ st = .pending) :
    (∃ i s', (reconcileCallback .result (echoParams form o sv S n)).run.run s =
      (.ok (i, .applied), s')) ∧
    ∃ s', (handleResult form).run.run s = (.ok n, s') ∧ IntentAt s' gw n a .paid := by
  obtain ⟨y, s₁, -, hrun, hI, hv⟩ := reconcileCallback_echo form .result hamt hsig h
  have happlied : (s.callbackCheck .result (echoParams form o sv S n)).verdict y = .applied := by
    rcases hst with rfl | rfl <;> simp [hv]
  rw [happlied] at hrun
  have hpaid := (CallbackCheck.paid_of_applied ((CallbackCheck.verdict_apply _ _).trans happlied)).2
  obtain ⟨s₂, hres, hk⟩ := handleResult_applied (CallbackParams.ofForm_echo hE hlo hhi) hrun
  exact ⟨⟨_, _, hrun⟩, s₂, hres, (hpaid ▸ hI).keeps hk⟩

/-- A settlement echoing a paid intent again is acknowledged as already applied, and the intent
stays paid. -/
theorem echo_result_replayed (hE : CallbackParams.Echo form o (toString n) sv S)
    (hlo : invoiceMin ≤ n) (hhi : n ≤ invoiceMax)
    (hamt : (Signature.parseAmount o).any (· == a) = true)
    (hsig : Signature.Matches (Signature.sign [Text.trimBlank o, toString n, gw.password2] S) sv)
    (h : IntentAt s gw n a .paid) :
    (∃ i s', (reconcileCallback .result (echoParams form o sv S n)).run.run s =
      (.ok (i, .alreadyApplied), s')) ∧
    ∃ s', (handleResult form).run.run s = (.ok n, s') ∧ IntentAt s' gw n a .paid := by
  obtain ⟨y, s₁, hys, hrun, hI, hv⟩ := reconcileCallback_echo form .result hamt hsig h
  have hreplay : (s.callbackCheck .result (echoParams form o sv S n)).verdict y = .alreadyApplied := by
    simp [hv]
  rw [hreplay] at hrun
  rw [CallbackCheck.apply_of_paid_result hys rfl, hys] at hI
  have hres := handleResult_alreadyApplied (CallbackParams.ofForm_echo hE hlo hhi) hrun
  exact ⟨⟨_, _, hrun⟩, s₁, hres, hI⟩

theorem echo_result_rejected (hE : CallbackParams.Echo form o (toString n) sv S)
    (hlo : invoiceMin ≤ n) (hhi : n ≤ invoiceMax)
    (hsig : ¬ Signature.Matches (Signature.sign [Text.trimBlank o, toString n, gw.password2] S) sv)
    (h : IntentAt s gw n a st) :
    ∃ s', (handleResult form).run.run s = (.error .invalidSignature, s') := by
  obtain ⟨y, s₁, -, -, -, hrun, -⟩ :=
    reconcileCallback_run .result (p := echoParams form o sv S n) h
  obtain ⟨hsv, -⟩ := callbackCheck_echo form n .result h.gateway
  have hinvalid : ((s.callbackCheck .result (echoParams form o sv S n)).apply y).2 =
      .invalidSignature := by
    rw [CallbackCheck.verdict_apply, CallbackCheck.verdict,
      Bool.eq_false_iff.2 (fun hv => hsig (hsv.1 hv))]
    rfl
  have hrun' : (reconcileCallback .result (echoParams form o sv S n)).run.run s =
      (.ok (((s.callbackCheck .result (echoParams form o sv S n)).apply y).1, .invalidSignature),
        s₁) := by
    rw [hrun, ← hinvalid]
  exact ⟨s₁, handleResult_invalidSignature (CallbackParams.ofForm_echo hE hlo hhi) hrun'⟩

/-- A payer's return echoing an intent, signed with the first password, is answered with the
intent, now pending if it was created or pending and otherwise in the status it had. -/
theorem echo_success_acknowledged (hE : CallbackParams.Echo form o (toString n) sv S)
    (hlo : invoiceMin ≤ n) (hhi : n ≤ invoiceMax)
    (hamt : (Signature.parseAmount o).any (· == a) = true)
    (hsig : Signature.Matches (Signature.sign [Text.trimBlank o, toString n, gw.password1] S) sv)
    (h : IntentAt s gw n a st) :
    ∃ i s', (handleSuccess form).run.run s = (.ok i, s') ∧
      i.status = (if st = .created ∨ st = .pending then .pending else st) ∧
      IntentAt s' gw n a i.status := by
  obtain ⟨y, s₁, hys, hrun, hI, hv⟩ :=
    reconcileCallback_echo form .success hamt hsig h
  have hack : (s.callbackCheck .success (echoParams form o sv S n)).verdict y = .acknowledged := by
    simp [hv]
  rw [hack] at hrun
  have hstatus := CallbackCheck.status_apply_success rfl hack
  refine ⟨_, s₁, handleSuccess_acknowledged (CallbackParams.ofForm_echo hE hlo hhi) hrun, ?_, hI⟩
  rw [hstatus, hys]
  cases st <;> simp

end Echo

/-- Every echo of the intent `n` for the amount `a` and the custom parameters `S` is read as the
callback it echoes. Its signature is valid exactly when it matches the one over the trimmed
amount, the invoice number and the channel's password. Signed with the second password, it
settles the intent while it is created or pending, and every replay is acknowledged as already
applied. Signed with the first, the payer's return is acknowledged and leaves the intent pending
unless it was paid or failed. -/
def EchoesSettle (gw : GatewayConfig) (n : Int) (a : Decimal) (S : TextMap) : Prop :=
  ∀ form o sv, CallbackParams.Echo form o (toString n) sv S →
    (Signature.parseAmount o).any (· == a) = true →
    CallbackParams.ofForm form = .ok (echoParams form o sv S n) ∧
    (∀ pw, (echoParams form o sv S n).signatureValid pw = true ↔
      Signature.Matches (Signature.sign [Text.trimBlank o, toString n, pw] S) sv) ∧
    (Signature.Matches (Signature.sign [Text.trimBlank o, toString n, gw.password2] S) sv →
      (∀ s st, IntentAt s gw n a st → (st = .created ∨ st = .pending) →
        (∃ i s', (reconcileCallback .result (echoParams form o sv S n)).run.run s =
          (.ok (i, .applied), s')) ∧
        ∃ s', (handleResult form).run.run s = (.ok n, s') ∧ IntentAt s' gw n a .paid) ∧
      (∀ s, IntentAt s gw n a .paid →
        (∃ i s', (reconcileCallback .result (echoParams form o sv S n)).run.run s =
          (.ok (i, .alreadyApplied), s')) ∧
        ∃ s', (handleResult form).run.run s = (.ok n, s') ∧ IntentAt s' gw n a .paid)) ∧
    (Signature.Matches (Signature.sign [Text.trimBlank o, toString n, gw.password1] S) sv →
      ∀ s st, IntentAt s gw n a st →
        ∃ i s', (handleSuccess form).run.run s = (.ok i, s') ∧
          i.status = (if st = .created ∨ st = .pending then .pending else st) ∧
          IntentAt s' gw n a i.status)

theorem echoesSettle {n : Int} (hlo : invoiceMin ≤ n) (hhi : n ≤ invoiceMax) (gw : GatewayConfig)
    (a : Decimal) (S : TextMap) : EchoesSettle gw n a S := by
  intro form o sv hE hamt
  refine ⟨CallbackParams.ofForm_echo hE hlo hhi, CallbackParams.signatureValid_echo,
    fun hsig => ⟨?_, ?_⟩, ?_⟩
  · intro s st h hst
    exact echo_result_applied hE hlo hhi hamt hsig h hst
  · intro s h
    exact echo_result_replayed hE hlo hhi hamt hsig h
  · intro hsig s st h
    exact echo_success_acknowledged hE hlo hhi hamt hsig h

end Server

end StudioRental
