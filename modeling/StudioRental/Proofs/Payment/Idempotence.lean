import StudioRental.Proofs.Server.Settlement
import StudioRental.Proofs.Booking.Lifecycle

/-!
Callbacks are idempotent.

A callback applied to the intent it has already edited leaves it exactly as it is, its update
time included, and gets the same verdict, except that a settlement first `applied` is then
`alreadyApplied` (`CallbackCheck.apply_apply`). Every edit a callback makes leaves the intent
where the same callback has nothing more to edit (`CallbackCheck.edit_apply`): settlements leave
a paid intent alone, a failed intent is not failed again, and a payer's return already recorded,
with the status it moved, records nothing more. So a callback the gateway sends again reaches
the engine as a change to the same record, which reports no change and writes nothing to the
journal (`Engine.modifyIntent_callback_again`).
-/

namespace StudioRental

namespace Intent

theorem same_self (i : Intent) : i.same i = true := by
  simp [same, Decimal.beq_self]

end Intent

namespace CallbackCheck

variable (c : CallbackCheck) (i : Intent)

theorem apply_of_edit_none {c : CallbackCheck} {i : Intent} (h : c.edit (c.verdict i) i = none) :
    c.apply i = (i, c.verdict i) := by
  simp [apply, h]

/-- The status a valid settlement for the intent's amount leaves: a failed intent stays failed,
and every other ends paid. -/
theorem status_apply_settlement {c : CallbackCheck} {i : Intent} (hc : c.channel = .result)
    (hs : c.signatureValid = true) (ha : c.amount.any (· == i.amount) = true) :
    (c.apply i).1.status = if i.status = .failed then .failed else .paid := by
  have hv := verdict_of_valid hs ha
  cases hst : i.status with
  | paid => rw [apply_of_paid_result hst hc, hst]; rfl
  | failed => exact ((c.advance_apply i).eq_of_settled (by rw [hst]; rfl)).trans hst
  | created | pending =>
    -- an unsettled intent gets `applied`, which pays it
    have happ : (c.apply i).2 = .applied := by simp [verdict_apply, hv, hc, hst]
    simpa using (paid_of_applied happ).2

/-- The verdict on what a callback left is the verdict it got, except that `applied` becomes
`alreadyApplied`. -/
theorem verdict_apply_fst :
    c.verdict (c.apply i).1 = if c.verdict i = .applied then .alreadyApplied else c.verdict i := by
  have hamount := c.amount_apply i
  by_cases hs : c.signatureValid = true
  · by_cases ha : c.amount.any (· == i.amount) = true
    · have ha' : c.amount.any (· == (c.apply i).1.amount) = true := by rwa [hamount]
      rw [verdict_of_valid hs ha', verdict_of_valid hs ha]
      cases hc : c.channel with
      | success => simp
      | result =>
        -- a settlement is judged by the status, which it leaves failed or paid
        rw [status_apply_settlement hc hs ha]
        cases i.status <;> simp
    · -- the amount is the intent's both times, so it mismatches both times
      have hmis : ∀ j : Intent, j.amount = i.amount → c.verdict j = .amountMismatch := by
        intro j hj
        simp [verdict, hs, hj, ha]
      rw [hmis _ hamount, hmis i rfl]
      simp
  · have hinv : ∀ j : Intent, c.verdict j = .invalidSignature := by
      intro j
      simp [verdict, hs]
    rw [hinv, hinv]
    simp

/-- What a callback left is where the same callback has nothing more to edit. -/
theorem edit_apply : c.edit (c.verdict (c.apply i).1) (c.apply i).1 = none := by
  have hv := c.verdict_apply_fst i
  cases hn : c.edit (c.verdict i) i with
  | none =>
    rw [apply_of_edit_none hn] at hv ⊢
    exact hn
  | some n =>
    have happ : (c.apply i).1 = { n with updatedAt := c.time } := by simp [apply, hn]
    rw [happ] at hv ⊢
    rw [hv]
    rcases edit_eq_some hn with ⟨hc, -, -, rfl⟩ | ⟨hc, -, -, hbad, rfl⟩ | ⟨hc, rfl⟩
    · -- paid: settlements leave it alone
      simp [edit, hc]
    · -- failed: the same refusal does not fail it again
      rcases hbad with hbad | hbad <;> simp [edit, hc, hbad]
    · -- the return is recorded, and an acknowledged one has already moved a created intent
      cases i.status <;> cases c.verdict i <;> simp [edit, hc]

/-- A callback applied again to what it left leaves it exactly so, its update time included;
its verdict is the same, except that `applied` becomes `alreadyApplied`. -/
theorem apply_apply :
    c.apply (c.apply i).1 =
      ((c.apply i).1, if (c.apply i).2 = .applied then .alreadyApplied else (c.apply i).2) := by
  rw [apply_of_edit_none (c.edit_apply i), verdict_apply_fst, verdict_apply]

end CallbackCheck

namespace Engine

/-- A callback sent again reaches the engine as no change: the intent is the one the first call
left, no change is reported, and the engine, its journal included, stays as the first call left
it. -/
theorem modifyIntent_callback_again {e e₁ : Engine} {n : Int} {c : CallbackCheck}
    {r : Intent × Bool × Verdict}
    (h : e.modifyIntent n (fun i => .ok (c.apply i)) = .ok (r, e₁)) :
    e₁.modifyIntent n (fun i => .ok (c.apply i)) =
      .ok ((r.1, false, if r.2.2 = .applied then .alreadyApplied else r.2.2), e₁) := by
  obtain ⟨i, changed, v⟩ := r
  obtain ⟨current, hget, hf, hcases⟩ := modifyIntent_eq_ok h
  have happ : c.apply current = (i, v) := Except.ok.inj hf
  have hagain : c.apply i = (i, if v = .applied then .alreadyApplied else v) := by
    simpa only [happ] using c.apply_apply current
  rcases hcases with ⟨hsame, -, rfl⟩ | ⟨-, -, rfl⟩
  · -- nothing changed the first time, so the first verdict was not `applied`, which pays
    have hv : v ≠ .applied := fun hv => by
      have hpaid := CallbackCheck.paid_of_applied (show (c.apply current).2 = .applied by
        rw [happ]; exact hv)
      rw [happ] at hpaid
      exact hpaid.1 (Intent.status_of_same hsame ▸ hpaid.2)
    rw [modifyIntent_of_getIntent hget (f := fun i => .ok (c.apply i)) (congrArg Except.ok happ),
      hsame]
    simp [hv]
  · -- the first call stored what the callback left, which the callback leaves as it is
    rw [modifyIntent_of_getIntent (getIntent_fileIntent_self n i) (f := fun i => .ok (c.apply i))
      (congrArg Except.ok hagain), Intent.same_self]
    rfl

end Engine

/-- Callbacks are idempotent. Applied again to what it left, a callback leaves the intent exactly
so, its update time included, and gets the same verdict, except that `applied` becomes
`alreadyApplied`; sent again to the engine, it reports no change and leaves the engine and its
journal as they were. -/
theorem callbacks_idempotent :
    (∀ (c : CallbackCheck) (i : Intent), c.apply (c.apply i).1 =
      ((c.apply i).1, if (c.apply i).2 = .applied then .alreadyApplied else (c.apply i).2)) ∧
    ∀ (e e₁ : Engine) (n : Int) (c : CallbackCheck) (r : Intent × Bool × Verdict),
      e.modifyIntent n (fun i => .ok (c.apply i)) = .ok (r, e₁) →
        e₁.modifyIntent n (fun i => .ok (c.apply i)) =
          .ok ((r.1, false, if r.2.2 = .applied then .alreadyApplied else r.2.2), e₁) :=
  ⟨fun c i => c.apply_apply i, fun _ _ _ _ _ h => Engine.modifyIntent_callback_again h⟩

/-- A settlement of the issued example intent, sent twice: the first pays it, the second is
already applied and changes nothing. -/
theorem settlement_sent_twice :
    let e : Engine := { intents := [(1, Intent.issuedExample)] }
    let c : CallbackCheck := ⟨.result, true, some (Decimal.zeroWith 0), [], ⟨5, 0⟩⟩
    let paid := (c.apply Intent.issuedExample).1
    let e₁ := (e.record (.intentChanged paid)).fileIntent 1 paid
    e.modifyIntent 1 (fun i => .ok (c.apply i)) = .ok ((paid, true, .applied), e₁) ∧
      e₁.modifyIntent 1 (fun i => .ok (c.apply i)) = .ok ((paid, false, .alreadyApplied), e₁) := by
  intro e c paid e₁
  have h₁ : e.modifyIntent 1 (fun i => .ok (c.apply i)) = .ok ((paid, true, .applied), e₁) := by
    rfl
  exact ⟨h₁, callbacks_idempotent.2 e e₁ 1 c _ h₁⟩

end StudioRental
