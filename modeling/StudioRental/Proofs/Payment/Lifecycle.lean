import StudioRental.Payment.Callback

/-!
The life of a payment intent under the gateway's callbacks.

An intent is issued `created`, with no payment time, failure reason or recorded callback. Every
callback after that, on either channel, validly signed or not, with any amount, payload or
time, moves the status forward along `created → pending → paid` (a settlement may skip
`pending`) or from `created` or `pending` to `failed`; nothing leaves `paid` or `failed`. The
payment time is set exactly when the intent is paid and the failure reason exactly when it has
failed, and the terms the payer agreed to (invoice, booking, amount, description, custom
parameters and signature) never change. A settlement notice leaves a paid intent as it is, and
a payer's return changes a paid intent only in what it records of itself and the update time.
Over any sequence of callbacks the verdict `applied` is given at most once.

Everything is derived from what one callback can do (`CallbackCheck.apply_cases`); the run
lemmas are inductions on the sequence of callbacks.
-/

namespace StudioRental

namespace IntentStatus

/-- How one callback may move a status: not at all, forward along `created → pending → paid`,
or from `created` or `pending` to `failed`. -/
inductive Advance : IntentStatus → IntentStatus → Prop
  | stay (s : IntentStatus) : Advance s s
  | created_pending : Advance created pending
  | created_paid : Advance created paid
  | pending_paid : Advance pending paid
  | created_failed : Advance created failed
  | pending_failed : Advance pending failed

/-- Paid and failed intents are settled. -/
def settled : IntentStatus → Bool
  | paid | failed => true
  | created | pending => false

theorem Advance.eq_of_settled {s t : IntentStatus} (h : Advance s t) (hs : s.settled) :
    t = s := by
  cases h <;> first | rfl | simp [settled] at hs

end IntentStatus

namespace Intent

/-- An intent as issued: created, with nothing recorded of any callback. -/
structure Fresh (i : Intent) : Prop where
  status : i.status = .created
  paidAt : i.paidAt = none
  failureReason : i.failureReason = none
  resultPayload : i.resultPayload = none
  successPayload : i.successPayload = none

/-- The payment time is there exactly when the intent is paid, and the failure reason exactly
when it has failed. -/
structure Consistent (i : Intent) : Prop where
  paidAt : i.paidAt.isSome ↔ i.status = .paid
  failureReason : i.failureReason.isSome ↔ i.status = .failed

theorem Fresh.consistent {i : Intent} (h : i.Fresh) : i.Consistent :=
  ⟨by simp [h.paidAt, h.status], by simp [h.failureReason, h.status]⟩

/-- An intent for zero as the payment service issues it. -/
def issuedExample : Intent where
  invoice := 1
  booking := Ulid.nil
  amount := Decimal.zeroWith 0
  description := "Studio session"
  shp := []
  status := .created
  signature := "sig"
  failureReason := none
  resultPayload := none
  successPayload := none
  paidAt := none
  createdAt := ⟨0, 0⟩
  updatedAt := ⟨0, 0⟩

/-- The terms of the payment, which no callback may change. -/
def terms (i : Intent) : Int × Ulid × Decimal × String × TextMap × String :=
  (i.invoice, i.booking, i.amount, i.description, i.shp, i.signature)

/-- The intent after a sequence of callbacks, each applied to what the one before left. -/
def afterCallbacks : Intent → List CallbackCheck → Intent
  | i, [] => i
  | i, c :: cs => afterCallbacks (c.apply i).1 cs

/-- The verdicts a sequence of callbacks gets, in order. -/
def verdicts : Intent → List CallbackCheck → List Verdict
  | _, [] => []
  | i, c :: cs => (c.apply i).2 :: verdicts (c.apply i).1 cs

@[simp] theorem afterCallbacks_nil (i : Intent) : i.afterCallbacks [] = i := rfl

@[simp] theorem afterCallbacks_cons (i : Intent) (c : CallbackCheck) (cs : List CallbackCheck) :
    i.afterCallbacks (c :: cs) = (c.apply i).1.afterCallbacks cs := rfl

@[simp] theorem verdicts_nil (i : Intent) : i.verdicts [] = [] := rfl

@[simp] theorem verdicts_cons (i : Intent) (c : CallbackCheck) (cs : List CallbackCheck) :
    i.verdicts (c :: cs) = (c.apply i).2 :: (c.apply i).1.verdicts cs := rfl

theorem afterCallbacks_append (i : Intent) (cs ds : List CallbackCheck) :
    i.afterCallbacks (cs ++ ds) = (i.afterCallbacks cs).afterCallbacks ds := by
  induction cs generalizing i with
  | nil => rfl
  | cons c cs ih => exact ih _

end Intent

namespace CallbackCheck

variable (c : CallbackCheck) (i : Intent)

/-! ### One callback -/

theorem verdict_eq_applied {c : CallbackCheck} {i : Intent} (h : c.verdict i = .applied) :
    c.channel = .result ∧ (i.status = .created ∨ i.status = .pending) := by
  unfold verdict at h
  split at h
  · cases h
  split at h
  · cases h
  cases hc : c.channel <;> cases hs : i.status <;> simp_all

/-- What an edit can be: a settlement that pays an unpaid intent, a settlement that fails an
intent neither paid nor failed, or a payer's return recording itself and perhaps moving a
created intent to pending. -/
theorem edit_eq_some {c : CallbackCheck} {v : Verdict} {i n : Intent} (h : c.edit v i = some n) :
    (c.channel = .result ∧ i.status ≠ .paid ∧ v = .applied ∧
      n = { i with status := .paid, paidAt := some c.time, resultPayload := some c.payload }) ∨
    (c.channel = .result ∧ i.status ≠ .paid ∧ i.status ≠ .failed ∧
      (v = .invalidSignature ∨ v = .amountMismatch) ∧
      n = { i with status := .failed,
                   failureReason := some (if v == .invalidSignature then "invalid signature"
                     else "amount mismatch"),
                   resultPayload := some c.payload }) ∨
    (c.channel = .success ∧
      n = { i with successPayload := some c.payload,
                   status := if v == .acknowledged && i.status == .created then .pending
                     else i.status }) := by
  unfold edit at h
  cases hc : c.channel
  · simp only [hc] at h
    split at h
    · cases h
    rename_i hp
    have hp : i.status ≠ .paid := by simpa using hp
    split at h
    · exact .inl ⟨rfl, hp, rfl, (Option.some.inj h).symm⟩
    · split at h
      · cases h
      rename_i hf
      exact .inr (.inl ⟨rfl, hp, by simpa using hf, .inl rfl, (Option.some.inj h).symm⟩)
    · split at h
      · cases h
      rename_i hf
      exact .inr (.inl ⟨rfl, hp, by simpa using hf, .inr rfl, (Option.some.inj h).symm⟩)
    · cases h
  · simp only [hc, Option.ite_none_left_eq_some] at h
    exact .inr (.inr ⟨rfl, (Option.some.inj h.2).symm⟩)

/-- A callback either leaves the intent as it is or makes its edit and moves the update time to
its own. -/
theorem apply_cases :
    c.apply i = (i, c.verdict i) ∨
      ∃ n, c.edit (c.verdict i) i = some n ∧
        c.apply i = ({ n with updatedAt := c.time }, c.verdict i) := by
  cases hn : c.edit (c.verdict i) i with
  | none => exact .inl (by simp [apply, hn])
  | some n => exact .inr ⟨n, rfl, by simp [apply, hn]⟩

theorem terms_apply : (c.apply i).1.terms = i.terms := by
  rcases apply_cases c i with h | ⟨n, hn, h⟩ <;> rw [h]
  rcases edit_eq_some hn with ⟨-, -, -, rfl⟩ | ⟨-, -, -, -, rfl⟩ | ⟨-, rfl⟩ <;> rfl

theorem advance_apply : IntentStatus.Advance i.status (c.apply i).1.status := by
  rcases apply_cases c i with h | ⟨n, hn, h⟩ <;> rw [h]
  · exact .stay _
  rcases edit_eq_some hn with ⟨-, -, hv, rfl⟩ | ⟨-, hp, hf, -, rfl⟩ | ⟨-, rfl⟩
  · -- only an intent that is created or pending is paid
    rcases (verdict_eq_applied hv).2 with hs | hs <;> rw [hs] <;> constructor
  · cases hs : i.status <;> simp_all <;> constructor
  · cases hs : i.status <;> split <;> simp_all <;> constructor

theorem consistent_apply {i : Intent} (hi : i.Consistent) : (c.apply i).1.Consistent := by
  obtain ⟨hpa, hfr⟩ := hi
  rcases apply_cases c i with h | ⟨n, hn, h⟩ <;> rw [h]
  · exact ⟨hpa, hfr⟩
  rcases edit_eq_some hn with ⟨-, -, hv, rfl⟩ | ⟨-, hp, hf, -, rfl⟩ | ⟨-, rfl⟩
  · -- the paid intent was created or pending, so it had no failure reason
    have hf : i.status ≠ .failed := by
      rcases (verdict_eq_applied hv).2 with hs | hs <;> simp [hs]
    exact ⟨by simp, by simpa [hf] using hfr⟩
  · exact ⟨by simp [hpa, hp], by simp⟩
  · constructor
    · split <;> simp_all
    · split <;> simp_all

theorem apply_of_paid_result {c : CallbackCheck} {i : Intent} (hp : i.status = .paid)
    (hc : c.channel = .result) : (c.apply i).1 = i := by
  rcases apply_cases c i with h | ⟨n, hn, -⟩
  · rw [h]
  · rcases edit_eq_some hn with ⟨-, hp', -⟩ | ⟨-, hp', -⟩ | ⟨hc', -⟩
    · exact absurd hp hp'
    · exact absurd hp hp'
    · simp [hc] at hc'

theorem apply_of_paid_success {c : CallbackCheck} {i : Intent} (hp : i.status = .paid) :
    { (c.apply i).1 with successPayload := i.successPayload, updatedAt := i.updatedAt } = i := by
  rcases apply_cases c i with h | ⟨n, hn, h⟩ <;> rw [h]
  rcases edit_eq_some hn with ⟨-, hp', -⟩ | ⟨-, hp', -⟩ | ⟨-, rfl⟩
  · exact absurd hp hp'
  · exact absurd hp hp'
  · cases i
    simp_all

theorem paid_of_applied {c : CallbackCheck} {i : Intent} (h : (c.apply i).2 = .applied) :
    i.status ≠ .paid ∧ (c.apply i).1.status = .paid := by
  have hv : c.verdict i = .applied := by
    rcases apply_cases c i with h' | ⟨n, -, h'⟩ <;> rw [h'] at h <;> exact h
  obtain ⟨hc, hs⟩ := verdict_eq_applied hv
  have hp : i.status ≠ .paid := by rcases hs with hs | hs <;> simp [hs]
  refine ⟨hp, ?_⟩
  rcases apply_cases c i with h' | ⟨n, hn, h'⟩ <;> rw [h']
  · -- a settlement of an unpaid intent with verdict `applied` always edits it
    simp [apply, edit, hc, hp, hv] at h'
    exact (congrArg Intent.status h').symm
  · rcases edit_eq_some hn with ⟨-, -, -, rfl⟩ | ⟨-, -, -, hv', -⟩ | ⟨hc', -⟩
    · rfl
    · rcases hv' with hv' | hv' <;> simp [hv] at hv'
    · simp [hc] at hc'

theorem amount_apply : (c.apply i).1.amount = i.amount :=
  congrArg (·.2.2.1) (c.terms_apply i)

theorem verdict_apply : (c.apply i).2 = c.verdict i := by
  rcases apply_cases c i with h | ⟨n, -, h⟩ <;> rw [h]

theorem verdict_of_valid {c : CallbackCheck} {i : Intent} (hs : c.signatureValid = true)
    (ha : c.amount.any (· == i.amount) = true) :
    c.verdict i =
      if c.channel = .success then .acknowledged
      else if i.status = .paid then .alreadyApplied
      else if i.status = .failed then .alreadyFailed
      else .applied := by
  simp only [verdict, hs, ha, Bool.not_true, Bool.false_eq_true, if_false]
  cases c.channel <;> cases i.status <;> rfl

theorem status_apply_success {c : CallbackCheck} {i : Intent} (hc : c.channel = .success)
    (hv : c.verdict i = .acknowledged) :
    (c.apply i).1.status = if i.status = .created then .pending else i.status := by
  rcases apply_cases c i with h | ⟨n, hn, h⟩ <;> rw [h]
  · by_cases hs : i.status = .created
    · -- an acknowledged return always edits a created intent
      simp [apply, edit, hc, hv, hs] at h
      have := congrArg Intent.status h
      simp [hs] at this
    · simp [hs]
  · rcases edit_eq_some hn with ⟨hc', -⟩ | ⟨hc', -⟩ | ⟨-, rfl⟩
    · simp [hc] at hc'
    · simp [hc] at hc'
    · cases hs : i.status <;> simp [hv]

end CallbackCheck

namespace Intent

/-! ### Sequences of callbacks -/

/-- A settled intent keeps its status through any sequence of callbacks. -/
theorem status_afterCallbacks_of_settled {i : Intent} (h : i.status.settled)
    (cs : List CallbackCheck) : (i.afterCallbacks cs).status = i.status := by
  induction cs generalizing i with
  | nil => rfl
  | cons c cs ih =>
      have hs : (c.apply i).1.status = i.status := (c.advance_apply i).eq_of_settled h
      rw [afterCallbacks_cons, ih (hs ▸ h), hs]

/-- No sequence of callbacks changes the terms of the payment. -/
theorem terms_afterCallbacks (i : Intent) (cs : List CallbackCheck) :
    (i.afterCallbacks cs).terms = i.terms := by
  induction cs generalizing i with
  | nil => rfl
  | cons c cs ih => rw [afterCallbacks_cons, ih, c.terms_apply]

/-- The payment time and failure reason stay in step with the status through any sequence of
callbacks. -/
theorem consistent_afterCallbacks {i : Intent} (h : i.Consistent) (cs : List CallbackCheck) :
    (i.afterCallbacks cs).Consistent := by
  induction cs generalizing i with
  | nil => exact h
  | cons c cs ih => exact ih (c.consistent_apply h)

theorem count_applied_of_paid {i : Intent} (h : i.status = .paid) (cs : List CallbackCheck) :
    (i.verdicts cs).count .applied = 0 := by
  induction cs generalizing i with
  | nil => rfl
  | cons c cs ih =>
      have hs : (c.apply i).1.status = .paid :=
        ((c.advance_apply i).eq_of_settled (by rw [h]; rfl)).trans h
      have hv : (c.apply i).2 ≠ .applied := fun hv => (c.paid_of_applied hv).1 h
      simp [ih hs, hv]

/-- Over any sequence of callbacks, `applied` is given at most once. -/
theorem count_applied_le_one (i : Intent) (cs : List CallbackCheck) :
    (i.verdicts cs).count .applied ≤ 1 := by
  induction cs generalizing i with
  | nil => simp
  | cons c cs ih =>
      by_cases hv : (c.apply i).2 = .applied
      · -- the callback that applies leaves the intent paid, so none after it applies
        have hrest := count_applied_of_paid (c.paid_of_applied hv).2 cs
        simp [hv, hrest]
      · simpa [hv] using ih (c.apply i).1

-- A settlement replayed, even with its amount written to another scale, is already applied.
example : issuedExample.verdicts
    [⟨.result, true, some (Decimal.zeroWith 0), [], ⟨5, 0⟩⟩,
      ⟨.result, true, some (Decimal.zeroWith 2), [], ⟨6, 0⟩⟩] =
    [.applied, .alreadyApplied] := by
  decide

/-- The lifecycle of an intent issued as `i₀`, over every sequence of callbacks `cs` and every
next callback `c`. -/
structure Lifecycle (i₀ : Intent) : Prop where
  /-- The next callback moves the status as `Advance` allows. -/
  advance : ∀ (cs : List CallbackCheck) (c : CallbackCheck),
    IntentStatus.Advance (i₀.afterCallbacks cs).status (c.apply (i₀.afterCallbacks cs)).1.status
  /-- A settlement notice leaves a paid intent as it is. -/
  paid_result : ∀ (cs : List CallbackCheck) (c : CallbackCheck),
    (i₀.afterCallbacks cs).status = .paid → c.channel = .result →
      (c.apply (i₀.afterCallbacks cs)).1 = i₀.afterCallbacks cs
  /-- A payer's return changes a paid intent only in its own record and the update time. -/
  paid_success : ∀ (cs : List CallbackCheck) (c : CallbackCheck),
    (i₀.afterCallbacks cs).status = .paid → c.channel = .success →
      { (c.apply (i₀.afterCallbacks cs)).1 with
          successPayload := (i₀.afterCallbacks cs).successPayload,
          updatedAt := (i₀.afterCallbacks cs).updatedAt } = i₀.afterCallbacks cs
  /-- The payment time and the failure reason match the status. -/
  consistent : ∀ cs : List CallbackCheck, (i₀.afterCallbacks cs).Consistent
  /-- The terms of the payment never change. -/
  terms : ∀ cs : List CallbackCheck, (i₀.afterCallbacks cs).terms = i₀.terms
  /-- A settled status is kept by every later callback. -/
  settled : ∀ cs ds : List CallbackCheck, (i₀.afterCallbacks cs).status.settled →
    (i₀.afterCallbacks (cs ++ ds)).status = (i₀.afterCallbacks cs).status
  /-- `applied` is given at most once. -/
  applied_once : ∀ cs : List CallbackCheck, (i₀.verdicts cs).count .applied ≤ 1

/-- An issued intent follows its lifecycle under every sequence of callbacks. -/
theorem callbacks_follow_lifecycle (i₀ : Intent) (h : i₀.Fresh) : i₀.Lifecycle where
  advance cs c := c.advance_apply _
  paid_result _ _ hp hc := CallbackCheck.apply_of_paid_result hp hc
  paid_success _ _ hp _ := CallbackCheck.apply_of_paid_success hp
  consistent cs := consistent_afterCallbacks h.consistent cs
  terms cs := terms_afterCallbacks i₀ cs
  settled cs ds hs := by
    rw [afterCallbacks_append]
    exact status_afterCallbacks_of_settled hs ds
  applied_once cs := count_applied_le_one i₀ cs

theorem issuedExample_follows_lifecycle : issuedExample.Fresh ∧ issuedExample.Lifecycle :=
  ⟨⟨rfl, rfl, rfl, rfl, rfl⟩, callbacks_follow_lifecycle issuedExample ⟨rfl, rfl, rfl, rfl, rfl⟩⟩

end Intent

end StudioRental
