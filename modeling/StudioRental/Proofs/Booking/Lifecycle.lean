import StudioRental.Booking.Change
import StudioRental.Proofs.Money.Price
import StudioRental.Proofs.Text.Trim
import Mathlib.Algebra.Group.Nat.Defs
import Mathlib.Algebra.Group.Int.Defs

/-!
The life of a booking.

A booking is `Valid` when it carries a reason exactly when cancelled, and then one the service
keeps (trimmed, of 10 to 1000 characters), a price with two places below `10^10` in
magnitude, and a deposit between zero and the price with at most two places. One change is a
`Step`: the fields that say what was booked and when it was made stay, the status moves along
the table (`BookingStatus.Moves`), and the update time changes only together with some other
field.

The service makes only `Checked` commands (`Command.cancelWith_checked`,
`Command.depositOf_checked`), and a checked change of a valid booking is a step to a valid
booking (`Change.apply_step`).
-/

namespace StudioRental

namespace BookingStatus

/-- One change of a booking leaves its status, or moves it along the table: a pending booking is
confirmed, a confirmed one completed, and either of them cancelled. -/
inductive Moves : BookingStatus → BookingStatus → Prop
  | stay (s : BookingStatus) : Moves s s
  | confirm : Moves pending confirmed
  | complete : Moves confirmed completed
  | cancelPending : Moves pending cancelled
  | cancelConfirmed : Moves confirmed cancelled

theorem Moves.eq_of_final {s t : BookingStatus} (h : Moves s t)
    (hs : s = cancelled ∨ s = completed) : t = s := by
  cases h <;> simp_all

end BookingStatus

namespace Command

/-- A cancellation reason as the service keeps it: trimmed of blanks, of 10 to 1000
characters. -/
def ReasonOk (r : String) : Prop :=
  Text.trimBlank r = r ∧ minReason ≤ r.length ∧ r.length ≤ maxReason

/-- The commands the service makes: a cancellation with a reason it keeps, a deposit of at least
zero with at most two places; the others carry nothing to check. -/
def Checked : Command → Prop
  | cancel r => ReasonOk r
  | setDeposit x => Decimal.zero ≤ x ∧ x.normalize.scale ≤ Money.places
  | _ => True

theorem cancelWith_checked {reason : String} {cmd : Command} (h : cancelWith reason = .ok cmd) :
    cmd.Checked := by
  unfold cancelWith at h
  dsimp only at h
  split_ifs at h with hmin hmax
  cases h
  exact ⟨Text.trimBlank_trimBlank reason, Nat.le_of_not_lt hmin, Nat.le_of_not_lt hmax⟩

theorem depositOf_checked {amount : Decimal} {cmd : Command} (h : depositOf amount = .ok cmd) :
    cmd.Checked := by
  unfold depositOf at h
  split_ifs at h with hneg
  cases hc : Money.check amount "deposit amount" with
  | error e =>
    rw [hc] at h
    cases h
  | ok x =>
    rw [hc] at h
    cases h
    obtain ⟨rfl, hscale, -⟩ := Money.check_eq_ok hc
    exact ⟨Decimal.le_of_not_lt hneg, hscale⟩

end Command

theorem Decimal.beq_self (d : Decimal) : (d == d) = true := by
  show (d.cmp d == .eq) = true
  simp [Decimal.cmp]

namespace Booking

theorem same_self (b : Booking) : b.same b = true := by
  simp [same, Decimal.beq_self]

/-- What every stored booking satisfies: a reason exactly when cancelled, and then one the
service keeps; a price with two places below `10^10` in magnitude; a deposit of at least zero,
at most the price, with at most two places. -/
structure Valid (b : Booking) : Prop where
  reason : b.cancellationReason.isSome = true ↔ b.status = .cancelled
  reasonOk : ∀ r ∈ b.cancellationReason, Command.ReasonOk r
  priceScale : b.totalPrice.scale = Money.places
  priceBound : b.totalPrice.coeff < 10 ^ (Money.integerDigits + Money.places)
  depositNonneg : Decimal.zero ≤ b.deposit
  depositLe : b.deposit ≤ b.totalPrice
  depositScale : b.deposit.normalize.scale ≤ Money.places

/-- The fields no change touches. -/
structure Fixed (b b' : Booking) : Prop where
  id : b'.id = b.id
  room : b'.room = b.room
  studio : b'.studio = b.studio
  renter : b'.renter = b.renter
  start : b'.start = b.start
  stop : b'.stop = b.stop
  totalPrice : b'.totalPrice = b.totalPrice
  notes : b'.notes = b.notes
  createdAt : b'.createdAt = b.createdAt

/-- One change of a booking: the fixed fields stay, the status moves along the table, and the
update time changes only together with some other field. -/
structure Step (b b' : Booking) : Prop extends Fixed b b' where
  status : BookingStatus.Moves b.status b'.status
  stamp : { b' with updatedAt := b.updatedAt } = b → b' = b

theorem Fixed.stamped {b n : Booking} (h : Fixed b n) (t : Instant) :
    Fixed b { n with updatedAt := t } :=
  ⟨h.id, h.room, h.studio, h.renter, h.start, h.stop, h.totalPrice, h.notes, h.createdAt⟩

theorem Step.refl (b : Booking) : b.Step b :=
  ⟨⟨rfl, rfl, rfl, rfl, rfl, rfl, rfl, rfl, rfl⟩, .stay _, fun _ => rfl⟩

variable {b : Booking}

theorem Valid.congr {n : Booking} (hv : b.Valid) (hr : n.cancellationReason = b.cancellationReason)
    (hs : n.status = b.status) (hp : n.totalPrice = b.totalPrice) (hd : n.deposit = b.deposit) :
    n.Valid :=
  ⟨by rw [hr, hs]; exact hv.reason, hr ▸ hv.reasonOk, hp ▸ hv.priceScale,
    hp ▸ hv.priceBound, hd ▸ hv.depositNonneg, hd ▸ hp ▸ hv.depositLe,
    hd ▸ hv.depositScale⟩

theorem Valid.created {rate : Decimal} {ms : Int} (hr : b.cancellationReason = none)
    (hs : b.status = .pending) (hd : b.deposit = Decimal.zero)
    (hp : Money.totalPrice rate ms = .ok b.totalPrice) (hrate : Decimal.zero ≤ rate)
    (hms : 0 ≤ ms) : b.Valid := by
  obtain ⟨hscale, hbound⟩ := Money.totalPrice_eq_ok hp
  refine ⟨by simp [hr, hs], by simp [hr], hscale, hbound, hd ▸ Decimal.zero_le_zero,
    hd ▸ Money.totalPrice_nonneg hrate hms hp, ?_⟩
  rw [hd]
  decide

theorem Valid.restatus (hv : b.Valid) (hb : b.status ≠ .cancelled) {t : BookingStatus}
    (ht : t ≠ .cancelled) : { b with status := t }.Valid :=
  ⟨by simp [hv.reason, hb, ht], hv.reasonOk, hv.priceScale, hv.priceBound, hv.depositNonneg,
    hv.depositLe, hv.depositScale⟩

end Booking

namespace Change

variable {c : Change} {b n : Booking}

theorem next_keeps (h : c.next b = .ok n) :
    Booking.Fixed b n ∧ BookingStatus.Moves b.status n.status ∧ n.updatedAt = b.updatedAt := by
  rcases c with ⟨cmd, standing, time⟩
  cases cmd with
  | setDeposit amount =>
    -- a deposit confirms a pending booking when it is positive, and keeps the status otherwise
    cases hs : b.status <;> simp only [next, hs, reduceCtorEq] at h
    all_goals
      split at h
      · cases h
      · cases h
        refine ⟨⟨rfl, rfl, rfl, rfl, rfl, rfl, rfl, rfl, rfl⟩, ?_, rfl⟩
        split <;> constructor
  | _ =>
    cases hs : b.status <;> simp [next, hs] at h <;> subst h <;>
      exact ⟨⟨rfl, rfl, rfl, rfl, rfl, rfl, rfl, rfl, rfl⟩, by constructor, rfl⟩

/-- A checked change leaves a valid booking valid. -/
theorem next_valid (hc : c.command.Checked) (hv : b.Valid) (h : c.next b = .ok n) : n.Valid := by
  rcases c with ⟨cmd, standing, time⟩
  cases cmd with
  | confirm =>
    cases hs : b.status <;> simp [next, hs] at h
    subst h
    exact hv.restatus (by rw [hs]; decide) (by decide)
  | complete =>
    cases hs : b.status <;> simp [next, hs] at h
    subst h
    exact hv.restatus (by rw [hs]; decide) (by decide)
  | markPaid =>
    cases hs : b.status <;> simp [next, hs] at h <;> subst h <;> exact hv.congr rfl hs.symm rfl rfl
  | syncPayment state =>
    simp [next] at h
    subst h
    exact hv.congr rfl rfl rfl rfl
  | cancel r =>
    cases hs : b.status <;> simp [next, hs] at h <;> subst h <;>
      exact ⟨by simp, fun r' hr' => Option.some.inj hr' ▸ hc, hv.priceScale, hv.priceBound,
        hv.depositNonneg, hv.depositLe, hv.depositScale⟩
  | setDeposit amount =>
    obtain ⟨hnonneg, hscale⟩ := hc
    cases hs : b.status <;> simp only [next, hs, reduceCtorEq] at h
    all_goals
      split at h
      · cases h
      · rename_i hle
        cases h
        -- the status stays uncancelled, and the deposit passed every check
        have hreason : b.cancellationReason.isSome = false := by simpa [hs] using hv.reason
        refine ⟨?_, hv.reasonOk, hv.priceScale, hv.priceBound, hnonneg,
          Decimal.le_of_not_lt hle, hscale⟩
        simp only [hreason]
        split <;> decide

theorem apply_eq_ok {b' : Booking} (h : c.apply b = .ok b') :
    ∃ n, c.next b = .ok n ∧ b' = if n.same b then b else { n with updatedAt := c.time } := by
  simp only [apply, bind, Except.bind, pure, Except.pure] at h
  split at h
  · cases h
  split at h
  · cases h
  rename_i n hn
  exact ⟨n, hn, (Except.ok.inj h).symm⟩

/-- The update time moves to the change's time exactly when some other field changed: with its
old time back the record is the booking only when the change kept it whole. -/
theorem apply_stamp {b' : Booking} (h : c.apply b = .ok b') :
    ({ b' with updatedAt := b.updatedAt } = b → b' = b) ∧
      ({ b' with updatedAt := b.updatedAt } ≠ b → b'.updatedAt = c.time) := by
  obtain ⟨n, hn, rfl⟩ := apply_eq_ok h
  obtain ⟨-, -, hupd⟩ := next_keeps hn
  split
  · exact ⟨fun _ => rfl, fun hne => absurd rfl hne⟩
  · rename_i hsame
    refine ⟨fun hb => ?_, fun _ => rfl⟩
    -- with the old update time back the record is the changed one, which differs from `b`
    have hn' : { { n with updatedAt := c.time } with updatedAt := b.updatedAt } = n := by
      rw [← hupd]
    rw [hn'] at hb
    rw [hb, Booking.same_self] at hsame
    exact absurd rfl hsame

/-- A checked change of a valid booking gives a valid booking one step on. A change that leaves
the record the same keeps it whole; any other sets the update time. -/
theorem apply_step {b' : Booking} (hc : c.command.Checked) (hv : b.Valid)
    (h : c.apply b = .ok b') : b'.Valid ∧ b.Step b' := by
  have hstamp := (apply_stamp h).1
  obtain ⟨n, hn, rfl⟩ := apply_eq_ok h
  obtain ⟨hfixed, hmoves, -⟩ := next_keeps hn
  split
  · exact ⟨hv, .refl b⟩
  · refine ⟨(next_valid hc hv hn).congr rfl rfl rfl rfl, ⟨hfixed.stamped c.time, hmoves, ?_⟩⟩
    rwa [if_neg ‹_›] at hstamp

end Change

end StudioRental
