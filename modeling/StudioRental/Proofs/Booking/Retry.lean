import StudioRental.Proofs.Booking.Lifecycle
import StudioRental.Proofs.Server.Issue

/-!
A change of a booking is atomic, framed and safe to retry.

A change touches only what its command is about: the status, the deposit, the payment state and
the cancellation reason, and the update time, which moves to the change's time exactly when one
of the others changed (`Change.apply_frame`, `Change.apply_stamp`). Every entry of the
transition table lands where the same command has nothing more to do or is no longer allowed
(`Change.next_next`), and the table does not read the update time (`Change.next_stamped`); so a
change applied again to the record it left keeps it or refuses it as an invalid transition
(`Change.apply_again`). The table refuses only by a validation or an invalid transition, so a
change is forbidden exactly when the check of the standing before it fails
(`Change.apply_forbidden_iff`). A change that fails on the stored booking fails the storage call
with its error and leaves the server as it was (`Server.modifyBooking_refused`).
-/

namespace StudioRental

namespace Booking

theorem Fixed.restore {b r : Booking} (h : Fixed b r) :
    { r with status := b.status, deposit := b.deposit, payment := b.payment,
             cancellationReason := b.cancellationReason, updatedAt := b.updatedAt } = b := by
  cases b
  cases r
  cases h
  simp_all

end Booking

namespace Change

variable {c : Change} {b n r : Booking}

/-- A change touches only the status, the deposit, the payment state, the cancellation reason
and the update time. -/
theorem apply_frame (h : c.apply b = .ok r) :
    { r with status := b.status, deposit := b.deposit, payment := b.payment,
             cancellationReason := b.cancellationReason, updatedAt := b.updatedAt } = b := by
  obtain ⟨n, hn, rfl⟩ := apply_eq_ok h
  obtain ⟨hfixed, -, -⟩ := next_keeps hn
  split
  · rfl
  · exact (hfixed.stamped c.time).restore

/-- The table does not read the update time. -/
theorem next_stamped (c : Change) (b : Booking) (t : Instant) :
    c.next { b with updatedAt := t } = (c.next b).map fun n => { n with updatedAt := t } := by
  rcases c with ⟨cmd, standing, time⟩
  cases cmd <;> cases hs : b.status <;> simp only [next, hs] <;> try rfl
  all_goals split <;> rfl

/-- Every entry of the table lands where the same command has nothing more to do or is no
longer allowed. -/
theorem next_next (h : c.next b = .ok n) :
    c.next n = .ok n ∨ ∃ m, c.next n = .error (.invalidTransition m) := by
  rcases c with ⟨cmd, standing, time⟩
  cases cmd with
  | setDeposit amount =>
    -- the deposit is in place, and one that left the booking pending confirms nothing on retry
    left
    cases hs : b.status <;> simp only [next, hs, reduceCtorEq] at h
    all_goals
      split at h
      · cases h
      · rename_i hle
        cases h
        by_cases hpos : Decimal.zero < amount <;> simp [next, hle, hpos]
  | _ =>
    cases hs : b.status <;> simp [next, hs] at h <;> subst h <;> simp [next]

/-- A change applied again to the record it left keeps it or refuses it as an invalid
transition; it never changes the record a second time. -/
theorem apply_again (h : c.apply b = .ok r) :
    c.apply r = .ok r ∨ ∃ m, c.apply r = .error (.invalidTransition m) := by
  have hauth : c.authorize = .ok () := by
    cases ha : c.authorize with
    | ok u => rfl
    | error err => simp [apply, ha, bind, Except.bind] at h
  obtain ⟨n, hn, rfl⟩ := apply_eq_ok h
  split
  · -- the change kept the booking whole, and does so again
    rename_i hsame
    left
    simp [apply, hauth, hn, hsame, bind, Except.bind, pure, Except.pure]
  · -- the record is the table's entry with the change's time, which the table carries along
    rcases next_next hn with hnn | ⟨m, hnn⟩
    · left
      simp [apply, hauth, next_stamped, hnn, Booking.same_self, bind, Except.bind, pure,
        Except.pure, Except.map]
    · right
      exact ⟨m, by simp [apply, hauth, next_stamped, hnn, bind, Except.bind, Except.map]⟩

/-- The table refuses a change only by a validation or an invalid transition. -/
theorem next_ne_forbidden {err : Error} (h : c.next b = .error err) (m : String) :
    err ≠ .forbidden m := by
  rcases c with ⟨cmd, standing, time⟩
  cases cmd <;> cases hs : b.status <;> simp only [next, hs, reduceCtorEq] at h
  all_goals first
    | (cases h; simp)
    | (split at h <;> cases h; simp)

/-- A change is forbidden exactly when the check of the standing fails. -/
theorem apply_forbidden_iff :
    (∃ m, c.apply b = .error (.forbidden m)) ↔ ∃ err, c.authorize = .error err := by
  constructor
  · rintro ⟨m, hm⟩
    cases ha : c.authorize with
    | error err => exact ⟨err, rfl⟩
    | ok u =>
      -- past the check, only the table can refuse, and it never refuses as forbidden
      simp only [apply, ha, bind, Except.bind] at hm
      cases hn : c.next b with
      | error err =>
        rw [hn] at hm
        exact absurd (Except.error.inj hm) (next_ne_forbidden hn m)
      | ok n =>
        rw [hn] at hm
        cases hm
  · rintro ⟨err, ha⟩
    -- the check refuses only as forbidden
    unfold authorize at ha
    split at ha
    · cases ha
    · rename_i hno
      cases ha
      exact ⟨c.standing.text ++ " may not " ++ c.command.label ++ " this booking",
        by simp [apply, authorize, hno, bind, Except.bind]⟩

end Change

namespace Engine

theorem modifyBooking_of_getBooking_error {e : Engine} {id : Ulid} {b : Booking}
    {f : Booking → Except Error Booking} {err : Error} (hb : e.getBooking id = some b)
    (hf : f b = .error err) : e.modifyBooking id f = .error err := by
  simp only [getBooking, Option.bind_eq_bind, Option.bind_eq_some_iff] at hb
  obtain ⟨room, hroom, r, hr, hfind⟩ := hb
  simp [modifyBooking, hroom, hr, hfind, hf, bind, Except.bind]

end Engine

namespace Server

/-- A change that fails on the stored booking fails the storage call with its error and leaves
the server as it was. -/
theorem modifyBooking_refused {s : Server} {id : Ulid} {c : Change} {b : Booking} {err : Error}
    (hb : s.backend = .embedded) (hstored : s.engine.getBooking id = some b)
    (h : c.apply b = .error err) : (modifyBooking id c).run.run s = (.error err, s) := by
  rw [modifyBooking_run id c hb, Engine.modifyBooking_of_getBooking_error hstored h]

end Server

namespace Change

/-- What one change does to one booking. A refusal leaves the stored booking, and the whole
server, as they were. A success touches only the status, the deposit, the payment state, the
cancellation reason and the update time, and the update time exactly when one of the others
changed. Applied again to what it left, the change keeps it or refuses as an invalid transition.
The change is forbidden exactly when the check of the standing fails. -/
structure Safe (c : Change) (b : Booking) : Prop where
  atomic : ∀ (s : Server) (id : Ulid) (err : Error), s.backend = .embedded →
    s.engine.getBooking id = some b → c.apply b = .error err →
      (Server.modifyBooking id c).run.run s = (.error err, s)
  frame : ∀ r, c.apply b = .ok r →
    { r with status := b.status, deposit := b.deposit, payment := b.payment,
             cancellationReason := b.cancellationReason, updatedAt := b.updatedAt } = b
  stamp : ∀ r, c.apply b = .ok r →
    ({ r with updatedAt := b.updatedAt } = b → r = b) ∧
      ({ r with updatedAt := b.updatedAt } ≠ b → r.updatedAt = c.time)
  retry : ∀ r, c.apply b = .ok r →
    c.apply r = .ok r ∨ ∃ m, c.apply r = .error (.invalidTransition m)
  forbidden : (∃ m, c.apply b = .error (.forbidden m)) ↔ ∃ err, c.authorize = .error err

/-- Every change is atomic, framed and safe to retry on every booking. -/
theorem apply_atomic_framed_retry_safe (c : Change) (b : Booking) : c.Safe b where
  atomic _ _ _ hb hstored h := Server.modifyBooking_refused hb hstored h
  frame _ h := apply_frame h
  stamp _ h := apply_stamp h
  retry _ h := apply_again h
  forbidden := apply_forbidden_iff

/-- Completing the stored pending booking is refused, and leaves the server as it was. -/
theorem sessionBooking_completed_early :
    Server.sessionServer.engine.getBooking Ulid.nil = some Engine.sessionBooking ∧
      (Server.modifyBooking Ulid.nil ⟨.complete, .studioStaff, ⟨0, 0⟩⟩).run.run
          Server.sessionServer =
        (.error (.invalidTransition "cannot complete a pending booking"), Server.sessionServer) :=
  have hstored : Server.sessionServer.engine.getBooking Ulid.nil = some Engine.sessionBooking := by
    rfl
  ⟨hstored, (apply_atomic_framed_retry_safe _ _).atomic _ _ _ rfl hstored rfl⟩

end Change

end StudioRental
