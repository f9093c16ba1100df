import StudioRental.Booking.Record
import StudioRental.Money.Price
import StudioRental.Text.Blank

/-!
Who may change a booking, and how.

A caller's standing towards a booking is `studioStaff` when they own or manage the booking's
studio, else `renter` when they made the booking, else `unrelated`; internal callers act as
`system`.

The transition table (`Change.apply`), after the standing is checked (`Change.authorize`):

| command      | from                          | to                                   |
|--------------|-------------------------------|--------------------------------------|
| confirm      | pending                       | confirmed                            |
| cancel       | pending, confirmed            | cancelled, with the reason           |
| complete     | confirmed                     | completed                            |
| set deposit  | pending, confirmed            | same status; a positive deposit confirms a pending booking |
| mark paid    | pending, confirmed, completed | paid                                 |
| sync payment | any                           | the given payment state              |

A deposit above the total price is refused. A change that leaves the record the same (amounts
compared as numbers) keeps the record as it was, including its update time.
-/

namespace StudioRental

/-- What a caller does in the system. -/
inductive Role where
  | renter | studioOwner | studioManager
  deriving DecidableEq, Repr, Inhabited

namespace Role

/-- Read a role from its lower-case name. -/
def parse : String → Except String Role
  | "renter" => .ok renter
  | "studio_owner" => .ok studioOwner
  | "studio_manager" => .ok studioManager
  | other => .error ("unknown role: " ++ other)

end Role

/-- An authenticated caller. -/
structure Actor where
  user : Ulid
  role : Role

/-- How a caller relates to one booking. -/
inductive Standing where
  | renter | studioStaff | unrelated | system
  deriving DecidableEq, Repr, Inhabited

namespace Standing

/-- The standing as named in messages. -/
def text : Standing → String
  | renter => "renter"
  | studioStaff => "studio staff"
  | unrelated => "unrelated user"
  | system => "system"

/-- The standing of `actor` towards `b`, given the booking's studio if the catalog has it. -/
def of (actor : Actor) (b : Booking) (studio : Option Studio) : Standing :=
  let staff := match actor.role, studio with
    | .studioOwner, some s => s.owner == actor.user
    | .studioManager, some s => s.managers.contains actor.user
    | _, _ => false
  if staff && studio.any (·.id == b.studio) then studioStaff
  else if b.renter == actor.user then renter
  else unrelated

end Standing

/-- A requested change of a booking. -/
inductive Command where
  | confirm
  | cancel (reason : String)
  | complete
  | setDeposit (amount : Decimal)
  | markPaid
  | syncPayment (state : PaymentState)

namespace Command

/-- The command's name in messages. -/
def label : Command → String
  | confirm => "confirm"
  | cancel _ => "cancel"
  | complete => "complete"
  | setDeposit _ => "set_deposit"
  | markPaid => "mark_paid"
  | syncPayment _ => "sync_payment"

/-- The shortest and longest cancellation reasons, in characters. -/
def minReason : Nat := 10
def maxReason : Nat := 1000

/-- A cancellation with its reason trimmed of blanks and checked for length. -/
def cancelWith (reason : String) : Except Error Command :=
  let r := Text.trimBlank reason
  if r.length < minReason then
    .error (.validation "cancellation reason must be at least 10 characters")
  else if r.length > maxReason then
    .error (.validation "cancellation reason must be at most 1000 characters")
  else .ok (cancel r)

/-- A deposit, refused when negative and otherwise checked as money. -/
def depositOf (amount : Decimal) : Except Error Command :=
  if amount < Decimal.zero then .error (.validation "deposit amount cannot be negative")
  else (Money.check amount "deposit amount").map setDeposit

end Command

/-- A command with the standing it is made in and the time it is made at. -/
structure Change where
  command : Command
  standing : Standing
  time : Instant

namespace Change

/-- Whether the standing allows the command: payment sync is for the system only, a
cancellation for the renter or staff, everything else for staff. -/
def allowed : Command → Standing → Bool
  | .syncPayment _, s => s == .system
  | .cancel _, s => s == .renter || s == .studioStaff
  | _, s => s == .studioStaff

/-- Refuse the change unless the standing allows it. -/
def authorize (c : Change) : Except Error Unit :=
  if allowed c.command c.standing then .ok ()
  else .error (.forbidden (c.standing.text ++ " may not " ++ c.command.label ++ " this booking"))

/-- The booking after the command, before the update time is set. -/
def next (c : Change) (b : Booking) : Except Error Booking :=
  match c.command, b.status with
  | .confirm, .pending => .ok { b with status := .confirmed }
  | .cancel reason, .pending | .cancel reason, .confirmed =>
    .ok { b with status := .cancelled, cancellationReason := some reason }
  | .complete, .confirmed => .ok { b with status := .completed }
  | .setDeposit amount, .pending | .setDeposit amount, .confirmed =>
    if b.totalPrice < amount then
      .error (.validation ("deposit " ++ amount.render ++ " exceeds total price " ++
        b.totalPrice.render))
    else
      .ok { b with deposit := amount,
                   status := if b.status == .pending && Decimal.zero < amount then .confirmed
                     else b.status }
  | .markPaid, .pending | .markPaid, .confirmed | .markPaid, .completed =>
    .ok { b with payment := .paid }
  | .syncPayment state, _ => .ok { b with payment := state }
  | cmd, status =>
    .error (.invalidTransition ("cannot " ++ cmd.label ++ " a " ++ status.text ++ " booking"))

/-- Check and apply the change; an unchanged record keeps its update time. -/
def apply (c : Change) (b : Booking) : Except Error Booking := do
  c.authorize
  let n ← c.next b
  return if n.same b then b else { n with updatedAt := c.time }

end Change

end StudioRental
