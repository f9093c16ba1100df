import StudioRental.Money.Decimal.Arith
import StudioRental.Error
import StudioRental.Number.Power

/-!
Money amounts and the price of a booking.

Money is stored with two places and at most ten integer digits, so an amount is accepted when,
written without trailing zeros, it has at most two places and its magnitude is below `10^10`.
An accepted amount keeps the places it was written with.

The price of `ms` milliseconds at an hourly rate is `rate × ms ÷ 3 600 000`, rounded to cents
with a half going away from zero, and always written with two places.
-/

namespace StudioRental

open scoped CorePow

namespace Money

/-- Money carries two places. -/
def places : Nat := 2

/-- Money stays below `10^10` in magnitude. -/
def integerDigits : Nat := 10

/-- Milliseconds in an hour. -/
def msPerHour : Nat := 3600000

/-- Accept `amount` as money or say why not; `what` names the amount in the message. -/
def check (amount : Decimal) (what : String) : Except Error Decimal :=
  if amount.normalize.scale > places then
    .error (.validation (what ++ " must have at most 2 decimal places"))
  else if amount.coeff ≥ 10 ^ (integerDigits + amount.scale) then
    .error (.validation (what ++ " is out of range"))
  else .ok amount

/-- The unchecked price of `ms` milliseconds at `rate` per hour, rounded to cents; `none` when
an intermediate result does not fit. -/
def roundedPrice? (rate : Decimal) (ms : Int) : Option Decimal := do
  let duration ← Decimal.ofInt? ms
  let hour ← Decimal.ofNat? msPerHour
  let product ← rate.mul? duration
  let hours ← product.div? hour
  some ((hours.roundHalfAway places).rescale places)

/-- The price of `ms` milliseconds at `rate` per hour, checked as money. -/
def totalPrice (rate : Decimal) (ms : Int) : Except Error Decimal :=
  match roundedPrice? rate ms with
  | none => .error (.validation "price out of range")
  | some total => check total "total price"

end Money

end StudioRental
