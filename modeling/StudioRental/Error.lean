import StudioRental.Ident.Ulid
import StudioRental.Money.Decimal

/-!
The errors the booking and payment services report, with their text, their machine-readable
code and the HTTP status that answers them.
-/

namespace StudioRental

/-- Why a request failed. -/
inductive Error where
  /-- The input breaks a rule; the text says which. -/
  | validation (text : String)
  /-- The caller's identity is missing or unreadable. -/
  | unauthenticated
  /-- The caller may not do this. -/
  | forbidden (text : String)
  /-- A record does not exist. -/
  | notFound (text : String)
  /-- The room is already taken for part of the requested time. -/
  | overbooking (room : Ulid)
  /-- The record's status does not allow the change. -/
  | invalidTransition (text : String)
  /-- A gateway message carries a wrong signature. -/
  | invalidSignature
  /-- A gateway message names another amount than the invoice. -/
  | amountMismatch (expected : Decimal) (received : String)
  /-- Another request holds the record. -/
  | lockUnavailable
  /-- Storage did not answer in time. -/
  | storageTimeout
  /-- Storage failed. -/
  | storage (text : String)
  deriving Inhabited

namespace Error

/-- The human-readable text of an error. -/
def message : Error → String
  | validation t => "validation error: " ++ t
  | unauthenticated => "missing or invalid identity"
  | forbidden t => "forbidden: " ++ t
  | notFound t => "not found: " ++ t
  | overbooking room => "room " ++ room.render ++ " is already booked for an overlapping period"
  | invalidTransition t => "invalid status transition: " ++ t
  | invalidSignature => "invalid signature"
  | amountMismatch e r => "amount mismatch: expected " ++ e.render ++ ", received " ++ r
  | lockUnavailable => "record is locked, retry later"
  | storageTimeout => "storage deadline exceeded"
  | storage t => "storage error: " ++ t

/-- The stable code clients match on. -/
def code : Error → String
  | validation _ => "VALIDATION_ERROR"
  | unauthenticated => "UNAUTHENTICATED"
  | forbidden _ => "FORBIDDEN"
  | notFound _ => "NOT_FOUND"
  | overbooking _ => "BOOKING_CONFLICT"
  | invalidTransition _ => "INVALID_STATUS_TRANSITION"
  | invalidSignature => "INVALID_SIGNATURE"
  | amountMismatch _ _ => "AMOUNT_MISMATCH"
  | lockUnavailable => "LOCK_UNAVAILABLE"
  | storageTimeout => "STORAGE_TIMEOUT"
  | storage _ => "INTERNAL_ERROR"

/-- The HTTP status of the response. -/
def status : Error → Nat
  | validation _ | invalidTransition _ => 400
  | unauthenticated => 401
  | forbidden _ | invalidSignature | amountMismatch _ _ => 403
  | notFound _ => 404
  | overbooking _ => 409
  | lockUnavailable | storageTimeout => 503
  | storage _ => 500

/-- The text a client is shown: storage failures are not described to clients. -/
def publicMessage : Error → String
  | storage _ => "internal error"
  | e => e.message

end Error

end StudioRental
