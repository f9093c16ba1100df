import StudioRental.Catalog.Basic

/-!
Bookings: a reservation of one room for a half-open stretch of time, with its price, deposit,
status and payment state.

Two bookings are the same record (`Booking.same`) when every field agrees, amounts compared as
numbers: a deposit of `100.0` is the same as one of `100.00`.
-/

namespace StudioRental

/-- Where a booking stands. -/
inductive BookingStatus where
  | pending | confirmed | cancelled | completed
  deriving DecidableEq, Repr, Inhabited

/-- Whether a booking has been paid. -/
inductive PaymentState where
  | unpaid | paid
  deriving DecidableEq, Repr, Inhabited

namespace BookingStatus

/-- The status as written in records and messages. -/
def text : BookingStatus → String
  | pending => "pending"
  | confirmed => "confirmed"
  | cancelled => "cancelled"
  | completed => "completed"

/-- Read a status written in lower case. -/
def parse? : String → Option BookingStatus
  | "pending" => some pending
  | "confirmed" => some confirmed
  | "cancelled" => some cancelled
  | "completed" => some completed
  | _ => none

/-- Every status but `cancelled` keeps its room taken. -/
def holdsSlot : BookingStatus → Bool
  | cancelled => false
  | _ => true

/-- The position of the status in the list of statuses. -/
def index : BookingStatus → Nat
  | pending => 0
  | confirmed => 1
  | cancelled => 2
  | completed => 3

/-- The status at a position of the list of statuses. -/
def ofIndex? : Nat → Option BookingStatus
  | 0 => some pending
  | 1 => some confirmed
  | 2 => some cancelled
  | 3 => some completed
  | _ => none

end BookingStatus

namespace PaymentState

/-- The state as written in records. -/
def text : PaymentState → String
  | unpaid => "unpaid"
  | paid => "paid"

/-- Read a state written in lower case. -/
def parse? : String → Option PaymentState
  | "unpaid" => some unpaid
  | "paid" => some paid
  | _ => none

/-- The position of the state in the list of states. -/
def index : PaymentState → Nat
  | unpaid => 0
  | paid => 1

/-- The state at a position of the list of states. -/
def ofIndex? : Nat → Option PaymentState
  | 0 => some unpaid
  | 1 => some paid
  | _ => none

end PaymentState

/-- A reservation of one room for `[start, stop)`. -/
structure Booking where
  id : Ulid
  room : Ulid
  studio : Ulid
  renter : Ulid
  start : Instant
  stop : Instant
  totalPrice : Decimal
  deposit : Decimal
  status : BookingStatus
  payment : PaymentState
  notes : Option String
  cancellationReason : Option String
  createdAt : Instant
  updatedAt : Instant
  deriving DecidableEq, Inhabited

namespace Booking

/-- The booked time in whole milliseconds, each end rounded down. -/
def span (b : Booking) : Span := ⟨b.start.millis, b.stop.millis⟩

/-- Field by field equality, amounts compared as numbers. -/
def same (a b : Booking) : Bool :=
  a.id == b.id && a.room == b.room && a.studio == b.studio && a.renter == b.renter &&
    a.start == b.start && a.stop == b.stop && a.totalPrice == b.totalPrice &&
    a.deposit == b.deposit && a.status == b.status && a.payment == b.payment &&
    a.notes == b.notes && a.cancellationReason == b.cancellationReason &&
    a.createdAt == b.createdAt && a.updatedAt == b.updatedAt

/-- The record as JSON, fields in their written order. -/
def toJson (b : Booking) : Json :=
  Json.obj [("id", .string b.id.render), ("room_id", .string b.room.render),
    ("studio_id", .string b.studio.render), ("renter_id", .string b.renter.render),
    ("start", .string b.start.render), ("end", .string b.stop.render),
    ("total_price", .string b.totalPrice.render), ("deposit_amount", .string b.deposit.render),
    ("status", .string b.status.text), ("payment_status", .string b.payment.text),
    ("notes", Json.optStr b.notes), ("cancellation_reason", Json.optStr b.cancellationReason),
    ("created_at", .string b.createdAt.render), ("updated_at", .string b.updatedAt.render)]

end Booking

namespace Json

/-- An instant written as RFC 3339 text. -/
def readInstant (j : Json) : Except String Instant := do
  match TimeText.parseInstant? (← readString j) with
  | some t => .ok t
  | none => .error "invalid instant"

/-- A value named by its text. -/
def readNamed (parse : String → Option α) (j : Json) : Except String α := do
  match parse (← readString j) with
  | some v => .ok v
  | none => .error "unknown variant"

end Json

namespace Booking

/-- The field names in their written order. -/
def fieldNames : List String :=
  ["id", "room_id", "studio_id", "renter_id", "start", "end", "total_price", "deposit_amount",
    "status", "payment_status", "notes", "cancellation_reason", "created_at", "updated_at"]

/-- Read a booking record; amounts must be written as text. -/
def ofJson (j : Json) : Except String Booking := do
  let r ← RecordFields.ofJson fieldNames j
  return {
    id := ← r.req "id" Json.readUlid, room := ← r.req "room_id" Json.readUlid,
    studio := ← r.req "studio_id" Json.readUlid, renter := ← r.req "renter_id" Json.readUlid,
    start := ← r.req "start" Json.readInstant, stop := ← r.req "end" Json.readInstant,
    totalPrice := ← r.req "total_price" Json.readDecimalText,
    deposit := ← r.req "deposit_amount" Json.readDecimalText,
    status := ← r.req "status" (Json.readNamed BookingStatus.parse?),
    payment := ← r.req "payment_status" (Json.readNamed PaymentState.parse?),
    notes := ← r.opt "notes" Json.readString,
    cancellationReason := ← r.opt "cancellation_reason" Json.readString,
    createdAt := ← r.req "created_at" Json.readInstant,
    updatedAt := ← r.req "updated_at" Json.readInstant }

end Booking

end StudioRental
