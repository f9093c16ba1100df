import StudioRental.Journal.Binary
import StudioRental.Payment.Intent

/-!
Journal events: each carries the whole record after the change, so replaying one is an upsert
that never depends on the record before it.

In the binary layout an event is its variant's position in four bytes followed by the record's
fields in their written order. Identifiers, instants (RFC 3339, UTC) and amounts are written as
their text; statuses as the position of the variant; optional fields and maps as the
`Binary` layout says.
-/

namespace StudioRental

/-- A change recorded in the journal. -/
inductive Event where
  | bookingCreated (b : Booking)
  | bookingChanged (b : Booking)
  | intentCreated (i : Intent)
  | intentChanged (i : Intent)
  deriving DecidableEq

namespace Event

/-- The event's kind, as named in summaries. -/
def kind : Event → String
  | bookingCreated _ => "booking_created"
  | bookingChanged _ => "booking_changed"
  | intentCreated _ => "intent_created"
  | intentChanged _ => "intent_changed"

end Event

namespace Booking

/-- The booking's fields in the binary layout. -/
def encode (b : Booking) : ByteArray :=
  Binary.text b.id.render ++ Binary.text b.room.render ++ Binary.text b.studio.render ++
    Binary.text b.renter.render ++ Binary.text b.start.render ++ Binary.text b.stop.render ++
    Binary.text b.totalPrice.render ++ Binary.text b.deposit.render ++
    Binary.u32 b.status.index ++ Binary.u32 b.payment.index ++
    Binary.option Binary.text b.notes ++ Binary.option Binary.text b.cancellationReason ++
    Binary.text b.createdAt.render ++ Binary.text b.updatedAt.render

end Booking

namespace Intent

/-- The intent's fields in the binary layout. -/
def encode (i : Intent) : ByteArray :=
  Binary.i64 i.invoice ++ Binary.text i.booking.render ++ Binary.text i.amount.render ++
    Binary.text i.description ++ Binary.textMap i.shp ++ Binary.u32 i.status.index ++
    Binary.text i.signature ++ Binary.option Binary.text i.failureReason ++
    Binary.option Binary.textMap i.resultPayload ++
    Binary.option Binary.textMap i.successPayload ++
    Binary.option (fun t => Binary.text t.render) i.paidAt ++
    Binary.text i.createdAt.render ++ Binary.text i.updatedAt.render

end Intent

namespace Event

/-- The event in the binary layout. -/
def encode : Event → ByteArray
  | bookingCreated b => Binary.u32 0 ++ b.encode
  | bookingChanged b => Binary.u32 1 ++ b.encode
  | intentCreated i => Binary.u32 2 ++ i.encode
  | intentChanged i => Binary.u32 3 ++ i.encode

end Event

namespace Decoder

/-- An identifier written as text. -/
def ulid : Decoder Ulid := do ofOption (Ulid.parse? (← text))

/-- An instant written as text. -/
def instant : Decoder Instant := do ofOption (TimeText.parseInstant? (← text))

/-- An amount written as text. -/
def decimal : Decoder Decimal := do ofOption (Decimal.parse? (← text))

/-- A booking's fields. -/
def booking : Decoder Booking := do
  return {
    id := ← ulid, room := ← ulid, studio := ← ulid, renter := ← ulid,
    start := ← instant, stop := ← instant, totalPrice := ← decimal, deposit := ← decimal,
    status := ← variant BookingStatus.ofIndex?, payment := ← variant PaymentState.ofIndex?,
    notes := ← option text, cancellationReason := ← option text,
    createdAt := ← instant, updatedAt := ← instant }

/-- An intent's fields. -/
def intent : Decoder Intent := do
  return {
    invoice := ← i64, booking := ← ulid, amount := ← decimal, description := ← text,
    shp := ← textMap, status := ← variant IntentStatus.ofIndex?, signature := ← text,
    failureReason := ← option text, resultPayload := ← option textMap,
    successPayload := ← option textMap, paidAt := ← option instant,
    createdAt := ← instant, updatedAt := ← instant }

/-- An event. -/
def event : Decoder Event := do
  match ← unsigned 4 with
  | 0 => return .bookingCreated (← booking)
  | 1 => return .bookingChanged (← booking)
  | 2 => return .intentCreated (← intent)
  | 3 => return .intentChanged (← intent)
  | _ => fail

end Decoder

end StudioRental
