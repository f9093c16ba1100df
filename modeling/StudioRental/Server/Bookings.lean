import StudioRental.Server.Basic
import StudioRental.Schedule.FreeSlots

/-!
The booking service: making bookings, reading them, moving them through their statuses, and
the free and booked time of a room on a date.

A new booking is checked in this order: only renters book; the end must come after the start;
the start may not have passed; at most 31 days; notes are trimmed, empty notes dropped, and at
most 2000 characters kept; the room must exist and belong to the named studio; the price must
be money; and the room must be free, first by a look at its busy time and then by the storage's
own check.

A change of status reads the booking, works out the caller's standing, checks that the standing
allows the command, and applies the change in storage. A change that took effect notifies the
other party: the studio's owner when the renter acted, else the renter.
-/

namespace StudioRental

/-- A request for a booking. -/
structure NewBooking where
  room : Ulid
  studio : Ulid
  start : Instant
  stop : Instant
  notes : Option String

/-- One stretch of a day as the studio's wall clock shows it. -/
structure SlotView where
  start : String
  stop : String

/-- A room's hours, booked time and free time on one date. -/
structure Availability where
  room : Ulid
  date : Date
  hours : Option OpeningHours
  booked : List SlotView
  free : List SlotView

namespace Availability

/-- The availability as JSON. -/
def toJson (a : Availability) : Json :=
  let slots (l : List SlotView) : Json :=
    .array (l.map fun s => Json.obj [("start", .string s.start), ("end", .string s.stop)])
  Json.obj [("room_id", .string a.room.render), ("date", .string (Instant.renderDate a.date)),
    ("working_hours", match a.hours with | some h => h.toJson | none => .null),
    ("booked_slots", slots a.booked), ("free_slots", slots a.free)]

end Availability

namespace Server

/-- The longest notes a booking keeps, in characters. -/
def maxNotes : Nat := 2000

/-- Make a booking for a renter. -/
def createBooking (actor : Actor) (req : NewBooking) : ServerM Booking := do
  if actor.role != .renter then throw (.forbidden "only renters can create bookings")
  let t ← now
  if req.stop ≤ req.start then
    throw (.validation "end_time must be after start_time")
  if req.start < t then throw (.validation "start_time is in the past")
  let ms := req.stop.millisSince req.start
  if ms > maxBookingDurationMs then throw (.validation "booking is too long")
  let notes := (req.notes.map Text.trimBlank).filter (!·.isEmpty)
  if notes.any (·.length > maxNotes) then
    throw (.validation "notes must be at most 2000 characters")
  let room ← room req.room
  if room.studio != req.studio then
    throw (.validation ("room " ++ room.id.render ++ " does not belong to studio " ++
      req.studio.render))
  let price ← ofExcept (Money.totalPrice room.hourlyRate ms)
  let span : Span := ⟨req.start.millis, req.stop.millis⟩
  if !(← busySpans room.id span).isEmpty then throw (.overbooking room.id)
  let id ← newId
  let b ← insertBooking {
    id, room := room.id, studio := room.studio, renter := actor.user, start := req.start,
    stop := req.stop, totalPrice := price, deposit := Decimal.zero, status := .pending,
    payment := .unpaid, notes, cancellationReason := none, createdAt := t, updatedAt := t }
  if let some s ← studio? b.studio then notify s.owner (.bookingRequested b.id)
  return b

/-- The stored booking, or not found. -/
def booking (id : Ulid) : ServerM Booking := do
  match ← findBooking id with
  | some b => return b
  | none => throw (.notFound ("booking " ++ id.render))

/-- A booking, for its renter or the studio's staff. -/
def getBooking (actor : Actor) (id : Ulid) : ServerM Booking := do
  let b ← booking id
  match Standing.of actor b (← studio? b.studio) with
  | .renter | .studioStaff => return b
  | _ => throw (.forbidden "not a party to this booking")

/-- What a change that took effect tells the other party: a cancellation or a completion
always, a confirmation when the booking was pending before and is confirmed now. -/
def changeNotice (b : Booking) (before : BookingStatus) : Command → Option Notification
  | .cancel reason => some (.bookingCancelled b.id reason)
  | .complete => some (.bookingCompleted b.id)
  | .confirm | .setDeposit _ =>
    if before == .pending && b.status == .confirmed then some (.bookingConfirmed b.id) else none
  | _ => none

/-- Who hears of a change: the studio's owner when the caller is the renter, and the renter
otherwise. -/
def noticeRecipient (b : Booking) (standing : Standing) (studio : Option Studio) : Option Ulid :=
  match standing with
  | .renter => studio.map (·.owner)
  | _ => some b.renter

/-- The notice a change that took effect sends, with its recipient. -/
def counterpartyNotice (b : Booking) (before : BookingStatus) (standing : Standing)
    (studio : Option Studio) (cmd : Command) : Option (Ulid × Notification) :=
  (noticeRecipient b standing studio).bind fun r => (changeNotice b before cmd).map (r, ·)

/-- Tell the other party about a change that took effect. -/
def notifyCounterparty (b : Booking) (before : BookingStatus) (standing : Standing)
    (studio : Option Studio) (cmd : Command) : ServerM Unit := do
  if let some (r, n) := counterpartyNotice b before standing studio cmd then notify r n

/-- Apply a command for a caller. -/
def transition (actor : Actor) (id : Ulid) (cmd : Command) : ServerM Booking := do
  let b ← booking id
  let studio ← studio? b.studio
  let standing := Standing.of actor b studio
  let c : Change := ⟨cmd, standing, ← now⟩
  ofExcept c.authorize
  let (b', changed) ← modifyBooking id c
  if changed then notifyCounterparty b' b.status standing studio cmd
  return b'

/-- Confirm a pending booking. -/
def confirm (actor : Actor) (id : Ulid) : ServerM Booking := transition actor id .confirm

/-- Cancel a booking, giving a reason. -/
def cancel (actor : Actor) (id : Ulid) (reason : String) : ServerM Booking := do
  transition actor id (← ofExcept (Command.cancelWith reason))

/-- Complete a confirmed booking. -/
def complete (actor : Actor) (id : Ulid) : ServerM Booking := transition actor id .complete

/-- Set a booking's deposit. -/
def setDeposit (actor : Actor) (id : Ulid) (amount : Decimal) : ServerM Booking := do
  transition actor id (← ofExcept (Command.depositOf amount))

/-- Record a payment taken outside the gateway. -/
def markPaid (actor : Actor) (id : Ulid) : ServerM Booking := transition actor id .markPaid

/-- Set a booking's payment state from the payment side. -/
def syncPayment (id : Ulid) (state : PaymentState) : ServerM Booking := do
  let c : Change := ⟨.syncPayment state, .system, ← now⟩
  return (← modifyBooking id c).1

/-- Notify the studio's owner of a settled payment; nothing when the booking cannot be read. -/
def notifyPayment (id : Ulid) (n : Notification) : ServerM Unit := do
  let b? ← try some <$> booking id catch _ => pure none
  if let some b := b? then
    if let some s ← studio? b.studio then notify s.owner n

/-- A room's working hours, booked time and free time on a date, in the studio's wall-clock
time. -/
def availability (roomId : Ulid) (date : Date) : ServerM Availability := do
  let room ← room roomId
  let view (l : List Span) : List SlotView :=
    l.map fun s => ⟨room.hours.localHhmm s.start, room.hours.localHhmm s.stop⟩
  match room.hours.windowOn date with
  | none => return ⟨roomId, date, none, [], []⟩
  | some (hours, window) =>
    let busy ← if window.isEmpty then pure [] else busySpans roomId window
    return ⟨roomId, date, some hours, view (Span.busyWithin window busy),
      view (Span.freeSlots window busy)⟩

end Server

end StudioRental
