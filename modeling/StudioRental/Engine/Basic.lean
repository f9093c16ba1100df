import StudioRental.Engine.Room
import StudioRental.Engine.Error
import StudioRental.Journal.Log

/-!
The embedded storage engine: bookings grouped by room, payment intents by invoice number, and
the journal file that makes them durable.

Every change is appended to the journal as the whole new record before it is applied, so
replaying the journal rebuilds the state. Rules of the engine:

* a booking's span must be non-empty, lie within 2000-01-01 and 2100-01-01, and last at most 31
  days, checked in that order;
* a booking that holds its room may not overlap another such booking of the room (a cancelled
  booking is stored without this check);
* a change that leaves a record the same is not written and reports no change; a change may not
  move a booking's time or room;
* an intent has at most 16 custom parameters, and invoice numbers are unique.

Intents are filed under the invoice number they had when they were entered; a change that
gives an intent another number leaves it filed under the old one. Replaying the journal files
each intent under the number it carries.

Opening an engine on a journal replays it and, when the journal holds more records than the
compaction threshold and the current state needs fewer, compacts it to one creation per record.
-/

namespace StudioRental

/-- Earliest instant a booking may touch: 2000-01-01T00:00:00Z, in milliseconds. -/
def minBookingMs : Int := 946684800000

/-- Latest instant a booking may touch: 2100-01-01T00:00:00Z, in milliseconds. -/
def maxBookingMs : Int := 4102444800000

/-- The longest booking: 31 days, in milliseconds. -/
def maxBookingDurationMs : Int := 31 * 24 * 3600000

/-- The most bookings one room may hold. -/
def maxBookingsPerRoom : Nat := 1000000

/-- The most custom parameters one intent may carry. -/
def maxShpParams : Nat := 16

/-- The engine's state and its journal. -/
structure Engine where
  /-- Rooms in the order they were first used. -/
  rooms : List RoomBookings := []
  /-- The room of each booking. -/
  bookingRooms : List (Ulid × Ulid) := []
  /-- Intents with the invoice number each is filed under, in the order they were entered. -/
  intents : List (Int × Intent) := []
  /-- The journal file. -/
  file : ByteArray := .empty
  /-- Records appended since the journal was opened or last compacted. -/
  appends : Nat := 0

namespace Engine

/-- How many bookings the engine holds. -/
def bookingCount (e : Engine) : Nat := e.bookingRooms.length

/-- How many intents the engine holds. -/
def intentCount (e : Engine) : Nat := e.intents.length

/-- The bookings of a room. -/
def room? (e : Engine) (id : Ulid) : Option RoomBookings :=
  e.rooms.find? (·.room == id)

/-- The room a booking is in. -/
def roomOf? (e : Engine) (id : Ulid) : Option Ulid :=
  (e.bookingRooms.find? (·.1 == id)).map (·.2)

/-- The booking with this id. -/
def getBooking (e : Engine) (id : Ulid) : Option Booking := do
  let r ← e.roomOf? id
  (← e.room? r).find? id

/-- The intent filed under this invoice number. -/
def getIntent (e : Engine) (invoice : Int) : Option Intent :=
  (e.intents.find? (·.1 == invoice)).map (·.2)

/-- File `i` under `invoice`, replacing what was filed there. -/
def fileIntent (e : Engine) (invoice : Int) (i : Intent) : Engine :=
  if e.intents.any (·.1 == invoice) then
    { e with intents := e.intents.map fun x => if x.1 == invoice then (invoice, i) else x }
  else { e with intents := e.intents ++ [(invoice, i)] }

/-- Spans of the room's bookings that still hold it and overlap the window, in order of start,
not clipped. -/
def busySpans (e : Engine) (room : Ulid) (window : Span) : List Span :=
  match e.room? room with
  | some r => (r.activeOverlapping window).map (·.span)
  | none => []

/-- Append an event to the journal. -/
def record (e : Engine) (ev : Event) : Engine :=
  { e with file := Journal.append e.file ev, appends := e.appends + 1 }

/-- Apply `f` to the room's bookings, entering the room first if it is new. -/
def updateRoom (e : Engine) (room : Ulid) (f : RoomBookings → RoomBookings) : Engine :=
  if e.rooms.any (·.room == room) then
    { e with rooms := e.rooms.map fun r => if r.room == room then f r else r }
  else { e with rooms := e.rooms ++ [f { room }] }

/-- Check a booking's span against the engine's limits. -/
def validateSpan (s : Span) : Except EngineError Unit :=
  if s.isEmpty then .error (.limitExceeded "span must end after it starts")
  else if s.start < minBookingMs || s.stop > maxBookingMs then
    .error (.limitExceeded "timestamp out of range")
  else if s.duration > maxBookingDurationMs then .error (.limitExceeded "booking too long")
  else .ok ()

/-- Store a new booking. -/
def insertBooking (e : Engine) (b : Booking) : Except EngineError (Booking × Engine) := do
  validateSpan b.span
  if (e.roomOf? b.id).isSome then throw (.alreadyExists ("booking " ++ b.id.render))
  let r := (e.room? b.room).getD { room := b.room }
  if r.bookings.length ≥ maxBookingsPerRoom then
    throw (.limitExceeded "too many bookings on room")
  if b.status.holdsSlot then
    match r.activeOverlapping b.span with
    | x :: _ => throw (.overlap b.room x.id)
    | [] => pure ()
  let e := e.record (.bookingCreated b)
  return (b, { e.updateRoom b.room (·.insert b) with
    bookingRooms := e.bookingRooms ++ [(b.id, b.room)] })

/-- Change one booking with `f`. The result is the record after the change and whether it
changed; an error of `f` leaves the record as it was. -/
def modifyBooking (e : Engine) (id : Ulid) (f : Booking → Except Error Booking) :
    Except Error ((Booking × Bool) × Engine) := do
  let some room := e.roomOf? id
    | throw (EngineError.notFound ("booking " ++ id.render)).toError
  let some r := e.room? room
    | throw (EngineError.notFound ("room " ++ room.render)).toError
  let some current := r.find? id
    | throw (EngineError.notFound ("booking " ++ id.render)).toError
  let next ← f current
  if next.same current then return ((current, false), e)
  if next.span != current.span || next.room != current.room then
    throw (EngineError.limitExceeded "booking time and room are fixed").toError
  let e := e.record (.bookingChanged next)
  return ((next, true), e.updateRoom room (·.replace next))

/-- Store a new intent. -/
def insertIntent (e : Engine) (i : Intent) : Except EngineError (Intent × Engine) := do
  if i.shp.length > maxShpParams then throw (.limitExceeded "too many custom parameters")
  if (e.getIntent i.invoice).isSome then
    throw (.alreadyExists ("invoice " ++ toString i.invoice))
  let e := e.record (.intentCreated i)
  return (i, e.fileIntent i.invoice i)

/-- Change one intent with `f`, which also gives a result of its own. The result is the record
after the change, whether it changed, and the result of `f`. -/
def modifyIntent (e : Engine) (invoice : Int) (f : Intent → Except Error (Intent × α)) :
    Except Error ((Intent × Bool × α) × Engine) := do
  let some current := e.getIntent invoice
    | throw (EngineError.notFound ("invoice " ++ toString invoice)).toError
  let (next, out) ← f current
  if next.same current then return ((next, false, out), e)
  let e := e.record (.intentChanged next)
  return ((next, true, out), e.fileIntent invoice next)

/-- The fewest events that rebuild the state: one creation per booking, room by room, then one
per intent in order of the invoice number it is filed under. -/
def snapshot (e : Engine) : List Event :=
  (e.rooms.flatMap fun r => r.bookings.map .bookingCreated) ++
    ((e.intents.mergeSort fun a b => decide (a.1 ≤ b.1)).map fun x => .intentCreated x.2)

/-- Replace the journal by the snapshot of the state. -/
def compact (e : Engine) : Engine :=
  { e with file := Journal.ofEvents e.snapshot, appends := 0 }

/-- Apply a replayed event to the state. -/
def replayEvent (e : Engine) : Event → Engine
  | .bookingCreated b | .bookingChanged b => e.updateRoom b.room (·.upsert b)
  | .intentCreated i | .intentChanged i => e.fileIntent i.invoice i

/-- Open an engine on a journal file: replay it, and compact it when it holds more than
`threshold` records and the snapshot is shorter. -/
def ofFile (file : ByteArray) (threshold : Nat) : Engine :=
  let events := Journal.replay file
  let e := events.foldl replayEvent { file }
  let owners := e.rooms.flatMap fun r => r.bookings.map fun b => (b.id, r.room)
  let e := { e with bookingRooms := owners.foldl (fun acc (b, r) =>
    if acc.any (·.1 == b) then acc.map fun x => if x.1 == b then (b, r) else x
    else acc ++ [(b, r)]) [] }
  let snap := e.snapshot
  if events.length > threshold && snap.length < events.length then
    { e with file := Journal.ofEvents snap }
  else e

end Engine

end StudioRental
