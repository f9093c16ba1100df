import StudioRental.Engine.Basic
import StudioRental.Booking.Change

/-!
Engine calls running side by side.

A call of the engine does part of its work before it takes its room's write lock and the rest
under it, atomically; other calls may run between the two parts. A new booking's span is checked
and its id looked up in the booking-to-room map first (`Engine.insertCheck`); under the lock come
the room's size and the overlap check (`insertGuard`), then the journal, the room and the map
(`insertSettle`). A change looks up the room of its booking first (`modifyLookup`); under the lock
it works out the record after the change (`modifyNext`) and stores it when it differs
(`modifySettle`). Run back to back, the two parts are `insertBooking` and `modifyBooking`.

The booking-to-room map is a concurrent map: entering an id it already has replaces that id's
entry (`Engine.setRoomOf`).

A configuration is the engine with the calls in flight. An interleaving step either starts a
call or runs the next part of one call in flight (`Engine.Interleaves`); a part that fails ends
its call and leaves the engine as it was. Reads of the engine change nothing and are left out.
-/

namespace StudioRental

namespace Engine

/-- The booking-to-room map after entering `id` in `room`: the id's entry is replaced, or added
at the end when the id is new. -/
def setRoomOf (e : Engine) (id room : Ulid) : List (Ulid × Ulid) :=
  if e.bookingRooms.any (·.1 == id) then
    e.bookingRooms.map fun p => if p.1 == id then (id, room) else p
  else e.bookingRooms ++ [(id, room)]

/-- The checks of a new booking made before its room is locked: the span's limits, then that no
booking has its id. -/
def insertCheck (e : Engine) (b : Booking) : Except EngineError Unit := do
  validateSpan b.span
  if (e.roomOf? b.id).isSome then throw (.alreadyExists ("booking " ++ b.id.render))

/-- The checks of a new booking made under its room's lock: the room's size, then, for a booking
that holds its slot, that no booking of the room that holds it overlaps. -/
def insertGuard (e : Engine) (b : Booking) : Except EngineError Unit := do
  let r := (e.room? b.room).getD { room := b.room }
  if r.bookings.length ≥ maxBookingsPerRoom then
    throw (.limitExceeded "too many bookings on room")
  if b.status.holdsSlot then
    match r.activeOverlapping b.span with
    | x :: _ => throw (.overlap b.room x.id)
    | [] => pure ()

/-- What entering a booking does once its record is committed: the journal, the room's list and
the booking-to-room map. -/
def insertSettle (e : Engine) (b : Booking) : Engine :=
  let e := e.record (.bookingCreated b)
  { e.updateRoom b.room (·.insert b) with bookingRooms := e.setRoomOf b.id b.room }

/-- The part of entering a booking made under its room's lock: its checks, then its effect. -/
def insertLocked (e : Engine) (b : Booking) : Except EngineError (Booking × Engine) := do
  e.insertGuard b
  return (b, e.insertSettle b)

/-- The room of a booking to change, looked up before the room is locked. -/
def modifyLookup (e : Engine) (id : Ulid) : Except Error Ulid := do
  let some room := e.roomOf? id
    | throw (EngineError.notFound ("booking " ++ id.render)).toError
  if (e.room? room).isNone then throw (EngineError.notFound ("room " ++ room.render)).toError
  return room

/-- A change of a booking worked out under its room's lock: the record after it, and whether it
differs from the stored one. -/
def modifyNext (e : Engine) (room id : Ulid) (f : Booking → Except Error Booking) :
    Except Error (Booking × Bool) := do
  let some current := ((e.room? room).getD { room }).find? id
    | throw (EngineError.notFound ("booking " ++ id.render)).toError
  let next ← f current
  if next.same current then return (current, false)
  if next.span != current.span || next.room != current.room then
    throw (EngineError.limitExceeded "booking time and room are fixed").toError
  return (next, true)

/-- What a change of a booking does once its record is committed: the journal, and the record in
its room. -/
def modifySettle (e : Engine) (room : Ulid) (next : Booking) : Engine :=
  (e.record (.bookingChanged next)).updateRoom room (·.replace next)

/-- The part of changing a booking made under its room's lock: the change, then its effect when
the record changed. -/
def modifyLocked (e : Engine) (room id : Ulid) (f : Booking → Except Error Booking) :
    Except Error ((Booking × Bool) × Engine) := do
  let (next, changed) ← e.modifyNext room id f
  return ((next, changed), if changed then e.modifySettle room next else e)

/-- What a change of an intent does once its record is committed: the journal, and the intent
filed under its number. -/
def intentSettle (e : Engine) (invoice : Int) (i : Intent) : Engine :=
  (e.record (.intentChanged i)).fileIntent invoice i

/-- A call of the engine: entering a booking, or changing one by a change of the service. -/
inductive Call where
  | insert (b : Booking)
  | modify (id : Ulid) (c : Change)

/-- A call in flight: about to make its first part, or past it and waiting for its room's
lock. -/
inductive Flight where
  | start (call : Call)
  | insertHeld (b : Booking)
  | modifyHeld (room id : Ulid) (c : Change)

/-- A call's next part on the engine: the engine after it, and what is left of the call. -/
def Flight.advance (e : Engine) : Flight → Engine × Option Flight
  | .start (.insert b) =>
    match e.insertCheck b with
    | .ok () => (e, some (.insertHeld b))
    | .error _ => (e, none)
  | .start (.modify id c) =>
    match e.modifyLookup id with
    | .ok room => (e, some (.modifyHeld room id c))
    | .error _ => (e, none)
  | .insertHeld b =>
    match e.insertLocked b with
    | .ok (_, e') => (e', none)
    | .error _ => (e, none)
  | .modifyHeld room id c =>
    match e.modifyLocked room id c.apply with
    | .ok (_, e') => (e', none)
    | .error _ => (e, none)

/-- The engine with the calls in flight. -/
structure Config where
  engine : Engine
  flights : List Flight

/-- One step of calls running side by side: a call starts, or one call in flight makes its next
part. -/
inductive Interleaves : Config → Config → Prop
  | begin (e : Engine) (fs : List Flight) (call : Call) :
      Interleaves ⟨e, fs⟩ ⟨e, fs ++ [.start call]⟩
  | advance (e : Engine) (l₁ l₂ : List Flight) (f : Flight) :
      Interleaves ⟨e, l₁ ++ f :: l₂⟩ ⟨(f.advance e).1, l₁ ++ (f.advance e).2.toList ++ l₂⟩

end Engine

end StudioRental
