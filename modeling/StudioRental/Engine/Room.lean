import StudioRental.Booking.Record

/-!
The bookings of one room, kept in order of their start.

Positions in the list are found by binary search: `partitionPoint p xs` halves the list from the
front while the element at the middle satisfies `p`, and ends one past the last element it
found satisfying `p`. On a list where `p` holds of a prefix this is the length of that prefix.
A journal that was changed by hand can leave the list out of order; the search then settles on
some position, and every lookup uses that position just as it would on an ordered list.

A new booking goes after the bookings that start no later than it, so bookings with the same
start stay in the order they were entered. A booking's time never changes once it is stored,
so replacing a record keeps the order.
-/

namespace StudioRental

/-- All bookings ever made on one room, cancelled ones included, ordered by start. -/
structure RoomBookings where
  room : Ulid
  bookings : List Booking := []
  deriving DecidableEq

/-- The halving steps of `partitionPoint`: the search window starts at `base` and holds `size`
elements; while it holds more than one, the upper half is kept when its first element satisfies
`p`. -/
def searchBase (p : α → Bool) (xs : List α) (base size : Nat) : Nat :=
  if size ≤ 1 then base
  else
    let half := size / 2
    let base' := if (xs[base + half]?.map p).getD false then base + half else base
    searchBase p xs base' (size - half)
termination_by size
decreasing_by omega

/-- The position binary search gives for the end of the elements satisfying `p`. -/
def partitionPoint (p : α → Bool) (xs : List α) : Nat :=
  if xs.isEmpty then 0
  else
    let base := searchBase p xs 0 xs.length
    if (xs[base]?.map p).getD false then base + 1 else base

namespace RoomBookings

/-- Enter a booking at the position binary search gives after the bookings that start no later
than it. -/
def insert (r : RoomBookings) (b : Booking) : RoomBookings :=
  let pos := partitionPoint (fun x => decide (x.start ≤ b.start)) r.bookings
  { r with bookings := r.bookings.take pos ++ b :: r.bookings.drop pos }

/-- The booking with this id. -/
def find? (r : RoomBookings) (id : Ulid) : Option Booking :=
  r.bookings.find? (·.id == id)

/-- Replace the first booking with the same id. -/
def replace (r : RoomBookings) (b : Booking) : RoomBookings :=
  { r with bookings := go r.bookings }
where
  go : List Booking → List Booking
    | [] => []
    | x :: xs => if x.id == b.id then b :: xs else x :: go xs

/-- Enter a booking, or replace the one with its id. -/
def upsert (r : RoomBookings) (b : Booking) : RoomBookings :=
  if (r.find? b.id).isSome then r.replace b else r.insert b

/-- Bookings of any status whose time in milliseconds overlaps the window: among the bookings
before the position binary search gives for those starting before the window ends, the ones
that end after it starts. -/
def overlapping (r : RoomBookings) (window : Span) : List Booking :=
  let bound := partitionPoint (fun b => decide (b.span.start < window.stop)) r.bookings
  (r.bookings.take bound).filter fun b => b.span.stop > window.start

/-- Overlapping bookings that still hold the room. -/
def activeOverlapping (r : RoomBookings) (window : Span) : List Booking :=
  (r.overlapping window).filter (·.status.holdsSlot)

end RoomBookings

end StudioRental
