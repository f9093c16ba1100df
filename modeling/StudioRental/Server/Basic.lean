import StudioRental.Engine.Basic
import StudioRental.Notify
import StudioRental.Config
import StudioRental.Payment.Callback
import StudioRental.Booking.Change
import StudioRental.Number.Power
import StudioRental.Payment.InvoiceIds

/-!
The running server: its catalog, where it stores bookings and intents, the gateway settings, the
notification hub, its clock and its invoice counter; and the storage calls the services make.

Storage is the embedded engine or a database the server cannot reach, on which every call that
needs the database fails with the connection's error. The clock moves forward by one tick each
time it is read, so no two events share a time. Invoice numbers are the clock in microseconds,
or one more than the last number when the clock has not moved past it, counted as the invoice
generator's signed 64-bit cell counts (`InvoiceIds.succ`). Identifiers are made
from the clock and a count, so no two are equal.
-/

namespace StudioRental

open scoped CorePow

/-- Where the services keep bookings and intents. -/
inductive Backend where
  /-- The embedded engine. -/
  | embedded
  /-- A database that cannot be reached; the error is what connecting to it gives. -/
  | unreachable (err : Error)

/-- The server's state. -/
structure Server where
  catalog : Catalog
  engine : Engine
  backend : Backend := .embedded
  gateway : GatewayConfig
  hub : Hub := {}
  /-- The time the clock shows next. -/
  clock : Instant
  /-- How far the clock moves each time it is read, in nanoseconds. -/
  tick : Int := 1000000
  /-- The last invoice number handed out. -/
  lastInvoice : Int := 0
  /-- How many identifiers have been made. -/
  idCount : Nat := 0

/-- A step of the server: it may fail with a service error, and keeps the state it reached. -/
abbrev ServerM := ExceptT Error (StateM Server)

namespace Server

/-- Fail with the error of a failed result. -/
def ofExcept (r : Except Error α) : ServerM α :=
  match r with
  | .ok a => pure a
  | .error e => throw e

/-- Read the clock. -/
def now : ServerM Instant := do
  let s ← get
  set { s with clock := s.clock.addNanos s.tick }
  return s.clock

/-- The next invoice number. -/
def nextInvoice : ServerM Int := do
  let t ← now
  let s ← get
  let n := max t.micros (InvoiceIds.succ s.lastInvoice)
  set { s with lastInvoice := n }
  return n

/-- A new identifier: the clock's milliseconds in its first 48 bits, and a count that no other
identifier of this server has in the remaining 80. -/
def newId : ServerM Ulid := do
  let t ← now
  let s ← get
  set { s with idCount := s.idCount + 1 }
  let v := (t.millis.toNat % 2 ^ (48 : Nat)) * 2 ^ (80 : Nat) + (s.idCount + 1) % 2 ^ (80 : Nat)
  return ⟨v % 2 ^ (128 : Nat), Nat.mod_lt _ (Nat.two_pow_pos 128)⟩

/-- Send a notification through the hub. -/
def notify (user : Ulid) (n : Notification) : ServerM Unit :=
  modify fun s => { s with hub := s.hub.notify user n }

/-- A storage call bounded by a deadline, as the services bound each one: the result of a call
that took `workMs` milliseconds, or the storage timeout when that is more than `limitMs`. -/
def deadline (limitMs workMs : Nat) (r : Except Error α) : Except Error α :=
  if workMs > limitMs then .error .storageTimeout else r

/-- Run an engine call, failing as the storage fails. -/
def withEngine (f : Engine → Except Error (α × Engine)) : ServerM α := do
  let s ← get
  match s.backend with
  | .unreachable err => throw err
  | .embedded =>
    match f s.engine with
    | .ok (a, e) =>
      set { s with engine := e }
      return a
    | .error err => throw err

/-- Read the engine, failing as the storage fails. -/
def readEngine (f : Engine → α) : ServerM α :=
  withEngine fun e => .ok (f e, e)

/-- Store a new booking. -/
def insertBooking (b : Booking) : ServerM Booking :=
  withEngine fun e => (e.insertBooking b).mapError (·.toError)

/-- The stored booking with this id. -/
def findBooking (id : Ulid) : ServerM (Option Booking) :=
  readEngine (·.getBooking id)

/-- An instant given in milliseconds must lie in the supported range. -/
def instantOfMillis (ms : Int) : Except Error Instant :=
  let t := Instant.ofMillis ms
  if t.inRange then .ok t else .error (.validation ("timestamp out of range: " ++ toString ms))

/-- Spans of the room's bookings that hold it and overlap the window. A database is asked with
the window's ends as instants, so they must lie in the supported range. -/
def busySpans (room : Ulid) (window : Span) : ServerM (List Span) := do
  if let .unreachable _ := (← get).backend then
    let _ ← ofExcept (instantOfMillis window.start)
    let _ ← ofExcept (instantOfMillis window.stop)
  readEngine (·.busySpans room window)

/-- Apply a change to the stored booking: the record after it, and whether it changed. -/
def modifyBooking (id : Ulid) (c : Change) : ServerM (Booking × Bool) :=
  withEngine fun e => e.modifyBooking id c.apply

/-- The storage's name, when it answers. -/
def ping : ServerM String := readEngine fun _ => "embedded"

/-- Store a new intent. -/
def insertIntent (i : Intent) : ServerM Intent :=
  withEngine fun e => (e.insertIntent i).mapError (·.toError)

/-- The stored intent with this invoice number. -/
def findIntent (invoice : Int) : ServerM (Option Intent) :=
  readEngine (·.getIntent invoice)

/-- Apply a checked callback to the stored intent: the record after it, whether it changed, and
the verdict. -/
def reconcile (invoice : Int) (check : CallbackCheck) : ServerM ((Intent × Bool) × Verdict) :=
  withEngine fun e => do
    let ((i, changed, v), e) ← e.modifyIntent invoice fun i => .ok (check.apply i)
    return (((i, changed), v), e)

/-- The room with this id, from the catalog. -/
def room (id : Ulid) : ServerM Room := do
  match (← get).catalog.room? id with
  | some r => return r
  | none => throw (.notFound ("room " ++ id.render))

/-- The studio with this id, if the catalog has it. -/
def studio? (id : Ulid) : ServerM (Option Studio) :=
  return (← get).catalog.studio? id

end Server

end StudioRental
