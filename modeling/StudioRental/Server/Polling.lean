import StudioRental.Server.Bookings
import StudioRental.Server.Payments
import StudioRental.Engine.Concurrent

/-!
Calls of the server polled together by one task of the runtime.

A call is cut at the points where it may wait (`Server.Task`): for a room's lock, taken to read
or to write, for an invoice's lock, and for the writer to commit its record. The calls are
polled in turn, each until it waits or returns. When every call has been polled once, the
records they handed over are committed, one batch of the writer, and in the order they were
handed over each commit's effect is made and its lock released. Then the calls are polled again,
until all have returned (`Server.pollTogether`).

A lock serves its requests in the order they came (`Server.LockQueue`): a request that fits the
holders and has nobody before it is granted at once, and a release grants the requests at the
front that fit, reads together and a write alone. A granted call holds the lock until it is next
polled and runs the code under it; a write whose record is handed over holds it until the commit.
A call that waits for nothing runs to its end in one poll, so one call polled alone is the call.
-/

namespace StudioRental

namespace Server

/-- A lock a call may wait for: a room's, or the one of an invoice's intent. -/
inductive Lock where
  | room (id : Ulid)
  | invoice (n : Int)
  deriving DecidableEq

/-- How a lock is taken. -/
inductive Access where
  | read
  | write
  deriving DecidableEq

/-- A call of the server, cut at the points where it may wait. -/
inductive Task (α : Type) where
  /-- The call has returned. -/
  | done (r : α)
  /-- Code that reads the server and gives the rest of the call. -/
  | step (k : Server → Task α)
  /-- The server as the code so far left it, and the rest of the call. -/
  | put (s : Server) (t : Task α)
  /-- Take the lock to read and run `k` under it; the lock is released as `k` ends. -/
  | read (l : Lock) (k : Server → Task α)
  /-- Take the lock to write and run `k` under it; the lock is released as `k` ends, unless it
  hands a record over, and then when the record is committed. -/
  | write (l : Lock) (k : Server → Task α)
  /-- Hand a record to the writer: `effect` is made when it is committed, and then the call goes
  on with `after`. -/
  | commit (effect : Server → Server) (after : Task α)

/-- The checks of a new booking made before storage is asked, in `createBooking`'s order: the time
they were made, the room, the price and the notes kept. -/
def createChecks (actor : Actor) (req : NewBooking) :
    ServerM (Instant × Room × Decimal × Option String) := do
  if actor.role != .renter then throw (.forbidden "only renters can create bookings")
  let t ← now
  if req.stop ≤ req.start then
    throw (.validation "end_time must be after start_time")
  if req.start < t then throw (.validation "start_time is in the past")
  let ms := req.stop.millisSince req.start
  if ms > maxBookingDurationMs then throw (.validation "booking is too long")
  let notes := (req.notes.map Text.trimBlank).filter (!·.isEmpty)
  if notes.any (·.length > maxNotes) then
    throw (.validation "notes must be at most 2000 characters")
  let room ← room req.room
  if room.studio != req.studio then
    throw (.validation ("room " ++ room.id.render ++ " does not belong to studio " ++
      req.studio.render))
  let price ← ofExcept (Money.totalPrice room.hourlyRate ms)
  return (t, room, price, notes)

/-- Tell the studio's owner of a new booking. -/
def notifyRequested (b : Booking) : ServerM Unit := do
  if let some s ← studio? b.studio then notify s.owner (.bookingRequested b.id)

/-- The check of a callback on a channel, made as `reconcileCallback` makes it. -/
def checkCallback (channel : Channel) (p : CallbackParams) : ServerM CallbackCheck := do
  let gw := (← get).gateway
  let password := match channel with
    | .result => gw.password2
    | .success => gw.password1
  return ⟨channel, p.signatureValid password, Signature.parseAmount p.outSum, p.raw, ← now⟩

namespace Task

/-- The call with `f` applied to what it returns. -/
def map (f : α → β) : Task α → Task β
  | .done r => .done (f r)
  | .step k => .step fun s => (k s).map f
  | .put s t => .put s (t.map f)
  | .read l k => .read l fun s => (k s).map f
  | .write l k => .write l fun s => (k s).map f
  | .commit effect t => .commit effect (t.map f)

/-- Go on from code run on the server: with its result, or with its error to `fail`. -/
def resume (r : Except Error β × Server) (fail : Error → Task γ) (k : β → Task γ) : Task γ :=
  match r with
  | (.ok b, s) => .put s (k b)
  | (.error e, s) => .put s (fail e)

/-- End the call with an error. -/
def raise (e : Error) : Task (Except Error α) := .done (.error e)

/-- Run `m`, then go on with its result; an error ends the call. -/
def seq (m : ServerM β) (k : β → Task (Except Error α)) : Task (Except Error α) :=
  .step fun s => resume (m.run.run s) raise k

/-- Read a booking under its room's lock, as the engine reads one: the room is looked up first,
and the booking read from that room once the lock is held. -/
def findBooking (id : Ulid) (k : Except Error (Option Booking) → Task γ) : Task γ :=
  .step fun s => match s.backend with
    | .unreachable err => k (.error err)
    | .embedded => match s.engine.roomOf? id with
      | none => k (.ok none)
      | some room => .read (.room room) fun s => k (.ok ((s.engine.room? room).bind (·.find? id)))

/-- A stored booking, or not found. -/
def booking (id : Ulid) (k : Booking → Task (Except Error α)) : Task (Except Error α) :=
  findBooking id fun
    | .ok (some b) => k b
    | .ok none => raise (.notFound ("booking " ++ id.render))
    | .error e => raise e

/-- Spans of the room's bookings that hold it and overlap the window, read under its lock. -/
def busySpans (room : Ulid) (window : Span) (k : List Span → Task (Except Error α)) :
    Task (Except Error α) :=
  .step fun s => match s.backend with
    | .unreachable _ => resume ((Server.busySpans room window).run.run s) raise k
    | .embedded => .read (.room room) fun s => k (s.engine.busySpans room window)

/-- Enter a new booking: the checks before the room's lock, those under it, then the record
handed to the writer, the booking entered when it is committed. -/
def insertBooking (b : Booking) (fail : EngineError → Task γ) (k : Booking → Task γ) : Task γ :=
  .step fun s => match s.engine.insertCheck b with
    | .error e => fail e
    | .ok () => .write (.room b.room) fun s => match s.engine.insertGuard b with
      | .error e => fail e
      | .ok () => .commit (fun s => { s with engine := s.engine.insertSettle b }) (k b)

/-- Change a booking with `c` under its room's lock; a change that took effect is committed
before the call goes on. -/
def modifyBooking (id : Ulid) (c : Change) (fail : Error → Task γ)
    (k : Booking × Bool → Task γ) : Task γ :=
  .step fun s => match s.backend with
    | .unreachable err => fail err
    | .embedded => match s.engine.modifyLookup id with
      | .error e => fail e
      | .ok room => .write (.room room) fun s => match s.engine.modifyNext room id c.apply with
        | .error e => fail e
        | .ok (b, false) => k (b, false)
        | .ok (b, true) =>
          .commit (fun s => { s with engine := s.engine.modifySettle room b }) (k (b, true))

/-- Change an intent with `f` under its invoice's lock; a change that took effect is committed
before the call goes on. -/
def modifyIntent (invoice : Int) (f : Intent → Except Error (Intent × β)) (fail : Error → Task γ)
    (k : Intent × Bool × β → Task γ) : Task γ :=
  .step fun s => match s.backend with
    | .unreachable err => fail err
    | .embedded => match s.engine.getIntent invoice with
      | none => fail (EngineError.notFound ("invoice " ++ toString invoice)).toError
      | some _ => .write (.invoice invoice) fun s => match s.engine.modifyIntent invoice f with
        | .error e => fail e
        | .ok ((i, false, out), _) => k (i, false, out)
        | .ok ((i, true, out), _) =>
          .commit (fun s => { s with engine := s.engine.intentSettle invoice i }) (k (i, true, out))

/-- `createBooking`, cut where it waits: for the room's lock to read its busy time, for the lock
to enter the booking, and for the commit. -/
def createBooking (actor : Actor) (req : NewBooking) : Task (Except Error Booking) :=
  seq (createChecks actor req) fun (t, room, price, notes) =>
  busySpans room.id ⟨req.start.millis, req.stop.millis⟩ fun busy =>
  if !busy.isEmpty then raise (.overbooking room.id) else
  seq newId fun id =>
  insertBooking {
      id, room := room.id, studio := room.studio, renter := actor.user, start := req.start,
      stop := req.stop, totalPrice := price, deposit := Decimal.zero, status := .pending,
      payment := .unpaid, notes, cancellationReason := none, createdAt := t, updatedAt := t }
    (fun e => raise e.toError) fun b =>
  seq (notifyRequested b) fun _ => .done (.ok b)

/-- `getBooking`, cut where it waits for the room's lock. -/
def getBooking (actor : Actor) (id : Ulid) : Task (Except Error Booking) :=
  booking id fun b =>
  seq (studio? b.studio) fun studio =>
  match Standing.of actor b studio with
  | .renter | .studioStaff => .done (.ok b)
  | _ => raise (.forbidden "not a party to this booking")

/-- `transition`, cut where it waits: for the room's lock to read the booking, for the lock to
change it, and for the commit; the other party is told once the change is committed. -/
def transition (actor : Actor) (id : Ulid) (cmd : Command) : Task (Except Error Booking) :=
  booking id fun b =>
  seq (do
      let studio ← studio? b.studio
      let c : Change := ⟨cmd, Standing.of actor b studio, ← now⟩
      ofExcept c.authorize
      return (studio, c)) fun (studio, c) =>
  modifyBooking id c raise fun (b', changed) =>
  seq (if changed then notifyCounterparty b' b.status c.standing studio cmd else pure ()) fun _ =>
  .done (.ok b')

/-- A command checked before the call starts, then the transition. -/
def transitionWith (actor : Actor) (id : Ulid) (cmd : Except Error Command) :
    Task (Except Error Booking) :=
  match cmd with
  | .ok cmd => transition actor id cmd
  | .error e => raise e

/-- `syncPayment`, cut where it waits for the room's lock and the commit. -/
def syncPayment (id : Ulid) (state : PaymentState) (fail : Error → Task γ)
    (k : Booking → Task γ) : Task γ :=
  .step fun s =>
    let (t, s) := (now.run.run s)
    match t with
    | .ok t => .put s (modifyBooking id ⟨.syncPayment state, .system, t⟩ fail fun (b, _) => k b)
    | .error e => .put s (fail e)

/-- `notifyPayment`, cut where it waits for the room's lock to read the booking. -/
def notifyPayment (id : Ulid) (n : Notification) (k : Task (Except Error α)) :
    Task (Except Error α) :=
  findBooking id fun
    | .ok (some b) => seq (do if let some s ← studio? b.studio then notify s.owner n) fun _ => k
    | _ => k

/-- `reconcileCallback`, cut where it waits for the invoice's lock and the commit. -/
def reconcileCallback (channel : Channel) (p : CallbackParams)
    (k : Intent × Verdict → Task (Except Error α)) : Task (Except Error α) :=
  seq (checkCallback channel p) fun check =>
  modifyIntent p.invoice (fun i => .ok (check.apply i))
    (fun e => match e with
      | .notFound _ => if check.signatureValid then raise e else raise .invalidSignature
      | _ => raise e)
    fun (i, _, v) => k (i, v)

/-- `handleResult`, cut where it waits. -/
def handleResult (form : TextMap) : Task (Except Error Int) :=
  seq (ofExcept (CallbackParams.ofForm form)) fun p =>
  reconcileCallback .result p fun (i, v) =>
  match v with
  | .applied =>
    let rest := notifyPayment i.booking (.paymentReceived i.booking i.invoice i.amount)
      (.done (.ok p.invoice))
    syncPayment i.booking .paid (fun _ => rest) fun _ => rest
  | .alreadyApplied | .acknowledged => .done (.ok p.invoice)
  | .invalidSignature => raise .invalidSignature
  | .amountMismatch => raise (.amountMismatch i.amount p.outSum)
  | .alreadyFailed =>
    raise (.invalidTransition ("invoice " ++ toString p.invoice ++ " has already failed"))

/-- `handleSuccess`, cut where it waits. -/
def handleSuccess (query : TextMap) : Task (Except Error Intent) :=
  seq (ofExcept (CallbackParams.ofForm query)) fun p =>
  reconcileCallback .success p fun (i, v) =>
  match v with
  | .invalidSignature => raise .invalidSignature
  | .amountMismatch => raise (.amountMismatch i.amount p.outSum)
  | _ => .done (.ok i)

/-- The engine's `insertBooking`, cut where it waits. -/
def engineInsert (b : Booking) : Task (Except EngineError Booking) :=
  insertBooking b (fun e => .done (.error e)) fun b => .done (.ok b)

end Task

/-- A call of the services that the runtime may poll with others. -/
inductive ServiceCall where
  | create (actor : Actor) (req : NewBooking)
  | get (actor : Actor) (id : Ulid)
  /-- A change of status, with its command as checked before the call starts. -/
  | transition (actor : Actor) (id : Ulid) (cmd : Except Error Command)
  | syncPayment (id : Ulid) (state : PaymentState)
  | result (form : TextMap)
  | success (query : TextMap)
  /-- The engine's own `insertBooking`. -/
  | engineInsert (b : Booking)

/-- What a service call returns. -/
inductive Reply where
  | booking (r : Except Error Booking)
  | engineBooking (r : Except EngineError Booking)
  | invoice (r : Except Error Int)
  | intent (r : Except Error Intent)

/-- Run a call of the server, and wrap what it returned. -/
def Reply.of (m : ServerM α) (f : Except Error α → Reply) (s : Server) : Reply × Server :=
  let (r, s) := m.run.run s
  (f r, s)

/-- A service call made on its own. -/
def ServiceCall.call : ServiceCall → Server → Reply × Server
  | .create actor req => Reply.of (Server.createBooking actor req) .booking
  | .get actor id => Reply.of (Server.getBooking actor id) .booking
  | .transition actor id cmd => Reply.of (do Server.transition actor id (← ofExcept cmd)) .booking
  | .syncPayment id state => Reply.of (Server.syncPayment id state) .booking
  | .result form => Reply.of (Server.handleResult form) .invoice
  | .success query => Reply.of (Server.handleSuccess query) .intent
  | .engineInsert b => fun s => match s.engine.insertBooking b with
    | .ok (b, e) => (.engineBooking (.ok b), { s with engine := e })
    | .error err => (.engineBooking (.error err), s)

/-- A service call, cut where it waits. -/
def ServiceCall.task : ServiceCall → Task Reply
  | .create actor req => (Task.createBooking actor req).map .booking
  | .get actor id => (Task.getBooking actor id).map .booking
  | .transition actor id cmd => (Task.transitionWith actor id cmd).map .booking
  | .syncPayment id state => (Task.syncPayment id state Task.raise fun b => .done (.ok b)).map .booking
  | .result form => (Task.handleResult form).map .invoice
  | .success query => (Task.handleSuccess query).map .intent
  | .engineInsert b => (Task.engineInsert b).map .engineBooking

/-- A lock's holders and the requests waiting for it, in the order they came. -/
structure LockQueue where
  readers : Nat := 0
  writer : Bool := false
  waiting : List (Nat × Access) := []

namespace LockQueue

/-- Whether a new request is granted at once: nobody waits, and it agrees with the holders. -/
def fits (q : LockQueue) : Access → Bool
  | .read => q.waiting.isEmpty && !q.writer
  | .write => q.waiting.isEmpty && !q.writer && q.readers == 0

/-- Grant the requests at the front of `waiting` while they agree with the holders: the calls
granted, and the lock after. -/
def grantFrom (readers : Nat) (writer : Bool) : List (Nat × Access) → List Nat × LockQueue
  | [] => ([], ⟨readers, writer, []⟩)
  | (i, .read) :: rest =>
    if writer then ([], ⟨readers, writer, (i, .read) :: rest⟩)
    else
      let r := grantFrom (readers + 1) writer rest
      (i :: r.1, r.2)
  | (i, .write) :: rest =>
    if writer || readers != 0 then ([], ⟨readers, writer, (i, .write) :: rest⟩)
    else ([i], ⟨readers, true, rest⟩)

/-- Grant what fits of the waiting requests. -/
def grant (q : LockQueue) : List Nat × LockQueue := grantFrom q.readers q.writer q.waiting

/-- The lock after one holder lets it go. -/
def release (q : LockQueue) : Access → LockQueue
  | .read => { q with readers := q.readers - 1 }
  | .write => { q with writer := false }

end LockQueue

/-- Where a call polled with others is. -/
inductive CallState (α : Type) where
  /-- To be polled from the rest of the call. -/
  | ready (t : Task α)
  /-- Waiting for the lock `t` takes first. -/
  | waiting (t : Task α)
  /-- Granted the lock `t` takes first, to run the code under it when next polled. -/
  | granted (t : Task α)
  /-- Its record handed to the writer, holding the lock `held` until the record is committed. -/
  | committing (held : Option Lock) (effect : Server → Server) (after : Task α)
  /-- Returned. -/
  | returned (r : α)

namespace CallState

/-- The state of a waiting call whose request was granted. -/
def grant : CallState α → CallState α
  | .waiting t => .granted t
  | c => c

/-- What a returned call returned. -/
def result? : CallState α → Option α
  | .returned r => some r
  | _ => none

end CallState

/-- The server with the calls polled together: the locks, where each call is, and the calls whose
records were handed to the writer in the current round, in the order they were handed over. -/
structure Polling (α : Type) where
  server : Server
  locks : Lock → LockQueue
  calls : List (CallState α)
  handed : List Nat

namespace Polling

/-- Set the state of call `i`. -/
def setCall (p : Polling α) (i : Nat) (c : CallState α) : Polling α :=
  { p with calls := p.calls.set i c }

/-- Set the queue of a lock. -/
def setLock (p : Polling α) (l : Lock) (q : LockQueue) : Polling α :=
  { p with locks := fun l' => if l' = l then q else p.locks l' }

/-- Grant what fits of the lock's waiting requests. -/
def wake (p : Polling α) (l : Lock) : Polling α :=
  let (granted, q) := (p.locks l).grant
  granted.foldl (fun p i => { p with calls := p.calls.modify i CallState.grant }) (p.setLock l q)

/-- Release a lock one holder had, and grant what then fits. -/
def release (p : Polling α) (l : Lock) (a : Access) : Polling α :=
  (p.setLock l ((p.locks l).release a)).wake l

/-- Release the write lock a call holds, if any. -/
def releaseHeld (p : Polling α) : Option Lock → Polling α
  | none => p
  | some l => p.release l .write

/-- Queue call `i`'s request for a lock; its state waits with the rest of the call. -/
def enqueue (p : Polling α) (l : Lock) (i : Nat) (a : Access) (t : Task α) : Polling α :=
  (p.setLock l { p.locks l with waiting := (p.locks l).waiting ++ [(i, a)] }).setCall i (.waiting t)

/-- Poll call `i` from `t`, holding the write lock `held` if any, until it waits or returns. -/
def run (p : Polling α) (i : Nat) (held : Option Lock) : Task α → Polling α
  | .put s t => { p with server := s }.run i held t
  | .commit effect t => { p.setCall i (.committing held effect t) with handed := p.handed ++ [i] }
  | .done r => (p.releaseHeld held).setCall i (.returned r)
  | .step k => (p.releaseHeld held).run i none (k p.server)
  | .read l k =>
    let p := p.releaseHeld held
    if (p.locks l).fits .read then p.run i none (k p.server) else p.enqueue l i .read (.read l k)
  | .write l k =>
    let p := p.releaseHeld held
    if (p.locks l).fits .write then
      (p.setLock l { p.locks l with writer := true }).run i (some l) (k p.server)
    else p.enqueue l i .write (.write l k)

/-- Poll call `i` in its turn. -/
def poll (p : Polling α) (i : Nat) : Polling α :=
  match p.calls[i]? with
  | some (.ready t) => p.run i none t
  | some (.granted (.read l k)) => (p.release l .read).run i none (k p.server)
  | some (.granted (.write l k)) => p.run i (some l) (k p.server)
  | _ => p

/-- Commit the record call `i` handed over: its effect is made, its lock released, and the call
readied to go on. -/
def commitOne (p : Polling α) (i : Nat) : Polling α :=
  match p.calls[i]? with
  | some (.committing held effect after) =>
    ({ p with server := effect p.server }.releaseHeld held).setCall i (.ready after)
  | _ => p

/-- Commit the records handed over in this round, in the order they were handed over. -/
def commitHanded (p : Polling α) : Polling α :=
  p.handed.foldl commitOne { p with handed := [] }

/-- One round: every call polled in turn, then the records handed over committed. -/
def round (p : Polling α) : Polling α :=
  ((List.range p.calls.length).foldl poll p).commitHanded

/-- Whether every call has returned. -/
def allReturned (p : Polling α) : Bool := p.calls.all fun c => c.result?.isSome

/-- At most `n` rounds, stopping once every call has returned. -/
def rounds : Nat → Polling α → Polling α
  | 0, p => p
  | n + 1, p => if p.allReturned then p else rounds n p.round

end Polling

/-- The calls polled together until all have returned: the server after them, and what each
returned. Each round takes a step of some call, so rounds enough for every wait of every call
are made. -/
def pollTogether (s : Server) (ts : List (Task α)) : Server × List (Option α) :=
  let p := Polling.rounds (16 * (ts.length + 1)) ⟨s, fun _ => {}, ts.map .ready, []⟩
  (p.server, p.calls.map CallState.result?)

end Server

end StudioRental
