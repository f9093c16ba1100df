import StudioRental.Proofs.Server.Access
import StudioRental.Proofs.Engine.Exclusion
import Mathlib.Algebra.Group.Nat.Defs
import Mathlib.Algebra.Group.Int.Defs

/-!
Making a booking checks everything before it writes anything.

A request is made exactly when it is admitted (`Server.Admits`): the caller is a renter, the end
comes after the start, the start has not passed and the booking lasts at most 31 days in whole
milliseconds, the trimmed notes have at most 2000 characters, and the room is in the catalog, in
the named studio, with a price that is money (`Server.Screened`, the service's own checks); and
the storage takes it: its span in milliseconds is nonempty, inside the supported years and at
most 31 days long, no booking of the room that is not cancelled overlaps that span, the room is
not full, and the id drawn for it is new. The booking made is the one the request describes
(`NewBooking.toBooking`), entered by the storage's own call. A failed request leaves the stored
records and the journal as they were (`Server.createBooking_keepsOnError`), and the early look
at the room's busy time refuses exactly when the storage's own overlap check would
(`Engine.busySpans_eq_nil_iff`).

The overlap check cuts the room's list by binary search on millisecond starts, so it finds every
overlapping booking only when the list is in order of those starts: in a well-formed engine,
when no booking of the room starts in a leap second (`Engine.spanSorted_found`). A booking that
starts in a leap second breaks that order, and a request overlapping a later booking is made.
-/

namespace StudioRental

namespace Instant

theorem not_le {a b : Instant} : ¬ a ≤ b ↔ b < a := by
  rw [le_def, lt_def]
  omega

theorem not_lt {a b : Instant} : ¬ a < b ↔ b ≤ a := by
  rw [le_def, lt_def]
  omega

end Instant

theorem Catalog.room?_id {c : Catalog} {id : Ulid} {r : Room} (h : c.room? id = some r) :
    r.id = id := by
  simpa using List.find?_some h

namespace Engine

variable {e : Engine} {b : Booking}

/-- The storage's check of a span, in words: nonempty, inside the supported years, and at most
31 days long. -/
theorem validateSpan_eq_ok_iff {w : Span} :
    validateSpan w = .ok () ↔ w.start < w.stop ∧ minBookingMs ≤ w.start ∧
      w.stop ≤ maxBookingMs ∧ w.duration ≤ maxBookingDurationMs := by
  unfold validateSpan
  split_ifs with h₁ h₂ h₃ <;> simp_all [Span.isEmpty_eq]
  all_goals omega

theorem activeOverlapping_eq_nil_iff {r : RoomBookings} {w : Span}
    (h : RoomBookings.SpanSorted r.bookings) :
    r.activeOverlapping w = [] ↔
      ∀ x ∈ r.bookings, x.status ≠ .cancelled → x.span.overlaps w = false := by
  rw [RoomBookings.activeOverlapping, RoomBookings.overlapping_eq r w h, List.filter_filter,
    List.filter_eq_nil_iff]
  refine forall₂_congr fun x _ => ?_
  cases x.status <;> simp [BookingStatus.holdsSlot]

/-- In a well-formed engine with no booking starting in a leap second, the room a call works on
is in order of span. -/
theorem spanSorted_found (hw : e.WellFormed)
    (hleap : e.AllBookings fun b => b.start.frac < Instant.nanosPerSecond) (room : Ulid) :
    RoomBookings.SpanSorted ((e.room? room).getD { room }).bookings := by
  obtain ⟨-, -, hsorted⟩ := hw.found room
  refine hsorted.spanSorted fun x hx => ?_
  rcases (e.room?_getD_cases room).2 with hq | hq
  · exact hleap _ hq x hx
  · rw [hq] at hx
    cases hx

/-- The early look at a room's busy time finds nothing exactly when the storage's own overlap
check on the same engine would. -/
theorem busySpans_eq_nil_iff (e : Engine) (room : Ulid) (w : Span) :
    e.busySpans room w = [] ↔ ((e.room? room).getD { room }).activeOverlapping w = [] := by
  unfold busySpans
  cases e.room? room with
  | some r => simp
  | none => simp [RoomBookings.activeOverlapping, RoomBookings.overlapping]

theorem forall_room?_iff {P : RoomBookings → Prop} (room : Ulid) (hP : P { room }) :
    (∀ r, e.room? room = some r → P r) ↔ P ((e.room? room).getD { room }) := by
  cases e.room? room <;> simp [hP]

/-- In a well-formed engine where no booking starts in a leap second, the overlap check on the
room a call works on finds nothing exactly when no booking of the stored room that is not
cancelled overlaps the window. -/
theorem overlapCheck_eq_nil_iff (hw : e.WellFormed)
    (hleap : e.AllBookings fun b => b.start.frac < Instant.nanosPerSecond) (room : Ulid)
    (w : Span) :
    ((e.room? room).getD { room }).activeOverlapping w = [] ↔
      ∀ r, e.room? room = some r → ∀ x ∈ r.bookings, x.status ≠ .cancelled →
        x.span.overlaps w = false :=
  (activeOverlapping_eq_nil_iff (spanSorted_found hw hleap room)).trans
    (forall_room?_iff (P := fun r => ∀ x ∈ r.bookings, x.status ≠ .cancelled →
      x.span.overlaps w = false) room (by simp)).symm

theorem insertBooking_of_checks (hspan : validateSpan b.span = .ok ())
    (hfresh : e.roomOf? b.id = none)
    (hroomy : ((e.room? b.room).getD { room := b.room }).bookings.length < maxBookingsPerRoom)
    (hfree : ((e.room? b.room).getD { room := b.room }).activeOverlapping b.span = []) :
    e.insertBooking b = .ok (b, { (e.record (.bookingCreated b)).updateRoom b.room (·.insert b) with
      bookingRooms := e.bookingRooms ++ [(b.id, b.room)] }) := by
  have hfull : ¬((e.room? b.room).getD { room := b.room }).bookings.length ≥ maxBookingsPerRoom :=
    Nat.not_le_of_lt hroomy
  simp only [insertBooking, hspan, hfresh, hfree, hfull, bind, Except.bind, throw, throwThe,
    MonadExceptOf.throw, pure, Except.pure, Option.isSome_none, Bool.false_eq_true, if_false]
  split <;> rfl

end Engine

/-- The booking a request makes, with the id drawn for it and its price: pending and unpaid
with no deposit, rented by `renter`, with the notes trimmed and dropped when blank, made at
`t`. -/
def NewBooking.toBooking (req : NewBooking) (id renter : Ulid) (price : Decimal) (t : Instant) :
    Booking where
  id := id
  room := req.room
  studio := req.studio
  renter := renter
  start := req.start
  stop := req.stop
  totalPrice := price
  deposit := Decimal.zero
  status := .pending
  payment := .unpaid
  notes := (req.notes.map Text.trimBlank).filter (!·.isEmpty)
  cancellationReason := none
  createdAt := t
  updatedAt := t

namespace Server

variable {α β : Type} {s s' : Server}

/-! ### Running the steps of a request -/

theorem run_ite_throw_eq_ok {p : Prop} [Decidable p] {err : Error} {k : Unit → ServerM α}
    {a : α} :
    (if p then throw err >>= k else k ()).run.run s = (.ok a, s') ↔
      ¬p ∧ (k ()).run.run s = (.ok a, s') := by
  split
  · rw [run_bind, run_throw]
    simp [*]
  · simp [*]

/-- The id drawn from the clock's reading `t` and the count `n` of ids made. -/
def idAt (t : Instant) (n : Nat) : Ulid :=
  ⟨((t.millis.toNat % 2 ^ 48) * 2 ^ 80 + n % 2 ^ 80) % 2 ^ 128, Nat.mod_lt _ (Nat.two_pow_pos 128)⟩

theorem newId_run : newId.run.run s = (.ok (idAt s.clock (s.idCount + 1)),
    { s with clock := s.clock.addNanos s.tick, idCount := s.idCount + 1 }) := rfl

theorem room_run_eq_ok {id : Ulid} {r : Room} :
    (room id).run.run s = (.ok r, s') ↔ s.catalog.room? id = some r ∧ s' = s := by
  rw [room_run]
  cases s.catalog.room? id <;> simp [eq_comm]

theorem busySpans_run (room : Ulid) (w : Span) (hb : s.backend = .embedded) :
    (busySpans room w).run.run s = (.ok (s.engine.busySpans room w), s) := by
  simp only [busySpans, run_bind, run_get, hb, readEngine_run _ hb]

theorem insertBooking_run_eq_ok {b b' : Booking} (hb : s.backend = .embedded) :
    (insertBooking b).run.run s = (.ok b', s') ↔
      ∃ e, s.engine.insertBooking b = .ok (b', e) ∧ s' = { s with engine := e } := by
  rw [insertBooking, withEngine_run _ hb]
  rcases s.engine.insertBooking b with err | ⟨b'', e⟩ <;> simp [Except.mapError, eq_comm]

/-! ### The checks of a request -/

theorem notes_fit_iff {notes : Option String} :
    ¬((notes.map Text.trimBlank).filter (!·.isEmpty)).any (fun x => decide (x.length > maxNotes)) =
        true ↔ ∀ n ∈ notes, (Text.trimBlank n).length ≤ maxNotes := by
  cases notes with
  | none => simp
  | some n =>
    by_cases h : (Text.trimBlank n).isEmpty = true
    · have hblank : Text.trimBlank n = "" := by simpa using h
      simp [Option.filter, hblank]
    · simp [Option.filter, h]

/-- The service's own checks of a request, on the server as it stands: the caller is a renter,
the end comes after the start, the start has not passed, the booking lasts at most 31 days in
whole milliseconds, the trimmed notes have at most 2000 characters, and the room is in the
catalog, in the named studio, with a price that is money. -/
structure Screened (s : Server) (a : Actor) (req : NewBooking) : Prop where
  renter : a.role = .renter
  ordered : req.start < req.stop
  upcoming : s.clock ≤ req.start
  short : req.stop.millisSince req.start ≤ maxBookingDurationMs
  notes : ∀ n ∈ req.notes, (Text.trimBlank n).length ≤ maxNotes
  room : ∃ r, s.catalog.room? req.room = some r ∧ r.studio = req.studio ∧
    ∃ price, Money.totalPrice r.hourlyRate (req.stop.millisSince req.start) = .ok price

/-- A request that is made passed the service's checks and the early look at the room; the
booking made is the one it describes, with the room's price and the id drawn for it, and the
storage entered it. -/
theorem createBooking_eq_ok {a : Actor} {req : NewBooking} {b : Booking}
    (hb : s.backend = .embedded) (h : (createBooking a req).run.run s = (.ok b, s')) :
    Screened s a req ∧ s.engine.busySpans req.room ⟨req.start.millis, req.stop.millis⟩ = [] ∧
      (∃ r price, s.catalog.room? req.room = some r ∧
        Money.totalPrice r.hourlyRate (req.stop.millisSince req.start) = .ok price ∧
        b = req.toBooking (idAt (s.clock.addNanos s.tick) (s.idCount + 1)) a.user price s.clock) ∧
      s.engine.insertBooking b = .ok (b, s'.engine) := by
  simp only [createBooking, run_ite_throw_eq_ok, run_bind_eq_ok, now_run, answer_eq_iff,
    Except.ok.injEq, room_run_eq_ok, ofExcept_run, newId_run, studio?_run, busySpans_run,
    insertBooking_run_eq_ok, hb, exists_eq_left', exists_eq_left, exists_and_left, and_assoc] at h
  obtain ⟨hrole, hord, hpast, hlong, hnotes, r, hr, hst, price, hp, hbusy, b', s₁, ⟨e, hins, rfl⟩,
    htail⟩ := h
  -- telling the studio's owner answers the booking and keeps the store
  have hb' : b = b' ∧ s'.engine = e := by
    split at htail <;> simp only [run_bind, notify_run, run_pure, answer_eq_iff,
      Except.ok.injEq] at htail <;> obtain ⟨rfl, rfl⟩ := htail <;> exact ⟨rfl, rfl⟩
  obtain ⟨rfl, rfl⟩ := hb'
  have hst : r.studio = req.studio := by simpa using hst
  rw [Catalog.room?_id hr] at hins hbusy
  rw [hst] at hins
  obtain ⟨-, -, -, -, rfl, -⟩ := Engine.insertBooking_eq_ok hins
  exact ⟨⟨by simpa using hrole, Instant.not_le.1 hord, Instant.not_lt.1 hpast, Int.not_lt.1 hlong,
    notes_fit_iff.1 hnotes, r, hr, hst, price, hp⟩, by simpa using hbusy, ⟨r, price, hr, hp, rfl⟩,
    hins⟩

theorem createBooking_of_screened {a : Actor} {req : NewBooking} {r : Room} {price : Decimal}
    {e : Engine} (hb : s.backend = .embedded) (hs : Screened s a req)
    (hr : s.catalog.room? req.room = some r)
    (hp : Money.totalPrice r.hourlyRate (req.stop.millisSince req.start) = .ok price)
    (hbusy : s.engine.busySpans req.room ⟨req.start.millis, req.stop.millis⟩ = [])
    {b : Booking} (hbooking :
      b = req.toBooking (idAt (s.clock.addNanos s.tick) (s.idCount + 1)) a.user price s.clock)
    (hins : s.engine.insertBooking b = .ok (b, e)) :
    ∃ s', (createBooking a req).run.run s = (.ok b, s') := by
  subst hbooking
  obtain ⟨r', hr', hst, -⟩ := hs.room
  rw [hr, Option.some.injEq] at hr'
  subst hr'
  simp only [NewBooking.toBooking] at hins ⊢
  -- telling the studio's owner, when the catalog has the studio, answers the booking
  rcases hstudio : s.catalog.studio? req.studio with _ | st <;>
    simp only [createBooking, run_ite_throw_eq_ok, run_bind_eq_ok, now_run, answer_eq_iff,
      Except.ok.injEq, room_run_eq_ok, ofExcept_run, newId_run, studio?_run, busySpans_run,
      insertBooking_run_eq_ok, hb, exists_eq_left', exists_eq_left, exists_and_left, and_assoc, hr,
      Option.some.injEq, hp, Catalog.room?_id hr, hst, hbusy, hs.renter,
      Instant.not_le.2 hs.ordered, Instant.not_lt.2 hs.upcoming, Int.not_lt.2 hs.short,
      notes_fit_iff.2 hs.notes,
      bne_self_eq_false, List.isEmpty_nil, Bool.not_true, Bool.false_eq_true, not_false_eq_true,
      true_and, hins, Prod.mk.injEq, hstudio]
  · exact ⟨_, rfl⟩
  · exact ⟨_, _, _, rfl, rfl⟩

/-! ### Admission -/

/-- A request the service and the storage both accept, on the server as it stands: it passes the
service's checks; its span in milliseconds is nonempty, inside the supported years and at most 31
days long; no booking of the room that is not cancelled overlaps that span; the room is not full;
and the id drawn for the booking is new. -/
structure Admits (s : Server) (a : Actor) (req : NewBooking) : Prop extends Screened s a req where
  span : req.start.millis < req.stop.millis ∧ minBookingMs ≤ req.start.millis ∧
    req.stop.millis ≤ maxBookingMs ∧ req.stop.millis - req.start.millis ≤ maxBookingDurationMs
  free : ∀ r, s.engine.room? req.room = some r → ∀ x ∈ r.bookings, x.status ≠ .cancelled →
    x.span.overlaps ⟨req.start.millis, req.stop.millis⟩ = false
  roomy : ∀ r, s.engine.room? req.room = some r → r.bookings.length < maxBookingsPerRoom
  fresh : s.engine.roomOf? (idAt (s.clock.addNanos s.tick) (s.idCount + 1)) = none

/-- On the embedded storage, in a well-formed engine where no booking starts in a leap second, a
request is made exactly when it is admitted. -/
theorem createBooking_made_iff {a : Actor} {req : NewBooking} (hb : s.backend = .embedded)
    (hw : s.engine.WellFormed)
    (hleap : s.engine.AllBookings fun b => b.start.frac < Instant.nanosPerSecond) :
    (∃ b s', (createBooking a req).run.run s = (.ok b, s')) ↔ Admits s a req := by
  -- the room's list is in order of span, so the overlap check reads as overlap
  have hfree := Engine.overlapCheck_eq_nil_iff hw hleap req.room ⟨req.start.millis, req.stop.millis⟩
  have hroomy := Engine.forall_room?_iff (e := s.engine)
    (P := fun r => r.bookings.length < maxBookingsPerRoom) req.room (by simp [maxBookingsPerRoom])
  constructor
  · rintro ⟨b, s', h⟩
    obtain ⟨hs, -, ⟨r, price, -, -, rfl⟩, hins⟩ := createBooking_eq_ok hb h
    obtain ⟨hspan, hfresh, hsize, hover, -, -⟩ := Engine.insertBooking_eq_ok hins
    exact ⟨hs, Engine.validateSpan_eq_ok_iff.1 hspan, hfree.1 (hover rfl), hroomy.2 hsize, hfresh⟩
  · intro h
    obtain ⟨r, hr, -, price, hp⟩ := h.room
    have hover := hfree.2 h.free
    have hins := Engine.insertBooking_of_checks
      (b := req.toBooking (idAt (s.clock.addNanos s.tick) (s.idCount + 1)) a.user price s.clock)
      (Engine.validateSpan_eq_ok_iff.2 h.span) h.fresh (hroomy.1 h.roomy) hover
    obtain ⟨s', hrun⟩ := createBooking_of_screened hb h.toScreened hr hp
      ((Engine.busySpans_eq_nil_iff _ _ _).2 hover) rfl hins
    exact ⟨_, s', hrun⟩

/-! ### A failed request writes nothing -/

/-- A failure of the step leaves the stored records, and the journal with them, as they were. -/
def KeepsOnError (x : ServerM α) : Prop :=
  ∀ s err s', x.run.run s = (.error err, s') → s'.engine = s.engine

namespace KeepsOnError

theorem throw_bind {err : Error} {f : α → ServerM β} : KeepsOnError (throw err >>= f) := by
  intro s e s' h
  rw [run_bind, run_throw] at h
  obtain ⟨-, rfl⟩ := answer_eq_iff.1 h
  rfl

theorem ite {p : Prop} [Decidable p] {x y : ServerM α} (hx : p → KeepsOnError x)
    (hy : ¬p → KeepsOnError y) : KeepsOnError (if p then x else y) := by
  split
  · exact hx ‹p›
  · exact hy ‹¬p›

theorem bind {x : ServerM α} {f : α → ServerM β} (hx : Preserves (·.engine) x)
    (hf : ∀ a, KeepsOnError (f a)) : KeepsOnError (x >>= f) := by
  intro s err s'' h
  have he := hx s
  rw [run_bind] at h
  rcases hr : x.run.run s with ⟨e | a, s₁⟩ <;> rw [hr] at h he
  · obtain ⟨-, rfl⟩ := answer_eq_iff.1 h
    exact he
  · exact (hf a s₁ err s'' h).trans he

theorem bind_ok {x : ServerM α} {f : α → ServerM β} (hx : KeepsOnError x)
    (hf : ∀ a s, ∃ b s', (f a).run.run s = (.ok b, s')) : KeepsOnError (x >>= f) := by
  intro s err s'' h
  rw [run_bind] at h
  rcases hr : x.run.run s with ⟨e | a, s₁⟩ <;> rw [hr] at h
  · obtain ⟨-, rfl⟩ := answer_eq_iff.1 h
    exact hx s e s₁ hr
  · obtain ⟨b, s₂, hb⟩ := hf a s₁
    simp only [hb, answer_eq_iff, reduceCtorEq, false_and] at h

theorem withEngine (f : Engine → Except Error (α × Engine)) : KeepsOnError (withEngine f) := by
  intro s err s' h
  cases hb : s.backend with
  | unreachable e =>
    rw [withEngine_unreachable _ hb] at h
    obtain ⟨-, rfl⟩ := answer_eq_iff.1 h
    rfl
  | embedded =>
    rw [withEngine_run _ hb] at h
    rcases hf : f s.engine with e | ⟨a, e'⟩ <;> rw [hf] at h
    · obtain ⟨-, rfl⟩ := answer_eq_iff.1 h
      rfl
    · cases h

end KeepsOnError

/-- A request that fails, whichever check refuses it and on either backend, leaves the stored
records and the journal as they were: the storage's call is the only write, and nothing after
it fails. -/
theorem createBooking_keepsOnError (a : Actor) (req : NewBooking) :
    KeepsOnError (createBooking a req) := by
  unfold createBooking
  refine .ite (fun _ => .throw_bind) fun _ => ?_
  refine .bind (.now fun _ _ => rfl) fun t => ?_
  refine .ite (fun _ => .throw_bind) fun _ => ?_
  refine .ite (fun _ => .throw_bind) fun _ => ?_
  refine .ite (fun _ => .throw_bind) fun _ => ?_
  refine .ite (fun _ => .throw_bind) fun _ => ?_
  refine .bind (.room _) fun room => ?_
  refine .ite (fun _ => .throw_bind) fun _ => ?_
  refine .bind (.ofExcept _) fun price => ?_
  refine .bind (.busySpans _ _) fun busy => ?_
  refine .ite (fun _ => .throw_bind) fun _ => ?_
  refine .bind (.newId (fun _ _ => rfl) fun _ _ => rfl) fun id => ?_
  refine .bind_ok (.withEngine _) fun b s => ?_
  -- telling the studio's owner never fails
  simp only [run_bind, studio?_run]
  split
  · exact ⟨_, _, rfl⟩
  · exact ⟨_, _, rfl⟩

/-! ### Making a booking -/

/-- Making a booking validates before it writes. On the embedded storage, in a well-formed engine
where no booking starts in a leap second, a request is made exactly when it is admitted; the
booking made is the one the request describes, with the room's price, and the storage's own call
entered it; a failed request, on either backend, leaves the stored records and the journal as
they were; and the early look at a room's busy time finds nothing exactly when the storage's own
overlap check on the same engine would. -/
theorem createBooking_validates_first (s : Server) (a : Actor) (req : NewBooking) :
    (s.backend = .embedded → s.engine.WellFormed →
      s.engine.AllBookings (fun b => b.start.frac < Instant.nanosPerSecond) →
      ((∃ b s', (createBooking a req).run.run s = (.ok b, s')) ↔ Admits s a req)) ∧
    (∀ (s' : Server) (b : Booking), s.backend = .embedded →
      (createBooking a req).run.run s = (.ok b, s') →
        (∃ r price, s.catalog.room? req.room = some r ∧
          Money.totalPrice r.hourlyRate (req.stop.millisSince req.start) = .ok price ∧
          b = req.toBooking (idAt (s.clock.addNanos s.tick) (s.idCount + 1)) a.user price s.clock) ∧
        s.engine.insertBooking b = .ok (b, s'.engine)) ∧
    (∀ (s' : Server) (err : Error),
      (createBooking a req).run.run s = (.error err, s') → s'.engine = s.engine) ∧
    (s.engine.busySpans req.room ⟨req.start.millis, req.stop.millis⟩ = [] ↔
      ((s.engine.room? req.room).getD { room := req.room }).activeOverlapping
        ⟨req.start.millis, req.stop.millis⟩ = []) :=
  ⟨fun hb hw hleap => createBooking_made_iff hb hw hleap,
    fun _ _ hb h => by
      obtain ⟨-, -, hbooking, hins⟩ := createBooking_eq_ok hb h
      exact ⟨hbooking, hins⟩,
    fun _ _ h => createBooking_keepsOnError a req s _ _ h,
    Engine.busySpans_eq_nil_iff _ _ _⟩

/-- The session's studio and room, at 150 an hour. -/
def sessionCatalog : Catalog where
  studios := [⟨Ulid.nil, Ulid.nil, []⟩]
  rooms := [⟨Ulid.nil, Ulid.nil, ⟨false, 150, 0, by decide, by decide⟩, {}⟩]

/-- Half an hour in the session's room, right after the stored session booking, with notes to
trim. -/
def afterSession : NewBooking :=
  ⟨Ulid.nil, Ulid.nil, ⟨2373015600, 0⟩, ⟨2373017400, 0⟩, some "  drums "⟩

/-- With the catalog in place, a renter's request right after the stored session booking is
admitted and made: the booking made is the one it describes, entered by the storage. -/
theorem afterSession_booked :
    let s : Server := { sessionServer with catalog := sessionCatalog }
    let a : Actor := ⟨Ulid.nil, .renter⟩
    s.backend = .embedded ∧ s.engine.WellFormed ∧
      s.engine.AllBookings (fun b => b.start.frac < Instant.nanosPerSecond) ∧
      Admits s a afterSession ∧ ∃ b s', (createBooking a afterSession).run.run s = (.ok b, s') ∧
        (∃ r price, s.catalog.room? afterSession.room = some r ∧
          Money.totalPrice r.hourlyRate (afterSession.stop.millisSince afterSession.start) =
            .ok price ∧
          b = afterSession.toBooking (idAt (s.clock.addNanos s.tick) (s.idCount + 1)) a.user price
            s.clock) ∧
        s.engine.insertBooking b = .ok (b, s'.engine) := by
  intro s a
  have hw : s.engine.WellFormed :=
    (Engine.recoverable_run _ Engine.readable_run_sessionBooking).wellFormed
  have hleap : s.engine.AllBookings fun b => b.start.frac < Instant.nanosPerSecond := by
    refine Engine.allBookings_run (fun _ _ hab ha => hab.start ▸ ha) _
      Engine.readable_run_sessionBooking fun b hb => ?_
    rw [List.mem_singleton, Op.insertBooking.injEq] at hb
    subst hb
    decide
  have hrooms : s.engine.rooms = [⟨Ulid.nil, [Engine.sessionBooking]⟩] := by decide +kernel
  have hroom : s.engine.room? afterSession.room = some ⟨Ulid.nil, [Engine.sessionBooking]⟩ := by
    rw [Engine.room?, hrooms]
    rfl
  have hadmits : Admits s a afterSession := by
    refine ⟨⟨rfl, by decide, by decide, by decide, by decide, _, rfl, rfl, _, rfl⟩, by decide,
      ?_, ?_, by decide +kernel⟩
    · -- the request starts where the session booking ends
      intro r hr x hx _
      rw [hroom, Option.some.injEq] at hr
      subst hr
      rw [List.mem_singleton] at hx
      subst hx
      decide
    · intro r hr
      rw [hroom, Option.some.injEq] at hr
      subst hr
      decide
  have hlaw := createBooking_validates_first s a afterSession
  obtain ⟨b, s', h⟩ := (hlaw.1 rfl hw hleap).2 hadmits
  exact ⟨rfl, hw, hleap, hadmits, b, s', h, hlaw.2.1 s' b rfl h⟩

end Server

end StudioRental
