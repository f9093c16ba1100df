import StudioRental.Proofs.Engine.Restart

/-!
The overlap search of a room is a scan of all its bookings.

A room's bookings are kept in order of their start instant, and the search for bookings that
overlap a window cuts the list by binary search at the first booking whose start, in whole
milliseconds, is not before the window's end, then keeps those of the rest that end after the
window starts. The cut is right only when the millisecond starts rise along the list. They do
when no booking starts in a leap second (`RoomBookings.Sorted.spanSorted`): a leap second is
written with its nanoseconds past `10^9`, so its milliseconds are those of the second after it,
and a booking that starts there counts as starting later than one that starts just after it.

On such a room the search keeps exactly the bookings a scan of the whole list keeps, in the
list's order (`RoomBookings.overlapping_eq`). The engine's busy spans are then the millisecond
spans of the room's bookings that are not cancelled and overlap the window, in order of start,
and the overlap check of an insert fails exactly when such a booking exists, naming one of them
(`overlap_search_matches_scan`).
-/

namespace StudioRental

namespace RoomBookings

variable {r : RoomBookings}

/-- On a list ordered by span, the bookings the overlap check and the busy spans look at are
those a scan keeps: not cancelled, and overlapping the window. -/
theorem activeOverlapping_eq (q : Span) (h : SpanSorted r.bookings) :
    r.activeOverlapping q = r.bookings.filter fun b => b.status.holdsSlot && b.span.overlaps q := by
  rw [activeOverlapping, overlapping_eq r q h, List.filter_filter]

end RoomBookings

theorem Span.overlaps_iff (a b : Span) : a.overlaps b = true ↔ a.start < b.stop ∧ b.start < a.stop := by
  simp [Span.overlaps]

theorem BookingStatus.holdsSlot_iff (s : BookingStatus) : s.holdsSlot = true ↔ s ≠ .cancelled := by
  cases s <;> simp [BookingStatus.holdsSlot]

theorem Engine.busySpans_of_room? {e : Engine} {room : Ulid} {r : RoomBookings}
    (he : e.room? room = some r) (q : Span) :
    e.busySpans room q = (r.activeOverlapping q).map (·.span) := by
  simp [Engine.busySpans, he]

/-- On a room whose bookings are in order of start and where none starts in a leap second, the
overlap search agrees with a scan. It keeps exactly the bookings whose start in milliseconds is
before the window's end and whose end is after its start, in the list's order. The busy spans of
the room are the spans of those that are not cancelled, in order of start. The overlap check
fails exactly when such a booking exists, and the booking it names is one. -/
theorem overlap_search_matches_scan {r : RoomBookings} (hsorted : RoomBookings.Sorted r.bookings)
    (hleap : ∀ b ∈ r.bookings, b.start.frac < Instant.nanosPerSecond) (q : Span) :
    r.overlapping q =
        r.bookings.filter (fun b => b.start.millis < q.stop ∧ q.start < b.stop.millis) ∧
      (∀ (e : Engine) (room : Ulid), e.room? room = some r →
        e.busySpans room q =
            (r.bookings.filter fun b =>
              b.status ≠ .cancelled ∧ b.start.millis < q.stop ∧ q.start < b.stop.millis).map
              (·.span) ∧
          (e.busySpans room q).Pairwise fun a b => a.start ≤ b.start) ∧
      ((∃ x rest, r.activeOverlapping q = x :: rest) ↔
        ∃ b ∈ r.bookings, b.status ≠ .cancelled ∧ b.start.millis < q.stop ∧ q.start < b.stop.millis) ∧
      ∀ x rest, r.activeOverlapping q = x :: rest →
        x ∈ r.bookings ∧ x.status ≠ .cancelled ∧ x.start.millis < q.stop ∧ q.start < x.stop.millis := by
  have hspan := hsorted.spanSorted hleap
  -- both searches are filters of the whole list; name what each keeps
  have hscan : r.overlapping q =
      r.bookings.filter (fun b => b.start.millis < q.stop ∧ q.start < b.stop.millis) := by
    rw [RoomBookings.overlapping_eq r q hspan]
    refine List.filter_congr fun b _ => ?_
    rw [Bool.eq_iff_iff, Span.overlaps_iff]
    simp [Booking.span]
  have hactive : r.activeOverlapping q =
      r.bookings.filter fun b =>
        b.status ≠ .cancelled ∧ b.start.millis < q.stop ∧ q.start < b.stop.millis := by
    rw [RoomBookings.activeOverlapping_eq q hspan]
    refine List.filter_congr fun b _ => ?_
    rw [Bool.eq_iff_iff, Bool.and_eq_true, BookingStatus.holdsSlot_iff, Span.overlaps_iff]
    simp [Booking.span]
  have hfound : ∀ x, x ∈ r.activeOverlapping q ↔
      x ∈ r.bookings ∧ x.status ≠ .cancelled ∧ x.start.millis < q.stop ∧
        q.start < x.stop.millis := by
    intro x
    rw [hactive, List.mem_filter, decide_eq_true_iff]
  refine ⟨hscan, fun e room he => ⟨?_, ?_⟩, ⟨?_, ?_⟩, fun x rest hx => ?_⟩
  · rw [Engine.busySpans_of_room? he, hactive]
  · -- a sublist of a list in order of span start, mapped to spans
    rw [Engine.busySpans_of_room? he, List.pairwise_map, hactive]
    exact hspan.sublist List.filter_sublist
  · rintro ⟨x, rest, hx⟩
    exact ⟨x, ((hfound x).1 (hx ▸ List.mem_cons_self)).1, ((hfound x).1 (hx ▸ List.mem_cons_self)).2⟩
  · rintro ⟨b, hb, hrest⟩
    cases hlist : r.activeOverlapping q with
    | nil => exact absurd (hlist ▸ (hfound b).2 ⟨hb, hrest⟩) List.not_mem_nil
    | cons x rest => exact ⟨x, rest, rfl⟩
  · exact (hfound x).1 (hx ▸ List.mem_cons_self)

/-- A room holding one booking on whole seconds: the search for the booking's own hour keeps
it, as a scan does. -/
theorem sessionRoom_search_matches_scan :
    RoomBookings.Sorted [Engine.sessionBooking] ∧
      (∀ b ∈ [Engine.sessionBooking], b.start.frac < Instant.nanosPerSecond) ∧
      (⟨Ulid.nil, [Engine.sessionBooking]⟩ : RoomBookings).overlapping
          ⟨2373012000000, 2373015600000⟩ =
        [Engine.sessionBooking].filter fun b =>
          b.start.millis < 2373015600000 ∧ 2373012000000 < b.stop.millis := by
  have hsorted : RoomBookings.Sorted [Engine.sessionBooking] := List.pairwise_singleton _ _
  have hleap : ∀ b ∈ [Engine.sessionBooking], b.start.frac < Instant.nanosPerSecond := by
    simp [Engine.sessionBooking, Instant.nanosPerSecond]
  exact ⟨hsorted, hleap,
    (overlap_search_matches_scan (r := ⟨Ulid.nil, [Engine.sessionBooking]⟩) hsorted hleap _).1⟩

/-! ### A booking in a leap second -/

/-- A booking from 10:59:60.500 to 10:59:60.900 on 2045-03-13, inside a leap second. -/
def leapSecondBooking : Booking :=
  { Engine.sessionBooking with
    id := ⟨3, by decide⟩, start := ⟨2373015599, 1500000000⟩, stop := ⟨2373015599, 1900000000⟩ }

/-- A booking from 11:00:00.100 to 11:00:00.300 the same day, just after the leap second. -/
def afterLeapBooking : Booking :=
  { Engine.sessionBooking with
    id := ⟨4, by decide⟩, start := ⟨2373015600, 100000000⟩, stop := ⟨2373015600, 300000000⟩ }

/-- The two bookings in order of start. -/
def leapRoom : RoomBookings := ⟨Ulid.nil, [leapSecondBooking, afterLeapBooking]⟩

/-- Without the leap-second condition the search is no scan. The room is in order of start, but
the leap-second booking's milliseconds start after the window 11:00:00.150 to 11:00:00.200
ends, so the scan keeps only the booking after it; the binary search cuts after both and keeps
both. -/
theorem leapRoom_search_keeps_later_start :
    RoomBookings.Sorted leapRoom.bookings ∧
      (leapRoom.overlapping ⟨2373015600150, 2373015600200⟩).map (·.id) =
        [leapSecondBooking.id, afterLeapBooking.id] ∧
      (leapRoom.bookings.filter fun b =>
          b.start.millis < 2373015600200 ∧ 2373015600150 < b.stop.millis).map (·.id) =
        [afterLeapBooking.id] := by
  refine ⟨by unfold RoomBookings.Sorted; decide, ?_, by decide⟩
  simp [RoomBookings.overlapping, partitionPoint, searchBase, leapRoom, leapSecondBooking,
    afterLeapBooking, Booking.span, Instant.millis, Instant.nanosPerMilli]

end StudioRental
