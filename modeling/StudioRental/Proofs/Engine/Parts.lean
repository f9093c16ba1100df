import StudioRental.Proofs.Engine.Calls
import StudioRental.Engine.Concurrent

/-!
The two parts of the engine's calls.

Run back to back, the part before the lock and the part under it are the call
(`Engine.insertBooking_eq_check_locked`, `Engine.modifyBooking_eq_lookup_locked`): a booking
that passed the check has an id the map does not know, so entering it under the lock adds a new
entry, as `insertBooking` does.

Each part has its inversion lemma, in the manner of the calls' own.
-/

namespace StudioRental

namespace Engine

variable {e e' : Engine} {b b' : Booking}

/-! ### The booking-to-room map -/

theorem setRoomOf_of_roomOf?_eq_none {id room : Ulid} (h : e.roomOf? id = none) :
    e.setRoomOf id room = e.bookingRooms ++ [(id, room)] := by
  have hany : e.bookingRooms.any (·.1 == id) = false := by
    simpa using (e.roomOf?_eq_none).1 h
  rw [setRoomOf, hany]
  rfl

theorem mem_setRoomOf {id room : Ulid} {p : Ulid × Ulid} (hp : p ∈ e.setRoomOf id room) :
    p = (id, room) ∨ (p ∈ e.bookingRooms ∧ p.1 ≠ id) ∨ (p ∈ e.bookingRooms ∧ e.roomOf? id = none) := by
  unfold setRoomOf at hp
  split at hp
  · obtain ⟨q, hq, rfl⟩ := List.mem_map.1 hp
    by_cases hqid : q.1 = id
    · exact .inl (by simp [hqid])
    · exact .inr (.inl ⟨by simpa [hqid] using hq, by simp [hqid]⟩)
  · rename_i hany
    rcases List.mem_append.1 hp with hp | hp
    · refine .inr (.inr ⟨hp, (e.roomOf?_eq_none).2 fun q hq hqid => hany ?_⟩)
      exact List.any_eq_true.2 ⟨q, hq, by simp [hqid]⟩
    · exact .inl (List.mem_singleton.1 hp)

theorem map_fst_setRoomOf (id room : Ulid) :
    (e.setRoomOf id room).map (·.1) =
      if e.bookingRooms.any (·.1 == id) then e.bookingRooms.map (·.1)
      else e.bookingRooms.map (·.1) ++ [id] := by
  unfold setRoomOf
  split
  · rw [List.map_map]
    refine List.map_congr_left fun p _ => ?_
    by_cases h : p.1 = id <;> simp [h]
  · simp

theorem mem_setRoomOf_self (id room : Ulid) : (id, room) ∈ e.setRoomOf id room := by
  unfold setRoomOf
  split
  · rename_i hany
    obtain ⟨p, hp, hpid⟩ := List.any_eq_true.1 hany
    exact List.mem_map.2 ⟨p, hp, by simp at hpid; simp [hpid]⟩
  · simp

theorem mem_keys_setRoomOf {id room x : Ulid} (hx : x ∈ e.bookingRooms.map (·.1)) :
    x ∈ (e.setRoomOf id room).map (·.1) := by
  rw [map_fst_setRoomOf]
  split
  · exact hx
  · exact List.mem_append_left _ hx

theorem setRoomOf_fst_ne {id room x : Ulid} (hx : x ≠ id) (h : e.roomOf? x = none) :
    ∀ p ∈ e.setRoomOf id room, p.1 ≠ x := by
  intro p hp hpx
  rcases mem_setRoomOf hp with rfl | ⟨hp, -⟩ | ⟨hp, -⟩
  · exact hx hpx.symm
  · exact (e.roomOf?_eq_none).1 h p hp hpx
  · exact (e.roomOf?_eq_none).1 h p hp hpx

/-! ### The calls are their two parts -/

theorem insertBooking_eq_check_locked (e : Engine) (b : Booking) :
    e.insertBooking b = (e.insertCheck b).bind fun _ => e.insertLocked b := by
  unfold insertBooking insertCheck insertLocked insertGuard insertSettle
  cases hv : validateSpan b.span with
  | error err => rfl
  | ok u =>
    cases hr : e.roomOf? b.id with
    | some room => rfl
    | none =>
      have hset : (e.record (.bookingCreated b)).setRoomOf b.id b.room =
          (e.record (.bookingCreated b)).bookingRooms ++ [(b.id, b.room)] :=
        setRoomOf_of_roomOf?_eq_none hr
      simp only [hset, Option.isSome_none, Bool.false_eq_true, if_false, bind, Except.bind, pure,
        Except.pure]
      -- the room's checks are the same on both sides; split them so that both reduce alike
      by_cases hlen : ((e.room? b.room).getD { room := b.room }).bookings.length ≥ maxBookingsPerRoom
      · simp only [hlen, if_true]
        rfl
      · simp only [hlen, if_false]
        by_cases hs : b.status.holdsSlot = true
        · simp only [hs, if_true]
          cases ((e.room? b.room).getD { room := b.room }).activeOverlapping b.span <;> rfl
        · simp only [hs, Bool.false_eq_true, if_false]

theorem modifyBooking_eq_lookup_locked (e : Engine) (id : Ulid) (f : Booking → Except Error Booking) :
    e.modifyBooking id f = (e.modifyLookup id).bind fun room => e.modifyLocked room id f := by
  unfold modifyBooking modifyLookup modifyLocked modifyNext modifySettle
  cases hroom : e.roomOf? id with
  | none => rfl
  | some room =>
    cases hr : e.room? room with
    | none => simp only [hr]; rfl
    | some r =>
      -- split the lookup in the room, so that the call's match on it and the part's reduce alike
      cases hcur : r.find? id with
      | none =>
        simp only [hr, hcur, Option.isNone_some, Bool.false_eq_true, if_false, pure, Except.pure,
          Except.bind, Option.getD_some]
        rfl
      | some current =>
        simp only [hr, hcur, Option.isNone_some, Bool.false_eq_true, if_false, pure, Except.pure,
          Except.bind, Option.getD_some, bind]
        cases f current with
        | error err => rfl
        | ok next =>
          -- the part returns whether the record changed, and the call decides the same way
          by_cases hsame : next.same current = true
          · simp only [hsame, Bool.false_eq_true, if_true, if_false]
          · by_cases hkeep : (next.span != current.span || next.room != current.room) = true
            · simp only [hsame, hkeep, Bool.false_eq_true, if_true, if_false]
              rfl
            · simp only [hsame, hkeep, Bool.false_eq_true, if_true, if_false]

/-! ### Each part read back -/

theorem insertCheck_eq_ok {u : Unit} (h : e.insertCheck b = .ok u) :
    validateSpan b.span = .ok () ∧ e.roomOf? b.id = none := by
  simp only [insertCheck, bind, Except.bind, throw, throwThe, MonadExceptOf.throw, pure,
    Except.pure] at h
  split at h
  · cases h
  · rename_i hv
    split at h
    · cases h
    · rename_i hid
      exact ⟨hv, by simpa using hid⟩

theorem insertGuard_eq_ok {u : Unit} (h : e.insertGuard b = .ok u) :
    ((e.room? b.room).getD { room := b.room }).bookings.length < maxBookingsPerRoom ∧
    (b.status.holdsSlot = true →
      ((e.room? b.room).getD { room := b.room }).activeOverlapping b.span = []) := by
  simp only [insertGuard, bind, Except.bind, throw, throwThe, MonadExceptOf.throw, pure,
    Except.pure] at h
  split at h
  · cases h
  · rename_i hlen
    split at h
    · split at h
      · cases h
      · rename_i hov
        exact ⟨by omega, fun _ => hov⟩
    · rename_i hs
      exact ⟨by omega, fun h' => absurd h' hs⟩

/-- A booking entered under the lock passed its room's size and overlap checks; it is
journalled, put in its room and given its entry in the map. -/
theorem insertLocked_eq_ok (h : e.insertLocked b = .ok (b', e')) :
    ((e.room? b.room).getD { room := b.room }).bookings.length < maxBookingsPerRoom ∧
    (b.status.holdsSlot = true →
      ((e.room? b.room).getD { room := b.room }).activeOverlapping b.span = []) ∧
    b' = b ∧
    e' = { (e.record (.bookingCreated b)).updateRoom b.room (·.insert b) with
      bookingRooms := e.setRoomOf b.id b.room } := by
  simp only [insertLocked, bind, Except.bind, pure, Except.pure] at h
  split at h
  · cases h
  · rename_i hg
    obtain ⟨rfl, rfl⟩ := Prod.mk.inj (Except.ok.inj h).symm
    exact ⟨(insertGuard_eq_ok hg).1, (insertGuard_eq_ok hg).2, rfl, rfl⟩

theorem modifyLookup_eq_ok {id room : Ulid} (h : e.modifyLookup id = .ok room) :
    e.roomOf? id = some room ∧ ∃ r, e.room? room = some r := by
  simp only [modifyLookup, bind, Except.bind, throw, throwThe, MonadExceptOf.throw, pure,
    Except.pure] at h
  cases hroom : e.roomOf? id with
  | none => simp [hroom] at h
  | some room' =>
    cases hr : e.room? room' with
    | none => simp [hroom, hr] at h
    | some r =>
      simp only [hroom, hr, Option.isNone_some, Bool.false_eq_true, if_false] at h
      cases h
      exact ⟨rfl, r, hr⟩

theorem modifyNext_eq_ok {room id : Ulid} {f : Booking → Except Error Booking} {changed : Bool}
    (h : e.modifyNext room id f = .ok (b', changed)) :
    ∃ r current next, e.room? room = some r ∧ r.find? id = some current ∧ f current = .ok next ∧
      ((next.same current = true ∧ b' = current ∧ changed = false) ∨
       (next.same current = false ∧ next.span = current.span ∧ next.room = current.room ∧
        b' = next ∧ changed = true)) := by
  -- a room that is not there has no bookings, so the booking was found in a stored room
  cases hr : e.room? room with
  | none =>
    simp only [modifyNext, hr, Option.getD_none, RoomBookings.find?, List.find?_nil, throw,
      throwThe, MonadExceptOf.throw] at h
    cases h
  | some r =>
    simp only [modifyNext, hr, Option.getD_some, bind, Except.bind, throw, throwThe,
      MonadExceptOf.throw, pure, Except.pure] at h
    cases hcur : r.find? id with
    | none => simp [hcur] at h
    | some current =>
      cases hnext : f current with
      | error err => simp [hcur, hnext] at h
      | ok next =>
        refine ⟨r, current, next, rfl, hcur, hnext, ?_⟩
        simp only [hcur, hnext] at h
        split at h
        · rename_i hsame
          obtain ⟨rfl, rfl⟩ := Prod.mk.inj (Except.ok.inj h).symm
          exact .inl ⟨hsame, rfl, rfl⟩
        · rename_i hsame
          split at h
          · cases h
          · rename_i hkeep
            obtain ⟨rfl, rfl⟩ := Prod.mk.inj (Except.ok.inj h).symm
            simp only [Bool.or_eq_true, bne_iff_ne, ne_eq, not_or, Decidable.not_not] at hkeep
            exact .inr ⟨by simpa using hsame, hkeep.1, hkeep.2, rfl, rfl⟩

/-- A change made under the lock finds the booking in the room it locked; a result that is the
same leaves the engine as it was, and any other is journalled and put in the booking's place. -/
theorem modifyLocked_eq_ok {room id : Ulid} {f : Booking → Except Error Booking} {changed : Bool}
    (h : e.modifyLocked room id f = .ok ((b', changed), e')) :
    ∃ r current next, e.room? room = some r ∧ r.find? id = some current ∧ f current = .ok next ∧
      ((next.same current = true ∧ b' = current ∧ changed = false ∧ e' = e) ∨
       (next.same current = false ∧ next.span = current.span ∧ next.room = current.room ∧
        b' = next ∧ changed = true ∧
        e' = (e.record (.bookingChanged next)).updateRoom room (·.replace next))) := by
  simp only [modifyLocked, bind, Except.bind, pure, Except.pure] at h
  cases hn : e.modifyNext room id f with
  | error err => simp [hn] at h
  | ok res =>
    obtain ⟨b'', ch⟩ := res
    simp only [hn, Except.ok.injEq, Prod.mk.injEq] at h
    obtain ⟨⟨rfl, rfl⟩, rfl⟩ := h
    obtain ⟨r, current, next, hr, hcur, hnext, ⟨hsame, rfl, rfl⟩ | ⟨hsame, hspan, hroom, rfl, rfl⟩⟩ :=
      modifyNext_eq_ok hn
    · exact ⟨r, b'', next, hr, hcur, hnext, .inl ⟨hsame, rfl, rfl, by simp⟩⟩
    · exact ⟨r, current, b'', hr, hcur, hnext, .inr ⟨hsame, hspan, hroom, rfl, rfl, rfl⟩⟩

end Engine

end StudioRental
