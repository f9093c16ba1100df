import StudioRental.Proofs.Engine.Room
import StudioRental.Proofs.Journal.Replay
import StudioRental.Proofs.Payment.Lifecycle
import StudioRental.Engine.Basic
import StudioRental.Booking.Change
import Mathlib.Data.List.Nodup

/-!
The engine's calls, one lemma each.

Each call is described once by an inversion lemma (`insertBooking_eq_ok`, `modifyBooking_eq_ok`,
`insertIntent_eq_ok`, `modifyIntent_eq_ok`): the checks it passed and the engine it returned,
written with `record`, `updateRoom` and `fileIntent`. Later proofs read the calls through these
lemmas and the lemmas of the three helpers, never through the `do` blocks.

`updateRoom` touches one room: on rooms with distinct ids the result holds the old rooms but
one, which becomes `f` of the room `room?` finds (`mem_updateRoom`), so two updates that agree
on that room give the same rooms (`updateRoom_congr`). `fileIntent` is the same for intents.

The changes the service makes keep what a record is filed under: `Change.apply` keeps a
booking's id, room and time and never gives a cancelled booking its slot back
(`Change.apply_amends`), and a callback keeps an intent's invoice number.
-/

namespace StudioRental

/-- What a change of a booking keeps: its id, room and time; and a booking that has given up
its slot does not take it back. -/
structure Booking.Amends (b' b : Booking) : Prop where
  id : b'.id = b.id
  room : b'.room = b.room
  start : b'.start = b.start
  stop : b'.stop = b.stop
  holdsSlot : b'.status.holdsSlot = true → b.status.holdsSlot = true

theorem Booking.Amends.refl (b : Booking) : b.Amends b := ⟨rfl, rfl, rfl, rfl, fun h => h⟩

namespace Change

variable (c : Change) {b b' : Booking}

theorem next_amends (h : c.next b = .ok b') : b'.Amends b := by
  rcases c with ⟨cmd, standing, time⟩
  cases cmd with
  | setDeposit amount =>
    -- a deposit above the total price is refused; otherwise the status stays or is confirmed
    cases hs : b.status <;> simp only [next, hs, reduceCtorEq] at h
    all_goals
      split at h
      · cases h
      · cases h
        exact ⟨rfl, rfl, rfl, rfl, by simp [hs, BookingStatus.holdsSlot]⟩
  | _ =>
    cases hs : b.status <;> simp [next, hs] at h <;> subst h <;>
      exact ⟨rfl, rfl, rfl, rfl, by simp [hs, BookingStatus.holdsSlot]⟩

theorem apply_amends (h : c.apply b = .ok b') : b'.Amends b := by
  simp only [apply, bind, Except.bind, pure, Except.pure] at h
  split at h
  · cases h
  · split at h
    · cases h
    · rename_i n hn
      have hn' : n.Amends b := c.next_amends hn
      cases h
      split
      · exact Booking.Amends.refl b
      · exact ⟨hn'.id, hn'.room, hn'.start, hn'.stop, hn'.holdsSlot⟩

end Change

theorem CallbackCheck.invoice_apply (c : CallbackCheck) (i : Intent) :
    (c.apply i).1.invoice = i.invoice :=
  congrArg Prod.fst (c.terms_apply i)

namespace Engine

variable (e : Engine)

/-! ### What each helper changes -/

@[simp] theorem record_rooms (ev : Event) : (e.record ev).rooms = e.rooms := rfl

@[simp] theorem record_bookingRooms (ev : Event) : (e.record ev).bookingRooms = e.bookingRooms :=
  rfl

@[simp] theorem record_intents (ev : Event) : (e.record ev).intents = e.intents := rfl

@[simp] theorem record_file (ev : Event) : (e.record ev).file = Journal.append e.file ev := rfl

@[simp] theorem updateRoom_record (ev : Event) (room : Ulid) (f : RoomBookings → RoomBookings) :
    (e.record ev).updateRoom room f = (e.updateRoom room f).record ev := by
  by_cases h : e.rooms.any (·.room == room) <;> simp [updateRoom, record, h]

@[simp] theorem fileIntent_record (ev : Event) (n : Int) (i : Intent) :
    (e.record ev).fileIntent n i = (e.fileIntent n i).record ev := by
  by_cases h : e.intents.any (·.1 == n) <;> simp [fileIntent, record, h]

theorem updateRoom_rooms (room : Ulid) (f : RoomBookings → RoomBookings) :
    (e.updateRoom room f).rooms =
      if e.rooms.any (·.room == room) then e.rooms.map fun r => if r.room == room then f r else r
      else e.rooms ++ [f { room }] := by
  unfold updateRoom; split <;> rfl

section UpdateRoom

variable (room : Ulid) (f : RoomBookings → RoomBookings)

@[simp] theorem updateRoom_bookingRooms : (e.updateRoom room f).bookingRooms = e.bookingRooms := by
  unfold updateRoom; split <;> rfl

@[simp] theorem updateRoom_intents : (e.updateRoom room f).intents = e.intents := by
  unfold updateRoom; split <;> rfl

@[simp] theorem updateRoom_file : (e.updateRoom room f).file = e.file := by
  unfold updateRoom; split <;> rfl

end UpdateRoom

theorem fileIntent_intents (n : Int) (i : Intent) :
    (e.fileIntent n i).intents =
      if e.intents.any (·.1 == n) then e.intents.map fun x => if x.1 == n then (n, i) else x
      else e.intents ++ [(n, i)] := by
  unfold fileIntent; split <;> rfl

section FileIntent

variable (n : Int) (i : Intent)

@[simp] theorem fileIntent_rooms : (e.fileIntent n i).rooms = e.rooms := by
  unfold fileIntent; split <;> rfl

@[simp] theorem fileIntent_bookingRooms : (e.fileIntent n i).bookingRooms = e.bookingRooms := by
  unfold fileIntent; split <;> rfl

@[simp] theorem fileIntent_file : (e.fileIntent n i).file = e.file := by
  unfold fileIntent; split <;> rfl

end FileIntent

@[simp] theorem compact_rooms : e.compact.rooms = e.rooms := rfl

@[simp] theorem compact_bookingRooms : e.compact.bookingRooms = e.bookingRooms := rfl

@[simp] theorem compact_intents : e.compact.intents = e.intents := rfl

theorem compact_file : e.compact.file = Journal.ofEvents e.snapshot := rfl

/-! ### Rooms by id -/

theorem room?_eq_none {room : Ulid} : e.room? room = none ↔ ∀ r ∈ e.rooms, r.room ≠ room := by
  simp [room?]

theorem room?_eq_some {room : Ulid} {r : RoomBookings} (h : e.room? room = some r) :
    r ∈ e.rooms ∧ r.room = room :=
  ⟨List.mem_of_find?_eq_some h, by simpa using List.find?_some h⟩

theorem room?_of_mem (hnd : (e.rooms.map (·.room)).Nodup) {r : RoomBookings} (hr : r ∈ e.rooms) :
    e.room? r.room = some r := by
  have hsome : (e.room? r.room).isSome := List.find?_isSome.2 ⟨r, hr, by simp⟩
  obtain ⟨q, hq⟩ := Option.isSome_iff_exists.1 hsome
  obtain ⟨hqm, hqr⟩ := e.room?_eq_some hq
  rw [hq, List.inj_on_of_nodup_map hnd hqm hr hqr]

theorem room?_getD_cases (room : Ulid) :
    ((e.room? room).getD { room }).room = room ∧
      ((e.room? room).getD { room } ∈ e.rooms ∨ (e.room? room).getD { room } = { room }) := by
  cases hq : e.room? room with
  | none => exact ⟨rfl, .inr rfl⟩
  | some q => exact ⟨(e.room?_eq_some hq).2, .inl (e.room?_eq_some hq).1⟩

theorem roomOf?_eq_none {id : Ulid} : e.roomOf? id = none ↔ ∀ p ∈ e.bookingRooms, p.1 ≠ id := by
  simp [roomOf?]

variable {e} {room : Ulid} {f g : RoomBookings → RoomBookings}

/-- After an update, a room is an old one with another id, or the updated room. -/
theorem mem_updateRoom (hnd : (e.rooms.map (·.room)).Nodup) {r : RoomBookings}
    (hr : r ∈ (e.updateRoom room f).rooms) :
    (r ∈ e.rooms ∧ r.room ≠ room) ∨ r = f ((e.room? room).getD { room }) := by
  rw [updateRoom_rooms] at hr
  split at hr
  · obtain ⟨q, hq, rfl⟩ := List.mem_map.1 hr
    by_cases hqr : q.room = room
    · have hfound : e.room? room = some q := hqr ▸ e.room?_of_mem hnd hq
      right
      simp [hqr, hfound]
    · left
      simp [hqr, hq]
  · rename_i hany
    have hnone : ∀ q ∈ e.rooms, q.room ≠ room := fun q hq hqr =>
      hany (List.any_eq_true.2 ⟨q, hq, by simp [hqr]⟩)
    rcases List.mem_append.1 hr with hr | hr
    · exact .inl ⟨hr, hnone r hr⟩
    · right
      rw [(e.room?_eq_none).2 hnone]
      simpa using hr

theorem map_update_of_ne {rs : List RoomBookings} (hrs : ∀ q ∈ rs, q.room ≠ room) :
    rs.map (fun r => if r.room == room then f r else r) = rs :=
  (List.map_congr_left fun q hq => by simp [hrs q hq]).trans (List.map_id' rs)

theorem updateRoom_rooms_of_none (h : ∀ q ∈ e.rooms, q.room ≠ room) :
    (e.updateRoom room f).rooms = e.rooms ++ [f { room }] := by
  have hany : e.rooms.any (·.room == room) = false := by simpa using h
  rw [updateRoom_rooms, hany]
  rfl

theorem updateRoom_rooms_of_last {rs : List RoomBookings} {q : RoomBookings}
    (hrs : ∀ x ∈ rs, x.room ≠ room) (hq : q.room = room) (he : e.rooms = rs ++ [q]) :
    (e.updateRoom room f).rooms = rs ++ [f q] := by
  have hany : e.rooms.any (·.room == room) = true := List.any_eq_true.2 ⟨q, by simp [he], by simp [hq]⟩
  rw [updateRoom_rooms, hany, if_pos rfl, he, List.map_append, map_update_of_ne hrs]
  simp [hq]

/-- On rooms with distinct ids, an update replaces the one room with the id, or adds the new
room at the end when there is none. -/
theorem updateRoom_cases (hnd : (e.rooms.map (·.room)).Nodup) :
    (∃ A q B, e.rooms = A ++ q :: B ∧ e.room? room = some q ∧
      (e.updateRoom room f).rooms = A ++ f q :: B) ∨
    (e.room? room = none ∧ (e.updateRoom room f).rooms = e.rooms ++ [f { room }]) := by
  cases hq : e.room? room with
  | none => exact .inr ⟨rfl, updateRoom_rooms_of_none ((e.room?_eq_none).1 hq)⟩
  | some q =>
    obtain ⟨hqr, A, B, hsplit, hA⟩ := List.find?_eq_some_iff_append.1 hq
    have hqr : q.room = room := by simpa using hqr
    -- the rooms after `q` have other ids, since the ids are distinct
    have hB : ∀ x ∈ B, x.room ≠ room := by
      rw [hsplit, List.map_append, List.map_cons, List.nodup_append] at hnd
      intro x hx hxr
      exact (List.nodup_cons.1 hnd.2.1).1 (List.mem_map.2 ⟨x, hx, hxr.trans hqr.symm⟩)
    have hany : e.rooms.any (·.room == room) = true :=
      List.any_eq_true.2 ⟨q, by simp [hsplit], by simp [hqr]⟩
    refine .inl ⟨A, q, B, hsplit, rfl, ?_⟩
    rw [updateRoom_rooms, hany, if_pos rfl, hsplit, List.map_append, List.map_cons,
      map_update_of_ne fun x hx => by simpa using hA x hx, map_update_of_ne hB]
    simp [hqr]

theorem flatMap_updateRoom {β : Type} (h : RoomBookings → List β) (extra : List β)
    (hnd : (e.rooms.map (·.room)).Nodup) (hnew : h { room } = [])
    (hf : (h (f ((e.room? room).getD { room }))).Perm (extra ++ h ((e.room? room).getD { room }))) :
    ((e.updateRoom room f).rooms.flatMap h).Perm (extra ++ e.rooms.flatMap h) := by
  rcases updateRoom_cases hnd with ⟨A, q, B, hsplit, hq, hrooms⟩ | ⟨hq, hrooms⟩
  · rw [hq, Option.getD_some] at hf
    rw [hrooms, hsplit]
    simp only [List.flatMap_append, List.flatMap_cons]
    have hmid : (A.flatMap h ++ (h (f q) ++ B.flatMap h)).Perm
        (A.flatMap h ++ (extra ++ (h q ++ B.flatMap h))) := by
      simpa only [List.append_assoc] using (hf.append_right (B.flatMap h)).append_left (A.flatMap h)
    exact hmid.trans (List.perm_append_comm_assoc _ _ _)
  · rw [hq, Option.getD_none, hnew, List.append_nil] at hf
    rw [hrooms, List.flatMap_append, List.flatMap_singleton]
    exact (hf.append_left _).trans List.perm_append_comm

theorem mem_updateRoom_self (hnd : (e.rooms.map (·.room)).Nodup) :
    f ((e.room? room).getD { room }) ∈ (e.updateRoom room f).rooms := by
  rcases @updateRoom_cases e room f hnd with ⟨A, q, B, -, hq, hrooms⟩ | ⟨hq, hrooms⟩
  · simp [hrooms, hq]
  · simp [hrooms, hq]

/-- Two updates of a room that agree on the room found give the same rooms. -/
theorem updateRoom_congr (hnd : (e.rooms.map (·.room)).Nodup)
    (h : f ((e.room? room).getD { room }) = g ((e.room? room).getD { room })) :
    (e.updateRoom room f).rooms = (e.updateRoom room g).rooms := by
  rw [updateRoom_rooms, updateRoom_rooms]
  split
  · apply List.map_congr_left
    intro q hq
    by_cases hqr : q.room = room
    · have hfound : e.room? room = some q := hqr ▸ e.room?_of_mem hnd hq
      simpa [hqr, hfound] using h
    · simp [hqr]
  · rename_i hany
    have hnone : e.room? room = none :=
      (e.room?_eq_none).2 fun q hq hqr => hany (List.any_eq_true.2 ⟨q, hq, by simp [hqr]⟩)
    rw [hnone] at h
    simpa using h

theorem map_room_updateRoom (hf : ∀ q, (f q).room = q.room) :
    (e.updateRoom room f).rooms.map (·.room) =
      if e.rooms.any (·.room == room) then e.rooms.map (·.room)
      else e.rooms.map (·.room) ++ [room] := by
  rw [updateRoom_rooms]
  split
  · simp only [List.map_map]
    apply List.map_congr_left
    intro q _
    by_cases hqr : q.room = room <;> simp [hqr, hf]
  · simp [hf]

/-! ### Intents by invoice number -/

theorem getIntent_eq_none {n : Int} : e.getIntent n = none ↔ ∀ p ∈ e.intents, p.1 ≠ n := by
  simp [getIntent]

theorem getIntent_eq_some {n : Int} {i : Intent} (h : e.getIntent n = some i) : (n, i) ∈ e.intents := by
  obtain ⟨p, hp, rfl⟩ := Option.map_eq_some_iff.1 h
  have hpn : p.1 = n := by simpa using List.find?_some hp
  rw [← hpn]
  exact List.mem_of_find?_eq_some hp

theorem mem_fileIntent {n : Int} {i : Intent} {p : Int × Intent} (hp : p ∈ (e.fileIntent n i).intents) :
    (p ∈ e.intents ∧ p.1 ≠ n) ∨ p = (n, i) := by
  rw [fileIntent_intents] at hp
  split at hp
  · obtain ⟨q, hq, rfl⟩ := List.mem_map.1 hp
    by_cases hqn : q.1 = n
    · right
      simp [hqn]
    · left
      simp [hqn, hq]
  · rename_i hany
    rcases List.mem_append.1 hp with hp | hp
    · exact .inl ⟨hp, fun hpn => hany (List.any_eq_true.2 ⟨p, hp, by simp [hpn]⟩)⟩
    · exact .inr (by simpa using hp)

theorem mem_fileIntent_self (n : Int) (i : Intent) : (n, i) ∈ (e.fileIntent n i).intents := by
  rw [fileIntent_intents]
  split
  · rename_i hany
    obtain ⟨p, hp, hpn⟩ := List.any_eq_true.1 hany
    exact List.mem_map.2 ⟨p, hp, by simp at hpn; simp [hpn]⟩
  · simp

theorem map_fst_fileIntent (n : Int) (i : Intent) :
    (e.fileIntent n i).intents.map (·.1) =
      if e.intents.any (·.1 == n) then e.intents.map (·.1) else e.intents.map (·.1) ++ [n] := by
  rw [fileIntent_intents]
  split
  · simp only [List.map_map]
    apply List.map_congr_left
    intro q _
    by_cases hqn : q.1 = n <;> simp [hqn]
  · simp

theorem getIntent_fileIntent_self (n : Int) (i : Intent) : (e.fileIntent n i).getIntent n = some i := by
  unfold getIntent
  rw [fileIntent_intents]
  split
  next hany =>
    -- the entry found first is the one replaced
    obtain ⟨p, hp, hpn⟩ := List.any_eq_true.1 hany
    obtain ⟨q, hq⟩ := Option.isSome_iff_exists.1
      ((List.find?_isSome (p := fun x : Int × Intent => x.1 == n)).2 ⟨p, hp, hpn⟩)
    have hqn : q.1 = n := by simpa using List.find?_some hq
    have hpred : ((fun x : Int × Intent => x.1 == n) ∘
        fun x => if x.1 == n then (n, i) else x) = (·.1 == n) := by
      funext x
      by_cases hx : x.1 = n <;> simp [hx]
    rw [List.find?_map, hpred, hq]
    simp [hqn]
  next hany =>
    have hnone : e.intents.find? (·.1 == n) = none :=
      List.find?_eq_none.2 fun q hq hqn => hany (List.any_eq_true.2 ⟨q, hq, hqn⟩)
    simp [List.find?_append, hnone]

/-! ### The calls -/

variable {b b' : Booking} {e' : Engine}

/-- A booking is stored when its span is within the limits, its id is new, its room has room
for it, and, if it holds its slot, no booking holding the room overlaps it; the booking is
journalled and entered in its room. -/
theorem insertBooking_eq_ok (h : e.insertBooking b = .ok (b', e')) :
    validateSpan b.span = .ok () ∧ e.roomOf? b.id = none ∧
    ((e.room? b.room).getD { room := b.room }).bookings.length < maxBookingsPerRoom ∧
    (b.status.holdsSlot = true →
      ((e.room? b.room).getD { room := b.room }).activeOverlapping b.span = []) ∧
    b' = b ∧
    e' = { (e.record (.bookingCreated b)).updateRoom b.room (·.insert b) with
      bookingRooms := e.bookingRooms ++ [(b.id, b.room)] } := by
  simp only [insertBooking, bind, Except.bind, throw, throwThe, MonadExceptOf.throw, pure,
    Except.pure] at h
  split at h
  · cases h
  · rename_i hv
    split at h
    · cases h
    · rename_i hid
      split at h
      · cases h
      · rename_i hlen
        have hfresh : e.roomOf? b.id = none := by simpa using hid
        split at h
        · rename_i hs
          split at h
          · cases h
          · rename_i hov
            obtain ⟨rfl, rfl⟩ := Prod.mk.inj (Except.ok.inj h).symm
            exact ⟨hv, hfresh, by omega, fun _ => hov, rfl, rfl⟩
        · rename_i hs
          obtain ⟨rfl, rfl⟩ := Prod.mk.inj (Except.ok.inj h).symm
          exact ⟨hv, hfresh, by omega, fun h' => absurd h' hs, rfl, rfl⟩

/-- A change of a booking finds it through its room; a result that is the same leaves the
engine as it was, and any other is journalled and put in the booking's place. -/
theorem modifyBooking_eq_ok {id : Ulid} {f : Booking → Except Error Booking} {changed : Bool}
    (h : e.modifyBooking id f = .ok ((b', changed), e')) :
    ∃ room r current next, e.roomOf? id = some room ∧ e.room? room = some r ∧
      r.find? id = some current ∧ f current = .ok next ∧
      ((next.same current = true ∧ b' = current ∧ changed = false ∧ e' = e) ∨
       (next.same current = false ∧ next.span = current.span ∧ next.room = current.room ∧
        b' = next ∧ changed = true ∧
        e' = (e.record (.bookingChanged next)).updateRoom room (·.replace next))) := by
  simp only [modifyBooking, bind, Except.bind, throw, throwThe, MonadExceptOf.throw, pure,
    Except.pure] at h
  -- the three lookups, each of which fails the call when it finds nothing
  cases hroom : e.roomOf? id with
  | none => simp [hroom] at h
  | some room =>
    cases hr : e.room? room with
    | none => simp [hroom, hr] at h
    | some r =>
      cases hcur : r.find? id with
      | none => simp [hroom, hr, hcur] at h
      | some current =>
        cases hnext : f current with
        | error err => simp [hroom, hr, hcur, hnext] at h
        | ok next =>
          refine ⟨room, r, current, next, rfl, hr, hcur, hnext, ?_⟩
          simp only [hroom, hr, hcur, hnext] at h
          split at h
          · rename_i hsame
            obtain ⟨⟨rfl, rfl⟩, rfl⟩ := Prod.mk.inj (Except.ok.inj h).symm
            exact .inl ⟨hsame, rfl, rfl, rfl⟩
          · rename_i hsame
            split at h
            · cases h
            · rename_i hkeep
              obtain ⟨⟨rfl, rfl⟩, rfl⟩ := Prod.mk.inj (Except.ok.inj h).symm
              simp only [Bool.or_eq_true, bne_iff_ne, ne_eq, not_or, Decidable.not_not] at hkeep
              exact .inr ⟨by simpa using hsame, hkeep.1, hkeep.2, rfl, rfl, rfl⟩

/-- An intent is stored when it has few enough custom parameters and its invoice number is
new; it is journalled and filed under its number. -/
theorem insertIntent_eq_ok {i i' : Intent} (h : e.insertIntent i = .ok (i', e')) :
    i.shp.length ≤ maxShpParams ∧ e.getIntent i.invoice = none ∧ i' = i ∧
    e' = (e.record (.intentCreated i)).fileIntent i.invoice i := by
  simp only [insertIntent, bind, Except.bind, throw, throwThe, MonadExceptOf.throw, pure,
    Except.pure] at h
  split at h
  · cases h
  · rename_i hshp
    split at h
    · cases h
    · rename_i hnew
      obtain ⟨rfl, rfl⟩ := Prod.mk.inj (Except.ok.inj h).symm
      exact ⟨by omega, by simpa using hnew, rfl, rfl⟩

/-- A change of an intent finds it by number; a result that is the same leaves the engine as it
was, and any other is journalled and filed under the same number. -/
theorem modifyIntent_eq_ok {α : Type} {n : Int} {f : Intent → Except Error (Intent × α)}
    {i : Intent} {changed : Bool} {out : α} (h : e.modifyIntent n f = .ok ((i, changed, out), e')) :
    ∃ current, e.getIntent n = some current ∧ f current = .ok (i, out) ∧
      ((i.same current = true ∧ changed = false ∧ e' = e) ∨
       (i.same current = false ∧ changed = true ∧
        e' = (e.record (.intentChanged i)).fileIntent n i)) := by
  simp only [modifyIntent, bind, Except.bind, throw, throwThe, MonadExceptOf.throw, pure,
    Except.pure] at h
  cases hcur : e.getIntent n with
  | none => simp [hcur] at h
  | some current =>
    cases hres : f current with
    | error err => simp [hcur, hres] at h
    | ok res =>
      obtain ⟨next, o⟩ := res
      simp only [hcur, hres] at h
      split at h
      · rename_i hsame
        obtain ⟨⟨rfl, rfl, rfl⟩, rfl⟩ := Prod.mk.inj (Except.ok.inj h).symm
        exact ⟨current, rfl, hres, .inl ⟨hsame, rfl, rfl⟩⟩
      · rename_i hsame
        obtain ⟨⟨rfl, rfl, rfl⟩, rfl⟩ := Prod.mk.inj (Except.ok.inj h).symm
        exact ⟨current, rfl, hres, .inr ⟨by simpa using hsame, rfl, rfl⟩⟩

/-- A change of a stored intent goes through: the engine is kept when the result is the same
record, and the result is filed otherwise. -/
theorem modifyIntent_of_getIntent {α : Type} {n : Int} {y next : Intent} {out : α}
    (h : e.getIntent n = some y) {f : Intent → Except Error (Intent × α)}
    (hf : f y = .ok (next, out)) :
    e.modifyIntent n f = .ok ((next, !next.same y, out),
      if next.same y then e else (e.record (.intentChanged next)).fileIntent n next) := by
  simp only [modifyIntent, h, hf, bind, Except.bind, pure, Except.pure]
  cases next.same y <;> rfl

end Engine

end StudioRental
