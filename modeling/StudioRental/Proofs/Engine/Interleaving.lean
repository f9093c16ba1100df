import StudioRental.Proofs.Engine.Restart
import Mathlib.Logic.Relation

/-!
Calls of the engine running side by side.

`Engine.Interleaves` lets any call start and any call in flight make its next part, in any
order; only the part under a room's lock is atomic. What every interleaving keeps is `Layout`:
the rooms' shape (`RoomsShape`), and a booking-to-room map whose ids are distinct, each mapped
to a room holding a booking with that id, with every stored id mapped. So an insert started
after an id is stored is refused, and the lookups of a read and of a change reach a stored
booking with the id they look for.

Ids are not kept distinct across rooms. An insert checks that its id is new before it takes its
room's lock, against the map that only the locked part of an insert fills; two inserts of one id
into two rooms both pass the check, and both enter the booking
(`interleaved_inserts_duplicate_id`). Where no two inserts of one id wait for their locks at the
same time (`Separated`), the whole shape (`WellFormed`) is kept, and every lookup finds the single
stored record.

Main statement: `Engine.interleaved_calls_keep_layout`.
-/

namespace StudioRental

namespace Engine

open Relation

variable {e e' : Engine} {b b' : Booking}

/-! ### What every interleaving keeps -/

/-- The shape every interleaving of the calls keeps. -/
structure Layout (e : Engine) : Prop where
  rooms : RoomsShape e.rooms
  keys_nodup : (e.bookingRooms.map (·.1)).Nodup
  /-- An entry of the map names a room holding a booking with its id. -/
  entries : ∀ p ∈ e.bookingRooms, p ∈ e.owners
  /-- Every stored booking's id is in the map. -/
  entered : ∀ p ∈ e.owners, p.1 ∈ e.bookingRooms.map (·.1)

theorem WellFormed.layout (hw : e.WellFormed) : e.Layout where
  rooms := hw.roomsShape
  keys_nodup := (hw.bookingRooms.map (·.1)).nodup_iff.2 hw.ids_nodup
  entries _ hp := hw.bookingRooms.subset hp
  entered _ hp := List.mem_map_of_mem (hw.bookingRooms.symm.subset hp)

theorem Layout.of_eq (hl : e.Layout) (hr : e'.rooms = e.rooms)
    (hb : e'.bookingRooms = e.bookingRooms) : e'.Layout := by
  have ho : e'.owners = e.owners := by rw [owners, owners, hr]
  obtain ⟨h₁, h₂, h₃, h₄⟩ := hl
  exact ⟨hr ▸ h₁, hb ▸ h₂, hb ▸ ho ▸ h₃, hb ▸ ho ▸ h₄⟩

theorem Layout.insertLocked (hl : e.Layout) (h : e.insertLocked b = .ok (b', e')) : e'.Layout := by
  obtain ⟨-, -, -, rfl⟩ := insertLocked_eq_ok h
  have howners := owners_updateRoom_insert hl.rooms.nodup b
  have key : Layout ⟨(e.updateRoom b.room (·.insert b)).rooms, e.setRoomOf b.id b.room,
      e.intents, .empty, 0⟩ := by
    refine ⟨hl.rooms.insert b, ?_, ?_, ?_⟩
    · show ((e.setRoomOf b.id b.room).map (·.1)).Nodup
      rw [map_fst_setRoomOf]
      split
      · exact hl.keys_nodup
      · rename_i hany
        have hnew : b.id ∉ e.bookingRooms.map (·.1) := by
          intro hmem
          obtain ⟨p, hp, hpid⟩ := List.mem_map.1 hmem
          exact hany (List.any_eq_true.2 ⟨p, hp, by simp [hpid]⟩)
        rw [← List.concat_eq_append]
        exact hl.keys_nodup.concat hnew
    -- the new entry is the new pair; an old one is an old pair, which the rooms still hold
    · intro p hp
      rcases mem_setRoomOf hp with rfl | ⟨hp, -⟩ | ⟨hp, -⟩
      · exact howners.symm.subset List.mem_cons_self
      · exact howners.symm.subset (List.mem_cons_of_mem _ (hl.entries p hp))
      · exact howners.symm.subset (List.mem_cons_of_mem _ (hl.entries p hp))
    · intro p hp
      rcases List.mem_cons.1 (howners.subset hp) with rfl | hp
      · exact List.mem_map_of_mem (mem_setRoomOf_self _ _)
      · exact mem_keys_setRoomOf (hl.entered p hp)
  exact key.of_eq (by simp) rfl

theorem Layout.modifyLocked (hl : e.Layout) {room id : Ulid}
    {f : Booking → Except Error Booking} (hf : ∀ x y, f x = .ok y → y.Amends x) {changed : Bool}
    (h : e.modifyLocked room id f = .ok ((b', changed), e')) : e'.Layout := by
  obtain ⟨r, current, next, hr, hcur, hnext, ⟨-, -, -, rfl⟩ | ⟨-, -, -, -, -, rfl⟩⟩ :=
    modifyLocked_eq_ok h
  · exact hl
  have hamend := hf current next hnext
  have hfind := find?_of_amends hcur hamend
  have howners := owners_updateRoom_replace hl.rooms.nodup hr hfind hamend.id
  have key : Layout ⟨(e.updateRoom room (·.replace next)).rooms, e.bookingRooms, e.intents,
      .empty, 0⟩ :=
    ⟨hl.rooms.replace hr hfind hamend, hl.keys_nodup,
      fun p hp => howners.symm.subset (hl.entries p hp),
      fun p hp => hl.entered p (howners.subset hp)⟩
  exact key.of_eq (by simp) (by simp)

/-- What one part of a call does: it leaves the engine as it was, or it is the locked part of an
insert or of a change, and succeeded. -/
theorem Flight.advance_cases (e : Engine) (f : Flight) :
    (f.advance e).1 = e ∨
    (∃ b b', f = .insertHeld b ∧ e.insertLocked b = .ok (b', (f.advance e).1)) ∨
    (∃ room id c r, f = .modifyHeld room id c ∧
      e.modifyLocked room id c.apply = .ok (r, (f.advance e).1)) := by
  cases f with
  | start call =>
    left
    cases call <;> simp only [Flight.advance] <;> split <;> rfl
  | insertHeld b =>
    simp only [Flight.advance]
    split
    · rename_i b' e' h
      exact .inr (.inl ⟨b, b', rfl, h⟩)
    · exact .inl rfl
  | modifyHeld room id c =>
    simp only [Flight.advance]
    split
    · rename_i r e' h
      exact .inr (.inr ⟨room, id, c, r, rfl, h⟩)
    · exact .inl rfl

theorem Layout.advance (hl : e.Layout) (f : Flight) : (f.advance e).1.Layout := by
  rcases Flight.advance_cases e f with h | ⟨b, b', -, h⟩ | ⟨room, id, c, r, -, h⟩
  · rw [h]
    exact hl
  · exact hl.insertLocked h
  · exact hl.modifyLocked (fun _ _ => c.apply_amends) h

theorem Layout.interleaves {c c' : Config} (h : Interleaves c c') (hl : c.engine.Layout) :
    c'.engine.Layout := by
  cases h with
  | begin => exact hl
  | advance e l₁ l₂ f => exact hl.advance f

/-- Every interleaving keeps the layout. -/
theorem Layout.reachable {c c' : Config} (h : ReflTransGen Interleaves c c')
    (hl : c.engine.Layout) : c'.engine.Layout := by
  induction h with
  | refl => exact hl
  | tail _ hstep ih => exact ih.interleaves hstep

/-! ### What the layout gives the lookups -/

theorem map_fst_owners (e : Engine) : e.owners.map (·.1) = e.bookings.map (·.id) := by
  simp [owners, bookings, List.map_flatMap, Function.comp_def]

/-- A read of the booking's id returns it, and a change of that id locks its room and finds it
there. -/
def Finds (e : Engine) (x : Booking) : Prop :=
  e.getBooking x.id = some x ∧ e.modifyLookup x.id = .ok x.room ∧
    ((e.room? x.room).getD { room := x.room }).find? x.id = some x

theorem finds_of_entry (hs : RoomsShape e.rooms) {id room : Ulid} (hroom : e.roomOf? id = some room)
    {r : RoomBookings} (hr : r ∈ e.rooms) (hrr : r.room = room) {x : Booking}
    (hx : r.find? id = some x) : x ∈ e.bookings ∧ x.id = id ∧ e.Finds x := by
  obtain ⟨hxid, l₁, l₂, hl, -⟩ := RoomBookings.find?_eq_some r hx
  have hxr : x ∈ r.bookings := by simp [hl]
  have hfound : e.room? room = some r := hrr ▸ e.room?_of_mem hs.nodup hr
  have hxroom : x.room = room := (hs.booking_room r hr x hxr).trans hrr
  subst hxid hxroom
  refine ⟨List.mem_flatMap.2 ⟨r, hr, hxr⟩, rfl, ?_, ?_, by simp [hfound, hx]⟩
  · simp [getBooking, hroom, hfound, hx]
  · simp [modifyLookup, hroom, hfound, pure, Except.pure]

theorem Layout.finds_stored (hl : e.Layout) {id : Ulid} (hs : id ∈ e.bookings.map (·.id)) :
    ∃ x ∈ e.bookings, x.id = id ∧ e.Finds x := by
  rw [← map_fst_owners] at hs
  obtain ⟨p, hp, rfl⟩ := List.mem_map.1 hs
  -- the map's entry for the id is the first one with that id
  obtain ⟨q, hq, hqid⟩ := List.mem_map.1 (hl.entered p hp)
  obtain ⟨room, hroom⟩ : ∃ room, e.roomOf? p.1 = some room := by
    cases h : e.roomOf? p.1 with
    | none => exact absurd hqid ((e.roomOf?_eq_none).1 h q hq)
    | some room => exact ⟨room, rfl⟩
  obtain ⟨q', hq', rfl⟩ := Option.map_eq_some_iff.1 hroom
  have hq'mem := List.mem_of_find?_eq_some hq'
  have hq'id : q'.1 = p.1 := by simpa using List.find?_some hq'
  obtain ⟨r, hr, y, hy, hyq⟩ : ∃ r ∈ e.rooms, ∃ y ∈ r.bookings, (y.id, r.room) = q' := by
    simpa [owners] using hl.entries q' hq'mem
  -- the room holds a booking with the id, so its search finds one
  obtain ⟨x, hx⟩ : ∃ x, r.find? p.1 = some x := by
    refine Option.isSome_iff_exists.1 (List.find?_isSome.2 ⟨y, hy, ?_⟩)
    simp [← hq'id, ← hyq]
  exact ⟨x, finds_of_entry hl.rooms hroom hr (by simp [← hyq]) hx⟩

theorem Layout.insertCheck_stored (hl : e.Layout) (hv : validateSpan b.span = .ok ())
    (hs : b.id ∈ e.bookings.map (·.id)) :
    e.insertCheck b = .error (.alreadyExists ("booking " ++ b.id.render)) := by
  obtain ⟨x, -, hxid, -, hlookup, -⟩ := hl.finds_stored hs
  have hroom := (modifyLookup_eq_ok hlookup).1
  rw [hxid] at hroom
  simp [insertCheck, hv, hroom, bind, Except.bind, throw, throwThe, MonadExceptOf.throw]

theorem WellFormed.finds (hw : e.WellFormed) {x : Booking} (hx : x ∈ e.bookings) : e.Finds x := by
  obtain ⟨y, hy, hyid, hfinds⟩ := hw.layout.finds_stored (List.mem_map_of_mem hx)
  -- ids are distinct, so the booking the lookups reach is this one
  have hnd : (e.bookings.map (·.id)).Nodup := map_fst_owners e ▸ hw.ids_nodup
  obtain rfl := List.inj_on_of_nodup_map hnd hy hx hyid
  exact hfinds

/-! ### Interleavings that keep ids apart -/

/-- The id of an insert waiting for its room's lock. -/
def Flight.heldId? : Flight → Option Ulid
  | .insertHeld b => some b.id
  | _ => none

/-- The ids of the inserts waiting for their rooms' locks. -/
def Config.heldIds (c : Config) : List Ulid := c.flights.filterMap Flight.heldId?

/-- An interleaving step after which no two inserts of one id wait for their locks. -/
def Separated (c c' : Config) : Prop := Interleaves c c' ∧ c'.heldIds.Nodup

/-- What a separated interleaving keeps: the whole shape, with the ids of the waiting inserts
distinct and unknown to the map. -/
structure Config.Safe (c : Config) : Prop where
  wellFormed : c.engine.WellFormed
  held_nodup : c.heldIds.Nodup
  held_fresh : ∀ id ∈ c.heldIds, c.engine.roomOf? id = none

/-- A part of a call keeps the whole shape when the insert it may enter has an id the map does
not know. -/
theorem WellFormed.advance (hw : e.WellFormed) {f : Flight}
    (hf : ∀ id ∈ f.heldId?, e.roomOf? id = none) : (f.advance e).1.WellFormed := by
  rcases Flight.advance_cases e f with h | ⟨b, b', rfl, h⟩ | ⟨room, id, c, r, -, h⟩
  · rw [h]
    exact hw
  · exact hw.insertLocked (hf b.id rfl) h
  · exact hw.modifyLocked (fun _ _ => c.apply_amends) h

theorem Flight.advance_roomOf?_eq_none {f : Flight} {x : Ulid} (hx : ∀ id ∈ f.heldId?, id ≠ x)
    (h : e.roomOf? x = none) : (f.advance e).1.roomOf? x = none := by
  rcases Flight.advance_cases e f with hf | ⟨b, b', rfl, hl⟩ | ⟨room, id, c, r, -, hm⟩
  · rw [hf]
    exact h
  · obtain ⟨-, -, -, he⟩ := insertLocked_eq_ok hl
    rw [he]
    exact (roomOf?_eq_none _).2 (setRoomOf_fst_ne (hx b.id rfl).symm h)
  · obtain ⟨_, _, _, _, _, _, ⟨_, _, _, he⟩ | ⟨_, _, _, _, _, he⟩⟩ := modifyLocked_eq_ok hm
    · rw [he]
      exact h
    · rw [he]
      simpa [roomOf?] using h

/-- An insert that passed its check waits with an id the map does not know, and the check left
the engine as it was. -/
theorem Flight.advance_held {f g : Flight} (hg : g ∈ (f.advance e).2) {id : Ulid}
    (hid : id ∈ g.heldId?) : (f.advance e).1 = e ∧ e.roomOf? id = none := by
  cases f with
  | start call =>
    cases call with
    | insert b =>
      simp only [Flight.advance] at hg ⊢
      split at hg
      · rename_i hc
        cases hg
        cases hid
        exact ⟨rfl, (insertCheck_eq_ok hc).2⟩
      · cases hg
    | modify i c =>
      simp only [Flight.advance] at hg
      split at hg
      · cases hg
        cases hid
      · cases hg
  | insertHeld b =>
    simp only [Flight.advance] at hg
    split at hg <;> cases hg
  | modifyHeld room i c =>
    simp only [Flight.advance] at hg
    split at hg <;> cases hg

theorem filterMap_heldId?_toList (o : Option Flight) :
    o.toList.filterMap Flight.heldId? = (o.bind Flight.heldId?).toList := by
  cases o with
  | none => rfl
  | some g => cases h : g.heldId? <;> simp [h]

/-- A separated step keeps the whole shape. -/
theorem Config.Safe.separated {c c' : Config} (hs : c.Safe) (h : Separated c c') : c'.Safe := by
  obtain ⟨hstep, hnd⟩ := h
  cases hstep with
  | begin e fs call =>
    have hheld : Config.heldIds ⟨e, fs ++ [.start call]⟩ = Config.heldIds ⟨e, fs⟩ := by
      simp [Config.heldIds, Flight.heldId?]
    exact ⟨hs.wellFormed, hnd, fun id hid => hs.held_fresh id (hheld ▸ hid)⟩
  | advance e l₁ l₂ f =>
    -- the waiting ids: those of the flights before, the one of this flight, those after
    have hbefore : Config.heldIds ⟨e, l₁ ++ f :: l₂⟩ =
        l₁.filterMap Flight.heldId? ++ (f.heldId?.toList ++ l₂.filterMap Flight.heldId?) := by
      cases hf : f.heldId? <;> simp [Config.heldIds, hf]
    have hafter : Config.heldIds ⟨(f.advance e).1, l₁ ++ (f.advance e).2.toList ++ l₂⟩ =
        l₁.filterMap Flight.heldId? ++
          (((f.advance e).2.bind Flight.heldId?).toList ++ l₂.filterMap Flight.heldId?) := by
      simp [Config.heldIds, filterMap_heldId?_toList]
    have hold := hs.held_nodup
    have hfresh := hs.held_fresh
    simp only [hbefore] at hold hfresh
    refine ⟨hs.wellFormed.advance fun id hid => hfresh id (by simp_all), hnd, ?_⟩
    intro x hx
    simp only [hafter, List.mem_append, Option.mem_toList] at hx
    rcases hx with hx | hx | hx
    -- a waiting insert before or after this flight has another id, which stays unknown
    · refine Flight.advance_roomOf?_eq_none (fun id hid hidx => ?_) (hfresh x (by simp [hx]))
      subst hidx
      simp only [List.nodup_append, Option.mem_toList] at hold
      exact hold.2.2 id hx id (List.mem_append_left _ (by simpa using hid)) rfl
    -- the insert this flight leaves waiting passed its check
    · obtain ⟨g, hg, hgx⟩ := Option.bind_eq_some_iff.1 hx
      obtain ⟨he, hnone⟩ := Flight.advance_held hg hgx
      rw [he]
      exact hnone
    · refine Flight.advance_roomOf?_eq_none (fun id hid hidx => ?_) (hfresh x (by simp [hx]))
      subst hidx
      simp only [List.nodup_append, Option.mem_toList] at hold
      exact hold.2.1.2.2 id hid id hx rfl

/-- Every separated interleaving keeps the whole shape. -/
theorem Config.Safe.reachable {c c' : Config} (h : ReflTransGen Separated c c') (hs : c.Safe) :
    c'.Safe := by
  induction h with
  | refl => exact hs
  | tail _ hstep ih => exact ih.separated hstep

/-! ### Every interleaving -/

/-- Calls running side by side from an idle engine of the whole shape. Every interleaving keeps
the layout: an insert of a stored id is refused at its check, and the lookups of a stored id
reach a stored booking with that id. Every interleaving in which no two inserts of one id wait
for their locks at once keeps the whole shape, distinct ids included, and there the lookups of a
stored booking's id find that booking. -/
theorem interleaved_calls_keep_layout (c₀ : Config) (hw : c₀.engine.WellFormed)
    (hidle : c₀.flights = []) :
    (∀ c, ReflTransGen Interleaves c₀ c →
      c.engine.Layout ∧
      (∀ b : Booking, validateSpan b.span = .ok () → b.id ∈ c.engine.bookings.map (·.id) →
        c.engine.insertCheck b = .error (.alreadyExists ("booking " ++ b.id.render))) ∧
      ∀ id ∈ c.engine.bookings.map (·.id), ∃ x ∈ c.engine.bookings, x.id = id ∧ c.engine.Finds x) ∧
    (∀ c, ReflTransGen Separated c₀ c →
      c.engine.WellFormed ∧ ∀ x ∈ c.engine.bookings, c.engine.Finds x) := by
  have hsafe : c₀.Safe := ⟨hw, by simp [Config.heldIds, hidle], by simp [Config.heldIds, hidle]⟩
  refine ⟨fun c hc => ?_, fun c hc => ?_⟩
  · have hl := hw.layout.reachable hc
    exact ⟨hl, fun b hv hs => hl.insertCheck_stored hv hs, fun id hs => hl.finds_stored hs⟩
  · have hw' := (hsafe.reachable hc).wellFormed
    exact ⟨hw', fun x hx => hw'.finds hx⟩

/-! ### Two inserts of one id -/

/-- `sessionBooking` entered in a second room. -/
def secondRoomBooking : Booking := { sessionBooking with room := ⟨1, by decide⟩ }

/-- The engine after two inserts of one id, into two rooms, both passed their checks on the empty
engine and then both entered their bookings. -/
def raceEngine : Engine :=
  ((Flight.insertHeld secondRoomBooking).advance
    ((Flight.insertHeld sessionBooking).advance {}).1).1

theorem Interleaves.of_advance_eq {e e' : Engine} (l₁ l₂ : List Flight) {f : Flight}
    {o : Option Flight} (h : f.advance e = (e', o)) :
    Interleaves ⟨e, l₁ ++ f :: l₂⟩ ⟨e', l₁ ++ o.toList ++ l₂⟩ := by
  have step := Interleaves.advance e l₁ l₂ f
  rw [h] at step
  exact step

/-- Two inserts of one booking id into two rooms, both checked before either enters: both enter
their bookings. -/
theorem interleaved_inserts_duplicate_id :
    ReflTransGen Interleaves ⟨{}, []⟩ ⟨raceEngine, []⟩ ∧
      raceEngine.bookings = [sessionBooking, secondRoomBooking] ∧
      secondRoomBooking.id = sessionBooking.id := by
  let e₁ := ((Flight.insertHeld sessionBooking).advance {}).1
  have h₁ : Interleaves ⟨{}, []⟩ ⟨{}, [.start (.insert sessionBooking)]⟩ := .begin {} [] _
  have h₂ : Interleaves ⟨{}, [.start (.insert sessionBooking)]⟩
      ⟨{}, [.start (.insert sessionBooking), .start (.insert secondRoomBooking)]⟩ :=
    .begin {} [_] _
  -- both checks pass on the empty engine
  have h₃ : Interleaves ⟨{}, [.start (.insert sessionBooking), .start (.insert secondRoomBooking)]⟩
      ⟨{}, [.insertHeld sessionBooking, .start (.insert secondRoomBooking)]⟩ :=
    .of_advance_eq [] [_] rfl
  have h₄ : Interleaves ⟨{}, [.insertHeld sessionBooking, .start (.insert secondRoomBooking)]⟩
      ⟨{}, [.insertHeld sessionBooking, .insertHeld secondRoomBooking]⟩ :=
    .of_advance_eq [_] [] rfl
  -- then both locked parts, each in its own room
  have h₅ : Interleaves ⟨{}, [.insertHeld sessionBooking, .insertHeld secondRoomBooking]⟩
      ⟨e₁, [.insertHeld secondRoomBooking]⟩ :=
    .of_advance_eq [] [_] rfl
  have h₆ : Interleaves ⟨e₁, [.insertHeld secondRoomBooking]⟩ ⟨raceEngine, []⟩ :=
    .of_advance_eq [] [] rfl
  exact ⟨.tail (.tail (.tail (.tail (.tail (.single h₁) h₂) h₃) h₄) h₅) h₆, rfl, rfl⟩

/-- The layout holds on the engine the two inserts leave, whose ids are not distinct. -/
theorem twoRoomRace_keeps_layout :
    ({} : Engine).WellFormed ∧ ([] : List Flight) = [] ∧ raceEngine.Layout ∧
      ¬ (raceEngine.bookings.map (·.id)).Nodup := by
  obtain ⟨hrun, hbookings, hid⟩ := interleaved_inserts_duplicate_id
  refine ⟨.empty, rfl, ((interleaved_calls_keep_layout ⟨{}, []⟩ .empty rfl).1 _ hrun).1, ?_⟩
  rw [hbookings]
  simp [hid]

end Engine

end StudioRental
