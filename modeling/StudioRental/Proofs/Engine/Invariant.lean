import StudioRental.Proofs.Engine.Parts

/-!
Runs of the engine, and the shape every call keeps.

A run is a sequence of operations (`Op`): the four calls of the service, made with the changes
the service makes (`Change.apply` for a booking, a checked callback for an intent), a
compaction of the journal, and a restart on the journal with a compaction threshold. A call
that fails leaves the engine as it was (`Engine.step`).

`WellFormed` is what the calls keep: rooms with distinct ids, none empty, each holding its own
bookings in order of start; distinct booking ids, with the booking-to-room map a permutation of
the pairs the rooms give (`owners`); intents filed under their own, distinct, numbers. Each
call keeps it, read off its inversion lemma (`WellFormed.insertBooking` and the three after
it); what a restart keeps is a matter of the journal, and is proved with it.

Every change of the state is journalled: a call that leaves the journal as it was leaves the
whole engine as it was (`step_eq_of_file_eq`).
-/

namespace StudioRental

/-- An operation on the engine: a call of the service, a compaction, or a restart on the
journal with a compaction threshold. -/
inductive Op where
  | insertBooking (b : Booking)
  | modifyBooking (id : Ulid) (c : Change)
  | insertIntent (i : Intent)
  | modifyIntent (invoice : Int) (c : CallbackCheck)
  | compact
  | restart (threshold : Nat)

namespace Op

/-- The operations that are calls of the service. -/
def isCall : Op → Bool
  | compact | restart _ => false
  | _ => true

end Op

namespace Engine

/-- The engine after a call: the one the call returned, or the same engine when it failed. -/
def settle {ε α : Type} (e : Engine) : Except ε (α × Engine) → Engine
  | .ok (_, e') => e'
  | .error _ => e

/-- The engine after one operation, as the service performs it. -/
def step (e : Engine) : Op → Engine
  | .insertBooking b => e.settle (e.insertBooking b)
  | .modifyBooking id c => e.settle (e.modifyBooking id c.apply)
  | .insertIntent i => e.settle (e.insertIntent i)
  | .modifyIntent n c => e.settle (e.modifyIntent n fun i => .ok (c.apply i))
  | .compact => e.compact
  | .restart threshold => ofFile e.file threshold

/-- The engine after a sequence of operations. -/
def run (e : Engine) (ops : List Op) : Engine := ops.foldl step e

@[simp] theorem run_nil (e : Engine) : e.run [] = e := rfl

@[simp] theorem run_cons (e : Engine) (op : Op) (ops : List Op) :
    e.run (op :: ops) = (e.step op).run ops := rfl

theorem run_append (e : Engine) (ops ops' : List Op) : e.run (ops ++ ops') = (e.run ops).run ops' :=
  List.foldl_append

/-- A property that every step of a run keeps, under a condition on the engine the step
reaches, holds after the run when every state on the way meets the condition. -/
theorem run_induction (P Q : Engine → Prop) (ops : List Op)
    (hstep : ∀ e op, op ∈ ops → P e → Q (e.step op) → P (e.step op))
    (e : Engine) (he : P e) (hq : ∀ pre, pre <+: ops → Q (e.run pre)) : P (e.run ops) := by
  induction ops generalizing e with
  | nil => exact he
  | cons op ops ih =>
    have hnext : Q (e.step op) := hq [op] (List.cons_prefix_cons.2 ⟨rfl, List.nil_prefix⟩)
    refine ih (fun e' op' hop' => hstep e' op' (List.mem_cons_of_mem op hop')) (e.step op)
      (hstep e op List.mem_cons_self he hnext) ?_
    exact fun pre hpre => hq (op :: pre) (List.cons_prefix_cons.2 ⟨rfl, hpre⟩)

/-! ### The shape of a state -/

/-- Every booking, room by room. -/
def bookings (e : Engine) : List Booking := e.rooms.flatMap (·.bookings)

/-- Each booking's id with the id of the room holding it, room by room. -/
def owners (e : Engine) : List (Ulid × Ulid) :=
  e.rooms.flatMap fun r => r.bookings.map fun b => (b.id, r.room)

/-- Every record the engine holds reads back from the journal, in each event that carries it. -/
structure Readable (e : Engine) : Prop where
  bookings : ∀ r ∈ e.rooms, ∀ b ∈ r.bookings,
    (Event.bookingCreated b).Readable ∧ (Event.bookingChanged b).Readable
  intents : ∀ p ∈ e.intents, (Event.intentCreated p.2).Readable ∧ (Event.intentChanged p.2).Readable

/-- The shape the calls keep. -/
structure WellFormed (e : Engine) : Prop where
  rooms_nodup : (e.rooms.map (·.room)).Nodup
  rooms_nonempty : ∀ r ∈ e.rooms, r.bookings ≠ []
  booking_room : ∀ r ∈ e.rooms, ∀ b ∈ r.bookings, b.room = r.room
  sorted : ∀ r ∈ e.rooms, RoomBookings.Sorted r.bookings
  ids_nodup : (e.owners.map (·.1)).Nodup
  bookingRooms : e.bookingRooms.Perm e.owners
  intent_key : ∀ p ∈ e.intents, p.2.invoice = p.1
  intents_nodup : (e.intents.map (·.1)).Nodup

theorem WellFormed.empty : ({} : Engine).WellFormed where
  rooms_nodup := List.nodup_nil
  rooms_nonempty := by simp
  booking_room := by simp
  sorted := by simp
  ids_nodup := by simp [owners]
  bookingRooms := by simp [owners]
  intent_key := by simp
  intents_nodup := List.nodup_nil

variable {e e' : Engine}

theorem WellFormed.of_eq (hw : e.WellFormed) (hr : e'.rooms = e.rooms)
    (hb : e'.bookingRooms = e.bookingRooms) (hi : e'.intents = e.intents) : e'.WellFormed := by
  have ho : e'.owners = e.owners := by rw [owners, owners, hr]
  obtain ⟨h₁, h₂, h₃, h₄, h₅, h₆, h₇, h₈⟩ := hw
  exact ⟨hr ▸ h₁, hr ▸ h₂, hr ▸ h₃, hr ▸ h₄, ho ▸ h₅, hb ▸ ho ▸ h₆, hi ▸ h₇, hi ▸ h₈⟩

theorem WellFormed.fresh (hw : e.WellFormed) {id : Ulid} (h : e.roomOf? id = none) :
    id ∉ e.owners.map (·.1) := by
  simp only [List.mem_map, not_exists, not_and]
  intro p hp hpid
  exact (e.roomOf?_eq_none).1 h p (hw.bookingRooms.symm.subset hp) hpid

/-! ### Entering and replacing a booking in its room -/

/-- The rooms' part of the shape: distinct ids, each room holding its own bookings in order of
start. Calls running side by side keep it (`StudioRental.Proofs.Engine.Interleaving`). -/
structure RoomsShape (rooms : List RoomBookings) : Prop where
  nodup : (rooms.map (·.room)).Nodup
  booking_room : ∀ r ∈ rooms, ∀ b ∈ r.bookings, b.room = r.room
  sorted : ∀ r ∈ rooms, RoomBookings.Sorted r.bookings

theorem WellFormed.roomsShape (hw : e.WellFormed) : RoomsShape e.rooms :=
  ⟨hw.rooms_nodup, hw.booking_room, hw.sorted⟩

theorem RoomsShape.found (hs : RoomsShape e.rooms) (room : Ulid) :
    let q := (e.room? room).getD { room }
    q.room = room ∧ (∀ b ∈ q.bookings, b.room = room) ∧ RoomBookings.Sorted q.bookings := by
  obtain ⟨hroom, hq | hq⟩ := e.room?_getD_cases room
  · exact ⟨hroom, fun b hb => hroom ▸ hs.booking_room _ hq b hb, hs.sorted _ hq⟩
  · rw [hq]
    exact ⟨rfl, by simp, List.Pairwise.nil⟩

theorem WellFormed.found (hw : e.WellFormed) (room : Ulid) :
    let q := (e.room? room).getD { room }
    q.room = room ∧ (∀ b ∈ q.bookings, b.room = room) ∧ RoomBookings.Sorted q.bookings :=
  hw.roomsShape.found room

variable {b next current : Booking} {room : Ulid} {r : RoomBookings}

theorem RoomsShape.insert (hs : RoomsShape e.rooms) (b : Booking) :
    RoomsShape (e.updateRoom b.room (·.insert b)).rooms := by
  obtain ⟨hq, hqroom, hqsorted⟩ := hs.found b.room
  refine ⟨?_, ?_, ?_⟩
  · rw [map_room_updateRoom (fun q => RoomBookings.room_insert q b)]
    split
    · exact hs.nodup
    · rename_i hany
      refine hs.nodup.append (List.nodup_singleton _) ?_
      simpa using fun r hr hrr => hany (List.any_eq_true.2 ⟨r, hr, by simp [hrr]⟩)
  · intro r hr x hx
    rcases mem_updateRoom hs.nodup hr with ⟨hr, -⟩ | rfl
    · exact hs.booking_room r hr x hx
    · rcases (RoomBookings.mem_insert _ b).1 hx with rfl | hx
      · simp [hq]
      · simp [hq, hqroom x hx]
  · intro r hr
    rcases mem_updateRoom hs.nodup hr with ⟨hr, -⟩ | rfl
    · exact hs.sorted r hr
    · exact hqsorted.insert b

theorem owners_updateRoom_insert (hnd : (e.rooms.map (·.room)).Nodup) (b : Booking) :
    ((e.updateRoom b.room (·.insert b)).owners).Perm ((b.id, b.room) :: e.owners) := by
  have hq := (e.room?_getD_cases b.room).1
  refine flatMap_updateRoom _ [(b.id, b.room)] hnd rfl ?_
  simpa [hq] using ((RoomBookings.insert_perm _ b).map fun x => (x.id, b.room))

theorem find?_of_amends {id : Ulid} (hcur : r.find? id = some current)
    (hamend : next.Amends current) : r.find? next.id = some current := by
  obtain ⟨hcid, -⟩ := RoomBookings.find?_eq_some r hcur
  rw [hamend.id, hcid]
  exact hcur

theorem RoomsShape.replace (hs : RoomsShape e.rooms) (hr : e.room? room = some r)
    (hfind : r.find? next.id = some current) (hamend : next.Amends current) :
    RoomsShape (e.updateRoom room (·.replace next)).rooms := by
  obtain ⟨hrmem, hrroom⟩ := e.room?_eq_some hr
  obtain ⟨l₁, l₂, hl, hrep⟩ := RoomBookings.replace_of_find? r next hfind
  have hcroom : current.room = r.room := hs.booking_room r hrmem current (by simp [hl])
  refine ⟨?_, ?_, ?_⟩
  · rw [map_room_updateRoom (fun q => RoomBookings.room_replace q next),
      if_pos (List.any_eq_true.2 ⟨r, hrmem, by simp [hrroom]⟩)]
    exact hs.nodup
  · intro q hq x hx
    rcases mem_updateRoom hs.nodup hq with ⟨hq, -⟩ | rfl
    · exact hs.booking_room q hq x hx
    · simp only [hr, Option.getD_some, hrep, RoomBookings.room_replace, List.mem_append,
        List.mem_cons] at hx ⊢
      rcases hx with hx | rfl | hx
      · exact hs.booking_room r hrmem x (by simp [hl, hx])
      · exact hamend.room.trans hcroom
      · exact hs.booking_room r hrmem x (by simp [hl, hx])
  · intro q hq
    rcases mem_updateRoom hs.nodup hq with ⟨hq, -⟩ | rfl
    · exact hs.sorted q hq
    · simpa [hr] using (hs.sorted r hrmem).replace hfind hamend.start

theorem owners_updateRoom_replace (hnd : (e.rooms.map (·.room)).Nodup)
    (hr : e.room? room = some r) (hfind : r.find? next.id = some current)
    (hid : next.id = current.id) :
    ((e.updateRoom room (·.replace next)).owners).Perm e.owners := by
  obtain ⟨l₁, l₂, hl, hrep⟩ := RoomBookings.replace_of_find? r next hfind
  have h : ((e.updateRoom room (·.replace next)).owners).Perm ([] ++ e.owners) :=
    flatMap_updateRoom _ [] hnd rfl (by simp [hr, hrep, hl, hid])
  rwa [List.nil_append] at h

/-! ### Each call keeps the shape -/

/-- The part of entering a booking made under the lock keeps the shape, for a booking whose id
the map does not know. -/
theorem WellFormed.insertLocked (hw : e.WellFormed) {b' : Booking} (hfresh : e.roomOf? b.id = none)
    (h : e.insertLocked b = .ok (b', e')) : e'.WellFormed := by
  obtain ⟨-, -, -, rfl⟩ := insertLocked_eq_ok h
  have howners := owners_updateRoom_insert hw.rooms_nodup b
  have hshape := hw.roomsShape.insert b
  have key : WellFormed ⟨(e.updateRoom b.room (·.insert b)).rooms,
      e.bookingRooms ++ [(b.id, b.room)], e.intents, .empty, 0⟩ := by
    refine ⟨hshape.nodup, ?_, hshape.booking_room, hshape.sorted, ?_, ?_, hw.intent_key,
      hw.intents_nodup⟩
    · intro r hr
      rcases mem_updateRoom hw.rooms_nodup hr with ⟨hr, -⟩ | rfl
      · exact hw.rooms_nonempty r hr
      · exact List.ne_nil_of_mem ((RoomBookings.mem_insert _ b).2 (.inl rfl))
    · exact (howners.map (·.1)).nodup_iff.2 (List.nodup_cons.2 ⟨hw.fresh hfresh, hw.ids_nodup⟩)
    · exact ((hw.bookingRooms.append_right _).trans List.perm_append_comm).trans howners.symm
  refine key.of_eq (by simp) ?_ (by simp)
  exact setRoomOf_of_roomOf?_eq_none hfresh

/-- Entering a booking keeps the shape. -/
theorem WellFormed.insertBooking (hw : e.WellFormed) {b b' : Booking}
    (h : e.insertBooking b = .ok (b', e')) : e'.WellFormed := by
  rw [insertBooking_eq_check_locked] at h
  cases hc : e.insertCheck b with
  | error err => rw [hc] at h; cases h
  | ok u =>
    rw [hc] at h
    exact hw.insertLocked (insertCheck_eq_ok hc).2 h

/-- The part of changing a booking made under the lock, by a change that amends it, keeps the
shape. -/
theorem WellFormed.modifyLocked (hw : e.WellFormed) {id : Ulid}
    {f : Booking → Except Error Booking} (hf : ∀ x y, f x = .ok y → y.Amends x) {b' : Booking}
    {changed : Bool} (h : e.modifyLocked room id f = .ok ((b', changed), e')) : e'.WellFormed := by
  obtain ⟨r, current, next, hr, hcur, hnext, ⟨-, -, -, rfl⟩ | ⟨-, -, -, -, -, rfl⟩⟩ :=
    modifyLocked_eq_ok h
  · exact hw
  have hamend := hf current next hnext
  have hfind := find?_of_amends hcur hamend
  have howners := owners_updateRoom_replace hw.rooms_nodup hr hfind hamend.id
  have hshape := hw.roomsShape.replace hr hfind hamend
  obtain ⟨l₁, l₂, hl, hrep⟩ := RoomBookings.replace_of_find? r next hfind
  have key : WellFormed ⟨(e.updateRoom room (·.replace next)).rooms, e.bookingRooms, e.intents,
      .empty, 0⟩ := by
    refine ⟨hshape.nodup, ?_, hshape.booking_room, hshape.sorted, ?_, ?_, hw.intent_key,
      hw.intents_nodup⟩
    · intro q hq
      rcases mem_updateRoom hw.rooms_nodup hq with ⟨hq, -⟩ | rfl
      · exact hw.rooms_nonempty q hq
      · simp [hr, hrep]
    · exact (howners.map (·.1)).nodup_iff.2 hw.ids_nodup
    · exact hw.bookingRooms.trans howners.symm
  exact key.of_eq (by simp) (by simp) (by simp)

theorem WellFormed.modifyBooking (hw : e.WellFormed) {id : Ulid} {f : Booking → Except Error Booking}
    (hf : ∀ x y, f x = .ok y → y.Amends x) {b' : Booking} {changed : Bool}
    (h : e.modifyBooking id f = .ok ((b', changed), e')) : e'.WellFormed := by
  rw [modifyBooking_eq_lookup_locked] at h
  cases hl : e.modifyLookup id with
  | error err => rw [hl] at h; cases h
  | ok room =>
    rw [hl] at h
    exact hw.modifyLocked hf h

theorem WellFormed.insertIntent (hw : e.WellFormed) {i i' : Intent}
    (h : e.insertIntent i = .ok (i', e')) : e'.WellFormed := by
  obtain ⟨-, hnew, -, rfl⟩ := e.insertIntent_eq_ok h
  have hnotin : i.invoice ∉ e.intents.map (·.1) := by
    simp only [List.mem_map, not_exists, not_and]
    exact fun p hp hpn => (e.getIntent_eq_none).1 hnew p hp hpn
  have hany : e.intents.any (·.1 == i.invoice) = false := by
    simpa using (e.getIntent_eq_none).1 hnew
  have key : WellFormed ⟨e.rooms, e.bookingRooms, (e.fileIntent i.invoice i).intents, .empty, 0⟩ := by
    refine ⟨hw.rooms_nodup, hw.rooms_nonempty, hw.booking_room, hw.sorted, hw.ids_nodup,
      hw.bookingRooms, ?_, ?_⟩
    · intro p hp
      rcases mem_fileIntent hp with ⟨hp, -⟩ | rfl
      · exact hw.intent_key p hp
      · rfl
    · show ((e.fileIntent i.invoice i).intents.map (·.1)).Nodup
      rw [map_fst_fileIntent, hany]
      exact hw.intents_nodup.append (List.nodup_singleton _) (by simpa using hnotin)
  exact key.of_eq (by simp) (by simp) (by simp)

theorem WellFormed.modifyIntent {α : Type} (hw : e.WellFormed) {n : Int}
    {f : Intent → Except Error (Intent × α)}
    (hf : ∀ x y o, f x = .ok (y, o) → y.invoice = x.invoice) {i : Intent} {changed : Bool}
    {out : α} (h : e.modifyIntent n f = .ok ((i, changed, out), e')) : e'.WellFormed := by
  obtain ⟨current, hcur, hres, ⟨-, -, rfl⟩ | ⟨-, -, rfl⟩⟩ := e.modifyIntent_eq_ok h
  · exact hw
  have hmem := e.getIntent_eq_some hcur
  have hkey : i.invoice = n := (hf current i out hres).trans (hw.intent_key _ hmem)
  have hany : e.intents.any (·.1 == n) = true := List.any_eq_true.2 ⟨_, hmem, by simp⟩
  have key : WellFormed ⟨e.rooms, e.bookingRooms, (e.fileIntent n i).intents, .empty, 0⟩ := by
    refine ⟨hw.rooms_nodup, hw.rooms_nonempty, hw.booking_room, hw.sorted, hw.ids_nodup,
      hw.bookingRooms, ?_, ?_⟩
    · intro p hp
      rcases mem_fileIntent hp with ⟨hp, -⟩ | rfl
      · exact hw.intent_key p hp
      · exact hkey
    · show ((e.fileIntent n i).intents.map (·.1)).Nodup
      rw [map_fst_fileIntent, hany, if_pos rfl]
      exact hw.intents_nodup
  exact key.of_eq (by simp) (by simp) (by simp)

theorem WellFormed.compact (hw : e.WellFormed) : e.compact.WellFormed := hw.of_eq rfl rfl rfl

/-! ### Every change is journalled -/

/-- A call either leaves the engine as it was, or appends one record to the journal: a call
that fails, or whose change leaves the record the same, appends nothing and changes nothing. -/
theorem step_call_cases {op : Op} (hop : op.isCall = true) :
    e.step op = e ∨ ∃ ev, (e.step op).file = Journal.append e.file ev := by
  cases op with
  | insertBooking b =>
    cases hr : e.insertBooking b with
    | error => exact .inl (by simp [step, hr, settle])
    | ok res =>
      obtain ⟨b', e'⟩ := res
      obtain ⟨-, -, -, -, -, rfl⟩ := e.insertBooking_eq_ok hr
      exact .inr ⟨.bookingCreated b, by simp [step, hr, settle]⟩
  | modifyBooking id c =>
    cases hr : e.modifyBooking id c.apply with
    | error => exact .inl (by simp [step, hr, settle])
    | ok res =>
      obtain ⟨⟨b', changed⟩, e'⟩ := res
      obtain ⟨room, r, current, next, -, -, -, -, ⟨-, -, -, rfl⟩ | ⟨-, -, -, -, -, rfl⟩⟩ :=
        e.modifyBooking_eq_ok hr
      · exact .inl (by simp [step, hr, settle])
      · exact .inr ⟨.bookingChanged next, by simp [step, hr, settle]⟩
  | insertIntent i =>
    cases hr : e.insertIntent i with
    | error => exact .inl (by simp [step, hr, settle])
    | ok res =>
      obtain ⟨i', e'⟩ := res
      obtain ⟨-, -, -, rfl⟩ := e.insertIntent_eq_ok hr
      exact .inr ⟨.intentCreated i, by simp [step, hr, settle]⟩
  | modifyIntent n c =>
    cases hr : e.modifyIntent n fun i => .ok (c.apply i) with
    | error => exact .inl (by simp [step, hr, settle])
    | ok res =>
      obtain ⟨⟨i, changed, out⟩, e'⟩ := res
      obtain ⟨-, -, -, ⟨-, -, rfl⟩ | ⟨-, -, rfl⟩⟩ := e.modifyIntent_eq_ok hr
      · exact .inl (by simp [step, hr, settle])
      · exact .inr ⟨.intentChanged i, by simp [step, hr, settle]⟩
  | compact => simp [Op.isCall] at hop
  | restart => simp [Op.isCall] at hop

/-- A call that leaves the journal as it was leaves the engine as it was. -/
theorem step_eq_of_file_eq {op : Op} (hop : op.isCall = true) (h : (e.step op).file = e.file) :
    e.step op = e := by
  rcases step_call_cases hop with hsame | ⟨ev, hev⟩
  · exact hsame
  · exact absurd (hev.symm.trans h) (Journal.append_ne _ _)

/-- Along a run of calls the journal only grows. -/
theorem run_calls_file {ops : List Op} (hops : ∀ op ∈ ops, op.isCall = true) :
    ∃ more, (e.run ops).file = e.file ++ more := by
  induction ops generalizing e with
  | nil => exact ⟨ByteArray.empty, by simp⟩
  | cons op ops ih =>
    obtain ⟨more, hmore⟩ : ∃ more, ((e.step op).run ops).file = (e.step op).file ++ more :=
      ih fun o ho => hops o (by simp [ho])
    rcases step_call_cases (hops op (by simp)) with hsame | ⟨ev, hev⟩
    · exact ⟨more, by rw [run_cons, hmore, hsame]⟩
    · refine ⟨Journal.frame ev.encode ++ more, ?_⟩
      rw [run_cons, hmore, hev, Journal.append_eq, ByteArray.append_assoc]

end Engine

end StudioRental
