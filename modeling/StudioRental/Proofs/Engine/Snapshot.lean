import StudioRental.Proofs.Engine.Invariant

/-!
Rebuilding the state from events.

`replayed evs` is the engine the events rebuild from nothing. Replaying an event reads only the
rooms or only the intents, so engines that hold the same records (`SameRecords`: the same rooms
with the same bookings in the same order, the same intents under the same numbers) stay so
under replay (`SameRecords.replayEvent`).

A snapshot rebuilds the state it was taken of (`replayed_snapshot`). Its bookings come room by
room, and in each room in order of start with distinct ids, so the first booking of a room
opens it at the end of the rooms and each later one goes at the end of its room
(`foldl_replay_tail`); its intents come under distinct numbers, so each is filed after the
others. Only the shape of `WellFormed` is needed.

Opening an engine on a file (`ofFile`) rebuilds the records of the events the file holds, maps
each booking to the room holding it, and keeps the file or replaces it by the snapshot of what
it rebuilt (`ofFile_file`).
-/

namespace StudioRental

namespace Engine

/-- The engine a sequence of events rebuilds from nothing. -/
def replayed (evs : List Event) : Engine := evs.foldl replayEvent {}

/-- Two engines hold the same records: the same rooms holding the same bookings in the same
order, and the same intents under the same numbers. -/
structure SameRecords (e e' : Engine) : Prop where
  rooms : e.rooms = e'.rooms
  intents : e.intents.Perm e'.intents

variable {e e' e'' : Engine}

theorem SameRecords.refl (e : Engine) : SameRecords e e := ⟨rfl, List.Perm.refl _⟩

theorem SameRecords.symm (h : SameRecords e e') : SameRecords e' e := ⟨h.rooms.symm, h.intents.symm⟩

theorem SameRecords.trans (h : SameRecords e e') (h' : SameRecords e' e'') : SameRecords e e'' :=
  ⟨h.rooms.trans h'.rooms, h.intents.trans h'.intents⟩

section Replay

variable (e : Engine)

@[simp] theorem replayEvent_bookingCreated (b : Booking) :
    e.replayEvent (.bookingCreated b) = e.updateRoom b.room (·.upsert b) := rfl

@[simp] theorem replayEvent_bookingChanged (b : Booking) :
    e.replayEvent (.bookingChanged b) = e.updateRoom b.room (·.upsert b) := rfl

@[simp] theorem replayEvent_intentCreated (i : Intent) :
    e.replayEvent (.intentCreated i) = e.fileIntent i.invoice i := rfl

@[simp] theorem replayEvent_intentChanged (i : Intent) :
    e.replayEvent (.intentChanged i) = e.fileIntent i.invoice i := rfl

end Replay

/-- Replaying an event on engines with the same records gives engines with the same records. -/
theorem SameRecords.replayEvent (h : SameRecords e e') (ev : Event) :
    SameRecords (e.replayEvent ev) (e'.replayEvent ev) := by
  -- a booking event reads only the rooms, an intent event only the intents
  have hbooking : ∀ b : Booking,
      SameRecords (e.updateRoom b.room (·.upsert b)) (e'.updateRoom b.room (·.upsert b)) := fun b =>
    ⟨by rw [updateRoom_rooms, updateRoom_rooms, h.rooms], by simpa using h.intents⟩
  have hintent : ∀ i : Intent,
      SameRecords (e.fileIntent i.invoice i) (e'.fileIntent i.invoice i) := fun i => by
    refine ⟨by simpa using h.rooms, ?_⟩
    rw [fileIntent_intents, fileIntent_intents, h.intents.any_eq]
    split
    · exact h.intents.map _
    · exact h.intents.append_right _
  cases ev with
  | bookingCreated b => exact hbooking b
  | bookingChanged b => exact hbooking b
  | intentCreated i => exact hintent i
  | intentChanged i => exact hintent i

theorem SameRecords.foldl_replayEvent (h : SameRecords e e') (evs : List Event) :
    SameRecords (evs.foldl Engine.replayEvent e) (evs.foldl Engine.replayEvent e') := by
  induction evs generalizing e e' with
  | nil => exact h
  | cons ev evs ih => exact ih (h.replayEvent ev)

@[simp] theorem replayEvent_file (e : Engine) (ev : Event) : (e.replayEvent ev).file = e.file := by
  cases ev <;> simp

theorem foldl_replayEvent_file (evs : List Event) (e : Engine) :
    (evs.foldl replayEvent e).file = e.file := by
  induction evs generalizing e with
  | nil => rfl
  | cons ev evs ih => rw [List.foldl_cons, ih, replayEvent_file]

theorem replayed_append (evs evs' : List Event) :
    replayed (evs ++ evs') = evs'.foldl replayEvent (replayed evs) :=
  List.foldl_append

/-! ### Replaying a snapshot -/

/-- Bookings of the last room, replayed after the bookings `pre` it already holds, go at its end
when they come in order of start with new ids. -/
theorem foldl_replay_tail {rs : List RoomBookings} {room : Ulid} (hrs : ∀ q ∈ rs, q.room ≠ room) :
    ∀ (l pre : List Booking) (s : Engine), s.rooms = rs ++ [⟨room, pre⟩] →
      (∀ x ∈ l, x.room = room) → RoomBookings.Sorted (pre ++ l) → ((pre ++ l).map (·.id)).Nodup →
      ((l.map .bookingCreated).foldl replayEvent s).rooms = rs ++ [⟨room, pre ++ l⟩] ∧
        ((l.map .bookingCreated).foldl replayEvent s).intents = s.intents := by
  intro l
  induction l with
  | nil => intro pre s hs _ _ _; simp [hs]
  | cons x l ih =>
    intro pre s hs hroom hsorted hnd
    have hx : x.room = room := hroom x (by simp)
    -- `x` is new to the room and starts no earlier than what it holds
    have hfind : (⟨room, pre⟩ : RoomBookings).find? x.id = none := by
      rw [RoomBookings.find?_eq_none]
      intro y hy hyx
      rw [List.map_append, List.nodup_append] at hnd
      exact hnd.2.2 y.id (List.mem_map_of_mem hy) x.id (by simp) hyx
    have hle : ∀ y ∈ (⟨room, pre⟩ : RoomBookings).bookings, y.start ≤ x.start := fun y hy =>
      (List.pairwise_append.1 hsorted).2.2 y hy x (by simp)
    have hins : (⟨room, pre⟩ : RoomBookings).insert x = ⟨room, pre ++ [x]⟩ :=
      RoomBookings.ext rfl (RoomBookings.insert_of_le _ _ hle)
    have hstep : (s.replayEvent (.bookingCreated x)).rooms = rs ++ [⟨room, pre ++ [x]⟩] := by
      rw [replayEvent_bookingCreated, hx, updateRoom_rooms_of_last hrs rfl hs,
        RoomBookings.upsert_of_find?_none _ _ hfind, hins]
    obtain ⟨h₁, h₂⟩ := ih (pre ++ [x]) _ hstep (fun y hy => hroom y (by simp [hy]))
      (by simpa using hsorted) (by simpa using hnd)
    refine ⟨by simpa using h₁, by simpa using h₂⟩

theorem foldl_replay_room {s : Engine} {r : RoomBookings} (hs : ∀ q ∈ s.rooms, q.room ≠ r.room)
    (hne : r.bookings ≠ []) (hroom : ∀ x ∈ r.bookings, x.room = r.room)
    (hsorted : RoomBookings.Sorted r.bookings) (hnd : (r.bookings.map (·.id)).Nodup) :
    ((r.bookings.map .bookingCreated).foldl replayEvent s).rooms = s.rooms ++ [r] ∧
      ((r.bookings.map .bookingCreated).foldl replayEvent s).intents = s.intents := by
  obtain ⟨room, bs⟩ := r
  cases bs with
  | nil => exact absurd rfl hne
  | cons b l =>
    have hb : b.room = room := hroom b (by simp)
    -- the first booking opens the room
    have hfirst : (s.replayEvent (.bookingCreated b)).rooms = s.rooms ++ [⟨room, [b]⟩] := by
      rw [replayEvent_bookingCreated, hb, updateRoom_rooms_of_none hs, RoomBookings.upsert_nil]
    obtain ⟨h₁, h₂⟩ := foldl_replay_tail hs l [b] _ hfirst (fun x hx => hroom x (by simp [hx]))
      hsorted hnd
    exact ⟨by simpa using h₁, by simpa using h₂⟩

/-- Rooms with new, distinct ids, each non-empty, holding its own bookings in order of start
with distinct ids, are rebuilt in order by replaying their bookings room by room. -/
theorem foldl_replay_rooms :
    ∀ (rs : List RoomBookings) (s : Engine), ((s.rooms ++ rs).map (·.room)).Nodup →
      (∀ r ∈ rs, r.bookings ≠ [] ∧ (∀ x ∈ r.bookings, x.room = r.room) ∧
        RoomBookings.Sorted r.bookings ∧ (r.bookings.map (·.id)).Nodup) →
      ((rs.flatMap fun r => r.bookings.map .bookingCreated).foldl replayEvent s).rooms =
          s.rooms ++ rs ∧
        ((rs.flatMap fun r => r.bookings.map .bookingCreated).foldl replayEvent s).intents =
          s.intents := by
  intro rs
  induction rs with
  | nil => intro s _ _; simp
  | cons r rs ih =>
    intro s hnd hrs
    obtain ⟨hne, hroom, hsorted, hids⟩ := hrs r (by simp)
    have hs : ∀ q ∈ s.rooms, q.room ≠ r.room := by
      intro q hq hqr
      rw [List.map_append, List.nodup_append] at hnd
      exact hnd.2.2 q.room (List.mem_map_of_mem hq) r.room (by simp) hqr
    obtain ⟨h₁, h₂⟩ := foldl_replay_room hs hne hroom hsorted hids
    rw [List.flatMap_cons, List.foldl_append]
    obtain ⟨h₃, h₄⟩ := ih _ (by rw [h₁]; simpa using hnd) fun q hq => hrs q (by simp [hq])
    exact ⟨by rw [h₃, h₁]; simp, by rw [h₄, h₂]⟩

theorem foldl_replay_intents :
    ∀ (ps : List (Int × Intent)) (s : Engine), (∀ p ∈ ps, p.2.invoice = p.1) →
      ((s.intents ++ ps).map (·.1)).Nodup →
      ((ps.map fun p => Event.intentCreated p.2).foldl replayEvent s).intents = s.intents ++ ps ∧
        ((ps.map fun p => Event.intentCreated p.2).foldl replayEvent s).rooms = s.rooms := by
  intro ps
  induction ps with
  | nil => intro s _ _; simp
  | cons p ps ih =>
    intro s hkey hnd
    have hp : p.2.invoice = p.1 := hkey p (by simp)
    have hany : s.intents.any (·.1 == p.1) = false := by
      rw [List.map_append, List.nodup_append] at hnd
      refine List.any_eq_false.2 fun q hq hqp => ?_
      exact hnd.2.2 q.1 (List.mem_map_of_mem hq) p.1 (by simp) (by simpa using hqp)
    have hstep : (s.replayEvent (.intentCreated p.2)).intents = s.intents ++ [p] := by
      rw [replayEvent_intentCreated, hp, fileIntent_intents, hany]
      rfl
    obtain ⟨h₁, h₂⟩ := ih _ (fun q hq => hkey q (by simp [hq])) (by rw [hstep]; simpa using hnd)
    simp only [List.map_cons, List.foldl_cons]
    exact ⟨by rw [h₁, hstep]; simp, by rw [h₂]; simp⟩

theorem WellFormed.room_ids_nodup (hw : e.WellFormed) {r : RoomBookings} (hr : r ∈ e.rooms) :
    (r.bookings.map (·.id)).Nodup := by
  have h := hw.ids_nodup
  simp only [owners, List.map_flatMap, List.map_map] at h
  exact (List.nodup_flatMap.1 h).1 r hr

/-- A snapshot rebuilds the records of the well-formed engine it was taken of. -/
theorem replayed_snapshot (hw : e.WellFormed) : SameRecords (replayed e.snapshot) e := by
  let sorted := e.intents.mergeSort fun a b => decide (a.1 ≤ b.1)
  have hperm : sorted.Perm e.intents := List.mergeSort_perm _ _
  obtain ⟨h₁, h₂⟩ := foldl_replay_rooms e.rooms {} (by simpa using hw.rooms_nodup)
    fun r hr => ⟨hw.rooms_nonempty r hr, hw.booking_room r hr, hw.sorted r hr, hw.room_ids_nodup hr⟩
  obtain ⟨h₃, h₄⟩ := foldl_replay_intents sorted _
    (fun p hp => hw.intent_key p (hperm.subset hp))
    (by rw [h₂]; simpa using (hperm.map (·.1)).nodup_iff.2 hw.intents_nodup)
  unfold replayed snapshot
  rw [List.foldl_append]
  exact ⟨by rw [h₄, h₁]; rfl, by rw [h₃, h₂]; exact hperm⟩

/-! ### Opening an engine on a file -/

/-- Enter a booking's room in the booking-to-room map, replacing the entry with its id, as
opening an engine does. -/
def fileOwner (acc : List (Ulid × Ulid)) : Ulid × Ulid → List (Ulid × Ulid)
  | (b, r) => if acc.any (·.1 == b) then acc.map fun x => if x.1 == b then (b, r) else x
    else acc ++ [(b, r)]

theorem foldl_fileOwner : ∀ (l acc : List (Ulid × Ulid)), ((acc ++ l).map (·.1)).Nodup →
    l.foldl fileOwner acc = acc ++ l := by
  intro l
  induction l with
  | nil => intro acc _; simp
  | cons p l ih =>
    intro acc hnd
    obtain ⟨b, r⟩ := p
    have hany : acc.any (·.1 == b) = false := by
      rw [List.map_append, List.nodup_append] at hnd
      refine List.any_eq_false.2 fun q hq hqb => ?_
      exact hnd.2.2 q.1 (List.mem_map_of_mem hq) b (by simp) (by simpa using hqb)
    have hstep : fileOwner acc (b, r) = acc ++ [(b, r)] := by simp [fileOwner, hany]
    rw [List.foldl_cons, hstep, ih _ (by simpa using hnd)]
    simp

variable (file : ByteArray) (th : Nat)

theorem ofFile_rooms :
    (ofFile file th).rooms = ((Journal.replay file).foldl replayEvent { file }).rooms := by
  dsimp only [ofFile]; split <;> rfl

theorem ofFile_intents :
    (ofFile file th).intents = ((Journal.replay file).foldl replayEvent { file }).intents := by
  dsimp only [ofFile]; split <;> rfl

theorem ofFile_bookingRooms : (ofFile file th).bookingRooms = (ofFile file th).owners.foldl fileOwner [] := by
  dsimp only [ofFile]; split <;> rfl

/-- Opening keeps the file, or replaces it by the snapshot of the engine it opens. -/
theorem ofFile_file :
    (ofFile file th).file = file ∨ (ofFile file th).file = Journal.ofEvents (ofFile file th).snapshot := by
  dsimp only [ofFile]; split
  · exact .inr rfl
  · exact .inl (foldl_replayEvent_file _ _)

theorem ofFile_file_of_length_le (h : (Journal.replay file).length ≤ th) :
    (ofFile file th).file = file := by
  dsimp only [ofFile]; split
  · rename_i hcompact
    simp only [Bool.and_eq_true, decide_eq_true_eq] at hcompact
    omega
  · exact foldl_replayEvent_file _ _

/-- Opening an engine on a file rebuilds the records of the events the file holds. -/
theorem ofFile_sameRecords : SameRecords (ofFile file th) (replayed (Journal.replay file)) := by
  have h : SameRecords ((Journal.replay file).foldl replayEvent { file }) (replayed (Journal.replay file)) :=
    (⟨rfl, List.Perm.refl _⟩ : SameRecords ({ file } : Engine) {}).foldl_replayEvent _
  exact ⟨(ofFile_rooms file th).trans h.rooms, (ofFile_intents file th) ▸ h.intents⟩

theorem ofFile_bookingRooms_eq (h : ((ofFile file th).owners.map (·.1)).Nodup) :
    (ofFile file th).bookingRooms = (ofFile file th).owners := by
  rw [ofFile_bookingRooms, foldl_fileOwner _ [] (by simpa using h), List.nil_append]

end Engine

end StudioRental
