import StudioRental.Proofs.Engine.Snapshot
import StudioRental.Proofs.Journal.Layout
import Mathlib.Data.List.Infix

/-!
Restarting the engine on its journal.

A call that changes a record journals the event that replays to the change
(`replayEvent_insertBooking` and the three after it): replay upserts where the call inserted
or replaced, and on a well-formed engine the two agree. So the journal of every state a run
reaches rebuilds that state (`Recoverable`): it is made of the frames of readable events whose
replay gives the state's records. A compaction replaces the events by the snapshot, which
rebuilds the same records (`replayed_snapshot`); opening an engine on such a journal gives the
same records and the same booking-to-room map (`sameState_ofFile`), whether or not it compacts.

The statements take as a hypothesis that the events of each state read back (`Engine.Readable`).
That holds of a state whose records are in range and small enough for a frame
(`Readable.of_recordsInRange`, from `Event.readable_of_inRange`), and a restart passes it on
(`readable_run_restart`).

Main statement: `restart_restores_state`.
-/

namespace StudioRental

namespace Engine

/-- Two engines in the same state: the same rooms holding the same bookings in the same order,
the same booking-to-room map, and the same intents under the same numbers. -/
structure SameState (e e' : Engine) : Prop extends SameRecords e e' where
  bookingRooms : e.bookingRooms.Perm e'.bookingRooms

variable {e e' : Engine}

theorem SameRecords.owners (h : SameRecords e e') : e.owners = e'.owners := by
  rw [Engine.owners, Engine.owners, h.rooms]

theorem WellFormed.of_sameState (hw : e.WellFormed) (h : SameState e' e) : e'.WellFormed where
  rooms_nodup := h.rooms ▸ hw.rooms_nodup
  rooms_nonempty := h.rooms ▸ hw.rooms_nonempty
  booking_room := h.rooms ▸ hw.booking_room
  sorted := h.rooms ▸ hw.sorted
  ids_nodup := h.toSameRecords.owners ▸ hw.ids_nodup
  bookingRooms := h.toSameRecords.owners ▸ h.bookingRooms.trans hw.bookingRooms
  intent_key := fun p hp => hw.intent_key p (h.intents.subset hp)
  intents_nodup := (h.intents.map (·.1)).nodup_iff.2 hw.intents_nodup

theorem Readable.of_sameRecords (hr : e.Readable) (h : SameRecords e' e) : e'.Readable where
  bookings := h.rooms ▸ hr.bookings
  intents := fun p hp => hr.intents p (h.intents.subset hp)

theorem Readable.snapshot (hr : e.Readable) : ∀ ev ∈ e.snapshot, ev.Readable := by
  intro ev hev
  simp only [Engine.snapshot, List.mem_append, List.mem_flatMap, List.mem_map] at hev
  rcases hev with ⟨r, hr', b, hb, rfl⟩ | ⟨p, hp, rfl⟩
  · exact (hr.bookings r hr' b hb).1
  · exact (hr.intents p ((List.mergeSort_perm _ _).subset hp)).1

/-! ### Each change is journalled as the event that replays to it -/

/-- A new booking is what its creation event replays to. -/
theorem replayEvent_insertBooking (hw : e.WellFormed) {b b' : Booking}
    (h : e.insertBooking b = .ok (b', e')) : SameRecords (e.replayEvent (.bookingCreated b)) e' := by
  obtain ⟨-, hfresh, -, -, -, rfl⟩ := e.insertBooking_eq_ok h
  -- the id is in no room, so replay inserts where the call inserted
  have hnew : ((e.room? b.room).getD { room := b.room }).find? b.id = none := by
    rw [RoomBookings.find?_eq_none]
    intro x hx hxb
    obtain ⟨-, hmem | hempty⟩ := e.room?_getD_cases b.room
    · have hown : (x.id, ((e.room? b.room).getD { room := b.room }).room) ∈ e.owners :=
        List.mem_flatMap.2 ⟨_, hmem, List.mem_map.2 ⟨x, hx, rfl⟩⟩
      exact hw.fresh hfresh (List.mem_map.2 ⟨_, hown, hxb⟩)
    · rw [hempty] at hx
      simp at hx
  refine ⟨?_, by simp⟩
  simp only [replayEvent_bookingCreated, updateRoom_record, record_rooms]
  exact updateRoom_congr hw.rooms_nodup (RoomBookings.upsert_of_find?_none _ _ hnew)

theorem replayEvent_modifyBooking (hw : e.WellFormed) {id : Ulid}
    {f : Booking → Except Error Booking} (hf : ∀ x y, f x = .ok y → y.Amends x) {b' : Booking}
    (h : e.modifyBooking id f = .ok ((b', true), e')) :
    SameRecords (e.replayEvent (.bookingChanged b')) e' := by
  obtain ⟨room, r, current, next, -, hr, hcur, hnext, ⟨-, -, hc, -⟩ | ⟨-, -, -, rfl, -, rfl⟩⟩ :=
    e.modifyBooking_eq_ok h
  · cases hc
  have hamend := hf current b' hnext
  obtain ⟨hrmem, hrroom⟩ := e.room?_eq_some hr
  obtain ⟨hcid, l₁, l₂, hl, -⟩ := RoomBookings.find?_eq_some r hcur
  have hfind : r.find? b'.id = some current := by rw [hamend.id, hcid]; exact hcur
  -- the changed booking is in the room found, so replay replaces it where the call did
  have hroom : b'.room = room :=
    hamend.room.trans ((hw.booking_room r hrmem current (by simp [hl])).trans hrroom)
  refine ⟨?_, by simp⟩
  simp only [replayEvent_bookingChanged, updateRoom_record, record_rooms]
  rw [hroom]
  exact updateRoom_congr hw.rooms_nodup (by rw [hr]; exact RoomBookings.upsert_of_find?_some _ _ hfind)

theorem replayEvent_insertIntent {i i' : Intent} (h : e.insertIntent i = .ok (i', e')) :
    SameRecords (e.replayEvent (.intentCreated i)) e' := by
  obtain ⟨-, -, -, rfl⟩ := e.insertIntent_eq_ok h
  exact ⟨by simp, by simp⟩

theorem replayEvent_modifyIntent {α : Type} (hw : e.WellFormed) {n : Int}
    {f : Intent → Except Error (Intent × α)}
    (hf : ∀ x y o, f x = .ok (y, o) → y.invoice = x.invoice) {i : Intent} {out : α}
    (h : e.modifyIntent n f = .ok ((i, true, out), e')) :
    SameRecords (e.replayEvent (.intentChanged i)) e' := by
  obtain ⟨current, hcur, hres, ⟨-, hc, -⟩ | ⟨-, -, rfl⟩⟩ := e.modifyIntent_eq_ok h
  · cases hc
  have hkey : i.invoice = n :=
    (hf current i out hres).trans (hw.intent_key _ (e.getIntent_eq_some hcur))
  rw [replayEvent_intentChanged, hkey]
  exact ⟨by simp, by simp⟩

/-! ### States whose journal rebuilds them -/

/-- The journal rebuilds the engine: it is made of the frames of readable events whose replay
gives the engine's records; and the engine has the shape the calls keep. -/
structure Recoverable (e : Engine) : Prop where
  wellFormed : e.WellFormed
  journal : ∃ evs, e.file = Journal.ofEvents evs ∧ (∀ ev ∈ evs, ev.Readable) ∧
    SameRecords (replayed evs) e

theorem Recoverable.empty : ({} : Engine).Recoverable :=
  ⟨WellFormed.empty, [], rfl, by simp, SameRecords.refl _⟩

theorem Recoverable.of_snapshot (hw : e.WellFormed) (hr : e.Readable)
    (hfile : e.file = Journal.ofEvents e.snapshot) : e.Recoverable :=
  ⟨hw, e.snapshot, hfile, hr.snapshot, replayed_snapshot hw⟩

theorem sameState_ofFile_of_replay (hw : e.WellFormed) {file : ByteArray} {evs : List Event}
    (hrep : Journal.replay file = evs) (hsame : SameRecords (replayed evs) e) (th : Nat) :
    SameState (ofFile file th) e := by
  have hrec : SameRecords (ofFile file th) e := by
    have h := ofFile_sameRecords file th
    rw [hrep] at h
    exact h.trans hsame
  -- the rebuilt rooms are the engine's, so the map opening builds is the engine's owner pairs
  have howners := hrec.owners
  refine ⟨hrec, ?_⟩
  rw [ofFile_bookingRooms_eq _ _ (howners ▸ hw.ids_nodup), howners]
  exact hw.bookingRooms.symm

/-- Opening an engine on a journal of readable events that rebuild a well-formed engine gives
that engine's state. -/
theorem sameState_ofFile (hw : e.WellFormed) {file : ByteArray} {evs : List Event}
    (hfile : file = Journal.ofEvents evs) (hread : ∀ ev ∈ evs, ev.Readable)
    (hsame : SameRecords (replayed evs) e) (th : Nat) : SameState (ofFile file th) e :=
  sameState_ofFile_of_replay hw (by rw [hfile, Journal.replay_ofEvents hread]) hsame th

/-- A state whose journal rebuilds it restarts into the same state. -/
theorem Recoverable.restart (h : e.Recoverable) (th : Nat) : SameState (ofFile e.file th) e := by
  obtain ⟨hw, evs, hfile, hread, hsame⟩ := h
  exact sameState_ofFile hw hfile hread hsame th

/-- Opening an engine on the snapshot of a well-formed engine whose records read back gives
that engine's state. -/
theorem sameState_ofFile_snapshot (hw : e.WellFormed) (hr : e.Readable) (th : Nat) :
    SameState (ofFile (Journal.ofEvents e.snapshot) th) e :=
  sameState_ofFile hw rfl hr.snapshot (replayed_snapshot hw) th

theorem Recoverable.ofFile (h : e.Recoverable) (th : Nat) (hr : (ofFile e.file th).Readable) :
    (ofFile e.file th).Recoverable := by
  have hsame := h.restart th
  have hw := h.wellFormed.of_sameState hsame
  obtain ⟨-, evs, hfile, hread, hrec⟩ := h
  rcases ofFile_file e.file th with hkeep | hcompact
  · exact ⟨hw, evs, hkeep.trans hfile, hread, hrec.trans hsame.toSameRecords.symm⟩
  · exact .of_snapshot hw hr hcompact

theorem Recoverable.append (h : e.Recoverable) {ev : Event} (hev : ev.Readable)
    (hw : e'.WellFormed) (hfile : e'.file = Journal.append e.file ev)
    (hsame : SameRecords (e.replayEvent ev) e') : e'.Recoverable := by
  obtain ⟨-, evs, hf, hread, hrec⟩ := h
  refine ⟨hw, evs ++ [ev], by rw [hfile, hf, Journal.ofEvents_concat], ?_, ?_⟩
  · intro x hx
    rcases List.mem_append.1 hx with hx | hx
    · exact hread x hx
    · rw [List.mem_singleton.1 hx]
      exact hev
  · rw [replayed_append, List.foldl_cons, List.foldl_nil]
    exact (hrec.replayEvent ev).trans hsame

/-- Every operation keeps the journal rebuilding the state, when the records of the state it
reaches read back. -/
theorem Recoverable.step (h : e.Recoverable) (op : Op) (hr : (e.step op).Readable) :
    (e.step op).Recoverable := by
  have hw := h.wellFormed
  cases op with
  | insertBooking b =>
    show (e.settle (e.insertBooking b)).Recoverable
    change (e.settle (e.insertBooking b)).Readable at hr
    cases hcall : e.insertBooking b with
    | error => exact h
    | ok res =>
      obtain ⟨b', e'⟩ := res
      rw [hcall] at hr
      change e'.Readable at hr
      show e'.Recoverable
      obtain ⟨-, -, -, -, -, rfl⟩ := e.insertBooking_eq_ok hcall
      -- the new booking is held by the room it entered
      have hmem : b ∈ (((e.room? b.room).getD { room := b.room }).insert b).bookings := by simp
      have hev := (hr.bookings _ (by simpa using mem_updateRoom_self hw.rooms_nodup) b hmem).1
      exact h.append hev (hw.insertBooking hcall) (by simp) (replayEvent_insertBooking hw hcall)
  | modifyBooking id c =>
    show (e.settle (e.modifyBooking id c.apply)).Recoverable
    change (e.settle (e.modifyBooking id c.apply)).Readable at hr
    cases hcall : e.modifyBooking id c.apply with
    | error => exact h
    | ok res =>
      obtain ⟨⟨b', changed⟩, e'⟩ := res
      rw [hcall] at hr
      change e'.Readable at hr
      show e'.Recoverable
      obtain ⟨room, r, current, next, -, hroom, hcur, hnext, ⟨-, -, -, rfl⟩ | ⟨-, -, -, rfl, rfl, rfl⟩⟩ :=
        e.modifyBooking_eq_ok hcall
      · exact h
      -- the changed booking is held by its room
      obtain ⟨hcid, -⟩ := RoomBookings.find?_eq_some r hcur
      have hfind : r.find? b'.id = some current := by
        rw [(c.apply_amends hnext).id, hcid]
        exact hcur
      obtain ⟨l₁, l₂, -, hrep⟩ := RoomBookings.replace_of_find? r b' hfind
      have hmem : b' ∈ (r.replace b').bookings := by simp [hrep]
      have hroomin : r.replace b' ∈ (e.updateRoom room (·.replace b')).rooms := by
        simpa [hroom] using @mem_updateRoom_self e room (·.replace b') hw.rooms_nodup
      have hev := (hr.bookings _ (by simpa using hroomin) b' hmem).2
      exact h.append hev (hw.modifyBooking (fun x y => c.apply_amends) hcall) (by simp)
        (replayEvent_modifyBooking hw (fun x y => c.apply_amends) hcall)
  | insertIntent i =>
    show (e.settle (e.insertIntent i)).Recoverable
    change (e.settle (e.insertIntent i)).Readable at hr
    cases hcall : e.insertIntent i with
    | error => exact h
    | ok res =>
      obtain ⟨i', e'⟩ := res
      rw [hcall] at hr
      change e'.Readable at hr
      show e'.Recoverable
      obtain ⟨-, -, -, rfl⟩ := e.insertIntent_eq_ok hcall
      have hev := (hr.intents _ (by simpa using @mem_fileIntent_self e i.invoice i)).1
      exact h.append hev (hw.insertIntent hcall) (by simp) (replayEvent_insertIntent hcall)
  | modifyIntent n c =>
    show (e.settle (e.modifyIntent n fun i => .ok (c.apply i))).Recoverable
    change (e.settle (e.modifyIntent n fun i => .ok (c.apply i))).Readable at hr
    -- a callback keeps the intent's number
    have hkeep : ∀ x y o, (fun i => (.ok (c.apply i) : Except Error (Intent × Verdict))) x = .ok (y, o) →
        y.invoice = x.invoice := fun x y o hxy => by
      have hy : y = (c.apply x).1 := by rw [Except.ok.inj hxy]
      rw [hy]
      exact c.invoice_apply x
    cases hcall : e.modifyIntent n fun i => .ok (c.apply i) with
    | error => exact h
    | ok res =>
      obtain ⟨⟨i, changed, out⟩, e'⟩ := res
      rw [hcall] at hr
      change e'.Readable at hr
      show e'.Recoverable
      obtain ⟨current, -, -, ⟨-, -, rfl⟩ | ⟨-, rfl, rfl⟩⟩ := e.modifyIntent_eq_ok hcall
      · exact h
      have hev := (hr.intents _ (by simpa using @mem_fileIntent_self e n i)).2
      exact h.append hev (hw.modifyIntent hkeep hcall) (by simp) (replayEvent_modifyIntent hw hkeep hcall)
  | compact => exact .of_snapshot hw.compact hr (compact_file e)
  | restart th => exact h.ofFile th hr

/-- A run from a state whose journal rebuilds it reaches only such states, when the records of
every state on the way read back. -/
theorem Recoverable.run (h : e.Recoverable) (ops : List Op)
    (hread : ∀ pre, pre <+: ops → (e.run pre).Readable) : (e.run ops).Recoverable :=
  run_induction Recoverable Readable ops (fun _ op _ h hr => h.step op hr) e h hread

/-- The journal of every state a run reaches from an empty engine rebuilds it, when the records
of every state on the way read back. -/
theorem recoverable_run (ops : List Op)
    (hread : ∀ pre, pre <+: ops → (({} : Engine).run pre).Readable) :
    (({} : Engine).run ops).Recoverable :=
  Recoverable.empty.run ops hread

/-! ### Restart equivalence -/

/-- Restarting after any run gives back the state before the restart, whether or not opening
compacts the journal, and opening the snapshot of the restarted state gives that state again;
a call changes the engine only by journalling the change, and a change that leaves the record
the same journals nothing. Assumes only that the records the run stores read back. -/
theorem restart_restores_state (ops : List Op)
    (hread : ∀ pre, pre <+: ops → (({} : Engine).run pre).Readable) (th th' : Nat) :
    let e := ({} : Engine).run ops
    let s := ofFile e.file th
    SameState s e ∧ SameState (ofFile (Journal.ofEvents s.snapshot) th') s ∧
      (∀ (x : Engine) (op : Op), op.isCall = true → (x.step op).file = x.file → x.step op = x) ∧
      (∀ (x x' : Engine) (id : Ulid) (f : Booking → Except Error Booking) (b : Booking),
        x.modifyBooking id f = .ok ((b, false), x') → x' = x) ∧
      (∀ (α : Type) (x x' : Engine) (n : Int) (f : Intent → Except Error (Intent × α)) (i : Intent)
        (out : α), x.modifyIntent n f = .ok ((i, false, out), x') → x' = x) := by
  intro e s
  have hrec : e.Recoverable := recoverable_run ops hread
  have hsame : SameState s e := hrec.restart th
  have hws : s.WellFormed := hrec.wellFormed.of_sameState hsame
  have hrs : s.Readable := (hread ops (List.prefix_refl ops)).of_sameRecords hsame.toSameRecords
  refine ⟨hsame, sameState_ofFile_snapshot hws hrs th', fun x op hop hfile => step_eq_of_file_eq hop hfile,
    ?_, ?_⟩
  · intro x x' id f b h
    obtain ⟨_, _, _, _, -, -, -, -, ⟨-, -, -, rfl⟩ | ⟨-, -, -, -, hc, -⟩⟩ := x.modifyBooking_eq_ok h
    · rfl
    · cases hc
  · intro α x x' n f i out h
    obtain ⟨_, -, -, ⟨-, -, rfl⟩ | ⟨-, hc, -⟩⟩ := x.modifyIntent_eq_ok h
    · rfl
    · cases hc

/-! ### Records that read back -/

/-- The records of a state are in range, and the event of each fits a frame. -/
def RecordsInRange (e : Engine) : Prop :=
  (∀ r ∈ e.rooms, ∀ b ∈ r.bookings, b.InRange ∧ b.encode.size + 4 < 2 ^ 32) ∧
    ∀ p ∈ e.intents, p.2.InRange ∧ p.2.encode.size + 4 < 2 ^ 32

instance : DecidablePred RecordsInRange := fun _ => inferInstanceAs (Decidable (_ ∧ _))

theorem Readable.of_recordsInRange (h : e.RecordsInRange) : e.Readable := by
  have hframe : ∀ (k : Nat) (x : ByteArray), x.size + 4 < 2 ^ 32 →
      (Binary.u32 k ++ x).size < 2 ^ 32 := by
    intro k x hx
    rw [ByteArray.size_append, Binary.size_u32]
    omega
  refine ⟨fun r hr b hb => ?_, fun p hp => ?_⟩
  · obtain ⟨hin, hs⟩ := h.1 r hr b hb
    exact ⟨Event.readable_of_inRange hin (hframe 0 _ hs),
      Event.readable_of_inRange hin (hframe 1 _ hs)⟩
  · obtain ⟨hin, hs⟩ := h.2 p hp
    exact ⟨Event.readable_of_inRange hin (hframe 2 _ hs),
      Event.readable_of_inRange hin (hframe 3 _ hs)⟩

/-- A run that ends in a restart reads back in every state when the states before the restart
hold their records in range: the restart rebuilds the records of the state before it. -/
theorem readable_run_restart {ops : List Op}
    (h : ∀ pre ∈ ops.inits, (({} : Engine).run pre).RecordsInRange) (th : Nat) :
    ∀ pre, pre <+: ops ++ [.restart th] → (({} : Engine).run pre).Readable := by
  have hread : ∀ pre, pre <+: ops → (({} : Engine).run pre).Readable :=
    fun pre hpre => .of_recordsInRange (h pre ((List.mem_inits _ _).2 hpre))
  intro pre hpre
  rcases List.prefix_concat_iff.1 hpre with rfl | hpre
  · have hrun : ({} : Engine).run (ops ++ [.restart th]) = ofFile (({} : Engine).run ops).file th := by
      rw [run_append]
      rfl
    rw [hrun]
    exact (hread ops (List.prefix_refl ops)).of_sameRecords
      ((recoverable_run ops hread).restart th).toSameRecords
  · exact hread pre hpre

theorem cents_scale_le : 2 ≤ maxScale := by decide

/-- A one-hour pending booking on 2045-03-13 from 10:00 UTC, at 150.00, with nil ids. -/
def sessionBooking : Booking where
  id := Ulid.nil
  room := Ulid.nil
  studio := Ulid.nil
  renter := Ulid.nil
  start := ⟨2373012000, 0⟩
  stop := ⟨2373015600, 0⟩
  totalPrice := ⟨false, 15000, 2, by decide, cents_scale_le⟩
  deposit := Decimal.zeroWith 0
  status := .pending
  payment := .unpaid
  notes := none
  cancellationReason := none
  createdAt := ⟨2366841600, 0⟩
  updatedAt := ⟨2366841600, 0⟩

theorem sessionBooking_readable :
    (Event.bookingCreated sessionBooking).Readable ∧ (Event.bookingChanged sessionBooking).Readable :=
  ⟨Event.readable_of_inRange (by decide) (by decide +kernel),
    Event.readable_of_inRange (by decide) (by decide +kernel)⟩

theorem readable_run_sessionBooking :
    ∀ pre, pre <+: [Op.insertBooking sessionBooking] → (({} : Engine).run pre).Readable := by
  have hrooms : (({} : Engine).run [.insertBooking sessionBooking]).rooms =
      [⟨Ulid.nil, [sessionBooking]⟩] := by decide +kernel
  have hintents : (({} : Engine).run [.insertBooking sessionBooking]).intents = [] := by
    decide +kernel
  intro pre hpre
  rcases List.prefix_cons_iff.1 hpre with rfl | ⟨t, rfl, ht⟩
  · exact ⟨by simp, by simp⟩
  · rw [List.prefix_nil.1 ht]
    refine ⟨fun r hr b hb => ?_, fun p hp => ?_⟩
    · rw [hrooms] at hr
      obtain rfl := List.mem_singleton.1 hr
      obtain rfl := List.mem_singleton.1 hb
      exact sessionBooking_readable
    · rw [hintents] at hp
      exact absurd hp List.not_mem_nil

/-- The identifier of a number, modulo `2 ^ 128`. -/
def sampleId (n : Nat) : Ulid := ⟨n % 2 ^ 128, Nat.mod_lt _ (Nat.two_pow_pos 128)⟩

/-- Calls on the room of `sessionBooking`: a second booking right after it, a third overlapping
both, which is refused, the first cancelled by its renter, a fourth in the freed hour, and a
compaction. -/
def sessionCalls : List Op :=
  [.insertBooking sessionBooking,
    .insertBooking { sessionBooking with
      id := sampleId 1, start := ⟨2373015600, 0⟩, stop := ⟨2373019200, 0⟩ },
    .insertBooking { sessionBooking with
      id := sampleId 2, start := ⟨2373013800, 0⟩, stop := ⟨2373017400, 0⟩ },
    .modifyBooking Ulid.nil ⟨.cancel "the band split up", .renter, ⟨2370000000, 0⟩⟩,
    .insertBooking { sessionBooking with
      id := sampleId 3, start := ⟨2373012000, 0⟩, stop := ⟨2373014700, 0⟩ },
    .compact]

-- the first booking is cancelled, the overlapping one refused, the fourth in the first's hour
example : ((({} : Engine).run sessionCalls).rooms.map fun r =>
    r.bookings.map fun b => (b.id.val, b.status)) = [[(0, .cancelled), (3, .pending), (1, .pending)]] := by
  decide +kernel

theorem readable_sessionCalls_restart :
    ∀ pre, pre <+: sessionCalls ++ [.restart 0] → (({} : Engine).run pre).Readable :=
  readable_run_restart (by decide +kernel) 0

theorem sessionBooking_restart_restores_state :
    (∀ pre, pre <+: sessionCalls ++ [.restart 0] → (({} : Engine).run pre).Readable) ∧
    (let e := ({} : Engine).run (sessionCalls ++ [.restart 0])
    let s := ofFile e.file 0
    SameState s e ∧ SameState (ofFile (Journal.ofEvents s.snapshot) 0) s ∧
      (∀ (x : Engine) (op : Op), op.isCall = true → (x.step op).file = x.file → x.step op = x) ∧
      (∀ (x x' : Engine) (id : Ulid) (f : Booking → Except Error Booking) (b : Booking),
        x.modifyBooking id f = .ok ((b, false), x') → x' = x) ∧
      (∀ (α : Type) (x x' : Engine) (n : Int) (f : Intent → Except Error (Intent × α)) (i : Intent)
        (out : α), x.modifyIntent n f = .ok ((i, false, out), x') → x' = x)) := by
  have h := restart_restores_state (sessionCalls ++ [.restart 0]) readable_sessionCalls_restart 0 0
  exact ⟨readable_sessionCalls_restart, h⟩

end Engine

end StudioRental
