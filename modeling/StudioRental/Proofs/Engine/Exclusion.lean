import StudioRental.Proofs.Engine.Restart

/-!
No double booking.

Two bookings of a room that both hold it are kept apart by the check on entry: on a room's
bookings in order of start, the search finds every booking whose span overlaps the new one
(`RoomBookings.overlapping_eq`), as long as no booking starts in a leap second, whose
milliseconds run into the next second. A change keeps a booking's time and never gives a
cancelled booking its slot back, and a restart rebuilds the same rooms. So in every state of a
run the millisecond spans of a room's slot holders are pairwise apart (`Exclusive`).

What an operation can do to the rooms is said once (`step_rooms`): nothing, enter a booking,
or change one in place. Each property of the stored bookings is derived from it.

The check works on milliseconds while the records keep nanoseconds. Where every time the run
enters lies on a whole millisecond outside a leap second, milliseconds order instants as they
are, and no instant lies in two slot holders of a room (`slot_holders_disjoint`).
-/

theorem List.Pairwise.replace_mid {α : Type} {R : α → α → Prop} {l₁ l₂ : List α} {c n : α}
    (h : (l₁ ++ c :: l₂).Pairwise R) (hl : ∀ a, R a c → R a n) (hr : ∀ b, R c b → R n b) :
    (l₁ ++ n :: l₂).Pairwise R := by
  rw [List.pairwise_append, List.pairwise_cons] at h ⊢
  obtain ⟨h₁, ⟨hc, h₂⟩, h₁₂⟩ := h
  refine ⟨h₁, ⟨fun b hb => hr b (hc b hb), h₂⟩, fun a ha b hb => ?_⟩
  rcases List.mem_cons.1 hb with rfl | hb
  · exact hl a (h₁₂ a ha _ List.mem_cons_self)
  · exact h₁₂ a ha b (List.mem_cons_of_mem c hb)

namespace StudioRental

namespace Instant

theorem lt_def {a b : Instant} :
    a < b ↔ a.seconds < b.seconds ∨ (a.seconds = b.seconds ∧ a.frac < b.frac) := Iff.rfl

theorem not_lt_of_le {a b : Instant} (h : a ≤ b) : ¬ b < a := by
  rw [le_def] at h
  rw [lt_def]
  omega

theorem lt_of_lt_of_le {a b c : Instant} (hab : a < b) (hbc : b ≤ c) : a < c := by
  rw [lt_def] at *
  rw [le_def] at hbc
  omega

/-- An instant on a whole millisecond, outside a leap second. -/
def OnMillisecond (t : Instant) : Prop := t.frac % nanosPerMilli = 0 ∧ t.frac < nanosPerSecond

instance (t : Instant) : Decidable t.OnMillisecond := inferInstanceAs (Decidable (_ ∧ _))

theorem le_of_millis_le {a b : Instant} (ha : a.OnMillisecond) (hb : b.OnMillisecond)
    (h : a.millis ≤ b.millis) : a ≤ b := by
  obtain ⟨ha₁, ha₂⟩ := ha
  obtain ⟨hb₁, hb₂⟩ := hb
  simp only [millis, nanosPerMilli] at h ha₁ hb₁
  unfold nanosPerSecond at ha₂ hb₂
  rw [le_def]
  omega

end Instant

namespace Span

theorem overlaps_comm (a b : Span) : a.overlaps b = b.overlaps a := by
  simp [overlaps, Bool.and_comm]

theorem overlaps_eq_false {a b : Span} : a.overlaps b = false ↔ b.stop ≤ a.start ∨ a.stop ≤ b.start := by
  unfold overlaps
  rw [Bool.and_eq_false_iff, decide_eq_false_iff_not, decide_eq_false_iff_not]
  omega

end Span

namespace Booking

/-- Two bookings that both hold their slot have spans that do not overlap. -/
def Apart (a b : Booking) : Prop :=
  a.status.holdsSlot = true → b.status.holdsSlot = true → a.span.overlaps b.span = false

theorem Apart.symm {a b : Booking} (h : a.Apart b) : b.Apart a := fun hb ha => by
  rw [Span.overlaps_comm]
  exact h ha hb

theorem Apart.amends {a b b' : Booking} (h : a.Apart b) (hb : b'.Amends b) : a.Apart b' := by
  intro ha hb'
  have hspan : b'.span = b.span := by simp [span, hb.start, hb.stop]
  rw [hspan]
  exact h ha (hb.holdsSlot hb')

/-- Two slot holders whose times lie on whole milliseconds and whose spans do not overlap share
no instant. -/
theorem Apart.no_common_instant {a b : Booking} (h : a.Apart b)
    (ha : a.start.OnMillisecond ∧ a.stop.OnMillisecond)
    (hb : b.start.OnMillisecond ∧ b.stop.OnMillisecond) (hsa : a.status.holdsSlot = true)
    (hsb : b.status.holdsSlot = true) (t : Instant) :
    ¬ (a.start ≤ t ∧ t < a.stop ∧ b.start ≤ t ∧ t < b.stop) := by
  rintro ⟨hat, hta, hbt, htb⟩
  have hsep : b.stop.millis ≤ a.start.millis ∨ a.stop.millis ≤ b.start.millis :=
    Span.overlaps_eq_false.1 (h hsa hsb)
  rcases hsep with hsep | hsep
  · -- `b` ends before `a` starts
    exact Instant.not_lt_of_le hat
      (Instant.lt_of_lt_of_le htb (Instant.le_of_millis_le hb.2 ha.1 hsep))
  · exact Instant.not_lt_of_le hbt
      (Instant.lt_of_lt_of_le hta (Instant.le_of_millis_le ha.2 hb.1 hsep))

end Booking

namespace Engine

variable {e : Engine}

/-! ### What an operation does to the rooms -/

/-- An operation leaves the rooms as they are, enters a booking, or changes one. -/
theorem step_rooms (h : e.Recoverable) (op : Op) :
    (e.step op).rooms = e.rooms ∨
    (∃ b b', op = .insertBooking b ∧ e.insertBooking b = .ok (b', e.step op)) ∨
    (∃ id c b', op = .modifyBooking id c ∧ e.modifyBooking id c.apply = .ok ((b', true), e.step op)) := by
  cases op with
  | insertBooking b =>
    cases hcall : e.insertBooking b with
    | error => exact .inl (by simp [step, hcall, settle])
    | ok res => exact .inr (.inl ⟨b, res.1, rfl, by simp [step, hcall, settle]⟩)
  | modifyBooking id c =>
    cases hcall : e.modifyBooking id c.apply with
    | error => exact .inl (by simp [step, hcall, settle])
    | ok res =>
      obtain ⟨⟨b', changed⟩, e'⟩ := res
      cases changed with
      | true => exact .inr (.inr ⟨id, c, b', rfl, by simp [step, hcall, settle]⟩)
      | false =>
        obtain ⟨_, _, _, _, -, -, -, -, ⟨-, -, -, rfl⟩ | ⟨-, -, -, -, hc, -⟩⟩ :=
          e.modifyBooking_eq_ok hcall
        · exact .inl (by simp [step, hcall, settle])
        · cases hc
  | insertIntent i =>
    left
    cases hcall : e.insertIntent i with
    | error => simp [step, hcall, settle]
    | ok res =>
      obtain ⟨-, -, -, he⟩ := e.insertIntent_eq_ok hcall
      simp [step, hcall, settle, he]
  | modifyIntent n c =>
    left
    cases hcall : e.modifyIntent n fun i => .ok (c.apply i) with
    | error => simp [step, hcall, settle]
    | ok res =>
      obtain ⟨current, -, -, ⟨-, -, he⟩ | ⟨-, -, he⟩⟩ := e.modifyIntent_eq_ok hcall <;>
        simp [step, hcall, settle, he]
  | compact => exact .inl rfl
  | restart th => exact .inl (h.restart th).rooms

variable {e' : Engine} {b' : Booking}

theorem mem_rooms_insertBooking (hw : e.WellFormed) {b : Booking}
    (h : e.insertBooking b = .ok (b', e')) {r : RoomBookings} (hr : r ∈ e'.rooms) :
    r ∈ e.rooms ∨ r = ((e.room? b.room).getD { room := b.room }).insert b := by
  obtain ⟨-, -, -, -, -, he⟩ := e.insertBooking_eq_ok h
  rw [he] at hr
  simp only [updateRoom_record, record_rooms] at hr
  rcases mem_updateRoom hw.rooms_nodup hr with ⟨hr, -⟩ | rfl
  · exact .inl hr
  · exact .inr rfl

theorem mem_rooms_modifyBooking (hw : e.WellFormed) {id : Ulid}
    {f : Booking → Except Error Booking} (hf : ∀ x y, f x = .ok y → y.Amends x)
    (h : e.modifyBooking id f = .ok ((b', true), e')) :
    ∃ r current l₁ l₂, r ∈ e.rooms ∧ r.bookings = l₁ ++ current :: l₂ ∧ b'.Amends current ∧
      f current = .ok b' ∧ ∀ q ∈ e'.rooms, q ∈ e.rooms ∨ q.bookings = l₁ ++ b' :: l₂ := by
  obtain ⟨room, r, current, next, -, hr, hcur, hnext, ⟨-, -, hc, -⟩ | ⟨-, -, -, rfl, -, he⟩⟩ :=
    e.modifyBooking_eq_ok h
  · cases hc
  obtain ⟨hrmem, -⟩ := e.room?_eq_some hr
  obtain ⟨hcid, -⟩ := RoomBookings.find?_eq_some r hcur
  have hamend := hf current _ hnext
  obtain ⟨l₁, l₂, hl, hrep⟩ :=
    RoomBookings.replace_of_find? r b' (by rw [hamend.id, hcid]; exact hcur)
  refine ⟨r, current, l₁, l₂, hrmem, hl, hamend, hnext, fun q hq => ?_⟩
  rw [he] at hq
  simp only [updateRoom_record, record_rooms] at hq
  rcases mem_updateRoom hw.rooms_nodup hq with ⟨hq, -⟩ | rfl
  · exact .inl hq
  · right
    simp only [hr, Option.getD_some, hrep]

/-- Every booking the engine holds satisfies `P`. -/
def AllBookings (P : Booking → Prop) (e : Engine) : Prop :=
  ∀ r ∈ e.rooms, ∀ b ∈ r.bookings, P b

/-- A property of bookings that changes keep holds of every booking a step leaves, when it
holds of those before and of a booking the step enters. -/
theorem AllBookings.step {P : Booking → Prop} (h : e.Recoverable) (hP : e.AllBookings P)
    (hkeep : ∀ a b : Booking, b.Amends a → P a → P b) {op : Op}
    (hins : ∀ b, op = .insertBooking b → P b) : (e.step op).AllBookings P := by
  have hw := h.wellFormed
  rcases step_rooms h op with hrooms | ⟨b, b', rfl, hcall⟩ | ⟨id, c, b', rfl, hcall⟩
  · rw [AllBookings, hrooms]
    exact hP
  · intro r hr x hx
    rcases mem_rooms_insertBooking hw hcall hr with hr | rfl
    · exact hP r hr x hx
    · rcases (RoomBookings.mem_insert _ b).1 hx with rfl | hx
      · exact hins x rfl
      · obtain ⟨-, hq | hq⟩ := e.room?_getD_cases b.room
        · exact hP _ hq x hx
        · rw [hq] at hx
          simp at hx
  · obtain ⟨r, current, l₁, l₂, hr, hl, hamend, -, hrooms⟩ :=
      mem_rooms_modifyBooking hw (fun _ _ => c.apply_amends) hcall
    intro q hq x hx
    rcases hrooms q hq with hq | hbk
    · exact hP q hq x hx
    · -- the changed room holds the old bookings and the changed one
      rw [hbk, List.mem_append, List.mem_cons] at hx
      rcases hx with hx | rfl | hx
      · exact hP r hr x (by simp [hl, hx])
      · exact hkeep current _ hamend (hP r hr current (by simp [hl]))
      · exact hP r hr x (by simp [hl, hx])

/-- In each room, the bookings that hold it are pairwise apart. -/
def Exclusive (e : Engine) : Prop := ∀ r ∈ e.rooms, r.bookings.Pairwise Booking.Apart

/-- Each step keeps the slot holders of a room apart, while no booking starts in a leap
second. -/
theorem Exclusive.step (h : e.Recoverable) (hx : e.Exclusive)
    (hleap : e.AllBookings fun b => b.start.frac < Instant.nanosPerSecond)
    (hins : ∀ b, op = .insertBooking b → b.start.frac < Instant.nanosPerSecond) :
    (e.step op).Exclusive := by
  have hw := h.wellFormed
  rcases step_rooms h op with hrooms | ⟨b, b', rfl, hcall⟩ | ⟨id, c, b', rfl, hcall⟩
  · rw [Exclusive, hrooms]
    exact hx
  · obtain ⟨-, -, -, hov, -, he⟩ := e.insertBooking_eq_ok hcall
    obtain ⟨-, -, hqsorted⟩ := hw.found b.room
    obtain ⟨-, hqcases⟩ := e.room?_getD_cases b.room
    set q := (e.room? b.room).getD { room := b.room }
    -- the room entered, before the booking, keeps its slot holders apart and holds no
    -- leap-second start
    have hqx : q.bookings.Pairwise Booking.Apart ∧
        ∀ x ∈ q.bookings, x.start.frac < Instant.nanosPerSecond := by
      rcases hqcases with hmem | hempty
      · exact ⟨hx _ hmem, hleap _ hmem⟩
      · rw [hempty]
        exact ⟨List.Pairwise.nil, by simp⟩
    -- the search finds every slot holder the new booking overlaps, and it found none
    have hfree : ∀ x ∈ q.bookings, b.Apart x := by
      intro x hxm hb hxs
      by_contra hover
      have hxo : x.span.overlaps b.span = true := by
        rw [Span.overlaps_comm]
        simpa using hover
      have hfound : x ∈ q.activeOverlapping b.span := by
        rw [RoomBookings.activeOverlapping,
          RoomBookings.overlapping_eq _ _ (hqsorted.spanSorted hqx.2)]
        simp [hxm, hxo, hxs]
      rw [hov hb] at hfound
      exact List.not_mem_nil hfound
    intro r hr
    rcases mem_rooms_insertBooking hw hcall hr with hr | rfl
    · exact hx r hr
    · have hcons : (b :: q.bookings).Pairwise Booking.Apart :=
        List.pairwise_cons.2 ⟨hfree, hqx.1⟩
      exact ((RoomBookings.insert_perm _ b).pairwise_iff fun h => h.symm).2 hcons
  · obtain ⟨r, current, l₁, l₂, hr, hl, hamend, -, hrooms⟩ :=
      mem_rooms_modifyBooking hw (fun _ _ => c.apply_amends) hcall
    intro q hq
    rcases hrooms q hq with hq | hbk
    · exact hx q hq
    · -- the changed booking is apart from whatever the booking it replaces was apart from
      have hold := hx r hr
      rw [hl] at hold
      rw [hbk]
      exact hold.replace_mid (fun a ha => ha.amends hamend)
        (fun a ha => (ha.symm.amends hamend).symm)

/-! ### Along a run -/

/-- A property of bookings that changes keep, and that every booking a run enters has, holds of
every booking in every state of the run. -/
theorem allBookings_run {P : Booking → Prop} (hkeep : ∀ a b : Booking, b.Amends a → P a → P b)
    (ops : List Op) (hread : ∀ pre, pre <+: ops → (({} : Engine).run pre).Readable)
    (hins : ∀ b, Op.insertBooking b ∈ ops → P b) : (({} : Engine).run ops).AllBookings P := by
  have hrun := run_induction (fun e => e.Recoverable ∧ e.AllBookings P) Readable ops
    (fun _ op hop ⟨h, hP⟩ hr => ⟨h.step op hr, hP.step h hkeep fun b hb => hins b (hb ▸ hop)⟩)
    {} ⟨Recoverable.empty, fun r hr => absurd hr List.not_mem_nil⟩ hread
  exact hrun.2

/-- A run that enters no booking starting in a leap second keeps the slot holders of every room
apart. -/
theorem exclusive_run (ops : List Op) (hread : ∀ pre, pre <+: ops → (({} : Engine).run pre).Readable)
    (hleap : ∀ b, Op.insertBooking b ∈ ops → b.start.frac < Instant.nanosPerSecond) :
    (({} : Engine).run ops).Exclusive := by
  -- the leap-second bound is carried along with the exclusion, which needs it at each step
  have hkeep : ∀ a b : Booking, b.Amends a → a.start.frac < Instant.nanosPerSecond →
      b.start.frac < Instant.nanosPerSecond := fun a b hab ha => hab.start ▸ ha
  have hrun := run_induction
    (fun e => e.Recoverable ∧ e.AllBookings (fun b => b.start.frac < Instant.nanosPerSecond) ∧
      e.Exclusive) Readable ops
    (fun _ op hop ⟨h, hl, hx⟩ hr =>
      have hins : ∀ b, op = .insertBooking b → b.start.frac < Instant.nanosPerSecond :=
        fun b hb => hleap b (hb ▸ hop)
      ⟨h.step op hr, hl.step h hkeep hins, hx.step h hl hins⟩)
    {} ⟨Recoverable.empty, fun r hr => absurd hr List.not_mem_nil,
      fun r hr => absurd hr List.not_mem_nil⟩ hread
  exact hrun.2.2

/-- No double booking. In every state of a run, through failed calls, compactions and restarts,
two bookings of a room that both hold it have millisecond spans that do not overlap, as long as
no booking entered starts in a leap second; and where every time entered lies on a whole
millisecond outside a leap second, no instant lies in both. -/
theorem slot_holders_disjoint (ops : List Op)
    (hread : ∀ pre, pre <+: ops → (({} : Engine).run pre).Readable) :
    ((∀ b, Op.insertBooking b ∈ ops → b.start.frac < Instant.nanosPerSecond) →
      ∀ r ∈ (({} : Engine).run ops).rooms, r.bookings.Pairwise fun a b =>
        a.status.holdsSlot = true → b.status.holdsSlot = true →
          a.span.overlaps b.span = false) ∧
    ((∀ b, Op.insertBooking b ∈ ops → b.start.OnMillisecond ∧ b.stop.OnMillisecond) →
      ∀ r ∈ (({} : Engine).run ops).rooms, r.bookings.Pairwise fun a b =>
        a.status.holdsSlot = true → b.status.holdsSlot = true →
          ∀ t : Instant, ¬ (a.start ≤ t ∧ t < a.stop ∧ b.start ≤ t ∧ t < b.stop)) := by
  refine ⟨fun hleap => exclusive_run ops hread hleap, fun hon r hr => ?_⟩
  have hx := exclusive_run ops hread fun b hb => (hon b hb).1.2
  have hall : (({} : Engine).run ops).AllBookings fun b =>
      b.start.OnMillisecond ∧ b.stop.OnMillisecond :=
    allBookings_run (fun a b hab ha => by rw [hab.start, hab.stop]; exact ha) ops hread hon
  exact (hx r hr).imp_of_mem fun ha hb hab =>
    hab.no_common_instant (hall r hr _ ha) (hall r hr _ hb)

theorem sessionBooking_slot_holders_disjoint :
    (∀ pre, pre <+: sessionCalls ++ [.restart 0] → (({} : Engine).run pre).Readable) ∧
    (∀ b, Op.insertBooking b ∈ sessionCalls ++ [.restart 0] →
      b.start.frac < Instant.nanosPerSecond) ∧
    (∀ b, Op.insertBooking b ∈ sessionCalls ++ [.restart 0] →
      b.start.OnMillisecond ∧ b.stop.OnMillisecond) ∧
    (∀ r ∈ (({} : Engine).run (sessionCalls ++ [.restart 0])).rooms,
      r.bookings.Pairwise fun a b => a.status.holdsSlot = true → b.status.holdsSlot = true →
        a.span.overlaps b.span = false) ∧
    (∀ r ∈ (({} : Engine).run (sessionCalls ++ [.restart 0])).rooms,
      r.bookings.Pairwise fun a b => a.status.holdsSlot = true → b.status.holdsSlot = true →
        ∀ t : Instant, ¬ (a.start ≤ t ∧ t < a.stop ∧ b.start ≤ t ∧ t < b.stop)) := by
  have hon : ∀ b, Op.insertBooking b ∈ sessionCalls ++ [.restart 0] →
      b.start.OnMillisecond ∧ b.stop.OnMillisecond := by
    intro b hb
    simp [sessionCalls] at hb
    rcases hb with rfl | rfl | rfl | rfl <;> decide
  have hleap : ∀ b, Op.insertBooking b ∈ sessionCalls ++ [.restart 0] →
      b.start.frac < Instant.nanosPerSecond := fun b hb => (hon b hb).1.2
  have h := slot_holders_disjoint (sessionCalls ++ [.restart 0]) readable_sessionCalls_restart
  exact ⟨readable_sessionCalls_restart, hleap, hon, h.1 hleap, h.2 hon⟩

end Engine

end StudioRental
