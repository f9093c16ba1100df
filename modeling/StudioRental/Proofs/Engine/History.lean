import StudioRental.Proofs.Engine.Exclusion
import StudioRental.Proofs.Booking.Lifecycle

/-!
The history of each booking through the engine.

The service makes booking calls of two kinds only (`Op.OnBookings`): it enters a valid pending
booking, or makes a checked change. Each such call keeps every booking valid and moves each
booking one step on, or brings it in new and pending under an id no booking had
(`Engine.step_lifecycle`). A call on intents leaves the rooms, and one on bookings the intents,
so a call of the service that first files an intent and then changes a booking does the same
(`Engine.call_lifecycle`).
-/

namespace StudioRental

namespace Op

/-- The booking calls the service makes: a valid pending booking entered, or a checked change
made. -/
def OnBookings : Op → Prop
  | insertBooking b => b.Valid ∧ b.status = .pending
  | modifyBooking _ c => c.command.Checked
  | _ => False

/-- The calls on intents. -/
def OnIntents : Op → Prop
  | insertIntent _ | modifyIntent _ _ => True
  | _ => False

end Op

namespace Engine

variable {e : Engine}

theorem mem_bookings {b : Booking} : b ∈ e.bookings ↔ ∃ r ∈ e.rooms, b ∈ r.bookings :=
  List.mem_flatMap

/-- A booking after a step was held before it, or is the one the step entered under a new id, or
is what a change the step made gave of one held before. -/
theorem mem_bookings_step (h : e.Recoverable) {op : Op} {b' : Booking}
    (hb' : b' ∈ (e.step op).bookings) :
    b' ∈ e.bookings ∨ (op = .insertBooking b' ∧ e.roomOf? b'.id = none) ∨
      ∃ id c b, op = .modifyBooking id c ∧ b ∈ e.bookings ∧ c.apply b = .ok b' := by
  have hw := h.wellFormed
  obtain ⟨r', hr', hbr'⟩ := mem_bookings.1 hb'
  rcases step_rooms h op with hrooms | ⟨b, b'', rfl, hcall⟩ | ⟨id, c, b'', rfl, hcall⟩
  · exact .inl (mem_bookings.2 ⟨r', hrooms ▸ hr', hbr'⟩)
  · obtain ⟨-, hfresh, -, -, -, -⟩ := e.insertBooking_eq_ok hcall
    rcases mem_rooms_insertBooking hw hcall hr' with hr | rfl
    · exact .inl (mem_bookings.2 ⟨r', hr, hbr'⟩)
    · rcases (RoomBookings.mem_insert _ b).1 hbr' with rfl | hbq
      · exact .inr (.inl ⟨rfl, hfresh⟩)
      · -- the room entered held the booking before, or was empty
        obtain ⟨-, hq | hq⟩ := e.room?_getD_cases b.room
        · exact .inl (mem_bookings.2 ⟨_, hq, hbq⟩)
        · rw [hq] at hbq
          cases hbq
  · obtain ⟨r, current, l₁, l₂, hr, hl, -, hf, hrooms⟩ :=
      mem_rooms_modifyBooking hw (fun _ _ => c.apply_amends) hcall
    have hold : ∀ x, x ∈ l₁ ∨ x ∈ l₂ → x ∈ e.bookings := fun x hx =>
      mem_bookings.2 ⟨r, hr, by rw [hl]; rcases hx with hx | hx <;> simp [hx]⟩
    rcases hrooms r' hr' with hr'' | hbk
    · exact .inl (mem_bookings.2 ⟨r', hr'', hbr'⟩)
    · rw [hbk, List.mem_append, List.mem_cons] at hbr'
      rcases hbr' with hx | rfl | hx
      · exact .inl (hold _ (.inl hx))
      · exact .inr (.inr ⟨id, c, current, rfl, mem_bookings.2 ⟨r, hr, by simp [hl]⟩, hf⟩)
      · exact .inl (hold _ (.inr hx))

theorem id_ne_of_roomOf?_eq_none (hw : e.WellFormed) {id : Ulid} (h : e.roomOf? id = none)
    {b : Booking} (hb : b ∈ e.bookings) : b.id ≠ id := by
  obtain ⟨r, hr, hbr⟩ := mem_bookings.1 hb
  have hown : (b.id, r.room) ∈ e.owners := List.mem_flatMap.2 ⟨r, hr, List.mem_map_of_mem hbr⟩
  exact (e.roomOf?_eq_none).1 h _ (hw.bookingRooms.symm.subset hown)

/-- Each booking after a step is the booking it was one step on, or new and pending. -/
def Follows (e e' : Engine) : Prop :=
  ∀ b' ∈ e'.bookings, (∃ b ∈ e.bookings, b.Step b') ∨
    ((∀ b ∈ e.bookings, b.id ≠ b'.id) ∧ b'.status = .pending)

theorem Follows.of_rooms_eq {e' : Engine} (h : e'.rooms = e.rooms) : Follows e e' := by
  intro b' hb'
  rw [bookings, h] at hb'
  exact .inl ⟨b', hb', .refl b'⟩

theorem Follows.of_rooms_eq_left {e₁ e' : Engine} (h : e₁.rooms = e.rooms)
    (hf : Follows e₁ e') : Follows e e' := by
  unfold Follows bookings at *
  rwa [h] at hf

/-- A call on bookings as the service makes it keeps every booking valid, and moves each one
step on. -/
theorem step_lifecycle (h : e.Recoverable) (hv : ∀ b ∈ e.bookings, b.Valid) {op : Op}
    (hop : op.OnBookings) :
    (∀ b ∈ (e.step op).bookings, b.Valid) ∧ Follows e (e.step op) := by
  -- each booking after the step is read off the inversion lemma, and stands in one of its cases
  have hcases : ∀ b' ∈ (e.step op).bookings, b'.Valid ∧ ((∃ b ∈ e.bookings, b.Step b') ∨
      ((∀ b ∈ e.bookings, b.id ≠ b'.id) ∧ b'.status = .pending)) := by
    intro b' hb'
    rcases mem_bookings_step h hb' with hold | ⟨rfl, hfresh⟩ | ⟨id, c, b, rfl, hb, happ⟩
    · exact ⟨hv b' hold, .inl ⟨b', hold, .refl b'⟩⟩
    · obtain ⟨hvalid, hpending⟩ := hop
      have hne b (hb : b ∈ e.bookings) := id_ne_of_roomOf?_eq_none h.wellFormed hfresh hb
      exact ⟨hvalid, .inr ⟨hne, hpending⟩⟩
    · obtain ⟨hvalid, hstep⟩ := c.apply_step hop (hv b hb) happ
      exact ⟨hvalid, .inl ⟨b, hb, hstep⟩⟩
  exact ⟨fun b' hb' => (hcases b' hb').1, fun b' hb' => (hcases b' hb').2⟩

theorem step_rooms_of_onIntents {op : Op} (hop : op.OnIntents) : (e.step op).rooms = e.rooms := by
  cases op with
  | insertIntent i =>
    show (e.settle (e.insertIntent i)).rooms = e.rooms
    cases hcall : e.insertIntent i with
    | error => rfl
    | ok res =>
      obtain ⟨-, -, -, he⟩ := e.insertIntent_eq_ok hcall
      simp [settle, he]
  | modifyIntent n c =>
    show (e.settle (e.modifyIntent n fun i => .ok (c.apply i))).rooms = e.rooms
    cases hcall : e.modifyIntent n fun i => .ok (c.apply i) with
    | error => rfl
    | ok res =>
      obtain ⟨_, -, -, ⟨-, -, he⟩ | ⟨-, -, he⟩⟩ := e.modifyIntent_eq_ok hcall <;>
        simp [settle, he]
  | _ => cases hop

theorem step_intents_of_onBookings {op : Op} (hop : op.OnBookings) :
    (e.step op).intents = e.intents := by
  cases op with
  | insertBooking b =>
    show (e.settle (e.insertBooking b)).intents = e.intents
    cases hcall : e.insertBooking b with
    | error => rfl
    | ok res =>
      obtain ⟨-, -, -, -, -, he⟩ := e.insertBooking_eq_ok hcall
      simp [settle, he]
  | modifyBooking id c =>
    show (e.settle (e.modifyBooking id c.apply)).intents = e.intents
    cases hcall : e.modifyBooking id c.apply with
    | error => rfl
    | ok res =>
      obtain ⟨_, _, _, _, -, -, -, -, ⟨-, -, -, he⟩ | ⟨-, -, -, -, -, he⟩⟩ :=
        e.modifyBooking_eq_ok hcall <;> simp [settle, he]
  | _ => cases hop

/-- One call of the service on the engine, at most one call on intents and then at most one on
bookings, keeps the journal rebuilding the state and every booking valid, and moves each booking
one step on, when the records before and after it read back. -/
theorem call_lifecycle (h : e.Recoverable) (hv : ∀ b ∈ e.bookings, b.Valid) {i o : Option Op}
    (hi : ∀ op ∈ i, op.OnIntents) (ho : ∀ op ∈ o, op.OnBookings) (hr : e.Readable)
    (hr' : ((e.run i.toList).run o.toList).Readable) :
    ((e.run i.toList).run o.toList).Recoverable ∧
      (∀ b ∈ ((e.run i.toList).run o.toList).bookings, b.Valid) ∧
      Follows e ((e.run i.toList).run o.toList) := by
  generalize he₁ : e.run i.toList = e₁ at hr'
  -- the call on intents leaves the rooms, and the one on bookings the intents
  have hrooms : e₁.rooms = e.rooms := by
    subst he₁
    rcases i with _ | op
    · rfl
    · exact step_rooms_of_onIntents (hi op rfl)
  have hintents : (e₁.run o.toList).intents = e₁.intents := by
    rcases o with _ | op
    · rfl
    · exact step_intents_of_onBookings (ho op rfl)
  -- so the state between the two calls reads back, its rooms as before and its intents as after
  have hr₁ : e₁.Readable :=
    ⟨fun r hm => hr.bookings r (hrooms ▸ hm), fun p hp => hr'.intents p (hintents ▸ hp)⟩
  have hrec₁ : e₁.Recoverable := by
    subst he₁
    rcases i with _ | op
    · exact h
    · exact h.step op hr₁
  have hv₁ : ∀ b ∈ e₁.bookings, b.Valid := by
    rw [bookings, hrooms]
    exact hv
  rcases o with _ | op
  · exact ⟨hrec₁, hv₁, .of_rooms_eq hrooms⟩
  · obtain ⟨hv₂, hf⟩ := step_lifecycle hrec₁ hv₁ (ho op rfl)
    exact ⟨hrec₁.step op hr', hv₂, hf.of_rooms_eq_left hrooms⟩

end Engine

end StudioRental
