import StudioRental.Server.Concurrent
import StudioRental.Proofs.Server.Access
import StudioRental.Proofs.Engine.History
import StudioRental.Proofs.Engine.Interleaving
import StudioRental.Proofs.Server.Issue

/-!
The notices of transitions running side by side.

A transition is its two parts run back to back (`Server.transition_eq_read_write`): the part
before the lock reads the booking, and the part under the lock changes it and tells the other
party. In every interleaving of transitions (`Server.TransitionConfig.Interleaves`), a notice is
sent only by a change that took effect; a cancellation or a completion is told once per booking,
to the other party of its caller (`Catalog.counterparty`); a confirmation goes to the renter.

A confirmation is judged from the status the first part read. When a confirmation and a deposit
both read a booking pending, and the confirmation's change is made first, the deposit's change
finds the booking confirmed and still tells of a confirmation: the renter is told twice
(`Server.racing_confirmations`). Where no two confirming transitions of one booking wait for the
lock at once (`Server.TransitionConfig.Separated`), a booking's confirmation is told once, by the
change that confirmed it.

Main statement: `Server.interleaved_transitions_notify_once`.
-/

namespace StudioRental

/-! ### Notices, commands and parties -/

namespace Notification

/-- The notice tells of the cancellation of the booking. -/
def cancels (id : Ulid) : Notification → Bool
  | .bookingCancelled b _ => b == id
  | _ => false

/-- The notice tells of the completion of the booking. -/
def completes (id : Ulid) : Notification → Bool
  | .bookingCompleted b => b == id
  | _ => false

/-- The notice tells of the confirmation of the booking. -/
def confirms (id : Ulid) : Notification → Bool
  | .bookingConfirmed b => b == id
  | _ => false

end Notification

/-- The commands that may confirm a pending booking. -/
def Command.confirming : Command → Bool
  | .confirm | .setDeposit _ => true
  | _ => false

/-- The other party of a booking for a caller: its renter for the studio's staff, the studio's
owner for anyone else. -/
def Catalog.counterparty (c : Catalog) (a : Actor) (b : Booking) : Option Ulid :=
  if c.Staff a b then some b.renter else (c.studio? b.studio).map (·.owner)

namespace BookingStatus

theorem Moves.eq_of_pending {s : BookingStatus} (h : Moves s .pending) : s = .pending := by
  cases h
  rfl

end BookingStatus

theorem Booking.status_of_same {a b : Booking} (h : a.same b = true) : a.status = b.status := by
  simp only [Booking.same, Bool.and_eq_true, beq_iff_eq] at h
  exact h.1.1.1.1.1.2

namespace Change

variable {c : Change} {b b' : Booking}

theorem apply_keeps (h : c.apply b = .ok b') :
    Booking.Fixed b b' ∧ BookingStatus.Moves b.status b'.status := by
  simp only [apply, bind, Except.bind, pure, Except.pure] at h
  split at h
  · cases h
  split at h
  · cases h
  rename_i n hn
  cases h
  obtain ⟨hfixed, hmoves, -⟩ := next_keeps hn
  split
  · exact ⟨(Booking.Step.refl b).toFixed, .stay _⟩
  · exact ⟨⟨hfixed.id, hfixed.room, hfixed.studio, hfixed.renter, hfixed.start, hfixed.stop,
      hfixed.totalPrice, hfixed.notes, hfixed.createdAt⟩, hmoves⟩

/-- The status a command gives: a cancellation leaves a pending or confirmed booking cancelled,
a completion leaves a confirmed one completed, and a confirming command takes a pending or
confirmed booking. Only a confirming command confirms a pending booking. -/
theorem next_status {n : Booking} (h : c.next b = .ok n) :
    (∀ r, c.command = .cancel r →
      (b.status = .pending ∨ b.status = .confirmed) ∧ n.status = .cancelled) ∧
    (c.command = .complete → b.status = .confirmed ∧ n.status = .completed) ∧
    (c.command.confirming = true → b.status = .pending ∨ b.status = .confirmed) ∧
    (b.status = .pending → n.status = .confirmed → c.command.confirming = true) := by
  rcases c with ⟨cmd, standing, time⟩
  cases cmd with
  | setDeposit amount =>
    refine ⟨fun _ h => by simp at h, fun h => by simp at h, fun _ => ?_, fun _ _ => rfl⟩
    cases hs : b.status <;> simp_all [next]
  | _ =>
    cases hs : b.status <;> simp [next, hs] at h <;> subst h <;> simp [Command.confirming]

theorem apply_next (h : c.apply b = .ok b') : ∃ n, c.next b = .ok n ∧ b'.status = n.status := by
  simp only [apply, bind, Except.bind, pure, Except.pure] at h
  split at h
  · cases h
  split at h
  · cases h
  rename_i n hn
  cases h
  refine ⟨n, hn, ?_⟩
  split
  · rename_i hsame
    exact (Booking.status_of_same hsame).symm
  · rfl

theorem apply_status (h : c.apply b = .ok b') :
    (∀ r, c.command = .cancel r →
      (b.status = .pending ∨ b.status = .confirmed) ∧ b'.status = .cancelled) ∧
    (c.command = .complete → b.status = .confirmed ∧ b'.status = .completed) ∧
    (c.command.confirming = true → b.status = .pending ∨ b.status = .confirmed) ∧
    (b.status = .pending → b'.status = .confirmed → c.command.confirming = true) := by
  obtain ⟨n, hn, hst⟩ := apply_next h
  rw [hst]
  exact next_status hn

end Change

namespace Server

variable {s s' : Server}

/-! ### A transition is its two parts -/

theorem transition_eq_read_write (actor : Actor) (id : Ulid) (cmd : Command) :
    transition actor id cmd = (do
      let (b, studio, c) ← transitionRead actor id cmd
      return (← transitionWrite id b studio c).1) := by
  simp only [transition, transitionRead, transitionWrite, notifyCounterparty, bind_assoc,
    pure_bind]
  -- the two sides agree step by step up to the notice
  congr 1
  funext b
  congr 1
  funext studio
  congr 1
  funext t
  congr 1
  funext u
  congr 1
  funext p
  rcases p with ⟨b', changed⟩
  cases changed
  · simp
  · rcases counterpartyNotice b' b.status (Standing.of actor b studio) studio cmd with
      _ | ⟨r, n⟩ <;> simp

theorem transitionRead_run {actor : Actor} {id : Ulid} {cmd : Command}
    (hb : s.backend = .embedded) :
    (transitionRead actor id cmd).run.run s = match s.engine.getBooking id with
      | none => (.error (.notFound ("booking " ++ id.render)), s)
      | some b =>
        let c : Change := ⟨cmd, Standing.of actor b (s.catalog.studio? b.studio), s.clock⟩
        (c.authorize.map fun _ => (b, s.catalog.studio? b.studio, c),
          { s with clock := s.clock.addNanos s.tick }) := by
  rcases hg : s.engine.getBooking id with _ | b
  · simp only [transitionRead, run_bind, booking_run _ hb, hg]
  · simp only [transitionRead, run_bind, booking_run _ hb, hg, studio?_run, now_run,
      ofExcept_run]
    cases (Change.authorize ⟨cmd, Standing.of actor b (s.catalog.studio? b.studio), s.clock⟩) <;>
      rfl

theorem transitionRead_unreachable {actor : Actor} {id : Ulid} {cmd : Command} {err : Error}
    (hb : s.backend = .unreachable err) :
    (transitionRead actor id cmd).run.run s = (.error err, s) := by
  simp only [transitionRead, booking, findBooking, readEngine, run_bind,
    withEngine_unreachable _ hb]

theorem transitionWrite_run {id : Ulid} {before : Booking} {studio : Option Studio} {c : Change}
    (hb : s.backend = .embedded) :
    (transitionWrite id before studio c).run.run s = match s.engine.modifyBooking id c.apply with
      | .ok ((b', changed), e) =>
        let notice := if changed then
          counterpartyNotice b' before.status c.standing studio c.command else none
        (.ok (b', notice), { s with engine := e, hub := match notice with
          | some (r, n) => s.hub.notify r n
          | none => s.hub })
      | .error err => (.error err, s) := by
  rcases hm : s.engine.modifyBooking id c.apply with err | ⟨⟨b', changed⟩, e⟩
  · simp only [transitionWrite, run_bind, modifyBooking_run _ _ hb, hm]
  · simp only [transitionWrite, run_bind, modifyBooking_run _ _ hb, hm]
    generalize (if changed then counterpartyNotice b' before.status c.standing studio c.command
      else none) = notice
    rcases notice with _ | ⟨r, n⟩ <;> rfl

theorem transitionWrite_unreachable {id : Ulid} {before : Booking} {studio : Option Studio}
    {c : Change} {err : Error} (hb : s.backend = .unreachable err) :
    (transitionWrite id before studio c).run.run s = (.error err, s) := by
  simp only [transitionWrite, modifyBooking, run_bind, withEngine_unreachable _ hb]

end Server

namespace Engine

variable {e e' : Engine} {id : Ulid} {b b' : Booking}

theorem getBooking_eq_some (h : e.getBooking id = some b) : b ∈ e.bookings ∧ b.id = id := by
  simp only [getBooking, Option.bind_eq_bind, Option.bind_eq_some_iff] at h
  obtain ⟨room, -, r, hr, hb⟩ := h
  obtain ⟨hrmem, -⟩ := e.room?_eq_some hr
  obtain ⟨hid, l₁, l₂, hl, -⟩ := RoomBookings.find?_eq_some r hb
  exact ⟨List.mem_flatMap.2 ⟨r, hrmem, by simp [hl]⟩, hid⟩

theorem WellFormed.eq_of_id_eq (hw : e.WellFormed) {x y : Booking} (hx : x ∈ e.bookings)
    (hy : y ∈ e.bookings) (h : x.id = y.id) : x = y :=
  List.inj_on_of_nodup_map (map_fst_owners e ▸ hw.ids_nodup) hx hy h

variable {f : Booking → Except Error Booking} {changed : Bool}

/-- A change on the whole shape is made to the stored booking a read finds. When the booking
changed, what the change gave is stored in its place, and every other stored booking stays. -/
theorem WellFormed.modifyBooking_stored (hw : e.WellFormed) (hf : ∀ x y, f x = .ok y → y.Amends x)
    (h : e.modifyBooking id f = .ok ((b', changed), e')) :
    ∃ current next, e.getBooking id = some current ∧ f current = .ok next ∧
      ((changed = false ∧ b' = current ∧ e' = e) ∨
       (changed = true ∧ b' = next ∧ next ≠ current ∧ next ∈ e'.bookings ∧
        ∀ y ∈ e'.bookings, y = next ∨ y ∈ e.bookings)) := by
  obtain ⟨room, r, current, next, hroom, hr, hcur, hnext, hcases⟩ := e.modifyBooking_eq_ok h
  have hget : e.getBooking id = some current := by simp [getBooking, hroom, hr, hcur]
  rcases hcases with ⟨-, hb, hc, he⟩ | ⟨hsame, -, -, rfl, rfl, he⟩
  · exact ⟨current, next, hget, hnext, .inl ⟨hc, hb, he⟩⟩
  refine ⟨current, b', hget, hnext, .inr ⟨rfl, rfl, ?_, ?_, ?_⟩⟩
  · rintro rfl
    rw [Booking.same_self] at hsame
    cases hsame
  · -- the replaced room is among the rooms after, and holds what the change gave
    have hfind := find?_of_amends hcur (hf current b' hnext)
    obtain ⟨l₁, l₂, -, hrep⟩ := RoomBookings.replace_of_find? r b' hfind
    have hmem : ((e.room? room).getD { room }).replace b' ∈
        (e.updateRoom room (·.replace b')).rooms := mem_updateRoom_self hw.rooms_nodup
    rw [hr, Option.getD_some] at hmem
    rw [he]
    exact List.mem_flatMap.2 ⟨_, by simpa using hmem, by simp [hrep]⟩
  · intro y hy
    obtain ⟨r', current', l₁, l₂, hr', hl, -, -, hrooms⟩ := mem_rooms_modifyBooking hw hf h
    obtain ⟨q, hq, hyq⟩ := List.mem_flatMap.1 hy
    rcases hrooms q hq with hq | hql
    · exact .inr (List.mem_flatMap.2 ⟨q, hq, hyq⟩)
    · rw [hql, List.mem_append, List.mem_cons] at hyq
      rcases hyq with hy | rfl | hy
      · exact .inr (List.mem_flatMap.2 ⟨r', hr', by simp [hl, hy]⟩)
      · exact .inl rfl
      · exact .inr (List.mem_flatMap.2 ⟨r', hr', by simp [hl, hy]⟩)

theorem WellFormed.forall_id_modifyBooking (hw : e.WellFormed)
    (hf : ∀ x y, f x = .ok y → y.Amends x) (h : e.modifyBooking id f = .ok ((b', changed), e'))
    {x : Ulid} {P : Booking → Prop} (hP : ∀ y ∈ e.bookings, y.id = x → P y)
    (hkeep : x = id → ∀ a a', f a = .ok a' → P a → P a') : ∀ y ∈ e'.bookings, y.id = x → P y := by
  obtain ⟨current, next, hcur, hnext, ⟨-, -, rfl⟩ | ⟨-, -, -, hnextmem, hmem⟩⟩ :=
    hw.modifyBooking_stored hf h
  · exact hP
  obtain ⟨hcurmem, hcurid⟩ := getBooking_eq_some hcur
  have hnextid : next.id = id := (hf current next hnext).id.trans hcurid
  intro y hy hyx
  rcases hmem y hy with rfl | hy
  · exact hkeep (hyx.symm.trans hnextid) current y hnext
      (hP current hcurmem (hcurid.trans (hnextid.symm.trans hyx)))
  · exact hP y hy hyx

end Engine

namespace Server

/-! ### The notice of a change -/

/-- A change's notice tells of what its command did to the booking: a cancellation, a
completion, or a confirmation by a confirming command of a booking read pending and confirmed
now. -/
theorem changeNotice_eq_some {b : Booking} {before : BookingStatus} {cmd : Command}
    {n : Notification} (h : changeNotice b before cmd = some n) :
    (∃ reason, cmd = .cancel reason ∧ n = .bookingCancelled b.id reason) ∨
      (cmd = .complete ∧ n = .bookingCompleted b.id) ∨
      (cmd.confirming = true ∧ before = .pending ∧ b.status = .confirmed ∧
        n = .bookingConfirmed b.id) := by
  cases cmd <;> simp [changeNotice, Command.confirming] at h ⊢
  all_goals first | exact h.symm | exact ⟨h.1.1, h.1.2, h.2.symm⟩

theorem counterpartyNotice_eq_some {b : Booking} {before : BookingStatus} {standing : Standing}
    {studio : Option Studio} {cmd : Command} {r : Ulid} {n : Notification}
    (h : counterpartyNotice b before standing studio cmd = some (r, n)) :
    noticeRecipient b standing studio = some r ∧ changeNotice b before cmd = some n := by
  obtain ⟨r', hr, hn⟩ := Option.bind_eq_some_iff.1 h
  obtain ⟨n', hn', hpair⟩ := Option.map_eq_some_iff.1 hn
  cases hpair
  exact ⟨hr, hn'⟩

theorem Change.allowed_of_authorize {c : Change} (h : c.authorize = .ok ()) :
    Change.allowed c.command c.standing = true := by
  unfold Change.authorize at h
  split at h
  · assumption
  · cases h

theorem Standing.of_congr {a : Actor} {b b' : Booking} (hr : b'.renter = b.renter)
    (hs : b'.studio = b.studio) (st : Option Studio) :
    Standing.of a b' st = Standing.of a b st := by
  simp [Standing.of, hr, hs]

theorem noticeRecipient_of_allowed {cat : Catalog} {a : Actor} {b : Booking} {cmd : Command}
    (h : Change.allowed cmd (Standing.of a b (cat.studio? b.studio)) = true) :
    noticeRecipient b (Standing.of a b (cat.studio? b.studio)) (cat.studio? b.studio) =
      cat.counterparty a b := by
  rw [Catalog.counterparty]
  rw [Standing.of_studio?] at h ⊢
  split_ifs at h ⊢ with hstaff hrenter
  · rfl
  · rfl
  · rw [Change.allowed_unrelated] at h
    cases h

theorem noticeRecipient_of_confirming {b : Booking} {standing : Standing} {studio : Option Studio}
    {cmd : Command} (hc : cmd.confirming = true) (h : Change.allowed cmd standing = true) :
    noticeRecipient b standing studio = some b.renter := by
  cases cmd <;> simp [Command.confirming] at hc <;>
    simp only [Change.allowed, beq_iff_eq] at h <;> subst h <;> rfl

/-! ### One part of a transition -/

theorem PendingTransition.advance_start {s s' : Server} {actor : Actor} {id : Ulid}
    {cmd : Command} {o : Option PendingTransition} {new : List SentNotice}
    (h : (PendingTransition.start actor id cmd).advance s = (s', o, new)) :
    s'.engine = s.engine ∧ s'.catalog = s.catalog ∧ new = [] ∧
    ∀ g ∈ o, ∃ b c, g = .held actor id b (s.catalog.studio? b.studio) c ∧
      s.engine.getBooking id = some b ∧ c.command = cmd ∧
      c.standing = Standing.of actor b (s.catalog.studio? b.studio) ∧ c.authorize = .ok () := by
  rcases hb : s.backend with _ | err
  · simp only [PendingTransition.advance, transitionRead_run hb] at h
    rcases hg : s.engine.getBooking id with _ | b
    · simp only [hg] at h
      cases h
      simp
    · simp only [hg] at h
      rcases ha : Change.authorize ⟨cmd, Standing.of actor b (s.catalog.studio? b.studio), s.clock⟩
        with err | u
      · simp only [ha, Except.map] at h
        cases h
        simp
      · simp only [ha, Except.map] at h
        cases h
        refine ⟨rfl, rfl, rfl, fun g hg' => ?_⟩
        cases hg'
        exact ⟨b, _, rfl, rfl, rfl, rfl, ha⟩
  · simp only [PendingTransition.advance, transitionRead_unreachable hb] at h
    cases h
    simp

theorem PendingTransition.advance_held {s s' : Server} {actor : Actor} {id : Ulid}
    {before : Booking} {studio : Option Studio} {c : Change} {o : Option PendingTransition}
    {new : List SentNotice}
    (h : (PendingTransition.held actor id before studio c).advance s = (s', o, new)) :
    s'.catalog = s.catalog ∧ o = none ∧
    ((s'.engine = s.engine ∧ new = []) ∨
      ∃ b' changed, s.engine.modifyBooking id c.apply = .ok ((b', changed), s'.engine) ∧
        new = ((if changed then counterpartyNotice b' before.status c.standing studio c.command
          else none).map fun p => (⟨actor, p.1, p.2, s.engine.getBooking id, b'⟩ :
          SentNotice)).toList) := by
  rcases hb : s.backend with _ | err
  · simp only [PendingTransition.advance, transitionWrite_run hb] at h
    rcases hm : s.engine.modifyBooking id c.apply with err | ⟨⟨b', changed⟩, e⟩
    · simp only [hm] at h
      cases h
      exact ⟨rfl, rfl, .inl ⟨rfl, rfl⟩⟩
    · simp only [hm] at h
      revert h
      generalize hn : (if changed then counterpartyNotice b' before.status c.standing studio c.command
        else none) = notice
      intro h
      rcases notice with _ | ⟨r, n⟩
      · cases h
        exact ⟨rfl, rfl, .inr ⟨b', changed, rfl, by simp [hn]⟩⟩
      · cases h
        exact ⟨rfl, rfl, .inr ⟨b', changed, rfl, by simp [hn]⟩⟩
  · simp only [PendingTransition.advance, transitionWrite_unreachable hb] at h
    cases h
    exact ⟨rfl, rfl, .inl ⟨rfl, rfl⟩⟩

/-- On the whole shape, the part under the lock either leaves the engine as it was and sends
nothing, or stores what the change gave to the stored booking in its place and sends the change's
notice. -/
theorem PendingTransition.advance_held_cases {s s' : Server} {actor : Actor} {id : Ulid}
    {before : Booking} {studio : Option Studio} {c : Change} {o : Option PendingTransition}
    {new : List SentNotice} (hw : s.engine.WellFormed)
    (h : (PendingTransition.held actor id before studio c).advance s = (s', o, new)) :
    s'.catalog = s.catalog ∧ o = none ∧
    ((s'.engine = s.engine ∧ new = []) ∨
      ∃ current b', s.engine.getBooking id = some current ∧ c.apply current = .ok b' ∧
        b' ≠ current ∧ s.engine.modifyBooking id c.apply = .ok ((b', true), s'.engine) ∧
        new = ((counterpartyNotice b' before.status c.standing studio c.command).map
          fun p => (⟨actor, p.1, p.2, some current, b'⟩ : SentNotice)).toList) := by
  obtain ⟨hcat, ho, hquiet | ⟨b', changed, hmod, hnew⟩⟩ := advance_held h
  · exact ⟨hcat, ho, .inl hquiet⟩
  obtain ⟨current, next, hcur, hnext, ⟨rfl, rfl, he⟩ | ⟨rfl, hb, hne, -, -⟩⟩ :=
    hw.modifyBooking_stored (fun _ _ => c.apply_amends) hmod
  · -- the change gave the booking back, and nothing was sent
    exact ⟨hcat, ho, .inl ⟨he, by simp [hnew]⟩⟩
  · subst hb
    refine ⟨hcat, ho, .inr ⟨current, b', hcur, hnext, hne, hmod, ?_⟩⟩
    simp only [hnew, hcur, if_true]

/-! ### What every interleaving keeps -/

/-- What a transition waiting for the lock knows: the booking it read has its id, the studio
and the standing are those the catalog and the caller give for it, its check passed, and every
stored booking with the id has the renter and the studio it read. -/
def PendingTransition.Read (cat : Catalog) (e : Engine) : PendingTransition → Prop
  | .start .. => True
  | .held actor id before studio c =>
    before.id = id ∧ studio = cat.studio? before.studio ∧
      c.standing = Standing.of actor before studio ∧ c.authorize = .ok () ∧
      ∀ y ∈ e.bookings, y.id = id → y.renter = before.renter ∧ y.studio = before.studio

/-- Each booking is told of once at most by the notices `tells` picks, and once told, its
stored records have a status in `P`. -/
def ToldOnce (tells : Ulid → Notification → Bool) (P : BookingStatus → Prop)
    (sent : List SentNotice)
    (e : Engine) : Prop :=
  ∀ id, sent.countP (fun x => tells id x.notice) ≤ 1 ∧
    (sent.any (fun x => tells id x.notice) → ∀ y ∈ e.bookings, y.id = id → P y.status)

/-- What every interleaving of transitions keeps. -/
structure TransitionConfig.Kept (cat : Catalog) (d : TransitionConfig) : Prop where
  wellFormed : d.server.engine.WellFormed
  catalog : d.server.catalog = cat
  read : ∀ f ∈ d.flights, f.Read cat d.server.engine
  changed : ∀ x ∈ d.sent, x.before ≠ some x.after
  counterparty : ∀ x ∈ d.sent, x.notice.cancels x.after.id = true ∨
    x.notice.completes x.after.id = true → some x.recipient = cat.counterparty x.caller x.after
  renter : ∀ x ∈ d.sent, x.notice.confirms x.after.id = true → x.recipient = x.after.renter
  cancelled : ToldOnce Notification.cancels (· = .cancelled) d.sent d.server.engine
  completed : ToldOnce Notification.completes (· = .completed) d.sent d.server.engine

variable {cat : Catalog} {e e' : Engine} {id : Ulid} {c : Change} {b' : Booking} {changed : Bool}

theorem PendingTransition.Read.write {g : PendingTransition} (hg : g.Read cat e) (hw : e.WellFormed)
    (h : e.modifyBooking id c.apply = .ok ((b', changed), e')) : g.Read cat e' := by
  cases g with
  | start => trivial
  | held actor id' before studio c' =>
    obtain ⟨hid, hst, hstand, hauth, hfix⟩ := hg
    refine ⟨hid, hst, hstand, hauth, ?_⟩
    -- the fields read are among those no change touches
    refine hw.forall_id_modifyBooking (fun _ _ => c.apply_amends) h hfix fun _ a a' ha hP => ?_
    obtain ⟨hfixed, -⟩ := Change.apply_keeps ha
    exact ⟨hfixed.renter.trans hP.1, hfixed.studio.trans hP.2⟩

/-- A change keeps `ToldOnce` when every change keeps `P`, and the notice it sends, if it tells of
its booking, tells of a booking that was not yet in `P` and is now. -/
theorem ToldOnce.write {tells : Ulid → Notification → Bool} {P : BookingStatus → Prop}
    {sent : List SentNotice} {new : Option SentNotice} (ht : ToldOnce tells P sent e)
    (hw : e.WellFormed)
    (h : e.modifyBooking id c.apply = .ok ((b', changed), e'))
    (hkeep : ∀ a a' : Booking, c.apply a = .ok a' → P a.status → P a'.status)
    (hnew : ∀ x ∈ new, ∀ id', tells id' x.notice = true → id' = id ∧ P b'.status ∧
      ∃ current, e.getBooking id = some current ∧ ¬P current.status) :
    ToldOnce tells P (sent ++ new.toList) e' := by
  have hw' := hw.modifyBooking (fun _ _ => c.apply_amends) h
  intro id'
  obtain ⟨hcount, hstatus⟩ := ht id'
  by_cases htold : new.toList.any fun x => tells id' x.notice
  · -- the new notice tells of the changed booking, which no earlier notice told of
    obtain ⟨x, hx, hxt⟩ := List.any_eq_true.1 htold
    obtain ⟨rfl, hPb, current, hcur, hPcur⟩ := hnew x (Option.mem_toList.1 hx) id' hxt
    obtain ⟨hcurmem, hcurid⟩ := Engine.getBooking_eq_some hcur
    have hnone : sent.any (fun x => tells id' x.notice) = false := by
      by_contra hany
      exact hPcur (hstatus (by simpa using hany) current hcurmem hcurid)
    have hzero : sent.countP (fun x => tells id' x.notice) = 0 :=
      List.countP_eq_zero.2 fun y hy hyt =>
        (List.any_eq_false.1 hnone) y hy (by simpa using hyt)
    refine ⟨?_, fun _ y hy hyid => ?_⟩
    · rw [List.countP_append, hzero, Nat.zero_add]
      exact List.countP_le_length.trans (by cases new <;> simp)
    -- the only stored booking with the id is what the change gave
    obtain ⟨current', next, hcur', hnext, ⟨-, hb, -⟩ | ⟨-, hb, -, hnextmem, -⟩⟩ :=
      hw.modifyBooking_stored (fun _ _ => c.apply_amends) h
    all_goals rw [hcur] at hcur'; cases hcur'
    · exact absurd (hb ▸ hPb) hPcur
    · subst hb
      have hnextid : b'.id = id' := (c.apply_amends hnext).id.trans hcurid
      rw [hw'.eq_of_id_eq hy hnextmem (hyid.trans hnextid.symm)]
      exact hPb
  · have hzero : new.toList.countP (fun x => tells id' x.notice) = 0 :=
      List.countP_eq_zero.2 fun y hy hyt =>
        htold (List.any_eq_true.2 ⟨y, hy, hyt⟩)
    refine ⟨by rw [List.countP_append, hzero]; exact hcount, fun hany => ?_⟩
    have hold : sent.any (fun x => tells id' x.notice) = true := by
      simp only [List.any_append, Bool.or_eq_true] at hany
      exact hany.resolve_right htold
    exact hw.forall_id_modifyBooking (fun _ _ => c.apply_amends) h (hstatus hold) fun _ => hkeep

theorem mem_sent_write {actor : Actor} {before : Option Booking}
    {notice : Option (Ulid × Notification)} {x : SentNotice}
    (hx : x ∈ (notice.map fun p => (⟨actor, p.1, p.2, before, b'⟩ : SentNotice)).toList) :
    ∃ r n, notice = some (r, n) ∧ x = ⟨actor, r, n, before, b'⟩ := by
  rcases notice with _ | ⟨r, n⟩
  · cases hx
  · simp only [Option.map_some, Option.toList_some, List.mem_singleton] at hx
    exact ⟨r, n, rfl, hx⟩

theorem TransitionConfig.Kept.quiet {s s' : Server} {fs fs' : List PendingTransition}
    {sent : List SentNotice}
    (hk : TransitionConfig.Kept cat ⟨s, fs, sent⟩) (heng : s'.engine = s.engine)
    (hcat : s'.catalog = s.catalog)
    (hread : ∀ g ∈ fs', g.Read cat s.engine) : TransitionConfig.Kept cat ⟨s', fs', sent⟩ where
  wellFormed := heng ▸ hk.wellFormed
  catalog := hcat.trans hk.catalog
  read := heng ▸ hread
  changed := hk.changed
  counterparty := hk.counterparty
  renter := hk.renter
  cancelled := heng ▸ hk.cancelled
  completed := heng ▸ hk.completed

theorem TransitionConfig.Kept.advance_start {s : Server} {l₁ l₂ : List PendingTransition}
    {sent : List SentNotice} {actor : Actor} {cmd : Command}
    (hk : TransitionConfig.Kept cat ⟨s, l₁ ++ .start actor id cmd :: l₂, sent⟩) :
    TransitionConfig.Kept cat ⟨((PendingTransition.start actor id cmd).advance s).1,
      l₁ ++ ((PendingTransition.start actor id cmd).advance s).2.1.toList ++ l₂,
      sent ++ ((PendingTransition.start actor id cmd).advance s).2.2⟩ := by
  rcases hadv : (PendingTransition.start actor id cmd).advance s with ⟨s', o, new⟩
  obtain ⟨heng, hcat, rfl, ho⟩ := PendingTransition.advance_start hadv
  rw [List.append_nil]
  refine hk.quiet heng hcat fun g hg => ?_
  simp only [List.mem_append, Option.mem_toList] at hg
  rcases hg with (hg | hg) | hg
  · exact hk.read g (by simp [hg])
  · -- the booking read is the one stored with the id
    obtain ⟨b, c, rfl, hb, -, hstand, hauth⟩ := ho g hg
    obtain ⟨hbmem, hbid⟩ := Engine.getBooking_eq_some hb
    refine ⟨hbid, by rw [← hk.catalog], by rw [hstand, hk.catalog], hauth, fun y hy hyid => ?_⟩
    rw [hk.wellFormed.eq_of_id_eq hy hbmem (hyid.trans hbid.symm)]
    exact ⟨rfl, rfl⟩
  · exact hk.read g (by simp [hg])

/-- A notice sent by a change that took effect tells of the changed booking what its command did
to it. -/
theorem notice_of_write {actor : Actor} {before : Booking} {studio : Option Studio}
    {current : Booking} {x : SentNotice} (hnext : c.apply current = .ok b')
    (hx : x ∈ ((counterpartyNotice b' before.status c.standing studio c.command).map
      fun p => (⟨actor, p.1, p.2, some current, b'⟩ : SentNotice)).toList) :
    ∃ r n, x = ⟨actor, r, n, some current, b'⟩ ∧ noticeRecipient b' c.standing studio = some r ∧
      ((∃ reason, c.command = .cancel reason ∧ n = .bookingCancelled b'.id reason ∧
          (current.status = .pending ∨ current.status = .confirmed) ∧ b'.status = .cancelled) ∨
        (c.command = .complete ∧ n = .bookingCompleted b'.id ∧
          current.status = .confirmed ∧ b'.status = .completed) ∨
        (c.command.confirming = true ∧ before.status = .pending ∧ b'.status = .confirmed ∧
          n = .bookingConfirmed b'.id)) := by
  obtain ⟨r, n, hnotice, rfl⟩ := mem_sent_write hx
  obtain ⟨hrec, hn⟩ := counterpartyNotice_eq_some hnotice
  obtain ⟨hcancel, hcomplete, -, -⟩ := Change.apply_status hnext
  refine ⟨r, n, rfl, hrec, ?_⟩
  rcases changeNotice_eq_some hn with ⟨reason, hcmd, rfl⟩ | ⟨hcmd, rfl⟩ | hconf
  · exact .inl ⟨reason, hcmd, rfl, hcancel reason hcmd⟩
  · exact .inr (.inl ⟨hcmd, rfl, hcomplete hcmd⟩)
  · exact .inr (.inr hconf)

theorem TransitionConfig.Kept.advance_held {s : Server} {l₁ l₂ : List PendingTransition}
    {sent : List SentNotice} {actor : Actor} {before : Booking} {studio : Option Studio}
    (hk : TransitionConfig.Kept cat ⟨s, l₁ ++ .held actor id before studio c :: l₂, sent⟩) :
    TransitionConfig.Kept cat ⟨((PendingTransition.held actor id before studio c).advance s).1,
      l₁ ++ ((PendingTransition.held actor id before studio c).advance s).2.1.toList ++ l₂,
      sent ++ ((PendingTransition.held actor id before studio c).advance s).2.2⟩ := by
  rcases hadv : (PendingTransition.held actor id before studio c).advance s with ⟨s', o, new⟩
  have hw := hk.wellFormed
  have hrest : ∀ g ∈ l₁ ++ l₂, g.Read cat s.engine := fun g hg =>
    hk.read g (by simp only [List.mem_append, List.mem_cons] at hg ⊢; tauto)
  obtain ⟨hcat, rfl, ⟨heng, rfl⟩ | ⟨current, b', hcur, hnext, hne, hmod, rfl⟩⟩ :=
    PendingTransition.advance_held_cases hw hadv
  · simp only [Option.toList_none, List.append_nil]
    exact hk.quiet heng hcat hrest
  simp only [Option.toList_none, List.append_nil]
  obtain ⟨-, hst, hstand, hauth, hfix⟩ : (PendingTransition.held actor id before studio c).Read cat
      s.engine := hk.read _ (by simp)
  -- what the change gave has the renter and the studio the first part read
  obtain ⟨hcurmem, hcurid⟩ := Engine.getBooking_eq_some hcur
  obtain ⟨hfixed, -⟩ := Change.apply_keeps hnext
  obtain ⟨hrenter, hstudio⟩ := hfix current hcurmem hcurid
  have hs' : b'.studio = before.studio := hfixed.studio.trans hstudio
  have hstand' : c.standing = Standing.of actor b' (cat.studio? b'.studio) := by
    rw [hstand, hst, hs', Standing.of_congr (hfixed.renter.trans hrenter) hs']
  have hallowed := Change.allowed_of_authorize hauth
  have hkeep (t : BookingStatus) (ht : t = .cancelled ∨ t = .completed) :
      ∀ a a' : Booking, c.apply a = .ok a' → a.status = t → a'.status = t := by
    intro a a' ha hat
    subst hat
    exact (Change.apply_keeps ha).2.eq_of_final ht
  refine ⟨hw.modifyBooking (fun _ _ => c.apply_amends) hmod, hcat.trans hk.catalog,
    fun g hg => (hrest g (by simpa using hg)).write hw hmod, ?_, ?_, ?_, ?_, ?_⟩
  · intro x hx
    rcases List.mem_append.1 hx with hx | hx
    · exact hk.changed x hx
    · obtain ⟨r, n, rfl, -⟩ := notice_of_write hnext hx
      simpa using hne.symm
  · intro x hx hkind
    rcases List.mem_append.1 hx with hx | hx
    · exact hk.counterparty x hx hkind
    · obtain ⟨r, n, rfl, hrec, -⟩ := notice_of_write hnext hx
      rw [← hrec, hstand', hst, ← hs']
      exact noticeRecipient_of_allowed (hstand' ▸ hallowed)
  · intro x hx hkind
    rcases List.mem_append.1 hx with hx | hx
    · exact hk.renter x hx hkind
    · obtain ⟨r, n, rfl, hrec, hcases⟩ := notice_of_write hnext hx
      rcases hcases with ⟨reason, -, hn, -⟩ | ⟨-, hn, -⟩ | ⟨hconf, -⟩
      · simp [hn, Notification.confirms] at hkind
      · simp [hn, Notification.confirms] at hkind
      · rw [noticeRecipient_of_confirming hconf hallowed] at hrec
        exact (Option.some.inj hrec).symm
  · refine hk.cancelled.write hw hmod (hkeep _ (.inl rfl)) fun x hx id' ht => ?_
    obtain ⟨r, n, rfl, -, hcases⟩ := notice_of_write hnext (Option.mem_toList.2 hx)
    rcases hcases with ⟨reason, -, hn, hfrom, hto⟩ | ⟨-, hn, -⟩ | ⟨-, -, -, hn⟩ <;>
      simp only [hn, Notification.cancels, beq_iff_eq, Bool.false_eq_true] at ht
    refine ⟨ht.symm.trans (hfixed.id.trans hcurid), hto, current, hcur, ?_⟩
    rcases hfrom with h | h <;> rw [h] <;> decide
  · refine hk.completed.write hw hmod (hkeep _ (.inr rfl)) fun x hx id' ht => ?_
    obtain ⟨r, n, rfl, -, hcases⟩ := notice_of_write hnext (Option.mem_toList.2 hx)
    rcases hcases with ⟨reason, -, hn, -⟩ | ⟨-, hn, hfrom, hto⟩ | ⟨-, -, -, hn⟩ <;>
      simp only [hn, Notification.completes, beq_iff_eq, Bool.false_eq_true] at ht
    refine ⟨ht.symm.trans (hfixed.id.trans hcurid), hto, current, hcur, ?_⟩
    rw [hfrom]
    decide

theorem TransitionConfig.Kept.interleaves {d d' : TransitionConfig} (hk : d.Kept cat)
    (h : TransitionConfig.Interleaves d d') :
    d'.Kept cat := by
  cases h with
  | begin s fs sent actor id cmd =>
    refine hk.quiet rfl rfl fun g hg => ?_
    rcases List.mem_append.1 hg with hg | hg
    · exact hk.read g hg
    · rw [List.mem_singleton.1 hg]
      trivial
  | advance s l₁ l₂ f sent =>
    cases f with
    | start actor id cmd => exact hk.advance_start
    | held actor id before studio c => exact hk.advance_held

/-- Every interleaving keeps what a step keeps. -/
theorem TransitionConfig.Kept.reachable {d d' : TransitionConfig} (hk : d.Kept cat)
    (h : Relation.ReflTransGen TransitionConfig.Interleaves d d') : d'.Kept cat := by
  induction h with
  | refl => exact hk
  | tail _ hstep ih => exact ih.interleaves hstep

/-! ### Confirmations kept apart -/

/-- The booking of a confirming transition waiting for the lock. -/
def PendingTransition.confirmingId? : PendingTransition → Option Ulid
  | .start .. => none
  | .held _ id _ _ c => if c.command.confirming then some id else none

/-- The bookings of the confirming transitions waiting for the lock. -/
def TransitionConfig.confirmingIds (d : TransitionConfig) : List Ulid :=
  d.flights.filterMap PendingTransition.confirmingId?

/-- An interleaving step after which no two confirming transitions of one booking wait for the
lock at once. -/
def TransitionConfig.Separated (d d' : TransitionConfig) : Prop :=
  TransitionConfig.Interleaves d d' ∧ d'.confirmingIds.Nodup

/-- What a confirming transition that read its booking pending knows while it waits: the stored
booking is pending still, or cancelled. -/
def PendingTransition.StillPending (e : Engine) : PendingTransition → Prop
  | .start .. => True
  | .held _ id before _ c => c.command.confirming = true → before.status = .pending →
    ∀ y ∈ e.bookings, y.id = id → y.status = .pending ∨ y.status = .cancelled

/-- What interleavings that keep confirmations apart keep besides. -/
structure TransitionConfig.Apart (cat : Catalog) (d : TransitionConfig) : Prop
    extends TransitionConfig.Kept cat d where
  confirming_nodup : d.confirmingIds.Nodup
  stillPending : ∀ f ∈ d.flights, f.StillPending d.server.engine
  confirmed : ToldOnce Notification.confirms (· ≠ .pending) d.sent d.server.engine
  moved : ∀ x ∈ d.sent, x.notice.confirms x.after.id = true →
    x.before.map (·.status) = some .pending ∧ x.after.status = .confirmed

theorem Change.apply_pending_or_cancelled {a a' : Booking} (hc : c.command.confirming = false)
    (h : c.apply a = .ok a') (ha : a.status = .pending ∨ a.status = .cancelled) :
    a'.status = .pending ∨ a'.status = .cancelled := by
  obtain ⟨-, hmoves⟩ := Change.apply_keeps h
  obtain ⟨-, -, -, hconf⟩ := Change.apply_status h
  rcases ha with ha | ha
  · rw [ha] at hmoves hconf
    generalize a'.status = t at hmoves hconf ⊢
    cases hmoves
    · exact .inl rfl
    · rw [hconf rfl rfl] at hc
      cases hc
    · exact .inr rfl
  · exact .inr ((hmoves.eq_of_final (.inl ha)).trans ha)

theorem confirmingId?_ne_of_nodup {l₁ l₂ : List PendingTransition} {f g : PendingTransition}
    {x : Ulid} (hnd : ((l₁ ++ f :: l₂).filterMap PendingTransition.confirmingId?).Nodup)
    (hf : f.confirmingId? = some x) (hg : g ∈ l₁ ++ l₂) : g.confirmingId? ≠ some x := by
  rw [List.filterMap_append, List.filterMap_cons_some hf] at hnd
  have hx := (List.nodup_cons.1 (List.nodup_middle.1 hnd)).1
  rw [← List.filterMap_append] at hx
  exact fun hgx => hx (List.mem_filterMap.2 ⟨g, hg, hgx⟩)

theorem TransitionConfig.Apart.quiet {s s' : Server} {fs fs' : List PendingTransition}
    {sent : List SentNotice}
    (ha : TransitionConfig.Apart cat ⟨s, fs, sent⟩) (hk : TransitionConfig.Kept cat ⟨s', fs', sent⟩)
    (heng : s'.engine = s.engine) (hnd : (fs'.filterMap PendingTransition.confirmingId?).Nodup)
    (hpend : ∀ g ∈ fs', g.StillPending s.engine) : TransitionConfig.Apart cat ⟨s', fs', sent⟩ where
  toKept := hk
  confirming_nodup := hnd
  stillPending := heng ▸ hpend
  confirmed := heng ▸ ha.confirmed
  moved := ha.moved

theorem TransitionConfig.Apart.advance_start {s : Server} {l₁ l₂ : List PendingTransition}
    {sent : List SentNotice} {actor : Actor} {cmd : Command}
    (ha : TransitionConfig.Apart cat ⟨s, l₁ ++ .start actor id cmd :: l₂, sent⟩)
    (hk : TransitionConfig.Kept cat ⟨((PendingTransition.start actor id cmd).advance s).1,
      l₁ ++ ((PendingTransition.start actor id cmd).advance s).2.1.toList ++ l₂,
      sent ++ ((PendingTransition.start actor id cmd).advance s).2.2⟩)
    (hnd : ((l₁ ++ ((PendingTransition.start actor id cmd).advance s).2.1.toList ++ l₂).filterMap
      PendingTransition.confirmingId?).Nodup) :
    TransitionConfig.Apart cat ⟨((PendingTransition.start actor id cmd).advance s).1,
      l₁ ++ ((PendingTransition.start actor id cmd).advance s).2.1.toList ++ l₂,
      sent ++ ((PendingTransition.start actor id cmd).advance s).2.2⟩ := by
  revert hk hnd
  rcases hadv : (PendingTransition.start actor id cmd).advance s with ⟨s', o, new⟩
  obtain ⟨heng, -, rfl, ho⟩ := PendingTransition.advance_start hadv
  rw [List.append_nil]
  intro hk hnd
  refine ha.quiet hk heng hnd fun g hg => ?_
  simp only [List.mem_append, Option.mem_toList] at hg
  rcases hg with (hg | hg) | hg
  · exact ha.stillPending g (by simp [hg])
  · -- the booking read is the one stored with the id, and it is pending
    obtain ⟨b, c, rfl, hb, -⟩ := ho g hg
    obtain ⟨hbmem, hbid⟩ := Engine.getBooking_eq_some hb
    intro _ hpend y hy hyid
    rw [ha.wellFormed.eq_of_id_eq hy hbmem (hyid.trans hbid.symm)]
    exact .inl hpend
  · exact ha.stillPending g (by simp [hg])

theorem TransitionConfig.Apart.advance_held {s : Server} {l₁ l₂ : List PendingTransition}
    {sent : List SentNotice} {actor : Actor} {before : Booking} {studio : Option Studio}
    (ha : TransitionConfig.Apart cat ⟨s, l₁ ++ .held actor id before studio c :: l₂, sent⟩)
    (hk : TransitionConfig.Kept cat
    ⟨((PendingTransition.held actor id before studio c).advance s).1,
      l₁ ++ ((PendingTransition.held actor id before studio c).advance s).2.1.toList ++ l₂,
      sent ++ ((PendingTransition.held actor id before studio c).advance s).2.2⟩)
    (hnd : ((l₁ ++ ((PendingTransition.held actor id before studio c).advance s).2.1.toList ++
      l₂).filterMap PendingTransition.confirmingId?).Nodup) :
    TransitionConfig.Apart cat ⟨((PendingTransition.held actor id before studio c).advance s).1,
      l₁ ++ ((PendingTransition.held actor id before studio c).advance s).2.1.toList ++ l₂,
      sent ++ ((PendingTransition.held actor id before studio c).advance s).2.2⟩ := by
  revert hk hnd
  rcases hadv : (PendingTransition.held actor id before studio c).advance s with ⟨s', o, new⟩
  have hw := ha.wellFormed
  have hrest : ∀ g ∈ l₁ ++ l₂, g.StillPending s.engine := fun g hg =>
    ha.stillPending g (by simp only [List.mem_append, List.mem_cons] at hg ⊢; tauto)
  obtain ⟨-, rfl, ⟨heng, rfl⟩ | ⟨current, b', hcur, hnext, -, hmod, rfl⟩⟩ :=
    PendingTransition.advance_held_cases hw hadv
  · simp only [Option.toList_none, List.append_nil]
    intro hk hnd
    exact ha.quiet hk heng hnd hrest
  simp only [Option.toList_none, List.append_nil]
  intro hk hnd
  obtain ⟨hcurmem, hcurid⟩ := Engine.getBooking_eq_some hcur
  obtain ⟨hfixed, -⟩ := Change.apply_keeps hnext
  -- a confirmation that read its booking pending finds it pending still
  have hcurpend (hconf : c.command.confirming = true) (hbefore : before.status = .pending) :
      current.status = .pending := by
    have hheld : (PendingTransition.held actor id before studio c).StillPending s.engine :=
      ha.stillPending _ (by simp)
    rcases hheld hconf hbefore current hcurmem hcurid with h | h
    · exact h
    · rcases (Change.apply_status hnext).2.2.1 hconf with h' | h' <;> rw [h] at h' <;> cases h'
  refine ⟨hk, hnd, ?_, ?_, ?_⟩
  · -- a waiting confirmation of another booking, or of this one when this change does not
    -- confirm, still finds it pending or cancelled
    intro g hg
    cases g with
    | start => trivial
    | held actor' id' before' studio' c' =>
      intro hconf' hpend'
      refine hw.forall_id_modifyBooking (fun _ _ => c.apply_amends) hmod
        (hrest _ hg hconf' hpend') fun hid a a' haa' hP => ?_
      subst hid
      have hc : c.command.confirming = false := by
        by_contra hc
        refine confirmingId?_ne_of_nodup ha.confirming_nodup (x := id') ?_ hg ?_
        · simp [PendingTransition.confirmingId?, hc]
        · simp [PendingTransition.confirmingId?, hconf']
      exact Change.apply_pending_or_cancelled hc haa' hP
  · refine ha.confirmed.write hw hmod (fun a a' haa' hP hP' => ?_) fun x hx id' ht => ?_
    · -- a pending booking is never entered again
      have hm := (Change.apply_keeps haa').2
      rw [hP'] at hm
      exact hP hm.eq_of_pending
    · obtain ⟨r, n, rfl, -, hcases⟩ := notice_of_write hnext (Option.mem_toList.2 hx)
      rcases hcases with ⟨reason, -, hn, -⟩ | ⟨-, hn, -⟩ | ⟨hconf, hbefore, hto, hn⟩ <;>
        simp only [hn, Notification.confirms, beq_iff_eq, Bool.false_eq_true] at ht
      refine ⟨ht.symm.trans (hfixed.id.trans hcurid), by rw [hto]; decide, current, hcur, ?_⟩
      exact not_not.2 (hcurpend hconf hbefore)
  · intro x hx hkind
    rcases List.mem_append.1 hx with hx | hx
    · exact ha.moved x hx hkind
    · obtain ⟨r, n, rfl, -, hcases⟩ := notice_of_write hnext hx
      rcases hcases with ⟨reason, -, hn, -⟩ | ⟨-, hn, -⟩ | ⟨hconf, hbefore, hto, -⟩
      · simp [hn, Notification.confirms] at hkind
      · simp [hn, Notification.confirms] at hkind
      · exact ⟨by simp [hcurpend hconf hbefore], hto⟩

theorem TransitionConfig.Apart.separated {d d' : TransitionConfig} (ha : d.Apart cat)
    (h : TransitionConfig.Separated d d') :
    d'.Apart cat := by
  obtain ⟨hstep, hnd⟩ := h
  have hk := ha.toKept.interleaves hstep
  cases hstep with
  | begin s fs sent actor id cmd =>
    refine ha.quiet hk rfl hnd fun g hg => ?_
    rcases List.mem_append.1 hg with hg | hg
    · exact ha.stillPending g hg
    · rw [List.mem_singleton.1 hg]
      trivial
  | advance s l₁ l₂ f sent =>
    cases f with
    | start actor id cmd => exact ha.advance_start hk hnd
    | held actor id before studio c => exact ha.advance_held hk hnd

theorem TransitionConfig.Apart.reachable {d d' : TransitionConfig} (ha : d.Apart cat)
    (h : Relation.ReflTransGen TransitionConfig.Separated d d') : d'.Apart cat := by
  induction h with
  | refl => exact ha
  | tail _ hstep ih => exact ih.separated hstep

theorem TransitionConfig.Apart.idle {s : Server} (hw : s.engine.WellFormed) :
    TransitionConfig.Apart s.catalog ⟨s, [], []⟩ where
  wellFormed := hw
  catalog := rfl
  read := by simp
  changed := by simp
  counterparty := by simp
  renter := by simp
  cancelled := fun _ => by simp
  completed := fun _ => by simp
  confirming_nodup := List.nodup_nil
  stillPending := by simp
  confirmed := fun _ => by simp
  moved := by simp

/-- In every interleaving of transitions from a quiet desk, a notice is sent only by a change that
took effect; a cancellation and a completion are each told once at most per booking, to the other
party of the caller; a confirmation goes to the renter. Where no two confirming transitions of one
booking wait for the lock at once, a booking's confirmation is told once at most, by the change
that took it from pending to confirmed. -/
theorem interleaved_transitions_notify_once (d₀ : TransitionConfig)
    (hw : d₀.server.engine.WellFormed)
    (hidle : d₀.flights = []) (hquiet : d₀.sent = []) :
    (∀ d, Relation.ReflTransGen TransitionConfig.Interleaves d₀ d →
      (∀ x ∈ d.sent, x.before ≠ some x.after) ∧
      (∀ x ∈ d.sent, x.notice.cancels x.after.id = true ∨ x.notice.completes x.after.id = true →
        some x.recipient = d₀.server.catalog.counterparty x.caller x.after) ∧
      (∀ x ∈ d.sent, x.notice.confirms x.after.id = true → x.recipient = x.after.renter) ∧
      ∀ id, d.sent.countP (fun x => x.notice.cancels id) ≤ 1 ∧
        d.sent.countP (fun x => x.notice.completes id) ≤ 1) ∧
    (∀ d, Relation.ReflTransGen TransitionConfig.Separated d₀ d →
      (∀ id, d.sent.countP (fun x => x.notice.confirms id) ≤ 1) ∧
      ∀ x ∈ d.sent, x.notice.confirms x.after.id = true →
        x.before.map (·.status) = some .pending ∧ x.after.status = .confirmed) := by
  rcases d₀ with ⟨s, fs, sent⟩
  dsimp only at hw hidle hquiet ⊢
  subst hidle hquiet
  have ha := TransitionConfig.Apart.idle hw
  refine ⟨fun d hd => ?_, fun d hd => ?_⟩
  · have hk := ha.toKept.reachable hd
    exact ⟨hk.changed, hk.counterparty, hk.renter,
      fun id => ⟨(hk.cancelled id).1, (hk.completed id).1⟩⟩
  · have ha' := ha.reachable hd
    exact ⟨fun id => (ha'.confirmed id).1, ha'.moved⟩

/-! ### Two confirmations of one booking -/

theorem TransitionConfig.Interleaves.of_advance (s : Server) (l₁ l₂ : List PendingTransition)
    (f : PendingTransition) (sent : List SentNotice) (o : Option PendingTransition)
    (h : (f.advance s).2.1 = o) :
    TransitionConfig.Interleaves ⟨s, l₁ ++ f :: l₂, sent⟩
      ⟨(f.advance s).1, l₁ ++ o.toList ++ l₂, sent ++ (f.advance s).2.2⟩ := by
  have hstep := TransitionConfig.Interleaves.advance s l₁ l₂ f sent
  rwa [h] at hstep

/-- A studio with nil id, owned by user 2. -/
def raceStudio : Studio := { id := Ulid.nil, owner := ⟨2, by decide⟩ }

def raceOwner : Actor := ⟨⟨2, by decide⟩, .studioOwner⟩

/-- The server holding the pending session booking, in the studio of user 2. -/
def raceServer : Server := { sessionServer with catalog := { studios := [raceStudio] } }

/-- A deposit of 10.00. -/
def raceDeposit : Command := .setDeposit ⟨false, 1000, 2, by decide, Engine.cents_scale_le⟩

/-- The owner's confirmation, having read the booking pending. -/
def raceConfirm : PendingTransition :=
  .held raceOwner Ulid.nil Engine.sessionBooking (some raceStudio)
    ⟨.confirm, .studioStaff, ⟨2366841600, 0⟩⟩

/-- The owner's deposit, having read the booking pending one tick later. -/
def raceSetDeposit : PendingTransition :=
  .held raceOwner Ulid.nil Engine.sessionBooking (some raceStudio)
    ⟨raceDeposit, .studioStaff, ⟨2366841600, 1000000⟩⟩

/-- A confirmation and a deposit both read the booking pending; the confirmation's change is made
first, and the deposit's change, finding the booking confirmed, still tells of a confirmation. The
renter is told twice. -/
theorem racing_confirmations :
    ∃ d, Relation.ReflTransGen TransitionConfig.Interleaves ⟨raceServer, [], []⟩ d ∧ d.flights =
    [] ∧
      d.sent.countP (fun x => x.notice.confirms Ulid.nil) = 2 := by
  refine ⟨_, .tail (.tail (.tail (.tail (.tail (.tail .refl
    (.begin raceServer [] [] raceOwner Ulid.nil .confirm))
    (.begin _ [.start raceOwner Ulid.nil .confirm] _ raceOwner Ulid.nil raceDeposit))
    (.of_advance _ [] [.start raceOwner Ulid.nil raceDeposit] (.start raceOwner Ulid.nil .confirm)
      _ (some raceConfirm) ?_))
    (.of_advance _ [raceConfirm] [] (.start raceOwner Ulid.nil raceDeposit) _
      (some raceSetDeposit) ?_))
    (.of_advance _ [] [raceSetDeposit] raceConfirm _ none ?_))
    (.of_advance _ [] [] raceSetDeposit _ none ?_), rfl, ?_⟩
  -- the first parts leave the two waiting transitions, and the changes under the lock end them
  · rfl
  · rfl
  · rfl
  · rfl
  · decide

/-- In the race both notices go to the renter. -/
theorem racing_confirmations_reach_renter :
    raceServer.engine.WellFormed ∧
      ∃ d, Relation.ReflTransGen TransitionConfig.Interleaves ⟨raceServer, [], []⟩ d ∧
        (∀ x ∈ d.sent, x.notice.confirms x.after.id = true → x.recipient = x.after.renter) ∧
        d.sent.countP (fun x => x.notice.confirms Ulid.nil) = 2 := by
  have hw : raceServer.engine.WellFormed :=
    (Engine.recoverable_run _ Engine.readable_run_sessionBooking).wellFormed
  obtain ⟨d, hrun, -, hcount⟩ := racing_confirmations
  exact ⟨hw, d, hrun,
    ((interleaved_transitions_notify_once ⟨raceServer, [], []⟩ hw rfl rfl).1 d hrun).2.2.1, hcount⟩

end Server

end StudioRental
