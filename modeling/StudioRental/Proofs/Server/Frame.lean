import StudioRental.Proofs.Server.Run

/-!
What a step of the server keeps.

A successful sequence is read backwards into its parts (`run_bind_eq_ok`). `Preserves view x`
says that `x` leaves the `view` of the state as it was, whatever it answers; every read does. The
payment side of the state is the stored intents, the gateway's configuration and the storage
backend, and the booking calls made on the way of a payment (marking a booking paid or unpaid,
telling the studio's owner) keep it. A read of a booking succeeds only for a party to it
(`getBooking_eq_ok`).
-/

namespace StudioRental

namespace Server

variable {α β : Type} {s s' s'' : Server}

@[simp] theorem answer_eq_iff {a a' : Except Error α} {t t' : Server} :
    @Eq (Id (Except Error α × Server)) (a, t) (a', t') ↔ a = a' ∧ t = t' :=
  Prod.mk.injEq _ _ _ _ ▸ Iff.rfl

theorem run_bind_eq_ok {x : ServerM α} {f : α → ServerM β} {b : β} :
    (x >>= f).run.run s = (.ok b, s'') ↔
      ∃ a s', x.run.run s = (.ok a, s') ∧ (f a).run.run s' = (.ok b, s'') := by
  rw [run_bind]
  rcases hx : x.run.run s with ⟨err | a, s'⟩ <;> simp

/-! ### Steps that keep part of the state -/

/-- The step leaves the `view` of the state as it was, whatever it answers. -/
def Preserves {γ : Type} (view : Server → γ) (x : ServerM α) : Prop :=
  ∀ s, view (x.run.run s).2 = view s

namespace Preserves

variable {γ : Type} {view : Server → γ}

theorem pure (a : α) : Preserves view (pure a : ServerM α) := fun _ => rfl

theorem throw (err : Error) : Preserves view (throw err : ServerM α) := fun _ => rfl

theorem ofExcept (r : Except Error α) : Preserves view (ofExcept r) := fun s => by
  rw [ofExcept_run]

theorem get : Preserves view (get : ServerM Server) := fun _ => rfl

theorem studio? (id : Ulid) : Preserves view (studio? id) := fun _ => rfl

theorem room (id : Ulid) : Preserves view (room id) := fun s => by
  rw [room_run]

theorem now (h : ∀ s t, view { s with clock := t } = view s) : Preserves view now :=
  fun s => h s _

theorem notify (h : ∀ s hub, view { s with hub := hub } = view s) (user : Ulid)
    (n : Notification) : Preserves view (notify user n) :=
  fun s => h s _

theorem bind {x : ServerM α} {f : α → ServerM β} (hx : Preserves view x)
    (hf : ∀ a, Preserves view (f a)) : Preserves view (x >>= f) := by
  intro s
  rw [run_bind]
  rcases h : x.run.run s with ⟨err | a, s'⟩
  · simpa [h] using hx s
  · have hs' : view s' = view s := by simpa [h] using hx s
    simpa [hs'] using hf a s'

theorem map {x : ServerM α} (f : α → β) (hx : Preserves view x) :
    Preserves view (f <$> x) := by
  intro s
  rw [run_map]
  rcases h : x.run.run s with ⟨err | a, s'⟩ <;> simpa [h] using hx s

theorem tryCatch {x : ServerM α} {h : Error → ServerM α} (hx : Preserves view x)
    (hh : ∀ err, Preserves view (h err)) : Preserves view (tryCatch x h) := by
  intro s
  rw [run_tryCatch]
  rcases hr : x.run.run s with ⟨err | a, s'⟩
  · have hs' : view s' = view s := by simpa [hr] using hx s
    simpa [hs'] using hh err s'
  · simpa [hr] using hx s

theorem readEngine (f : Engine → α) : Preserves view (readEngine f) := by
  intro s
  cases hb : s.backend with
  | embedded => rw [readEngine_run f hb]
  | unreachable err => rw [Server.readEngine, withEngine_unreachable _ hb]

theorem busySpans (room : Ulid) (window : Span) : Preserves view (busySpans room window) := by
  unfold Server.busySpans
  refine .bind .get fun st => ?_
  -- an unreachable database first checks the window's ends, which changes nothing
  split
  · exact .bind (.ofExcept _) fun _ => .bind (.ofExcept _) fun _ => readEngine _
  · exact readEngine _

theorem newId (hc : ∀ s t, view { s with clock := t } = view s)
    (hi : ∀ s n, view { s with idCount := n } = view s) : Preserves view newId := by
  intro s
  simp only [Server.newId, run_bind, now_run, run_get, run_set, run_pure]
  exact (hi { s with clock := s.clock.addNanos s.tick } _).trans (hc s _)

theorem nextInvoice (hc : ∀ s t, view { s with clock := t } = view s)
    (hl : ∀ s n, view { s with lastInvoice := n } = view s) : Preserves view nextInvoice := by
  intro s
  simp only [Server.nextInvoice, run_bind, now_run, run_get, run_set, run_pure]
  exact (hl { s with clock := s.clock.addNanos s.tick } _).trans (hc s _)

theorem booking (id : Ulid) : Preserves view (booking id) := by
  intro s
  cases hb : s.backend with
  | embedded => rw [booking_run id hb]
  | unreachable err =>
    simp only [Server.booking, findBooking, Server.readEngine, run_bind,
      withEngine_unreachable _ hb]

theorem getBooking (actor : Actor) (id : Ulid) : Preserves view (getBooking actor id) := by
  unfold Server.getBooking
  refine .bind (.booking _) fun b => .bind (.studio? _) fun st => ?_
  split
  · exact .pure _
  · exact .pure _
  · exact .throw _

theorem notifyPayment (h : ∀ s hub, view { s with hub := hub } = view s) (id : Ulid)
    (n : Notification) : Preserves view (notifyPayment id n) :=
  .bind (.tryCatch (.map _ (.booking id)) fun _ => .pure _) fun b? => by
    rcases b? with _ | b
    · exact .pure _
    · exact .bind (.studio? _) fun st => by
        rcases st with _ | st
        · exact .pure _
        · exact .notify h _ _

theorem notifyCounterparty (h : ∀ s hub, view { s with hub := hub } = view s) (b : Booking)
    (before : BookingStatus) (standing : Standing) (studio : Option Studio) (cmd : Command) :
    Preserves view (notifyCounterparty b before standing studio cmd) := by
  unfold Server.notifyCounterparty
  split
  · exact .notify h _ _
  · exact .pure _

end Preserves

/-! ### The payment side of the state -/

/-- The intents, the gateway and the storage backend. -/
def payments (s : Server) : List (Int × Intent) × GatewayConfig × Backend :=
  (s.engine.intents, s.gateway, s.backend)

/-- The intents, the gateway and the storage backend are as they were. -/
structure KeepsPayments (s s' : Server) : Prop where
  intents : s'.engine.intents = s.engine.intents
  gateway : s'.gateway = s.gateway
  backend : s'.backend = s.backend

theorem KeepsPayments.of_payments (h : payments s' = payments s) : KeepsPayments s s' := by
  simp only [payments, Prod.mk.injEq] at h
  exact ⟨h.1, h.2.1, h.2.2⟩

theorem KeepsPayments.trans (h₁ : KeepsPayments s s') (h₂ : KeepsPayments s' s'') :
    KeepsPayments s s'' :=
  ⟨h₂.intents.trans h₁.intents, h₂.gateway.trans h₁.gateway, h₂.backend.trans h₁.backend⟩

theorem KeepsPayments.getIntent (h : KeepsPayments s s') (n : Int) :
    s'.engine.getIntent n = s.engine.getIntent n := by
  simp only [Engine.getIntent, h.intents]

theorem Preserves.modifyBooking (id : Ulid) (c : Change) :
    Preserves payments (modifyBooking id c) := by
  intro s
  cases hb : s.backend with
  | embedded =>
    rw [modifyBooking_run id c hb]
    rcases hm : s.engine.modifyBooking id c.apply with err | ⟨a, e⟩
    · rfl
    · obtain ⟨room, r, current, next, -, -, -, -, h⟩ := Engine.modifyBooking_eq_ok hm
      rcases h with ⟨-, -, -, rfl⟩ | ⟨-, -, -, -, -, rfl⟩
      · rfl
      · simp [payments]
  | unreachable err =>
    simp only [Server.modifyBooking, withEngine_unreachable _ hb]

theorem Preserves.syncPayment (id : Ulid) (state : PaymentState) :
    Preserves payments (syncPayment id state) :=
  .bind (.now fun _ _ => rfl) fun _ => .bind (.modifyBooking _ _) fun _ => .pure _

theorem tryCatch_unit_run {x : ServerM PUnit} (hx : Preserves payments x) (s : Server) :
    ∃ s', (tryCatch x fun _ => pure ⟨⟩).run.run s = (.ok ⟨⟩, s') ∧ KeepsPayments s s' := by
  rw [run_tryCatch]
  rcases hr : x.run.run s with ⟨err | a, s'⟩
  · exact ⟨s', rfl, .of_payments (by simpa [hr] using hx s)⟩
  · exact ⟨s', rfl, .of_payments (by simpa [hr] using hx s)⟩

theorem notifyPayment_run (id : Ulid) (n : Notification) (s : Server) :
    ∃ s', (notifyPayment id n).run.run s = (.ok (), s') ∧ KeepsPayments s s' := by
  refine ⟨_, ?_, .of_payments (Preserves.notifyPayment (fun _ _ => rfl) id n s)⟩
  -- the read of the booking is caught, and what follows cannot fail
  simp only [notifyPayment, run_bind, run_tryCatch, run_map]
  rcases hb : (booking id).run.run s with ⟨err | b, s₁⟩
  · rfl
  · simp only [run_bind, studio?_run]
    rcases hst : s₁.catalog.studio? b.studio with _ | st <;> rfl

/-- A booking is read only by a party to it: its renter, or the staff of its studio. The read
leaves the state as it was. -/
theorem getBooking_eq_ok {actor : Actor} {id : Ulid} {b : Booking}
    (h : (getBooking actor id).run.run s = (.ok b, s')) :
    s' = s ∧ s.backend = .embedded ∧ s.engine.getBooking id = some b ∧
      (Standing.of actor b (s.catalog.studio? b.studio) = .renter ∨
        Standing.of actor b (s.catalog.studio? b.studio) = .studioStaff) := by
  obtain ⟨b', s₁, hb, h⟩ := run_bind_eq_ok.1 h
  cases hbe : s.backend with
  | unreachable err =>
    -- an unreachable database answers no read
    rw [Server.booking, findBooking, Server.readEngine, run_bind,
      withEngine_unreachable _ hbe] at hb
    cases hb
  | embedded =>
    rw [booking_run id hbe] at hb
    rcases hg : s.engine.getBooking id with _ | g
    · simp [hg] at hb
    · simp only [hg, answer_eq_iff, Except.ok.injEq] at hb
      obtain ⟨rfl, rfl⟩ := hb
      simp only [run_bind, studio?_run] at h
      rcases hs : Standing.of actor g (s.catalog.studio? g.studio) with _ | _ | _ | _ <;>
        simp only [hs, run_pure, run_throw, answer_eq_iff, Except.ok.injEq, reduceCtorEq,
          false_and] at h
      all_goals
        obtain ⟨rfl, rfl⟩ := h
        simp [hs]

end Server

end StudioRental
