import StudioRental.Proofs.Server.Issue

/-!
Who may do what to a booking.

A caller is on a booking's staff when the catalog has the booking's studio and the caller owns it
acting as its owner or manages it acting as a manager (`Catalog.Staff`); a party to the booking
is on its staff or is its renter (`Catalog.Party`). The standing the server works out is exactly
that, staff first (`Standing.of_studio?`), and never the system's.

A call that is turned down fails with a broken rule, a missing record or a missing right, and
leaves the store as it was (`Server.Refused`). For a stored booking, every change but a
cancellation is refused to anyone off the staff, a cancellation and a read to anyone not a party,
and a change of the payment state to every caller; a read or an intent succeeds only for a
party, and an intent never for a cancelled booking. Making a booking stores nothing, or one
booking rented by the caller acting as a renter (`Server.createBooking_books`).
-/

namespace StudioRental

namespace Catalog

/-- The actor is on the staff of the booking's studio: the studio is in the catalog, and the
actor owns it acting as its owner, or manages it acting as a manager. -/
def Staff (c : Catalog) (a : Actor) (b : Booking) : Prop :=
  ∃ st, c.studio? b.studio = some st ∧
    (a.role = .studioOwner ∧ st.owner = a.user ∨
      a.role = .studioManager ∧ a.user ∈ st.managers)

/-- The actor is a party to the booking: on its studio's staff, or its renter. -/
def Party (c : Catalog) (a : Actor) (b : Booking) : Prop :=
  c.Staff a b ∨ a.user = b.renter

instance (c : Catalog) (a : Actor) (b : Booking) : Decidable (c.Staff a b) := by
  unfold Staff
  infer_instance

instance (c : Catalog) (a : Actor) (b : Booking) : Decidable (c.Party a b) := by
  unfold Party
  infer_instance

theorem studio?_id {c : Catalog} {id : Ulid} {st : Studio} (h : c.studio? id = some st) :
    st.id = id := by
  simpa using List.find?_some h

end Catalog

namespace Standing

variable {c : Catalog} {a : Actor} {b : Booking}

/-- Staff first, then the renter: a renter who also runs the studio acts as staff. -/
theorem of_studio? : Standing.of a b (c.studio? b.studio) =
    if c.Staff a b then .studioStaff else if a.user = b.renter then .renter else .unrelated := by
  simp only [@eq_comm _ a.user b.renter]
  by_cases hstaff : c.Staff a b
  · obtain ⟨st, hs, hrole⟩ := hstaff
    have hid := Catalog.studio?_id hs
    rw [if_pos ⟨st, hs, hrole⟩]
    unfold Standing.of
    rcases hrole with ⟨hr, ho⟩ | ⟨hr, hm⟩
    · simp [hs, hr, ho, hid]
    · simp [hs, hr, hm, hid]
  · rw [if_neg hstaff]
    unfold Standing.of
    cases hs : c.studio? b.studio with
    | none => cases a.role <;> simp
    | some st =>
      have hid := Catalog.studio?_id hs
      have hno : ¬(a.role = .studioOwner ∧ st.owner = a.user ∨
          a.role = .studioManager ∧ a.user ∈ st.managers) := fun h => hstaff ⟨st, hs, h⟩
      cases hr : a.role <;> simp_all

theorem of_ne_system (a : Actor) (b : Booking) (studio : Option Studio) :
    Standing.of a b studio ≠ .system := by
  -- whichever way the two tests go, the answer is one of the three standings of a caller
  have key : ∀ staff renter : Bool,
      (if staff = true then studioStaff else if renter = true then Standing.renter
        else unrelated) ≠ system := by decide
  exact key _ _

theorem of_studio?_of_not_party (h : ¬c.Party a b) :
    Standing.of a b (c.studio? b.studio) = .unrelated := by
  rw [Catalog.Party, not_or] at h
  rw [of_studio?, if_neg h.1, if_neg h.2]

theorem of_studio?_party :
    (Standing.of a b (c.studio? b.studio) = .renter ∨
      Standing.of a b (c.studio? b.studio) = .studioStaff) ↔ c.Party a b := by
  rw [of_studio?, Catalog.Party]
  split_ifs <;> simp_all

end Standing

namespace Change

theorem allowed_unrelated (cmd : Command) : allowed cmd .unrelated = false := by
  cases cmd <;> rfl

theorem allowed_of_not_staff {c : Catalog} {a : Actor} {b : Booking} {cmd : Command}
    (hs : ¬c.Staff a b) (hcmd : allowed cmd .renter = false) :
    allowed cmd (Standing.of a b (c.studio? b.studio)) = false := by
  rw [Standing.of_studio?, if_neg hs]
  split
  · exact hcmd
  · exact allowed_unrelated cmd

theorem authorize_of_not_allowed {c : Change} (h : allowed c.command c.standing = false) :
    c.authorize = .error (.forbidden
      (c.standing.text ++ " may not " ++ c.command.label ++ " this booking")) := by
  simp [authorize, h]

end Change

namespace Error

/-- The errors that turn a request down before anything is stored: a broken rule, a missing
record, or a caller without the right. -/
def isRefusal : Error → Bool
  | validation _ | notFound _ | forbidden _ => true
  | _ => false

end Error

theorem Money.check_eq_error {amount : Decimal} {what : String} {err : Error}
    (h : Money.check amount what = .error err) : err.isRefusal = true := by
  unfold Money.check at h
  split_ifs at h <;> (rw [← Except.error.inj h]; rfl)

namespace Command

theorem cancelWith_eq_error {reason : String} {err : Error} (h : cancelWith reason = .error err) :
    err.isRefusal = true := by
  unfold cancelWith at h
  dsimp only at h
  split_ifs at h <;> (rw [← Except.error.inj h]; rfl)

theorem cancelWith_eq_ok {reason : String} {cmd : Command} (h : cancelWith reason = .ok cmd) :
    cmd = .cancel (Text.trimBlank reason) := by
  unfold cancelWith at h
  dsimp only at h
  split_ifs at h
  exact (Except.ok.inj h).symm

theorem depositOf_eq_error {amount : Decimal} {err : Error} (h : depositOf amount = .error err) :
    err.isRefusal = true := by
  unfold depositOf at h
  split_ifs at h
  · rw [← Except.error.inj h]
    rfl
  · cases hc : Money.check amount "deposit amount" with
    | error e =>
      rw [hc] at h
      rw [← Except.error.inj h]
      exact Money.check_eq_error hc
    | ok x =>
      rw [hc] at h
      cases h

theorem depositOf_eq_ok {amount : Decimal} {cmd : Command} (h : depositOf amount = .ok cmd) :
    ∃ x, cmd = .setDeposit x := by
  unfold depositOf at h
  split_ifs at h
  cases hc : Money.check amount "deposit amount" with
  | error e =>
    rw [hc] at h
    cases h
  | ok x =>
    rw [hc] at h
    exact ⟨x, (Except.ok.inj h).symm⟩

end Command

namespace Server

variable {α β : Type} {s s' : Server}

theorem foldlM_eq_error {γ δ : Type} {f : γ → δ → Except Error γ}
    (hf : ∀ a x err, f a x = .error err → err.isRefusal = true) :
    ∀ (l : List δ) (a : γ) (err : Error), l.foldlM f a = .error err → err.isRefusal = true
  | [], a, err, h => by cases h
  | x :: l, a, err, h => by
    rw [List.foldlM_cons] at h
    cases hx : f a x with
    | error e =>
      rw [hx] at h
      cases h
      exact hf a x _ hx
    | ok a' =>
      rw [hx] at h
      exact foldlM_eq_error hf l a' err h

theorem normalizeShp_eq_error {params : TextMap} {err : Error}
    (h : normalizeShp params = .error err) : err.isRefusal = true := by
  unfold normalizeShp at h
  simp only [bind, Except.bind, throw, throwThe, MonadExceptOf.throw, pure, Except.pure] at h
  split at h
  · rw [← Except.error.inj h]
    rfl
  · refine foldlM_eq_error ?_ params [] err h
    rintro acc ⟨key, value⟩ e hkv
    dsimp only at hkv
    split_ifs at hkv <;> (rw [← Except.error.inj hkv]; rfl)

/-! ### Refusals -/

/-- The step fails with a refusal and leaves the stored records as they were. -/
def Refused (s : Server) (x : ServerM α) : Prop :=
  ∃ err s', x.run.run s = (.error err, s') ∧ err.isRefusal = true ∧ s'.engine = s.engine

namespace Refused

theorem bind_left {x : ServerM α} (h : Refused s x) (f : α → ServerM β) :
    Refused s (x >>= f) := by
  obtain ⟨err, s', hx, hr, he⟩ := h
  exact ⟨err, s', by rw [run_bind, hx], hr, he⟩

theorem bind_right {x : ServerM α} {f : α → ServerM β} {a : α}
    (hx : x.run.run s = (.ok a, s')) (he : s'.engine = s.engine) (hf : Refused s' (f a)) :
    Refused s (x >>= f) := by
  obtain ⟨err, s'', hfa, hr, he'⟩ := hf
  exact ⟨err, s'', by rw [run_bind, hx]; exact hfa, hr, he'.trans he⟩

theorem throw {err : Error} (h : err.isRefusal = true) : Refused s (throw err : ServerM α) :=
  ⟨err, s, rfl, h, rfl⟩

theorem ofExcept {r : Except Error α} {err : Error} (hr : r = .error err)
    (h : err.isRefusal = true) : Refused s (ofExcept r) :=
  ⟨err, s, by rw [ofExcept_run, hr], h, rfl⟩

end Refused

theorem ofExcept_run_ok {r : Except Error α} {a : α} (h : r = .ok a) :
    (ofExcept r).run.run s = (.ok a, s) := by
  rw [ofExcept_run, h]

theorem booking_run_of_stored {id : Ulid} {b : Booking} (hb : s.backend = .embedded)
    (hstored : s.engine.getBooking id = some b) : (booking id).run.run s = (.ok b, s) := by
  rw [booking_run id hb, hstored]

section Stored

variable {a : Actor} {id : Ulid} {b : Booking}

/-- A command the caller's standing does not allow is turned down before the store is touched. -/
theorem transition_refused {cmd : Command} (hb : s.backend = .embedded)
    (hstored : s.engine.getBooking id = some b)
    (hna : Change.allowed cmd (Standing.of a b (s.catalog.studio? b.studio)) = false) :
    Refused s (transition a id cmd) := by
  unfold transition
  refine .bind_right (booking_run_of_stored hb hstored) rfl ?_
  refine .bind_right (studio?_run _ _) rfl ?_
  refine .bind_right (now_run _) rfl ?_
  exact .bind_left (.ofExcept (Change.authorize_of_not_allowed hna) rfl) _

theorem confirm_refused (hb : s.backend = .embedded) (hstored : s.engine.getBooking id = some b)
    (hs : ¬s.catalog.Staff a b) : Refused s (confirm a id) :=
  transition_refused hb hstored (Change.allowed_of_not_staff hs rfl)

theorem complete_refused (hb : s.backend = .embedded) (hstored : s.engine.getBooking id = some b)
    (hs : ¬s.catalog.Staff a b) : Refused s (complete a id) :=
  transition_refused hb hstored (Change.allowed_of_not_staff hs rfl)

theorem markPaid_refused (hb : s.backend = .embedded) (hstored : s.engine.getBooking id = some b)
    (hs : ¬s.catalog.Staff a b) : Refused s (markPaid a id) :=
  transition_refused hb hstored (Change.allowed_of_not_staff hs rfl)

theorem setDeposit_refused (hb : s.backend = .embedded)
    (hstored : s.engine.getBooking id = some b) (hs : ¬s.catalog.Staff a b) (amount : Decimal) :
    Refused s (setDeposit a id amount) := by
  unfold setDeposit
  cases hd : Command.depositOf amount with
  | error err => exact .bind_left (.ofExcept rfl (Command.depositOf_eq_error hd)) _
  | ok cmd =>
    obtain ⟨x, rfl⟩ := Command.depositOf_eq_ok hd
    exact .bind_right (ofExcept_run_ok rfl) rfl
      (transition_refused hb hstored (Change.allowed_of_not_staff hs (by rfl)))

theorem cancel_refused (hb : s.backend = .embedded) (hstored : s.engine.getBooking id = some b)
    (hp : ¬s.catalog.Party a b) (reason : String) : Refused s (cancel a id reason) := by
  unfold cancel
  cases hc : Command.cancelWith reason with
  | error err => exact .bind_left (.ofExcept rfl (Command.cancelWith_eq_error hc)) _
  | ok cmd =>
    obtain rfl := Command.cancelWith_eq_ok hc
    refine .bind_right (ofExcept_run_ok rfl) rfl (transition_refused hb hstored ?_)
    rw [Standing.of_studio?_of_not_party hp]
    rfl

theorem syncCommand_refused (hb : s.backend = .embedded)
    (hstored : s.engine.getBooking id = some b) (p : PaymentState) :
    Refused s (transition a id (.syncPayment p)) :=
  transition_refused hb hstored (by simp [Change.allowed, Standing.of_ne_system])

theorem getBooking_refused (hb : s.backend = .embedded)
    (hstored : s.engine.getBooking id = some b) (hp : ¬s.catalog.Party a b) :
    Refused s (getBooking a id) := by
  unfold getBooking
  refine .bind_right (booking_run_of_stored hb hstored) rfl ?_
  refine .bind_right (studio?_run _ _) rfl ?_
  rw [Standing.of_studio?_of_not_party hp]
  exact .throw rfl

/-- An intent for a booking is refused to a caller who is not a party to it: the checks of the
request come first, and each turns it down for a broken rule. -/
theorem initPayment_refused {req : PaymentRequest} (hb : s.backend = .embedded)
    (hstored : s.engine.getBooking id = some b) (hreq : req.booking = id)
    (hp : ¬s.catalog.Party a b) : Refused s (initPayment a req) := by
  unfold initPayment
  rcases hA : (Signature.parseAmount req.outSum).filter (Decimal.zero < ·) with _ | x
  · exact .bind_left (.throw rfl) _
  refine .bind_right (run_pure _ _) rfl ?_
  beta_reduce
  rcases hM : Money.check x "out_sum" with err | x
  · exact .bind_left (.ofExcept rfl (Money.check_eq_error hM)) _
  refine .bind_right (ofExcept_run_ok rfl) rfl ?_
  dsimp only
  split
  · exact .bind_left (.throw rfl) _
  rcases hS : normalizeShp req.shp with err | S
  · exact .bind_left (.ofExcept rfl (normalizeShp_eq_error hS)) _
  refine .bind_right (ofExcept_run_ok rfl) rfl ?_
  rw [hreq]
  exact .bind_left (getBooking_refused hb hstored hp) _

/-- A booking is read only by a party to it. -/
theorem getBooking_party {r : Booking} (h : (getBooking a id).run.run s = (.ok r, s')) :
    s.engine.getBooking id = some r ∧ s.catalog.Party a r := by
  obtain ⟨-, -, hgb, hst⟩ := getBooking_eq_ok h
  exact ⟨hgb, Standing.of_studio?_party.1 hst⟩

/-- An intent is issued only to a party to the booking, and never for a cancelled one. -/
theorem initPayment_party {req : PaymentRequest} {r : PaymentInit}
    (h : (initPayment a req).run.run s = (.ok r, s')) :
    ∃ b, s.engine.getBooking req.booking = some b ∧ s.catalog.Party a b ∧
      b.status ≠ .cancelled := by
  obtain ⟨-, -, b, -, hgb, hc, hst, -⟩ := initPayment_eq_ok h
  exact ⟨b, hgb, Standing.of_studio?_party.1 hst, hc⟩

end Stored

/-! ### Making bookings -/

/-- From `s` to `s'` the stored records stay as they were, or gain one booking whose renter is
the actor, acting as a renter. -/
def BooksFor (a : Actor) (s s' : Server) : Prop :=
  s'.engine = s.engine ∨
    a.role = .renter ∧
      ∃ nb, nb.renter = a.user ∧ s.engine.insertBooking nb = .ok (nb, s'.engine)

/-- Whatever it answers, the step books only as `BooksFor` says. -/
def Books (a : Actor) (x : ServerM α) : Prop := ∀ s, BooksFor a s (x.run.run s).2

namespace Books

variable {a : Actor}

theorem of_preserves {x : ServerM α} (hx : Preserves (·.engine) x) : Books a x :=
  fun s => .inl (hx s)

theorem throw_bind {err : Error} {f : α → ServerM β} : Books a (throw err >>= f) :=
  fun _ => .inl rfl

theorem ite {c : Prop} [Decidable c] {x y : ServerM α} (hx : c → Books a x)
    (hy : ¬c → Books a y) : Books a (if c then x else y) := by
  split
  · exact hx ‹c›
  · exact hy ‹¬c›

theorem bind {x : ServerM α} {f : α → ServerM β} (hx : Preserves (·.engine) x)
    (hf : ∀ v, Books a (f v)) : Books a (x >>= f) := by
  intro s
  rw [run_bind]
  rcases h : x.run.run s with ⟨err | v, s₁⟩
  · exact .inl (by simpa [h] using hx s)
  · have he : s₁.engine = s.engine := by simpa [h] using hx s
    rcases hf v s₁ with h' | ⟨hr, nb, hnb, hins⟩
    · exact .inl (h'.trans he)
    · exact .inr ⟨hr, nb, hnb, he ▸ hins⟩

theorem insert {nb : Booking} {f : Booking → ServerM β} (hr : a.role = .renter)
    (hnb : nb.renter = a.user) (hf : ∀ v, Preserves (·.engine) (f v)) :
    Books a (insertBooking nb >>= f) := by
  intro s
  rw [run_bind]
  cases hb : s.backend with
  | unreachable err =>
    rw [insertBooking, withEngine_unreachable _ hb]
    exact .inl rfl
  | embedded =>
    rw [insertBooking, withEngine_run _ hb]
    rcases hins : s.engine.insertBooking nb with err | ⟨b', e'⟩
    · exact .inl rfl
    · obtain ⟨-, -, -, -, rfl, -⟩ := Engine.insertBooking_eq_ok hins
      refine .inr ⟨hr, b', hnb, ?_⟩
      have he : ((f b').run.run { s with engine := e' }).2.engine = e' := hf b' _
      simp only [Except.mapError]
      rw [he]
      exact hins

end Books

/-- Only a renter makes bookings, and only their own: every run of `createBooking` keeps the
store, or stores one booking whose renter is the caller. -/
theorem createBooking_books (a : Actor) (req : NewBooking) : Books a (createBooking a req) := by
  unfold createBooking
  refine .ite (fun _ => .throw_bind) fun hr => ?_
  refine .bind (.now fun _ _ => rfl) fun t => ?_
  refine .ite (fun _ => .throw_bind) fun _ => ?_
  refine .ite (fun _ => .throw_bind) fun _ => ?_
  refine .ite (fun _ => .throw_bind) fun _ => ?_
  refine .ite (fun _ => .throw_bind) fun _ => ?_
  refine .bind (.room _) fun room => ?_
  refine .ite (fun _ => .throw_bind) fun _ => ?_
  refine .bind (.ofExcept _) fun price => ?_
  refine .bind (.busySpans _ _) fun busy => ?_
  refine .ite (fun _ => .throw_bind) fun _ => ?_
  refine .bind (.newId (fun _ _ => rfl) fun _ _ => rfl) fun id => ?_
  refine .insert (by simpa using hr) rfl fun b => .bind (.studio? _) fun st => ?_
  -- telling the studio's owner keeps the store
  split
  · exact .bind (.notify (fun _ _ => rfl) _ _) fun _ => .pure _
  · exact .pure _

/-! ### The service as a whole -/

/-- What a caller can do to one stored booking `b`, filed under `id`: read it or pay for it only
as a party to it, and never pay for it once cancelled; every change but a cancellation is turned
down for anyone off the studio's staff, a cancellation for anyone not a party, and a change of
the payment state for every caller. -/
structure Guarded (s : Server) (a : Actor) (id : Ulid) (b : Booking) : Prop where
  read : ∀ r s', (getBooking a id).run.run s = (.ok r, s') → s.catalog.Party a b
  pay : ∀ req r s', req.booking = id → (initPayment a req).run.run s = (.ok r, s') →
    s.catalog.Party a b ∧ b.status ≠ .cancelled
  read_refused : ¬s.catalog.Party a b → Refused s (getBooking a id)
  pay_refused : ∀ req, req.booking = id → ¬s.catalog.Party a b →
    Refused s (initPayment a req)
  confirm : ¬s.catalog.Staff a b → Refused s (confirm a id)
  complete : ¬s.catalog.Staff a b → Refused s (complete a id)
  setDeposit : ¬s.catalog.Staff a b → ∀ amount, Refused s (setDeposit a id amount)
  markPaid : ¬s.catalog.Staff a b → Refused s (markPaid a id)
  cancel : ¬s.catalog.Party a b → ∀ reason, Refused s (cancel a id reason)
  sync : ∀ p, Refused s (transition a id (.syncPayment p))

/-- Every caller is guarded as `Guarded` says on every stored booking, no caller acts as the
system, and only a renter makes bookings, for themselves. -/
theorem stored_booking_guarded {id : Ulid} {b : Booking} (hb : s.backend = .embedded)
    (hstored : s.engine.getBooking id = some b) (a : Actor) :
    Guarded s a id b ∧ (∀ studio, Standing.of a b studio ≠ .system) ∧
      ∀ req, Books a (createBooking a req) := by
  refine ⟨⟨fun r s' h => ?_, fun req r s' hreq h => ?_, getBooking_refused hb hstored,
    fun _ hreq => initPayment_refused hb hstored hreq, confirm_refused hb hstored,
    complete_refused hb hstored, setDeposit_refused hb hstored, markPaid_refused hb hstored,
    cancel_refused hb hstored, syncCommand_refused hb hstored⟩,
    Standing.of_ne_system a b, createBooking_books a⟩
  · obtain ⟨hgb, hp⟩ := getBooking_party h
    rw [hstored, Option.some.injEq] at hgb
    exact hgb ▸ hp
  · obtain ⟨b', hgb, hp, hc⟩ := initPayment_party h
    rw [hreq, hstored, Option.some.injEq] at hgb
    exact hgb ▸ ⟨hp, hc⟩

theorem sessionBooking_guarded :
    sessionServer.backend = .embedded ∧
      sessionServer.engine.getBooking Ulid.nil = some Engine.sessionBooking ∧
      Guarded sessionServer ⟨Ulid.nil, .renter⟩ Ulid.nil Engine.sessionBooking ∧
      (∀ studio, Standing.of ⟨Ulid.nil, .renter⟩ Engine.sessionBooking studio ≠ .system) ∧
      ∀ req, Books ⟨Ulid.nil, .renter⟩ (createBooking ⟨Ulid.nil, .renter⟩ req) :=
  have hstored : sessionServer.engine.getBooking Ulid.nil = some Engine.sessionBooking := by rfl
  ⟨rfl, hstored, stored_booking_guarded rfl hstored _⟩

end Server

end StudioRental
