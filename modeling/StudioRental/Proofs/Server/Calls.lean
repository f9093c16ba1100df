import StudioRental.Proofs.Engine.History
import StudioRental.Proofs.Time.Leap
import StudioRental.Proofs.Server.Frame

/-!
What each call of the services does to the engine.

With the catalog in force, a step `Makes P` when it makes at most one engine call, one that `P`
allows, and leaves the catalog; it `Journals` when it files or changes at most one intent and then
makes at most one call on bookings as the services make them (`Op.OnBookings`). Both are built
from the code line by line: a step that keeps the records (`Preserves stored`) adds nothing, and
each storage call adds the operation it performs on the engine (`Makes.withEngine`).

Booking enters only a valid pending booking when the catalog lets every room at a rate of at
least zero and the request's instants are proper (`Server.createBooking_makes`): the price is then
at least zero, since the engine takes only a span that ends after it starts. Every command makes
only a checked change; issuing an intent and a settlement first file or change the intent and
then mark the booking (`Server.initPayment_journals`, `Server.handleResult_journals`).
-/

namespace StudioRental

namespace Catalog

/-- Every room is let at an hourly rate of at least zero. -/
def Priced (c : Catalog) : Prop := ∀ r ∈ c.rooms, Decimal.zero ≤ r.hourlyRate

theorem room?_mem {c : Catalog} {id : Ulid} {r : Room} (h : c.room? id = some r) : r ∈ c.rooms :=
  List.mem_of_find?_eq_some h

end Catalog

theorem Engine.span_lt_of_validateSpan {s : Span} (h : Engine.validateSpan s = .ok ()) :
    s.start < s.stop := by
  unfold Engine.validateSpan at h
  split at h
  · cases h
  · rename_i hne
    simpa [Span.isEmpty] using hne

namespace Server

variable {α β : Type}

/-- The stored records and the catalog. -/
def stored (s : Server) : Engine × Catalog := (s.engine, s.catalog)

/-- With the catalog `c`, the step makes at most one engine call, one that `P` allows, and
leaves the catalog. -/
def Makes (P : Op → Prop) (c : Catalog) (x : ServerM α) : Prop :=
  ∀ s, s.catalog = c → ∃ o : Option Op, (∀ op ∈ o, P op) ∧
    (x.run.run s).2.engine = s.engine.run o.toList ∧ (x.run.run s).2.catalog = c

namespace Makes

variable {P : Op → Prop} {c : Catalog}

theorem of_preserves {x : ServerM α} (hx : Preserves stored x) : Makes P c x := by
  intro s hs
  obtain ⟨he, hc⟩ := Prod.mk.inj (hx s)
  exact ⟨none, by simp, he, hc.trans hs⟩

theorem throw_bind {err : Error} {f : α → ServerM β} : Makes P c (throw err >>= f) :=
  fun _ hs => ⟨none, by simp, rfl, hs⟩

theorem ite {p : Prop} [Decidable p] {x y : ServerM α} (hx : p → Makes P c x)
    (hy : ¬p → Makes P c y) : Makes P c (if p then x else y) := by
  split
  · exact hx ‹p›
  · exact hy ‹¬p›

theorem bind {x : ServerM α} {f : α → ServerM β} (hx : Preserves stored x)
    (hf : ∀ a, Makes P c (f a)) : Makes P c (x >>= f) := by
  intro s hs
  rw [run_bind]
  obtain ⟨he, hc⟩ := Prod.mk.inj (hx s)
  rcases h : x.run.run s with ⟨err | a, s₁⟩
  · rw [h] at he hc
    exact ⟨none, by simp, he, hc.trans hs⟩
  · rw [h] at he hc
    obtain ⟨o, ho, he', hc'⟩ := hf a s₁ (hc.trans hs)
    exact ⟨o, ho, by rw [he', he], hc'⟩

theorem bind_ofExcept {r : Except Error α} {f : α → ServerM β}
    (hf : ∀ a, r = .ok a → Makes P c (f a)) : Makes P c (ofExcept r >>= f) := by
  cases r with
  | error err => exact throw_bind
  | ok a => exact hf a rfl

theorem bind_room {id : Ulid} {f : Room → ServerM β}
    (hf : ∀ r, c.room? id = some r → Makes P c (f r)) : Makes P c (room id >>= f) := by
  intro s hs
  rw [run_bind, room_run]
  rcases hr : s.catalog.room? id with _ | r
  · exact ⟨none, by simp, rfl, hs⟩
  · exact hf r (hs ▸ hr) s hs

theorem bind_right {x : ServerM α} {g : α → ServerM β} (hx : Makes P c x)
    (hg : ∀ a, Preserves stored (g a)) : Makes P c (x >>= g) := by
  intro s hs
  obtain ⟨o, ho, he, hc⟩ := hx s hs
  rw [run_bind]
  rcases h : x.run.run s with ⟨err | a, s₁⟩
  · rw [h] at he hc
    exact ⟨o, ho, he, hc⟩
  · rw [h] at he hc
    obtain ⟨he', hc'⟩ := Prod.mk.inj (hg a s₁)
    exact ⟨o, ho, he'.trans he, hc'.trans hc⟩

theorem tryCatch {x : ServerM α} {h : Error → ServerM α} (hx : Makes P c x)
    (hh : ∀ err, Preserves stored (h err)) : Makes P c (tryCatch x h) := by
  intro s hs
  obtain ⟨o, ho, he, hc⟩ := hx s hs
  rw [run_tryCatch]
  rcases hr : x.run.run s with ⟨err | a, s₁⟩
  · rw [hr] at he hc
    obtain ⟨he', hc'⟩ := Prod.mk.inj (hh err s₁)
    exact ⟨o, ho, he'.trans he, hc'.trans hc⟩
  · rw [hr] at he hc
    exact ⟨o, ho, he, hc⟩

/-- A storage call that does to the engine what `op` does, allowed when it succeeds. -/
theorem withEngine (op : Op) {f : Engine → Except Error (α × Engine)}
    (hop : ∀ e a e', f e = .ok (a, e') → P op)
    (hf : ∀ e : Engine, e.settle (f e) = e.step op) : Makes P c (withEngine f) := by
  intro s hs
  cases hb : s.backend with
  | unreachable err =>
    rw [withEngine_unreachable _ hb]
    exact ⟨none, by simp, rfl, hs⟩
  | embedded =>
    rw [withEngine_run _ hb]
    have hstep := hf s.engine
    rcases hfe : f s.engine with err | ⟨a, e'⟩
    · exact ⟨none, by simp, rfl, hs⟩
    · rw [hfe] at hstep
      exact ⟨some op, by simpa using hop _ _ _ hfe, hstep, hs⟩

theorem insert {nb : Booking}
    (hnb : Engine.validateSpan nb.span = .ok () → P (.insertBooking nb)) :
    Makes P c (insertBooking nb) := by
  refine withEngine (.insertBooking nb) (fun e b e' hins => ?_) fun e => ?_
  · simp only [Except.mapError] at hins
    split at hins
    · cases hins
    · rename_i hok
      exact hnb (Engine.insertBooking_eq_ok hok).1
  · simp only [Engine.step]
    cases e.insertBooking nb <;> rfl

theorem modify {id : Ulid} {ch : Change} (hch : P (.modifyBooking id ch)) :
    Makes P c (modifyBooking id ch) :=
  withEngine (.modifyBooking id ch) (fun _ _ _ _ => hch) fun _ => rfl

theorem insertIntent {i : Intent} (hi : P (.insertIntent i)) : Makes P c (insertIntent i) := by
  refine withEngine (.insertIntent i) (fun _ _ _ _ => hi) fun e => ?_
  simp only [Engine.step]
  cases e.insertIntent i <;> rfl

theorem reconcile {n : Int} {check : CallbackCheck} (hi : P (.modifyIntent n check)) :
    Makes P c (reconcile n check) := by
  refine withEngine (.modifyIntent n check) (fun _ _ _ _ => hi) fun e => ?_
  simp only [Engine.step]
  cases e.modifyIntent n fun i => .ok (check.apply i) <;> rfl

end Makes

variable {c : Catalog}

/-- Booking makes one call at most: it enters a valid pending booking, when the rates are at
least zero and the request's instants proper. -/
theorem createBooking_makes (hc : c.Priced) (a : Actor) {req : NewBooking}
    (hreq : req.start.Proper ∧ req.stop.Proper) :
    Makes Op.OnBookings c (createBooking a req) := by
  unfold createBooking
  refine .ite (fun _ => .throw_bind) fun _ => ?_
  refine .bind (.now fun _ _ => rfl) fun t => ?_
  refine .ite (fun _ => .throw_bind) fun hlt => ?_
  refine .ite (fun _ => .throw_bind) fun _ => ?_
  refine .ite (fun _ => .throw_bind) fun _ => ?_
  refine .ite (fun _ => .throw_bind) fun _ => ?_
  refine .bind_room fun room hroom => ?_
  refine .ite (fun _ => .throw_bind) fun _ => ?_
  refine .bind_ofExcept fun price hprice => ?_
  refine .bind (.busySpans _ _) fun busy => ?_
  refine .ite (fun _ => .throw_bind) fun _ => ?_
  refine .bind (.newId (fun _ _ => rfl) fun _ _ => rfl) fun id => ?_
  refine .bind_right (.insert fun hspan => ?_) fun b => .bind (.studio? _) fun st => ?_
  · -- the storage takes the booking only if its span ends after it starts
    have hms :=
      Instant.millisSince_nonneg hreq.2 hreq.1 hlt (Engine.span_lt_of_validateSpan hspan)
    exact ⟨.created rfl rfl rfl hprice (hc room (Catalog.room?_mem hroom)) hms, rfl⟩
  · split
    · exact .bind (.notify (fun _ _ => rfl) _ _) fun _ => .pure _
    · exact .pure _

/-- A command makes one checked change at most. -/
theorem transition_makes {cmd : Command} (hcmd : cmd.Checked) (actor : Actor) (id : Ulid) :
    Makes Op.OnBookings c (transition actor id cmd) := by
  unfold transition
  refine .bind (.booking _) fun b => .bind (.studio? _) fun st => ?_
  refine .bind (.now fun _ _ => rfl) fun t => .bind (.ofExcept _) fun _ => ?_
  refine .bind_right (.modify hcmd) fun ⟨b', changed⟩ => ?_
  -- telling the other party keeps the records
  dsimp only
  split
  · exact .bind (.notifyCounterparty (fun _ _ => rfl) _ _ _ _ _) fun _ => .pure _
  · exact .pure _

theorem cancel_makes (actor : Actor) (id : Ulid) (reason : String) :
    Makes Op.OnBookings c (cancel actor id reason) :=
  .bind_ofExcept fun _ h => transition_makes (Command.cancelWith_checked h) actor id

theorem setDeposit_makes (actor : Actor) (id : Ulid) (amount : Decimal) :
    Makes Op.OnBookings c (setDeposit actor id amount) :=
  .bind_ofExcept fun _ h => transition_makes (Command.depositOf_checked h) actor id

theorem confirm_makes (actor : Actor) (id : Ulid) : Makes Op.OnBookings c (confirm actor id) :=
  transition_makes (by trivial) actor id

theorem complete_makes (actor : Actor) (id : Ulid) : Makes Op.OnBookings c (complete actor id) :=
  transition_makes (by trivial) actor id

theorem markPaid_makes (actor : Actor) (id : Ulid) : Makes Op.OnBookings c (markPaid actor id) :=
  transition_makes (by trivial) actor id

theorem syncPayment_makes (id : Ulid) (state : PaymentState) :
    Makes Op.OnBookings c (syncPayment id state) :=
  .bind (.now fun _ _ => rfl) fun _ => .bind_right (.modify trivial) fun _ => .pure _

theorem reconcileCallback_makes (channel : Channel) (p : CallbackParams) :
    Makes Op.OnIntents c (reconcileCallback channel p) := by
  unfold reconcileCallback
  refine .bind .get fun st => .bind (.now fun _ _ => rfl) fun t => ?_
  refine .bind_right (.tryCatch (.bind_right (.reconcile (by trivial)) ?_) fun err => ?_)
    fun r => ?_
  · -- the intent and the verdict are handed on as the answer
    rintro ⟨⟨i, _⟩, v⟩ _
    rfl
  · -- a failure is passed on, or an unknown invoice told only that the signature is wrong
    split
    · -- the password the channel reads splits before the test of the signature
      split <;> split <;> exact fun _ => rfl
    · exact fun _ => rfl
  · cases r <;> exact .pure _

/-- With the catalog `c`, the step files or changes at most one intent, then makes at most one
call on bookings as the services make them, and leaves the catalog. -/
def Journals (c : Catalog) (x : ServerM α) : Prop :=
  ∀ s, s.catalog = c → ∃ i o : Option Op,
    (∀ op ∈ i, op.OnIntents) ∧ (∀ op ∈ o, op.OnBookings) ∧
    (x.run.run s).2.engine = (s.engine.run i.toList).run o.toList ∧ (x.run.run s).2.catalog = c

namespace Journals

theorem of_makes {x : ServerM α} (hx : Makes Op.OnBookings c x) : Journals c x := by
  intro s hs
  obtain ⟨o, ho, he, hc⟩ := hx s hs
  exact ⟨none, o, by simp, ho, he, hc⟩

theorem throw_bind {err : Error} {f : α → ServerM β} : Journals c (throw err >>= f) :=
  of_makes .throw_bind

theorem ite {p : Prop} [Decidable p] {x y : ServerM α} (hx : p → Journals c x)
    (hy : ¬p → Journals c y) : Journals c (if p then x else y) := by
  split
  · exact hx ‹p›
  · exact hy ‹¬p›

theorem bind_left {x : ServerM α} {f : α → ServerM β} (hx : Preserves stored x)
    (hf : ∀ a, Journals c (f a)) : Journals c (x >>= f) := by
  intro s hs
  rw [run_bind]
  obtain ⟨he, hc⟩ := Prod.mk.inj (hx s)
  rcases h : x.run.run s with ⟨err | a, s₁⟩
  · rw [h] at he hc
    exact ⟨none, none, by simp, by simp, he, hc.trans hs⟩
  · rw [h] at he hc
    obtain ⟨i, o, hi, ho, he', hc'⟩ := hf a s₁ (hc.trans hs)
    exact ⟨i, o, hi, ho, by rw [he', he], hc'⟩

theorem bind {x : ServerM α} {f : α → ServerM β} (hx : Makes Op.OnIntents c x)
    (hf : ∀ a, Makes Op.OnBookings c (f a)) : Journals c (x >>= f) := by
  intro s hs
  obtain ⟨i, hi, he, hc⟩ := hx s hs
  rw [run_bind]
  rcases h : x.run.run s with ⟨err | a, s₁⟩
  · rw [h] at he hc
    exact ⟨i, none, hi, by simp, he, hc⟩
  · rw [h] at he hc
    obtain ⟨o, ho, he', hc'⟩ := hf a s₁ hc
    exact ⟨i, o, hi, ho, by rw [he', he], hc'⟩

end Journals

/-- Issuing an intent files it, then marks the booking unpaid again. -/
theorem initPayment_journals (actor : Actor) (req : PaymentRequest) :
    Journals c (initPayment actor req) := by
  unfold initPayment
  -- the amount must read as a positive number
  rcases (Signature.parseAmount req.outSum).filter (Decimal.zero < ·) with _ | amount
  · exact .throw_bind
  refine .bind_left (.pure _) fun amount => .bind_left (.ofExcept _) fun amount => ?_
  refine .ite (fun _ => .throw_bind) fun _ => ?_
  refine .bind_left (.ofExcept _) fun shp => ?_
  refine .bind_left (.getBooking _ _) fun b => ?_
  refine .ite (fun _ => .throw_bind) fun _ => ?_
  refine .bind_left (.nextInvoice (fun _ _ => rfl) fun _ _ => rfl) fun invoice => ?_
  refine .bind_left .get fun st => .bind_left (.now fun _ _ => rfl) fun t => ?_
  refine .bind (.insertIntent trivial) fun i => ?_
  exact .bind_right (.tryCatch (.bind_right (syncPayment_makes _ _) fun _ => .pure _)
    fun _ => .pure _) fun _ => .pure _

/-- A settlement changes its intent, then marks the booking paid when it applies. -/
theorem handleResult_journals (form : TextMap) : Journals c (handleResult form) := by
  unfold handleResult
  refine .bind_left (.ofExcept _) fun p => .bind (reconcileCallback_makes _ _) fun ⟨i, v⟩ => ?_
  dsimp only
  split
  · exact .bind_right (.tryCatch (.bind_right (syncPayment_makes _ _) fun _ => .pure _)
      fun _ => .pure _) fun _ => .bind (.notifyPayment (fun _ _ => rfl) _ _) fun _ => .pure _
  -- the other verdicts answer or fail, and leave the records
  all_goals exact .of_preserves fun _ => rfl

end Server

end StudioRental
