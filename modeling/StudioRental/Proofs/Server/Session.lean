import StudioRental.Proofs.Server.Calls
import StudioRental.Proofs.Server.Issue
import StudioRental.Http.Api
import Mathlib.Data.List.Induction

/-!
The lifecycle of every booking through a session of the services.

A session is a list of calls (`Call`) by any actors, restarts of the storage included, performed
one after another on the server (`Server.session`). From a state whose journal rebuilds it and
whose bookings are valid, with every room let at a rate of at least zero and every booking
request read by the API, each call keeps the journal rebuilding the state and every booking
valid, and moves each booking one step on or brings it in new and pending (`Call.Keeps.perform`);
so does every session (`Server.session_lifecycle`). The records of each state are assumed to read
back from the journal, as for a restart.
-/

namespace StudioRental

theorem Http.newBooking?_proper {body : Json} {req : NewBooking}
    (h : Http.newBooking? body = some req) : req.start.Proper ∧ req.stop.Proper := by
  simp only [Http.newBooking?, bind, Option.bind_eq_some_iff, pure, Option.some.injEq] at h
  obtain ⟨_, _, _, _, _, _, _, _, _, _, start, hstart, _, _, stop, hstop, rfl⟩ := h
  exact ⟨TimeText.parseInstant?_proper hstart, TimeText.parseInstant?_proper hstop⟩

/-- A call of the booking and payment services by some actor, or a restart of the storage on its
journal with a compaction threshold. -/
inductive Call where
  | create (actor : Actor) (req : NewBooking)
  | confirm (actor : Actor) (id : Ulid)
  | cancel (actor : Actor) (id : Ulid) (reason : String)
  | complete (actor : Actor) (id : Ulid)
  | setDeposit (actor : Actor) (id : Ulid) (amount : Decimal)
  | markPaid (actor : Actor) (id : Ulid)
  | syncPayment (id : Ulid) (state : PaymentState)
  | pay (actor : Actor) (req : PaymentRequest)
  | settle (form : TextMap)
  | restart (threshold : Nat)

namespace Call

/-- The server after the call, whatever it answered. -/
def perform (s : Server) : Call → Server
  | create a req => ((Server.createBooking a req).run.run s).2
  | confirm a id => ((Server.confirm a id).run.run s).2
  | cancel a id reason => ((Server.cancel a id reason).run.run s).2
  | complete a id => ((Server.complete a id).run.run s).2
  | setDeposit a id amount => ((Server.setDeposit a id amount).run.run s).2
  | markPaid a id => ((Server.markPaid a id).run.run s).2
  | syncPayment id state => ((Server.syncPayment id state).run.run s).2
  | pay a req => ((Server.initPayment a req).run.run s).2
  | settle form => ((Server.handleResult form).run.run s).2
  | restart th => { s with engine := Engine.ofFile s.engine.file th }

/-- A booking request is one the API read from a body; the other calls carry nothing to read. -/
def Parsed : Call → Prop
  | create _ req => ∃ body, Http.newBooking? body = some req
  | _ => True

theorem perform_journals {s : Server} (hc : s.catalog.Priced) {call : Call} (hp : call.Parsed)
    (hr : ∀ th, call ≠ .restart th) :
    ∃ i o : Option Op, (∀ op ∈ i, op.OnIntents) ∧ (∀ op ∈ o, op.OnBookings) ∧
      (call.perform s).engine = (s.engine.run i.toList).run o.toList ∧
      (call.perform s).catalog = s.catalog := by
  have hj : ∀ {α : Type} (x : ServerM α), Server.Journals s.catalog x →
      ∃ i o : Option Op, (∀ op ∈ i, op.OnIntents) ∧ (∀ op ∈ o, op.OnBookings) ∧
        (x.run.run s).2.engine = (s.engine.run i.toList).run o.toList ∧
        (x.run.run s).2.catalog = s.catalog := fun _ hx => hx s rfl
  -- each call is read as the step it performs, then that step's lemma applies
  cases call with
  | create a req =>
    obtain ⟨body, hbody⟩ := hp
    simp only [perform]
    exact hj _ (.of_makes (Server.createBooking_makes hc a (Http.newBooking?_proper hbody)))
  | confirm a id =>
    simp only [perform]
    exact hj _ (.of_makes (Server.confirm_makes a id))
  | cancel a id reason =>
    simp only [perform]
    exact hj _ (.of_makes (Server.cancel_makes a id reason))
  | complete a id =>
    simp only [perform]
    exact hj _ (.of_makes (Server.complete_makes a id))
  | setDeposit a id amount =>
    simp only [perform]
    exact hj _ (.of_makes (Server.setDeposit_makes a id amount))
  | markPaid a id =>
    simp only [perform]
    exact hj _ (.of_makes (Server.markPaid_makes a id))
  | syncPayment id state =>
    simp only [perform]
    exact hj _ (.of_makes (Server.syncPayment_makes id state))
  | pay a req =>
    simp only [perform]
    exact hj _ (Server.initPayment_journals a req)
  | settle form =>
    simp only [perform]
    exact hj _ (Server.handleResult_journals form)
  | restart th => exact absurd rfl (hr th)

/-- What a session keeps of a state: its journal rebuilds its engine, every booking is valid,
and the catalog is `c`. -/
structure Keeps (c : Catalog) (s : Server) : Prop where
  recoverable : s.engine.Recoverable
  valid : ∀ b ∈ s.engine.bookings, b.Valid
  catalog : s.catalog = c

/-- One call keeps what a session keeps and moves each booking one step on, when the rooms are
let at rates of at least zero and the records before and after the call read back. -/
theorem Keeps.perform {c : Catalog} {s : Server} (hk : Keeps c s) (hc : c.Priced) {call : Call}
    (hp : call.Parsed) (hr : s.engine.Readable) (hr' : (call.perform s).engine.Readable) :
    Keeps c (call.perform s) ∧ Engine.Follows s.engine (call.perform s).engine := by
  obtain ⟨h, hv, rfl⟩ := hk
  by_cases hrs : ∃ th, call = .restart th
  · -- a restart rebuilds the same rooms from the journal
    obtain ⟨th, rfl⟩ := hrs
    have hrooms : (Engine.ofFile s.engine.file th).rooms = s.engine.rooms := (h.restart th).rooms
    refine ⟨⟨h.ofFile th hr', ?_, rfl⟩, .of_rooms_eq hrooms⟩
    show ∀ b ∈ (Engine.ofFile s.engine.file th).bookings, b.Valid
    rw [Engine.bookings, hrooms]
    exact hv
  · obtain ⟨i, o, hi, ho, he, hcat⟩ := perform_journals hc hp fun th hth => hrs ⟨th, hth⟩
    rw [he] at hr'
    obtain ⟨hrec, hv', hf⟩ := Engine.call_lifecycle h hv hi ho hr hr'
    exact ⟨⟨he ▸ hrec, he ▸ hv', hcat⟩, he ▸ hf⟩

end Call

namespace Server

/-- The server after the calls, one after another. -/
def session (s : Server) (calls : List Call) : Server := calls.foldl Call.perform s

theorem session_concat (s : Server) (calls : List Call) (call : Call) :
    s.session (calls ++ [call]) = call.perform (s.session calls) := by
  rw [session, List.foldl_append]
  rfl

/-- One call of a session, from a state the session keeps, keeps it and moves each booking one
step on, when the records before and after the call read back. -/
theorem session_step {s₀ : Server} (hc : s₀.catalog.Priced) {calls : List Call}
    (hp : ∀ call ∈ calls, call.Parsed)
    (hread : ∀ pre, pre <+: calls → (s₀.session pre).engine.Readable) (pre : List Call)
    (call : Call) (hpre : pre ++ [call] <+: calls) (hk : Call.Keeps s₀.catalog (s₀.session pre)) :
    Call.Keeps s₀.catalog (s₀.session (pre ++ [call])) ∧
      Engine.Follows (s₀.session pre).engine (s₀.session (pre ++ [call])).engine := by
  have hr := hread pre ((List.prefix_append _ _).trans hpre)
  have hr' := hread _ hpre
  rw [session_concat] at hr' ⊢
  exact hk.perform hc (hp call (hpre.subset (by simp))) hr hr'

/-- Every state of a session keeps what a session keeps, by induction on the calls made so far. -/
theorem session_keeps {s₀ : Server} (h₀ : s₀.engine.Recoverable)
    (hv₀ : ∀ b ∈ s₀.engine.bookings, b.Valid) (hc : s₀.catalog.Priced) {calls : List Call}
    (hp : ∀ call ∈ calls, call.Parsed)
    (hread : ∀ pre, pre <+: calls → (s₀.session pre).engine.Readable) :
    ∀ pre, pre <+: calls → Call.Keeps s₀.catalog (s₀.session pre) := by
  intro pre
  induction pre using List.reverseRecOn with
  | nil => exact fun _ => ⟨h₀, hv₀, rfl⟩
  | append_singleton pre call ih =>
    intro hpre
    exact (session_step hc hp hread pre call hpre (ih ((List.prefix_append _ _).trans hpre))).1

/-- Along every session of calls by any actors, restarts included, from a state whose journal
rebuilds it and whose bookings are valid, in a catalog that lets every room at a rate of at
least zero, and with every booking request read by the API: the bookings of every state are
valid, and each call moves each booking one step on, or brings it in new and pending. Assumes
that the records of each state read back from the journal. -/
theorem session_lifecycle {s₀ : Server} (h₀ : s₀.engine.Recoverable)
    (hv₀ : ∀ b ∈ s₀.engine.bookings, b.Valid) (hc : s₀.catalog.Priced) (calls : List Call)
    (hp : ∀ call ∈ calls, call.Parsed)
    (hread : ∀ pre, pre <+: calls → (s₀.session pre).engine.Readable) :
    (∀ pre, pre <+: calls → ∀ b ∈ (s₀.session pre).engine.bookings, b.Valid) ∧
      ∀ pre call, pre ++ [call] <+: calls →
        Engine.Follows (s₀.session pre).engine (s₀.session (pre ++ [call])).engine := by
  have hkeep := session_keeps h₀ hv₀ hc hp hread
  exact ⟨fun pre hpre => (hkeep pre hpre).valid, fun pre call hpre =>
    (session_step hc hp hread pre call hpre (hkeep pre ((List.prefix_append _ _).trans hpre))).2⟩

/-- A session that ends in a restart reads back in every state when the states before the
restart hold their records in range: the restart rebuilds the records of the state before it. -/
theorem session_readable_restart {s₀ : Server} (h₀ : s₀.engine.Recoverable)
    (hv₀ : ∀ b ∈ s₀.engine.bookings, b.Valid) (hc : s₀.catalog.Priced) {calls : List Call}
    (hp : ∀ call ∈ calls, call.Parsed)
    (hin : ∀ pre ∈ calls.inits, (s₀.session pre).engine.RecordsInRange) (th : Nat) :
    ∀ pre, pre <+: calls ++ [.restart th] → (s₀.session pre).engine.Readable := by
  have hread : ∀ pre, pre <+: calls → (s₀.session pre).engine.Readable :=
    fun pre hpre => .of_recordsInRange (hin pre ((List.mem_inits _ _).2 hpre))
  have hk := session_keeps h₀ hv₀ hc hp hread calls (List.prefix_refl calls)
  intro pre hpre
  rcases List.prefix_concat_iff.1 hpre with rfl | hpre
  · rw [session_concat]
    exact (hread calls (List.prefix_refl calls)).of_sameRecords (hk.recoverable.restart th).toSameRecords
  · exact hread pre hpre

theorem sessionBooking_valid : Engine.sessionBooking.Valid where
  reason := by decide
  reasonOk := by simp [Engine.sessionBooking]
  priceScale := rfl
  priceBound := by decide
  depositNonneg := by decide
  depositLe := by decide
  depositScale := by decide

/-- Calls on the session's booking by its renter: a confirmation, which a renter may not make, a
payment, the payment's synchronisation, and a cancellation. -/
def renterCalls : List Call :=
  [.confirm ⟨Ulid.nil, .renter⟩ Ulid.nil, .pay ⟨Ulid.nil, .renter⟩ sessionPayment,
    .syncPayment Ulid.nil .paid, .cancel ⟨Ulid.nil, .renter⟩ Ulid.nil "the band split up"]

-- the booking ends cancelled and paid, and the payment's intent is filed
example : ((sessionServer.session renterCalls).engine.rooms.map fun r =>
    r.bookings.map fun b => (b.status, b.payment)) = [[(.cancelled, .paid)]] ∧
    (sessionServer.session renterCalls).engine.intents.length = 1 := by
  decide +kernel

/-- The renter's calls on the session's server, then a restart. -/
theorem sessionServer_restart_lifecycle :
    (∀ pre, pre <+: renterCalls ++ [Call.restart 0] →
      ∀ b ∈ (sessionServer.session pre).engine.bookings, b.Valid) ∧
    ∀ pre call, pre ++ [call] <+: renterCalls ++ [Call.restart 0] →
      Engine.Follows (sessionServer.session pre).engine
        (sessionServer.session (pre ++ [call])).engine := by
  have h₀ : sessionServer.engine.Recoverable :=
    Engine.recoverable_run _ Engine.readable_run_sessionBooking
  have hbookings : sessionServer.engine.bookings = [Engine.sessionBooking] := by decide +kernel
  have hv₀ : ∀ b ∈ sessionServer.engine.bookings, b.Valid := by
    rw [hbookings]
    intro b hb
    rw [List.mem_singleton.1 hb]
    exact sessionBooking_valid
  have hc : sessionServer.catalog.Priced := fun r hr => absurd hr List.not_mem_nil
  -- none of the calls is a booking request
  have hp : ∀ call ∈ renterCalls ++ [Call.restart 0], call.Parsed := by
    intro call hcall
    simp only [renterCalls, List.cons_append, List.nil_append, List.mem_cons,
      List.not_mem_nil, or_false] at hcall
    rcases hcall with rfl | rfl | rfl | rfl | rfl <;> trivial
  exact session_lifecycle h₀ hv₀ hc _ hp (session_readable_restart h₀ hv₀ hc
    (fun call hcall => hp call (List.mem_append_left _ hcall)) (by decide +kernel) 0)

end Server

end StudioRental
