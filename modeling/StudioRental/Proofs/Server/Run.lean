import StudioRental.Server.Payments
import StudioRental.Proofs.Engine.Calls

/-!
Running a step of the server.

A step (`ServerM`) takes the state to an answer and the next state. The lemmas here compute a
step from the steps it is built of (`run_bind` and its companions), and give the clock, the
catalog lookups and each storage call one equation for the embedded engine. The lemmas about a
service call then read it line by line from its code with `simp only` over these equations,
without unfolding the monad.
-/

namespace StudioRental

namespace Server

variable {α β : Type} (s : Server)

@[simp] theorem run_pure (a : α) : (pure a : ServerM α).run.run s = (.ok a, s) := rfl

@[simp] theorem run_throw (err : Error) : (throw err : ServerM α).run.run s = (.error err, s) := rfl

@[simp] theorem run_get : (get : ServerM Server).run.run s = (.ok s, s) := rfl

@[simp] theorem run_set (s' : Server) : (set s' : ServerM PUnit).run.run s = (.ok ⟨⟩, s') := rfl

@[simp] theorem run_modify (f : Server → Server) :
    (modify f : ServerM PUnit).run.run s = (.ok ⟨⟩, f s) := rfl

/-- A sequence runs its second part from the state the first left, unless the first failed. -/
theorem run_bind (x : ServerM α) (f : α → ServerM β) :
    (x >>= f).run.run s = match x.run.run s with
      | (.ok a, s') => (f a).run.run s'
      | (.error err, s') => (.error err, s') := by
  simp only [ExceptT.run_bind, StateT.run_bind]
  rcases x.run.run s with ⟨_ | a, s'⟩ <;> rfl

theorem run_map (f : α → β) (x : ServerM α) :
    (f <$> x).run.run s = match x.run.run s with
      | (.ok a, s') => (.ok (f a), s')
      | (.error err, s') => (.error err, s') := by
  simp only [ExceptT.run_map, StateT.run_map]
  rcases x.run.run s with ⟨_ | a, s'⟩ <;> rfl

/-- A handled step keeps what the failed step did to the state, and goes on from there. -/
theorem run_tryCatch (x : ServerM α) (h : Error → ServerM α) :
    (tryCatch x h).run.run s = match x.run.run s with
      | (.ok a, s') => (.ok a, s')
      | (.error err, s') => (h err).run.run s' := by
  simp only [ExceptT.run_tryCatch, StateT.run_bind]
  rcases x.run.run s with ⟨_ | a, s'⟩ <;> rfl

/-! ### The clock, the catalog and the hub -/

@[simp] theorem now_run : now.run.run s = (.ok s.clock, { s with clock := s.clock.addNanos s.tick }) :=
  rfl

@[simp] theorem ofExcept_run (r : Except Error α) : (ofExcept r).run.run s = (r, s) := by
  cases r <;> rfl

@[simp] theorem studio?_run (id : Ulid) : (studio? id).run.run s = (.ok (s.catalog.studio? id), s) :=
  rfl

theorem room_run (id : Ulid) :
    (room id).run.run s = (match s.catalog.room? id with
      | some r => .ok r
      | none => .error (.notFound ("room " ++ id.render)), s) := by
  rcases hr : s.catalog.room? id with _ | r <;> simp only [room, run_bind, run_get, hr] <;> rfl

@[simp] theorem notify_run (user : Ulid) (n : Notification) :
    (notify user n).run.run s = (.ok ⟨⟩, { s with hub := s.hub.notify user n }) := rfl

/-! ### Storage -/

section Storage

variable {s}

theorem withEngine_run (f : Engine → Except Error (α × Engine)) (hb : s.backend = .embedded) :
    (withEngine f).run.run s = match f s.engine with
      | .ok (a, e) => (.ok a, { s with engine := e })
      | .error err => (.error err, s) := by
  -- split the call's answer first, so that both sides compute
  rcases hf : f s.engine with err | ⟨a, e⟩ <;> simp only [withEngine, run_bind, run_get, hb, hf] <;> rfl

theorem withEngine_unreachable (f : Engine → Except Error (α × Engine)) {err : Error}
    (hb : s.backend = .unreachable err) : (withEngine f).run.run s = (.error err, s) := by
  simp only [withEngine, run_bind, run_get, hb]
  rfl

theorem readEngine_run (f : Engine → α) (hb : s.backend = .embedded) :
    (readEngine f).run.run s = (.ok (f s.engine), s) := by
  simp only [readEngine, withEngine_run _ hb]

theorem booking_run (id : Ulid) (hb : s.backend = .embedded) :
    (booking id).run.run s = (match s.engine.getBooking id with
      | some b => .ok b
      | none => .error (.notFound ("booking " ++ id.render)), s) := by
  rcases hf : s.engine.getBooking id with _ | b <;>
    simp only [booking, findBooking, run_bind, readEngine_run _ hb, hf] <;> rfl

theorem modifyBooking_run (id : Ulid) (c : Change) (hb : s.backend = .embedded) :
    (modifyBooking id c).run.run s = match s.engine.modifyBooking id c.apply with
      | .ok (a, e) => (.ok a, { s with engine := e })
      | .error err => (.error err, s) := by
  rcases hm : s.engine.modifyBooking id c.apply with err | ⟨a, e⟩ <;>
    simp only [modifyBooking, withEngine_run _ hb, hm]

theorem reconcile_run (invoice : Int) (check : CallbackCheck) (hb : s.backend = .embedded) :
    (reconcile invoice check).run.run s =
      match s.engine.modifyIntent invoice fun i => .ok (check.apply i) with
      | .ok (((i, changed, v)), e) => (.ok ((i, changed), v), { s with engine := e })
      | .error err => (.error err, s) := by
  rcases hm : s.engine.modifyIntent invoice fun i => .ok (check.apply i) with
    err | ⟨⟨i, changed, v⟩, e⟩ <;> simp only [reconcile, withEngine_run _ hb, hm] <;> rfl

end Storage

end Server

end StudioRental
