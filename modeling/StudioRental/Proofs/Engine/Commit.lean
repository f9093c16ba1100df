import StudioRental.Proofs.Journal.Commit
import StudioRental.Proofs.Engine.Restart

/-!
Calls whose record the journal fails to commit.

A call that changes the state logs one record (`Engine.logged`). The journal's writer drains the
records pending from several callers into one batch, commits it, and tells every caller of the
batch the one report (`Engine.Running.round`); the calls take effect in memory only when their
batch went through, and otherwise their callers hear the journal's error and memory is left as it
was. Over rounds one after the other, memory is the engine after the calls of the rounds that
went through (`Engine.Running.engine_rounds`). A call made alone (`Engine.Running.call`) is a
round of one, and a session of such calls is the case of rounds of one caller each
(`Engine.Running.rounds_singletons`).

The journal does not follow memory so closely. A batch reported failed may have put its records
whole in the file before the failure, when the sync is what failed: replay then brings back a call
whose caller was told it failed (`Engine.refused_insert_replayed`). And a failed append may leave a
part of a frame in the stream, ahead of the frames of later calls. When no round leaves such a
part (`Journal.Device.Whole` after every round), replaying the journal after the session gives its
starting records and then records of the session in order, among them every record acknowledged
(`Engine.Running.replay_rounds`, and `Engine.acknowledged_calls_survive_failures` for calls made
alone).
-/

namespace StudioRental

namespace Engine

/-- The record a call logs: none when it fails on its own or changes nothing. -/
def logged (e : Engine) : Op → Option Event
  | .insertBooking b => (e.insertBooking b).toOption.map fun _ => .bookingCreated b
  | .modifyBooking id c =>
    match e.modifyBooking id c.apply with
    | .ok ((next, true), _) => some (.bookingChanged next)
    | _ => none
  | .insertIntent i => (e.insertIntent i).toOption.map fun _ => .intentCreated i
  | .modifyIntent n c =>
    match e.modifyIntent n fun i => .ok (c.apply i) with
    | .ok ((next, true, _), _) => some (.intentChanged next)
    | _ => none
  | .compact | .restart _ => none

/-- The record a call logs is the one the engine appends to its journal, and a call that logs none
leaves the engine as it was. -/
theorem step_of_logged {e : Engine} {op : Op} (hop : op.isCall = true) :
    (∀ ev, e.logged op = some ev → (e.step op).file = Journal.append e.file ev) ∧
      (e.logged op = none → e.step op = e) := by
  cases op with
  | insertBooking b =>
    cases hr : e.insertBooking b with
    | error => exact ⟨fun ev h => by simp [logged, hr, Except.toOption] at h,
        fun _ => by simp [step, hr, settle]⟩
    | ok res =>
      obtain ⟨b', e'⟩ := res
      obtain ⟨-, -, -, -, -, rfl⟩ := e.insertBooking_eq_ok hr
      refine ⟨fun ev h => ?_, fun h => by simp [logged, hr, Except.toOption] at h⟩
      simp only [logged, hr, Except.toOption, Option.map_some, Option.some.injEq] at h
      subst h
      simp [step, hr, settle]
  | modifyBooking id c =>
    cases hr : e.modifyBooking id c.apply with
    | error => exact ⟨fun ev h => by simp [logged, hr] at h, fun _ => by simp [step, hr, settle]⟩
    | ok res =>
      obtain ⟨⟨b', changed⟩, e'⟩ := res
      obtain ⟨room, r, current, next, -, -, -, -, ⟨-, -, rfl, rfl⟩ | ⟨-, -, -, rfl, rfl, rfl⟩⟩ :=
        e.modifyBooking_eq_ok hr
      · exact ⟨fun ev h => by simp [logged, hr] at h, fun _ => by simp [step, hr, settle]⟩
      · refine ⟨fun ev h => ?_, fun h => by simp [logged, hr] at h⟩
        simp only [logged, hr, Option.some.injEq] at h
        subst h
        simp [step, hr, settle]
  | insertIntent i =>
    cases hr : e.insertIntent i with
    | error => exact ⟨fun ev h => by simp [logged, hr, Except.toOption] at h,
        fun _ => by simp [step, hr, settle]⟩
    | ok res =>
      obtain ⟨i', e'⟩ := res
      obtain ⟨-, -, -, rfl⟩ := e.insertIntent_eq_ok hr
      refine ⟨fun ev h => ?_, fun h => by simp [logged, hr, Except.toOption] at h⟩
      simp only [logged, hr, Except.toOption, Option.map_some, Option.some.injEq] at h
      subst h
      simp [step, hr, settle]
  | modifyIntent n c =>
    cases hr : e.modifyIntent n fun i => .ok (c.apply i) with
    | error => exact ⟨fun ev h => by simp [logged, hr] at h, fun _ => by simp [step, hr, settle]⟩
    | ok res =>
      obtain ⟨⟨i, changed, out⟩, e'⟩ := res
      obtain ⟨-, -, -, ⟨-, rfl, rfl⟩ | ⟨-, rfl, rfl⟩⟩ := e.modifyIntent_eq_ok hr
      · exact ⟨fun ev h => by simp [logged, hr] at h, fun _ => by simp [step, hr, settle]⟩
      · refine ⟨fun ev h => ?_, fun h => by simp [logged, hr] at h⟩
        simp only [logged, hr, Option.some.injEq] at h
        subst h
        simp [step, hr, settle]
  | compact => simp [Op.isCall] at hop
  | restart => simp [Op.isCall] at hop

/-- Calls made one after the other, each with the record it logs on the state the earlier ones
leave. -/
def logs (e : Engine) : List Op → List (Op × Option Event)
  | [] => []
  | op :: ops => (op, e.logged op) :: (e.step op).logs ops

theorem map_fst_logs (e : Engine) (ops : List Op) : (e.logs ops).map Prod.fst = ops := by
  induction ops generalizing e with
  | nil => rfl
  | cons op ops ih => rw [logs, List.map_cons, ih]

/-- Calls made one after the other append to the engine's journal exactly the records they log. -/
theorem file_run_logs (e : Engine) {ops : List Op} (hops : ∀ op ∈ ops, op.isCall = true) :
    (e.run ops).file = ((e.logs ops).filterMap (·.2)).foldl Journal.append e.file := by
  induction ops generalizing e with
  | nil => rfl
  | cons op ops ih =>
    obtain ⟨hsome, hnone⟩ := step_of_logged (e := e) (hops op List.mem_cons_self)
    rw [run_cons, ih (e.step op) fun o ho => hops o (List.mem_cons_of_mem op ho), logs,
      List.filterMap_cons]
    cases hl : e.logged op with
    | none => simp only [hnone hl]
    | some ev => simp only [List.foldl_cons, hsome ev hl]

/-- What the caller of a call hears about its record. -/
inductive Reply where
  /-- The call logged nothing: it failed on its own, or changed nothing. -/
  | unlogged
  /-- The journal committed the call's record. -/
  | committed (ev : Event)
  /-- The journal failed to commit the call's record, and the caller hears its error. -/
  | refused (ev : Event)
  deriving DecidableEq

namespace Reply

/-- The record the call logged. -/
def record : Reply → Option Event
  | unlogged => none
  | committed ev | refused ev => some ev

/-- The record acknowledged to the caller. -/
def acked : Reply → Option Event
  | committed ev => some ev
  | _ => none

/-- Whether the call took effect in memory. -/
def tookEffect : Reply → Bool
  | refused _ => false
  | _ => true

/-- What the caller of a call in a batch hears: nothing of the journal when the call logged no
record, and otherwise the batch's one report. -/
def ofBatch (done : Bool) : Option Event → Reply
  | none => unlogged
  | some ev => if done then committed ev else refused ev

@[simp] theorem record_ofBatch (done : Bool) (l : Option Event) : (ofBatch done l).record = l := by
  cases l <;> cases done <;> rfl

@[simp] theorem acked_ofBatch (done : Bool) (l : Option Event) :
    (ofBatch done l).acked = if done then l else none := by
  cases l <;> cases done <;> rfl

@[simp] theorem tookEffect_ofBatch (done : Bool) (l : Option Event) :
    (ofBatch done l).tookEffect = (done || l.isNone) := by
  cases l <;> cases done <;> rfl

end Reply

/-- A running engine: its state in memory and the device its journal is written on. The engine's
own `file` is the journal as the calls that took effect wrote it; the journal on disk is the
device's. -/
structure Running where
  engine : Engine
  device : Journal.Device

namespace Running

/-- Make a call. Its record, if it logs one, is committed as a batch of its own, and the call takes
effect only when the batch went through. -/
def call (r : Running) (op : Op) : Running × Reply :=
  match r.engine.logged op with
  | none => (⟨r.engine.step op, r.device⟩, .unlogged)
  | some ev =>
    if (r.device.flushBatch [ev]).2 then (⟨r.engine.step op, (r.device.flushBatch [ev]).1⟩, .committed ev)
    else (⟨r.engine, (r.device.flushBatch [ev]).1⟩, .refused ev)

/-- Make calls one after the other; each is listed with what its caller heard. -/
def session (r : Running) : List Op → Running × List (Op × Reply)
  | [] => (r, [])
  | op :: ops =>
    let c := r.call op
    let s := c.1.session ops
    (s.1, (op, c.2) :: s.2)

/-- One round of the journal's writer. The calls `ops` are made side by side, listed in the order
their records reach the writer; each works out its record on the state the earlier ones leave,
which is how it finds its own room while the callers of one batch hold different rooms. The writer
drains the pending records into one batch and commits it, and every caller that logged a record
hears the batch's report; the calls take effect in memory only when the batch went through. A
round that logs nothing never reaches the writer. -/
def round (r : Running) (ops : List Op) : Running × List (Op × Reply) :=
  let logs := r.engine.logs ops
  let batch := logs.filterMap (·.2)
  if batch.isEmpty then (⟨r.engine.run ops, r.device⟩, logs.map fun p => (p.1, .ofBatch true p.2))
  else
    let d := r.device.flushBatch batch
    (⟨if d.2 then r.engine.run ops else r.engine, d.1⟩, logs.map fun p => (p.1, .ofBatch d.2 p.2))

/-- Rounds one after the other; each round's calls are listed with what their callers heard. -/
def rounds (r : Running) : List (List Op) → Running × List (List (Op × Reply))
  | [] => (r, [])
  | ops :: more =>
    let c := r.round ops
    let s := c.1.rounds more
    (s.1, c.2 :: s.2)

/-- An engine whose journal was just opened on the frames of the records `es₀`, on a device whose
requests end as `os` says. -/
def opened (e₀ : Engine) (es₀ : List Event) (os : List Journal.Outcome) : Running :=
  ⟨e₀, { file := Journal.ofEvents es₀, outcomes := os }⟩

/-- The calls that took effect, in order. -/
def effective (replies : List (Op × Reply)) : List Op :=
  (replies.filter (·.2.tookEffect)).map Prod.fst

/-- The records the calls logged, in order. -/
def records (replies : List (Op × Reply)) : List Event := replies.filterMap (·.2.record)

/-- The records acknowledged to their callers, in order. -/
def acknowledged (replies : List (Op × Reply)) : List Event := replies.filterMap (·.2.acked)

/-- The calls of a round that took effect: all of them, unless the journal refused the round's
batch, and then none. -/
def roundEffective (replies : List (Op × Reply)) : List Op :=
  if replies.all (·.2.tookEffect) then replies.map Prod.fst else []

variable {r : Running} {op : Op} {ev : Event}

theorem call_of_unlogged (h : r.engine.logged op = none) :
    r.call op = (⟨r.engine.step op, r.device⟩, .unlogged) := by
  rw [call, h]

theorem call_of_committed (h : r.engine.logged op = some ev)
    (hok : (r.device.flushBatch [ev]).2 = true) :
    r.call op = (⟨r.engine.step op, (r.device.flushBatch [ev]).1⟩, .committed ev) := by
  rw [call, h]
  exact if_pos hok

theorem call_of_refused (h : r.engine.logged op = some ev)
    (hfail : (r.device.flushBatch [ev]).2 = false) :
    r.call op = (⟨r.engine, (r.device.flushBatch [ev]).1⟩, .refused ev) := by
  rw [call, h]
  exact if_neg (by rw [hfail]; exact Bool.false_ne_true)

theorem call_cases (r : Running) (op : Op) :
    (r.engine.logged op = none ∧ r.call op = (⟨r.engine.step op, r.device⟩, .unlogged)) ∨
    ∃ ev, r.engine.logged op = some ev ∧
      ((r.device.flushBatch [ev]).2 = true ∧
          r.call op = (⟨r.engine.step op, (r.device.flushBatch [ev]).1⟩, .committed ev) ∨
        (r.device.flushBatch [ev]).2 = false ∧
          r.call op = (⟨r.engine, (r.device.flushBatch [ev]).1⟩, .refused ev)) := by
  cases h : r.engine.logged op with
  | none => exact .inl ⟨rfl, call_of_unlogged h⟩
  | some ev =>
    refine .inr ⟨ev, rfl, ?_⟩
    cases hok : (r.device.flushBatch [ev]).2
    · exact .inr ⟨rfl, call_of_refused h hok⟩
    · exact .inl ⟨rfl, call_of_committed h hok⟩

@[simp] theorem session_nil (r : Running) : r.session [] = (r, []) := rfl

theorem session_cons (r : Running) (op : Op) (ops : List Op) :
    r.session (op :: ops) =
      (((r.call op).1.session ops).1, (op, (r.call op).2) :: ((r.call op).1.session ops).2) := rfl

theorem effective_cons (op : Op) (c : Reply) (replies : List (Op × Reply)) :
    effective ((op, c) :: replies) = if c.tookEffect then op :: effective replies
      else effective replies := by
  cases c <;> rfl

@[simp] theorem records_cons (op : Op) (c : Reply) (replies : List (Op × Reply)) :
    records ((op, c) :: replies) = c.record.toList ++ records replies := by
  cases c <;> rfl

@[simp] theorem acknowledged_cons (op : Op) (c : Reply) (replies : List (Op × Reply)) :
    acknowledged ((op, c) :: replies) = c.acked.toList ++ acknowledged replies := by
  cases c <;> rfl

@[simp] theorem records_append (replies replies' : List (Op × Reply)) :
    records (replies ++ replies') = records replies ++ records replies' :=
  List.filterMap_append

@[simp] theorem acknowledged_append (replies replies' : List (Op × Reply)) :
    acknowledged (replies ++ replies') = acknowledged replies ++ acknowledged replies' :=
  List.filterMap_append

/-! ### Rounds of the writer -/

section Round

variable {ops : List Op} {batch : List Event}

theorem round_of_unlogged (h : (r.engine.logs ops).filterMap (·.2) = []) :
    r.round ops =
      (⟨r.engine.run ops, r.device⟩, (r.engine.logs ops).map fun p => (p.1, .ofBatch true p.2)) := by
  simp only [round, h, List.isEmpty_nil, ↓reduceIte]

theorem round_of_batch (h : (r.engine.logs ops).filterMap (·.2) = batch) (hne : batch ≠ []) :
    r.round ops =
      (⟨if (r.device.flushBatch batch).2 then r.engine.run ops else r.engine,
        (r.device.flushBatch batch).1⟩,
        (r.engine.logs ops).map fun p => (p.1, .ofBatch (r.device.flushBatch batch).2 p.2)) := by
  have hb : batch.isEmpty = false := List.isEmpty_eq_false_iff.2 hne
  simp only [round, h, hb, Bool.false_eq_true, ↓reduceIte]

variable (done : Bool) (logs : List (Op × Option Event))

@[simp] theorem records_ofBatch :
    records (logs.map fun p => (p.1, Reply.ofBatch done p.2)) = logs.filterMap (·.2) := by
  simp [records, List.filterMap_map]

@[simp] theorem acknowledged_ofBatch :
    acknowledged (logs.map fun p => (p.1, Reply.ofBatch done p.2)) =
      if done then logs.filterMap (·.2) else [] := by
  cases done <;> simp [acknowledged, List.filterMap_map]

theorem all_tookEffect_ofBatch :
    (logs.map fun p => (p.1, Reply.ofBatch done p.2)).all (·.2.tookEffect) =
      (done || (logs.filterMap (·.2)).isEmpty) := by
  induction logs with
  | nil => simp
  | cons p logs ih =>
    obtain ⟨op, l⟩ := p
    cases l <;> cases done <;> simp [ih]

theorem roundEffective_ofBatch :
    roundEffective (logs.map fun p => (p.1, Reply.ofBatch done p.2)) =
      if done || (logs.filterMap (·.2)).isEmpty then logs.map Prod.fst else [] := by
  simp only [roundEffective, all_tookEffect_ofBatch, List.map_map, Function.comp_def]

end Round

theorem round_singleton (r : Running) (op : Op) :
    r.round [op] = ((r.call op).1, [(op, (r.call op).2)]) := by
  have hlogs : r.engine.logs [op] = [(op, r.engine.logged op)] := rfl
  rcases call_cases r op with ⟨hl, hc⟩ | ⟨ev, hl, ⟨hok, hc⟩ | ⟨hfail, hc⟩⟩
  · rw [round_of_unlogged (by rw [hlogs, hl]; rfl), hc, hlogs, hl]
    rfl
  · rw [round_of_batch (show (r.engine.logs [op]).filterMap (·.2) = [ev] by rw [hlogs, hl]; rfl)
      (List.cons_ne_nil ev []), hc, hlogs, hl, hok]
    rfl
  · rw [round_of_batch (show (r.engine.logs [op]).filterMap (·.2) = [ev] by rw [hlogs, hl]; rfl)
      (List.cons_ne_nil ev []), hc, hlogs, hl, hfail]
    rfl

@[simp] theorem rounds_nil (r : Running) : r.rounds [] = (r, []) := rfl

theorem rounds_cons (r : Running) (ops : List Op) (rs : List (List Op)) :
    r.rounds (ops :: rs) =
      (((r.round ops).1.rounds rs).1, (r.round ops).2 :: ((r.round ops).1.rounds rs).2) := rfl

/-- Calls made alone, one after the other, are rounds of one caller each. -/
theorem rounds_singletons (r : Running) (ops : List Op) :
    r.rounds (ops.map ([·])) = ((r.session ops).1, (r.session ops).2.map ([·])) := by
  induction ops generalizing r with
  | nil => rfl
  | cons op ops ih => simp only [List.map_cons, rounds_cons, round_singleton, ih, session_cons]

theorem flatMap_roundEffective_singletons (replies : List (Op × Reply)) :
    (replies.map ([·])).flatMap roundEffective = effective replies := by
  induction replies with
  | nil => rfl
  | cons p replies ih =>
    obtain ⟨op, c⟩ := p
    rw [List.map_cons, List.flatMap_cons, ih, effective_cons]
    cases c <;> rfl

/-! ### Memory -/

/-- A round leaves memory as its calls leave it when its batch went through or it logs nothing,
and otherwise as it was. -/
theorem engine_round (r : Running) (ops : List Op) :
    (r.round ops).1.engine = r.engine.run (roundEffective (r.round ops).2) := by
  by_cases hb : (r.engine.logs ops).filterMap (·.2) = []
  · rw [round_of_unlogged hb, roundEffective_ofBatch, Bool.true_or, if_pos rfl, map_fst_logs]
  · rw [round_of_batch rfl hb, roundEffective_ofBatch]
    cases (r.device.flushBatch ((r.engine.logs ops).filterMap (·.2))).2 <;>
      simp [hb, map_fst_logs]

/-- The engine in memory after rounds of calls is the engine after the calls of the rounds whose
batch went through, made one after the other: a call whose record the journal refused is as if it
had not been made, and so are the other calls of its round. -/
theorem engine_rounds (r : Running) (rs : List (List Op)) :
    (r.rounds rs).1.engine = r.engine.run ((r.rounds rs).2.flatMap roundEffective) := by
  induction rs generalizing r with
  | nil => rfl
  | cons ops rs ih =>
    simp only [rounds_cons, List.flatMap_cons, Engine.run_append, ih]
    rw [engine_round]

/-- The engine in memory after a session is the engine after the calls that took effect, made one
after the other. -/
theorem engine_session (r : Running) (ops : List Op) :
    (r.session ops).1.engine = r.engine.run (effective (r.session ops).2) := by
  have h := engine_rounds r (ops.map ([·]))
  simp only [rounds_singletons, flatMap_roundEffective_singletons] at h
  exact h

/-! ### The journal -/

variable {es₀ taken acked : List Event}

/-- One round keeps the account of the journal: the records of its batch appended whole join the
stream's, and the batch joins the records acknowledged when it is reported done. -/
theorem holds_round (h : r.device.Holds es₀ taken acked)
    (hread : ∀ e ∈ es₀ ++ taken ++ records (r.round ops).2, e.Readable)
    (hwhole : (r.round ops).1.device.Whole) :
    ∃ t, t.Sublist (records (r.round ops).2) ∧
      (r.round ops).1.device.Holds es₀ (taken ++ t) (acked ++ acknowledged (r.round ops).2) := by
  by_cases hb : (r.engine.logs ops).filterMap (·.2) = []
  · -- a round that logs nothing never reaches the writer
    simp only [round_of_unlogged hb, records_ofBatch, acknowledged_ofBatch, ↓reduceIte, hb,
      List.append_nil]
    exact ⟨[], List.Sublist.slnil, by simpa only [List.append_nil] using h⟩
  · rw [round_of_batch rfl hb] at hread hwhole ⊢
    simp only [records_ofBatch, acknowledged_ofBatch] at hread hwhole ⊢
    obtain ⟨t, ht, -, hholds⟩ := h.commit hread hwhole
    refine ⟨t, ht.sublist, ?_⟩
    cases hok : (r.device.flushBatch ((r.engine.logs ops).filterMap (·.2))).2
    · -- a refused batch may still have records whole in the stream
      simpa only [hok, Bool.false_eq_true, ↓reduceIte, List.append_nil] using hholds
    · simpa only [hok, ↓reduceIte] using hholds

/-- Through rounds in which none leaves a part of a frame in the journal, the journal keeps the
records it started with and gains records the rounds logged, in order, among them every record
acknowledged to its caller. -/
theorem holds_rounds (r : Running) (rs : List (List Op)) (h : r.device.Holds es₀ taken acked)
    (hread : ∀ e ∈ es₀ ++ taken ++ records (r.rounds rs).2.flatten, e.Readable)
    (hwhole : ∀ pre, pre <+: rs → (r.rounds pre).1.device.Whole) :
    ∃ more, more.Sublist (records (r.rounds rs).2.flatten) ∧
      (r.rounds rs).1.device.Holds es₀ (taken ++ more)
        (acked ++ acknowledged (r.rounds rs).2.flatten) := by
  induction rs generalizing r taken acked with
  | nil => exact ⟨[], List.Sublist.slnil, by simpa [acknowledged] using h⟩
  | cons ops rs ih =>
    simp only [rounds_cons, List.flatten_cons, records_append, acknowledged_append] at hread ⊢
    have hfirst : (r.round ops).1.device.Whole := by
      simpa only [rounds_cons, rounds_nil] using
        hwhole [ops] (List.cons_prefix_cons.2 ⟨rfl, List.nil_prefix⟩)
    obtain ⟨t, ht, hround⟩ := holds_round h (fun e he => hread e (by
      simp only [List.mem_append] at he ⊢
      tauto)) hfirst
    -- the later rounds start from the state the first one leaves
    obtain ⟨more, hmore, hrest⟩ := ih (r.round ops).1 hround (fun e he => hread e (by
        have hsub : e ∈ t → e ∈ records (r.round ops).2 := fun hx => ht.subset hx
        simp only [List.mem_append] at he hsub ⊢
        tauto))
      fun pre hpre => by
        simpa only [rounds_cons] using hwhole (ops :: pre) (List.cons_prefix_cons.2 ⟨rfl, hpre⟩)
    exact ⟨t ++ more, ht.append hmore, by simpa only [List.append_assoc] using hrest⟩

/-- Rounds on a journal opened on the frames of some records: when every record reads back and no
round leaves a part of a frame, replaying the journal after them gives the starting records, then
records the rounds logged, in order, among them every record acknowledged. -/
theorem replay_rounds (e₀ : Engine) (es₀ : List Event) (os : List Journal.Outcome)
    (rs : List (List Op)) (hes : ∀ e ∈ es₀, e.Readable)
    (hread : ∀ e ∈ records ((opened e₀ es₀ os).rounds rs).2.flatten, e.Readable)
    (hwhole : ∀ pre, pre <+: rs → ((opened e₀ es₀ os).rounds pre).1.device.Whole) :
    ∃ L, Journal.replay ((opened e₀ es₀ os).rounds rs).1.device.close.file = es₀ ++ L ∧
      (acknowledged ((opened e₀ es₀ os).rounds rs).2.flatten).Sublist L ∧
      L.Sublist (records ((opened e₀ es₀ os).rounds rs).2.flatten) := by
  have hread' : ∀ e ∈ es₀ ++ [] ++ records ((opened e₀ es₀ os).rounds rs).2.flatten, e.Readable := by
    intro e he
    rw [List.append_nil, List.mem_append] at he
    exact he.elim (hes e) (hread e)
  obtain ⟨more, hmore, hholds⟩ :=
    holds_rounds (opened e₀ es₀ os) rs (Journal.Device.holds_open es₀ os) hread' hwhole
  rw [List.nil_append, List.nil_append] at hholds
  -- dropping the handle only writes out its buffer
  have hclosed := hholds.keeps (Journal.Device.keeps_close _)
  obtain ⟨L, hreplay, hacked, hL⟩ := hclosed.replay_file fun e he => hread' e (by
    rw [List.mem_append] at he
    rw [List.append_nil, List.mem_append]
    exact he.imp_right fun hm => hmore.subset hm)
  exact ⟨L, hreplay, hacked, hL.sublist.trans hmore⟩

-- both callers of a batch whose sync fails hear the journal's error, and neither booking is kept
example : ((opened {} [] [.done, .fail 0]).round (sessionCalls.take 2)).2.map (·.2.tookEffect) =
    [false, false] ∧ ((opened {} [] [.done, .fail 0]).round (sessionCalls.take 2)).1.engine.rooms = [] := by
  decide +kernel

end Running

open Running

/-- Calls whose record the journal refuses are not in memory, but they may still be in the
journal. In a session on a journal opened on the frames of some records, with any outcomes of
the device's requests: memory is the engine after the calls that took effect; any batch of
records, however many callers it has, tells them all one report, grows the stream by the frames of
the records appended whole and then by a part of the next frame, and is whole in the file when
reported done; and when every record reads back and no call leaves a part of a frame in the
journal, replaying the journal after the session gives the starting records, then records the
session logged, in order, among them every record acknowledged. -/
theorem acknowledged_calls_survive_failures (e₀ : Engine) (es₀ : List Event)
    (os : List Journal.Outcome) (ops : List Op) :
    let r₀ := Running.opened e₀ es₀ os
    let s := r₀.session ops
    s.1.engine = e₀.run (effective s.2) ∧
      (∀ (d : Journal.Device) (events : List Event), ∃ taken cut,
        d.Appended events (d.flushBatch events) taken cut ∧
          ((d.flushBatch events).2 = true → (d.flushBatch events).1.buffer = .empty)) ∧
      ((∀ e ∈ es₀, e.Readable) → (∀ e ∈ records s.2, e.Readable) →
        (∀ pre, pre <+: ops → (r₀.session pre).1.device.Whole) →
        ∃ L, Journal.replay s.1.device.close.file = es₀ ++ L ∧ (acknowledged s.2).Sublist L ∧
          L.Sublist (records s.2)) := by
  intro r₀ s
  refine ⟨engine_session r₀ ops, fun d events => ?_, fun hes hread hwhole => ?_⟩
  · obtain ⟨taken, cut, happ⟩ := d.flushBatch_appended events
    exact ⟨taken, cut, happ, Journal.Device.buffer_flushBatch⟩
  · -- calls made alone are rounds of one caller each
    have hflat : (r₀.rounds (ops.map ([·]))).2.flatten = s.2 := by
      rw [rounds_singletons]
      exact List.flatMap_singleton' _
    have hstate : (r₀.rounds (ops.map ([·]))).1 = s.1 := by rw [rounds_singletons]
    obtain ⟨L, hL⟩ := replay_rounds e₀ es₀ os (ops.map ([·])) hes (by rwa [hflat])
      fun pre hpre => by
        obtain ⟨q, hq, rfl⟩ := List.prefix_map_iff.1 hpre
        rw [rounds_singletons]
        exact hwhole q hq
    rw [hflat, hstate] at hL
    exact ⟨L, hL⟩

/-! ### A sync that fails -/

theorem mem_bookingCreated_readable :
    ∀ e ∈ [Event.bookingCreated sessionBooking], e.Readable := fun e he => by
  rw [List.mem_singleton.1 he]
  exact sessionBooking_readable.1

theorem logged_sessionBooking :
    ({} : Engine).logged (.insertBooking sessionBooking) = some (.bookingCreated sessionBooking) := by
  decide +kernel

theorem appendAll_sessionBooking :
    ((Running.opened {} [] [.done, .fail 0]).device.appendAll
      [.bookingCreated sessionBooking]).2 = true := by
  decide +kernel

theorem call_sessionBooking_refused :
    (Running.opened {} [] [.done, .fail 0]).call (.insertBooking sessionBooking) =
      (⟨(Running.opened {} [] [.done, .fail 0]).engine,
        ((Running.opened {} [] [.done, .fail 0]).device.flushBatch
          [.bookingCreated sessionBooking]).1⟩, .refused (.bookingCreated sessionBooking)) :=
  call_of_refused logged_sessionBooking (by decide +kernel)

/-- An insert whose record the device writes out but whose sync fails: its caller hears the
journal's error and the booking is not in memory, yet replaying the journal gives its record
back. -/
theorem refused_insert_replayed :
    let s := (Running.opened {} [] [.done, .fail 0]).session [.insertBooking sessionBooking]
    s.2 = [(.insertBooking sessionBooking, .refused (.bookingCreated sessionBooking))] ∧
      s.1.engine.rooms = [] ∧
      Journal.replay s.1.device.close.file = [.bookingCreated sessionBooking] := by
  have hflush : (((Running.opened {} [] [.done, .fail 0]).device.appendAll
      [.bookingCreated sessionBooking]).1.flushBuf).2 = true := by decide +kernel
  obtain ⟨hfile, hbuf⟩ := Journal.Device.flushBatch_of_flushed appendAll_sessionBooking hflush
  show ((Running.opened {} [] [.done, .fail 0]).session [.insertBooking sessionBooking]).2 = _ ∧ _
  rw [session_cons, call_sessionBooking_refused, session_nil]
  refine ⟨rfl, rfl, ?_⟩
  dsimp only
  -- the device wrote out the frame whole before the sync failed
  have hempty : (Running.opened {} [] [.done, .fail 0]).device.written = .empty :=
    ByteArray.append_empty
  rw [Journal.Device.close_of_empty hbuf, hfile, hempty, ByteArray.empty_append]
  exact Journal.replay_ofEvents mem_bookingCreated_readable

/-- A booking entered while the sync fails, then entered again: the journal is whole frames after
each call, the retry is acknowledged, and the replay holds both records. -/
theorem refused_then_retried_insert :
    let ops := [Op.insertBooking sessionBooking, .insertBooking sessionBooking]
    let r₀ := Running.opened {} [] [.done, .fail 0]
    let s := r₀.session ops
    (∀ e ∈ ([] : List Event), e.Readable) ∧ (∀ e ∈ records s.2, e.Readable) ∧
      (∀ pre, pre <+: ops → (r₀.session pre).1.device.Whole) ∧
      s.1.engine = ({} : Engine).run (effective s.2) ∧
      ∃ L, Journal.replay s.1.device.close.file = [] ++ L ∧ (acknowledged s.2).Sublist L ∧
        L.Sublist (records s.2) := by
  -- the second call is made on the state the first one leaves, and goes through
  have hlog₁ : ((Running.opened {} [] [.done, .fail 0]).call
      (.insertBooking sessionBooking)).1.engine.logged (.insertBooking sessionBooking) =
      some (.bookingCreated sessionBooking) := by
    rw [call_sessionBooking_refused]
    exact logged_sessionBooking
  have hok₁ : (((Running.opened {} [] [.done, .fail 0]).call
      (.insertBooking sessionBooking)).1.device.flushBatch [.bookingCreated sessionBooking]).2 =
      true := by
    rw [call_sessionBooking_refused]
    decide +kernel
  have hcall₁ := call_of_committed hlog₁ hok₁
  have hs : ((Running.opened {} [] [.done, .fail 0]).session
      [.insertBooking sessionBooking, .insertBooking sessionBooking]).2 =
      [(.insertBooking sessionBooking, .refused (.bookingCreated sessionBooking)),
        (.insertBooking sessionBooking, .committed (.bookingCreated sessionBooking))] := by
    rw [session_cons, session_cons, hcall₁, session_nil, call_sessionBooking_refused]
  have hread : ∀ e ∈ records ((Running.opened {} [] [.done, .fail 0]).session
      [.insertBooking sessionBooking, .insertBooking sessionBooking]).2, e.Readable := by
    rw [hs]
    intro e he
    simp only [records_cons, Reply.record, Option.toList_some, List.singleton_append,
      List.mem_cons] at he
    rcases he with rfl | rfl | he
    · exact sessionBooking_readable.1
    · exact sessionBooking_readable.1
    · exact absurd he List.not_mem_nil
  -- after each call the stream is whole frames, since every append went through
  have hwhole₀ : (Running.opened {} [] [.done, .fail 0]).device.Whole :=
    ⟨[], by simp, ByteArray.append_empty⟩
  have hwhole₁ : ((Running.opened {} [] [.done, .fail 0]).call
      (.insertBooking sessionBooking)).1.device.Whole := by
    rw [call_sessionBooking_refused]
    dsimp only
    exact hwhole₀.flushBatch appendAll_sessionBooking mem_bookingCreated_readable
  have happ₁ : (((Running.opened {} [] [.done, .fail 0]).call
      (.insertBooking sessionBooking)).1.device.appendAll [.bookingCreated sessionBooking]).2 =
      true := by
    rw [call_sessionBooking_refused]
    decide +kernel
  have hwhole : ∀ pre, pre <+: [Op.insertBooking sessionBooking, .insertBooking sessionBooking] →
      ((Running.opened {} [] [.done, .fail 0]).session pre).1.device.Whole := by
    intro pre hpre
    rcases List.prefix_cons_iff.1 hpre with rfl | ⟨t, rfl, ht⟩
    · exact hwhole₀
    rcases List.prefix_cons_iff.1 ht with rfl | ⟨t', rfl, ht'⟩
    · rw [session_cons, session_nil]
      dsimp only
      exact hwhole₁
    · rw [List.prefix_nil.1 ht', session_cons, session_cons, hcall₁, session_nil]
      dsimp only
      exact hwhole₁.flushBatch happ₁ mem_bookingCreated_readable
  have hes : ∀ e ∈ ([] : List Event), e.Readable := fun e he => absurd he List.not_mem_nil
  exact ⟨hes, hread, hwhole, (acknowledged_calls_survive_failures {} [] [.done, .fail 0] _).1,
    (acknowledged_calls_survive_failures {} [] [.done, .fail 0] _).2.2 hes hread hwhole⟩

end Engine

end StudioRental
