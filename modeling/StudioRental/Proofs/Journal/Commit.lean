import StudioRental.Journal.Device
import StudioRental.Proofs.Journal.RoundTrip

/-!
What the journal's writer leaves behind when the device fails.

The file followed by the buffer is the stream of bytes written through the handle. Writing the
buffer out, syncing and dropping the handle keep the stream and only grow the file
(`Device.Keeps`). A write puts a part of its bytes in the stream, all of them when it went through
and fewer when it failed (`Device.Writes`, `Took`), whether the device failed while writing the
buffer out first or while taking the bytes themselves. Appending an event is three writes, so
it puts a part of the event's frame in the stream (`Device.writes_appendBuffered`).

A batch commit therefore grows the stream by the frames of the events it appended whole and then
by the part of the next event's frame that its failing write put in (`Device.Appended`). When the
batch is reported done it appended every event whole and the buffer is empty, so all of it is in
the synced file; when it is reported failed, some of its events may still be whole in the stream,
and a part of a frame may sit after them (`Device.flushBatch_appended`).
-/

namespace StudioRental

namespace Journal

/-- A request for `bytes` put `pre` in the stream: all of them when it went through, and fewer
than all when it failed. -/
def Took (bytes pre : ByteArray) (ok : Bool) : Prop :=
  ∃ post, pre ++ post = bytes ∧ (ok = true ↔ post.size = 0)

namespace Took

variable {a b bytes pre : ByteArray} {ok : Bool}

theorem all (bytes : ByteArray) : Took bytes bytes true :=
  ⟨.empty, ByteArray.append_empty, iff_of_true rfl ByteArray.size_empty⟩

theorem eq_of_ok (h : Took bytes pre true) : pre = bytes := by
  obtain ⟨post, hpost, hok⟩ := h
  rw [← hpost, ByteArray.size_eq_zero_iff.1 (hok.1 rfl), ByteArray.append_empty]

theorem nothing (h : 0 < bytes.size) : Took bytes .empty false :=
  ⟨bytes, ByteArray.empty_append, iff_of_false Bool.false_ne_true (by omega)⟩

theorem append_right (h : Took a pre false) (b : ByteArray) : Took (a ++ b) pre false := by
  obtain ⟨post, hpost, hok⟩ := h
  have hpos : post.size ≠ 0 := fun h0 => Bool.false_ne_true (hok.2 h0)
  refine ⟨post ++ b, by rw [← ByteArray.append_assoc, hpost], ?_⟩
  rw [ByteArray.size_append]
  exact iff_of_false Bool.false_ne_true (by omega)

theorem append_left (a : ByteArray) (h : Took b pre ok) : Took (a ++ b) (a ++ pre) ok := by
  obtain ⟨post, hpost, hok⟩ := h
  exact ⟨post, by rw [ByteArray.append_assoc, hpost], hok⟩

theorem outcome (o : Outcome) (h : 0 < bytes.size) :
    Took bytes (bytes.extract 0 (o.taken bytes.size)) o.ok := by
  refine ⟨bytes.extract (o.taken bytes.size) bytes.size, ?_, ?_⟩
  · rw [ByteArray.extract_append_extract, Nat.zero_min, ByteArray.extract_zero_max_size]
  · cases o with
    | done => simp [Outcome.ok, Outcome.taken]
    | fail n =>
      simp only [Outcome.ok, Outcome.taken, ByteArray.size_extract, Nat.min_self]
      exact iff_of_false Bool.false_ne_true (by omega)

end Took

namespace Device

/-! ### Requests that keep the stream -/

/-- A request that moves bytes from the buffer to the file: the stream stays as it was, and the
file only grows. -/
structure Keeps (d d' : Device) : Prop where
  stream : d'.written = d.written
  file : ∃ more, d'.file = d.file ++ more

variable {d d' d'' : Device} {bytes : ByteArray}

theorem grows_trans {a b c : ByteArray} (h : ∃ more, b = a ++ more) (h' : ∃ more, c = b ++ more) :
    ∃ more, c = a ++ more := by
  obtain ⟨more, rfl⟩ := h
  obtain ⟨more', rfl⟩ := h'
  exact ⟨more ++ more', ByteArray.append_assoc⟩

theorem Keeps.refl (d : Device) : Keeps d d := ⟨rfl, .empty, ByteArray.append_empty.symm⟩

theorem Keeps.trans (h : Keeps d d') (h' : Keeps d' d'') : Keeps d d'' :=
  ⟨h'.stream.trans h.stream, grows_trans h.file h'.file⟩

theorem keeps_answered (d : Device) : Keeps d d.answered := ⟨rfl, .empty, ByteArray.append_empty.symm⟩

/-- Writing the buffer out keeps the stream: what the device did not take stays in the buffer
behind what it took. -/
theorem keeps_flushBuf (d : Device) : Keeps d d.flushBuf.1 := by
  unfold flushBuf
  split
  · exact Keeps.refl d
  · refine ⟨?_, _, rfl⟩
    simp only [Writer.written]
    rw [ByteArray.append_assoc, ByteArray.extract_append_extract, Nat.zero_min,
      ByteArray.extract_zero_max_size]

theorem buffer_flushBuf (h : d.flushBuf.2 = true) : d.flushBuf.1.buffer = .empty := by
  unfold flushBuf at h ⊢
  split
  · rename_i h0
    exact ByteArray.size_eq_zero_iff.1 h0
  · rename_i h0
    rw [if_neg h0] at h
    cases ho : d.outcome with
    | done => simp [Outcome.taken]
    | fail n => rw [ho] at h; cases h

theorem keeps_syncAll (d : Device) : Keeps d d.syncAll.1 := keeps_answered d

theorem keeps_flushSync (d : Device) : Keeps d d.flushSync.1 := by
  unfold flushSync proceed
  split
  · exact (keeps_flushBuf d).trans (keeps_syncAll _)
  · exact keeps_flushBuf d

theorem buffer_flushSync (h : d.flushSync.2 = true) : d.flushSync.1.buffer = .empty := by
  unfold flushSync proceed at *
  split at h
  · rename_i hflush
    rw [if_pos hflush]
    exact buffer_flushBuf hflush
  · rename_i hflush
    exact absurd h hflush

theorem keeps_close (d : Device) : Keeps d d.close := keeps_flushBuf d

/-! ### Writes -/

/-- A write request for `bytes` that ended as `r`: a part of `bytes` went into the stream, all of
it when the request went through, and the file only grew. -/
structure Writes (d : Device) (bytes : ByteArray) (r : Device × Bool) : Prop where
  stream : ∃ pre, Took bytes pre r.2 ∧ r.1.written = d.written ++ pre
  file : ∃ more, r.1.file = d.file ++ more

theorem proceed_of_true {r : Device × Bool} (h : r.2 = true) (f : Device → Device × Bool) :
    proceed r f = f r.1 := if_pos h

theorem proceed_of_false {r : Device × Bool} (h : r.2 = false) (f : Device → Device × Bool) :
    proceed r f = r := if_neg (by rw [h]; exact Bool.false_ne_true)

theorem writes_toBuffer (d : Device) (bytes : ByteArray) : Writes d bytes (d.toBuffer bytes, true) :=
  ⟨⟨bytes, Took.all bytes, by simp [toBuffer, Writer.written, ByteArray.append_assoc]⟩,
    .empty, ByteArray.append_empty.symm⟩

theorem writes_appends (d : Device) (n : Nat) :
    Writes d .empty ({ d with appends := n }, true) :=
  ⟨⟨.empty, Took.all _, ByteArray.append_empty.symm⟩, .empty, ByteArray.append_empty.symm⟩

theorem writes_writeFile (hbuf : d.buffer = .empty) (bytes : ByteArray) :
    Writes d bytes (d.writeFile bytes) := by
  unfold writeFile
  split
  · -- no bytes, no request
    rename_i h0
    rw [ByteArray.size_eq_zero_iff.1 h0]
    exact ⟨⟨.empty, Took.all _, ByteArray.append_empty.symm⟩, .empty, ByteArray.append_empty.symm⟩
  · rename_i h0
    refine ⟨⟨_, Took.outcome d.outcome (Nat.pos_of_ne_zero h0), ?_⟩, _, rfl⟩
    simp only [Writer.written, answered, hbuf, ByteArray.append_empty]

theorem Writes.proceed {a b : ByteArray} {r : Device × Bool} {f : Device → Device × Bool}
    (h : Writes d a r) (hf : r.2 = true → Writes r.1 b (f r.1)) :
    Writes d (a ++ b) (proceed r f) := by
  obtain ⟨⟨pre, hpre, hw⟩, hfile⟩ := h
  cases hr : r.2
  · -- the first request failed, so the second is not made
    rw [proceed_of_false hr]
    rw [hr] at hpre
    exact ⟨⟨pre, by rw [hr]; exact hpre.append_right b, hw⟩, hfile⟩
  · rw [proceed_of_true hr]
    rw [hr] at hpre
    obtain ⟨⟨pre', hpre', hw'⟩, hfile'⟩ := hf hr
    refine ⟨⟨a ++ pre', hpre'.append_left a, ?_⟩, grows_trans hfile hfile'⟩
    rw [hw', hw, hpre.eq_of_ok, ByteArray.append_assoc]

theorem Keeps.proceed {r : Device × Bool} {f : Device → Device × Bool} (h : Keeps d r.1)
    (hfail : r.2 = false → 0 < bytes.size) (hf : r.2 = true → Writes r.1 bytes (f r.1)) :
    Writes d bytes (proceed r f) := by
  cases hr : r.2
  · rw [proceed_of_false hr]
    refine ⟨⟨.empty, ?_, by rw [h.stream, ByteArray.append_empty]⟩, h.file⟩
    rw [hr]
    exact Took.nothing (hfail hr)
  · rw [proceed_of_true hr]
    obtain ⟨⟨pre, hpre, hw⟩, hfile⟩ := hf hr
    exact ⟨⟨pre, hpre, by rw [hw, h.stream]⟩, grows_trans h.file hfile⟩

/-- One write through the buffer puts a part of its bytes in the stream, all of them when it went
through. -/
theorem writes_write (d : Device) (bytes : ByteArray) : Writes d bytes (d.write bytes) := by
  unfold write
  by_cases hfits : bytes.size < bufferCapacity - d.buffer.size
  · rw [if_pos hfits]
    exact writes_toBuffer d bytes
  rw [if_neg hfits]
  by_cases hout : bytes.size > bufferCapacity - d.buffer.size
  · rw [if_pos hout]
    refine (keeps_flushBuf d).proceed (fun _ => by omega) fun hok => ?_
    split
    · exact writes_writeFile (buffer_flushBuf hok) bytes
    · exact writes_toBuffer _ bytes
  · rw [if_neg hout]
    refine (Keeps.refl d).proceed (fun h => by simp at h) fun _ => ?_
    split
    · -- bytes exactly as long as the spare room and the whole buffer: the buffer is empty
      rename_i hbig
      have hempty : d.buffer = .empty := by
        unfold bufferCapacity at hfits hout hbig
        exact ByteArray.size_eq_zero_iff.1 (by omega)
      exact writes_writeFile hempty bytes
    · exact writes_toBuffer d bytes

/-- Appending an event puts a part of its frame in the stream, all of it when the append went
through. -/
theorem writes_appendBuffered (d : Device) (e : Event) :
    Writes d (frame e.encode) (d.appendBuffered e) := by
  -- the length, the payload and the checksum, then the count of records
  have h : Writes d (Binary.u32 e.encode.size ++ e.encode ++
      Binary.u32 (Crc32.ofBytes e.encode).toNat ++ .empty) (d.appendBuffered e) := by
    dsimp only [appendBuffered]
    exact (((writes_write d _).proceed fun _ => writes_write _ _).proceed fun _ =>
      writes_write _ _).proceed fun _ => writes_appends _ _
  rwa [ByteArray.append_empty] at h

/-! ### Batches -/

/-- What appending `events` did, ending as `r`: the stream grew by the frames of the events
appended whole, `taken`, and then by `cut`, the part of the next event's frame that went in before
a write failed; the file only grew. -/
structure Appended (d : Device) (events : List Event) (r : Device × Bool) (taken : List Event)
    (cut : ByteArray) : Prop where
  stream : r.1.written = d.written ++ ofEvents taken ++ cut
  whole : taken = events ∧ cut = .empty ∨
    ∃ e rest, events = taken ++ e :: rest ∧ Took (frame e.encode) cut false ∧ r.2 = false
  file : ∃ more, r.1.file = d.file ++ more

theorem Appended.of_ok {events taken : List Event} {cut : ByteArray} {r : Device × Bool}
    (h : Appended d events r taken cut) (hok : r.2 = true) : taken = events ∧ cut = .empty := by
  rcases h.whole with hall | ⟨_, _, _, _, hfail⟩
  · exact hall
  · rw [hok] at hfail
    cases hfail

theorem appendAll_appended (d : Device) (events : List Event) :
    ∃ taken cut, Appended d events (d.appendAll events) taken cut := by
  induction events generalizing d with
  | nil =>
    exact ⟨[], .empty, by simp [appendAll, ByteArray.append_empty], .inl ⟨rfl, rfl⟩, .empty,
      ByteArray.append_empty.symm⟩
  | cons e es ih =>
    obtain ⟨⟨pre, hpre, hw⟩, hfile⟩ := writes_appendBuffered d e
    rw [appendAll]
    cases hr : (d.appendBuffered e).2
    · -- the event's append failed: the batch stops with part of its frame in the stream
      rw [proceed_of_false hr]
      rw [hr] at hpre
      exact ⟨[], pre, by rw [hw, ofEvents_nil, ByteArray.append_empty],
        .inr ⟨e, es, rfl, hpre, hr⟩, hfile⟩
    · rw [proceed_of_true hr]
      rw [hr] at hpre
      obtain ⟨taken, cut, hstream, hwhole, hfile'⟩ := ih (d.appendBuffered e).1
      refine ⟨e :: taken, cut, ?_, ?_, grows_trans hfile hfile'⟩
      · rw [hstream, hw, hpre.eq_of_ok, ofEvents_cons]
        simp only [ByteArray.append_assoc]
      · rcases hwhole with ⟨rfl, rfl⟩ | ⟨e', rest, rfl, hcut, hfail⟩
        · exact .inl ⟨rfl, rfl⟩
        · exact .inr ⟨e', rest, rfl, hcut, hfail⟩

/-- Committing a batch: the stream grows by the frames of the events appended whole and then by
a part of the frame of the one whose append failed; it is written out and synced even after a
failure. -/
theorem flushBatch_appended (d : Device) (events : List Event) :
    ∃ taken cut, Appended d events (d.flushBatch events) taken cut := by
  obtain ⟨taken, cut, hstream, hwhole, hfile⟩ := appendAll_appended d events
  have hsync := keeps_flushSync (d.appendAll events).1
  refine ⟨taken, cut, by rw [flushBatch, hsync.stream, hstream], ?_, grows_trans hfile hsync.file⟩
  rcases hwhole with hall | ⟨e, rest, hsplit, hcut, hfail⟩
  · exact .inl hall
  · exact .inr ⟨e, rest, hsplit, hcut, by simp [flushBatch, hfail]⟩

theorem buffer_flushBatch {events : List Event} (h : (d.flushBatch events).2 = true) :
    (d.flushBatch events).1.buffer = .empty := by
  simp only [flushBatch, Bool.and_eq_true] at h ⊢
  exact buffer_flushSync h.2

/-- A batch whose appends and write-out went through is whole in the file, even when the sync
after them fails and the batch is reported failed. -/
theorem flushBatch_of_flushed {events : List Event} (hok : (d.appendAll events).2 = true)
    (hflush : (d.appendAll events).1.flushBuf.2 = true) :
    (d.flushBatch events).1.file = d.written ++ ofEvents events ∧
      (d.flushBatch events).1.buffer = .empty := by
  obtain ⟨taken, cut, happ⟩ := appendAll_appended d events
  obtain ⟨rfl, rfl⟩ := happ.of_ok hok
  have hbuf := buffer_flushBuf hflush
  have hout : (d.flushBatch taken).1 = (d.appendAll taken).1.flushBuf.1.answered := by
    simp only [flushBatch, flushSync, proceed_of_true hflush, syncAll]
  rw [hout]
  refine ⟨?_, hbuf⟩
  calc (d.appendAll taken).1.flushBuf.1.answered.file
      = (d.appendAll taken).1.flushBuf.1.written := by
        rw [Writer.written, hbuf, ByteArray.append_empty]
        rfl
    _ = (d.appendAll taken).1.written := (keeps_flushBuf _).stream
    _ = d.written ++ ofEvents taken := by rw [happ.stream, ByteArray.append_empty]

theorem close_of_empty (h : d.buffer = .empty) : d.close = d := by
  rw [close, flushBuf, if_pos (by rw [h]; rfl)]

/-! ### A session of batches -/

/-- The stream is whole frames of records that read back: no failed write left a part of a
frame in it. -/
def Whole (d : Device) : Prop := ∃ evs, (∀ e ∈ evs, e.Readable) ∧ d.written = ofEvents evs

/-- A batch after which the stream is whole again, made from whole frames and with events that
read back, left no part of a frame behind. -/
theorem Appended.cut_eq_empty {es events taken : List Event} {cut : ByteArray} {r : Device × Bool}
    (h : Appended d events r taken cut) (hd : d.written = ofEvents es)
    (hread : ∀ e ∈ es ++ events, e.Readable) (hwhole : r.1.Whole) : cut = .empty := by
  rcases h.whole with ⟨-, hcut⟩ | ⟨e, rest, hsplit, ⟨post, hpost, hok⟩, -⟩
  · exact hcut
  obtain ⟨evs, hevs, hw⟩ := hwhole
  have hfront : ∀ x ∈ es ++ taken, x.Readable := fun x hx => hread x (by
    rw [hsplit]
    simp only [List.mem_append, List.mem_cons] at hx ⊢
    tauto)
  have he : e.Readable := hread e (by rw [hsplit]; simp)
  have hpos : 0 < post.size := by
    have : post.size ≠ 0 := fun h0 => Bool.false_ne_true (hok.2 h0)
    omega
  have hstream : r.1.written = ofEvents (es ++ taken) ++ cut := by
    rw [h.stream, hd, ofEvents_append]
  -- reading the stream back stops at the part of a frame: it reads as the whole frames only
  have hreplay : evs = es ++ taken := by
    rw [← replay_ofEvents hevs, ← hw, hstream, replay_ofEvents_append hfront,
      replay_strictPrefix he.2 hpost hpos, List.append_nil]
  rw [hw, hreplay] at hstream
  exact (ByteArray.append_right_inj _).1 (hstream.symm.trans ByteArray.append_empty.symm)

/-- A batch whose appends all went through leaves whole frames in the stream, whatever befell
the write-out and the sync after them. -/
theorem Whole.flushBatch {events : List Event} (hw : d.Whole) (hok : (d.appendAll events).2 = true)
    (hread : ∀ e ∈ events, e.Readable) : (d.flushBatch events).1.Whole := by
  obtain ⟨evs, hevs, hd⟩ := hw
  obtain ⟨taken, cut, happ⟩ := appendAll_appended d events
  obtain ⟨rfl, rfl⟩ := happ.of_ok hok
  refine ⟨evs ++ taken, fun e he => (List.mem_append.1 he).elim (hevs e) (hread e), ?_⟩
  rw [Device.flushBatch, (keeps_flushSync _).stream, happ.stream, hd, ofEvents_append,
    ByteArray.append_empty]

/-- The journal as a session of batches leaves it, over the records `es₀` it started with: the
stream holds the frames of those and of `taken`, the records appended whole since; the file holds
whole the frames of a first part of them that includes every record acknowledged (`acked`), and
then bytes of the rest. -/
structure Holds (d : Device) (es₀ taken acked : List Event) : Prop where
  stream : d.written = ofEvents (es₀ ++ taken)
  file : ∃ synced rest tail, taken = synced ++ rest ∧ acked.Sublist synced ∧
    d.file = ofEvents (es₀ ++ synced) ++ tail

variable {es₀ taken acked events : List Event}

theorem holds_open (es₀ : List Event) (os : List Outcome) :
    Holds { file := ofEvents es₀, outcomes := os } es₀ [] [] :=
  ⟨by simp [Writer.written, ByteArray.append_empty], [], [], .empty, rfl, List.Sublist.slnil,
    by simp [ByteArray.append_empty]⟩

theorem Holds.keeps (h : Holds d es₀ taken acked) (hk : Keeps d d') : Holds d' es₀ taken acked := by
  obtain ⟨synced, rest, tail, htaken, hacked, hfile⟩ := h.file
  obtain ⟨more, hmore⟩ := hk.file
  exact ⟨hk.stream.trans h.stream, synced, rest, tail ++ more, htaken, hacked,
    by rw [hmore, hfile, ByteArray.append_assoc]⟩

/-- A batch commit that leaves the stream whole adds to it a first part of the batch, all of it
when the batch is reported done, and then the whole batch is acknowledged and in the file. -/
theorem Holds.commit (h : Holds d es₀ taken acked)
    (hread : ∀ e ∈ es₀ ++ taken ++ events, e.Readable) (hwhole : (d.flushBatch events).1.Whole) :
    ∃ t, t <+: events ∧ ((d.flushBatch events).2 = true → t = events) ∧
      Holds (d.flushBatch events).1 es₀ (taken ++ t)
        (if (d.flushBatch events).2 then acked ++ events else acked) := by
  obtain ⟨t, cut, happ⟩ := flushBatch_appended d events
  have hcut : cut = .empty :=
    happ.cut_eq_empty h.stream (by simpa only [List.append_assoc] using hread) hwhole
  have hstream : (d.flushBatch events).1.written = ofEvents (es₀ ++ (taken ++ t)) := by
    rw [happ.stream, hcut, ByteArray.append_empty, h.stream, ← ofEvents_append, List.append_assoc]
  have hlead : t <+: events := by
    rcases happ.whole with ⟨rfl, -⟩ | ⟨e, rest, rfl, -⟩
    · exact List.prefix_refl _
    · exact List.prefix_append _ _
  obtain ⟨synced, rest, tail, htaken, hacked, hfile⟩ := h.file
  refine ⟨t, hlead, fun hok => (happ.of_ok hok).1, hstream, ?_⟩
  cases hok : (d.flushBatch events).2
  · -- a failed batch: the file only grew, and nothing more is acknowledged
    obtain ⟨more, hmore⟩ := happ.file
    refine ⟨synced, rest ++ t, tail ++ more, by rw [htaken, List.append_assoc], ?_,
      by rw [hmore, hfile, ByteArray.append_assoc]⟩
    rwa [if_neg Bool.false_ne_true]
  · -- a batch reported done is whole in the file, which holds the whole stream
    have hall : t = events := (happ.of_ok hok).1
    have hbuf := buffer_flushBatch hok
    refine ⟨taken ++ t, [], .empty, (List.append_nil _).symm, ?_, ?_⟩
    · rw [if_pos rfl, hall]
      exact (hacked.trans (htaken ▸ List.sublist_append_left synced rest)).append
        (List.Sublist.refl _)
    · rw [ByteArray.append_empty, ← hstream, Writer.written, hbuf, ByteArray.append_empty]

/-- The file of such a journal reads back as the starting records, then a first part of the
records appended whole that includes every record acknowledged. -/
theorem Holds.replay_file (h : Holds d es₀ taken acked) (hread : ∀ e ∈ es₀ ++ taken, e.Readable) :
    ∃ L, replay d.file = es₀ ++ L ∧ acked.Sublist L ∧ L <+: taken := by
  obtain ⟨synced, rest, tail, rfl, hacked, hfile⟩ := h.file
  have hsynced : ∀ e ∈ es₀ ++ synced, e.Readable := fun e he => hread e (by
    simp only [List.mem_append] at he ⊢
    tauto)
  have hrest : ∀ e ∈ rest, e.Readable := fun e he => hread e (by simp [he])
  -- what follows the synced frames in the file, then the buffer, is the frames of the rest
  have htail : tail ++ d.buffer = ofEvents rest := by
    have hw : ofEvents (es₀ ++ synced) ++ (tail ++ d.buffer) =
        ofEvents (es₀ ++ synced) ++ ofEvents rest := by
      rw [← ByteArray.append_assoc, ← hfile, ← ofEvents_append, List.append_assoc]
      exact h.stream
    exact (ByteArray.append_right_inj _).1 hw
  -- the frames after the synced ones may end inside one: they read back as a first part
  have hlead : replay tail <+: rest := replay_prefix hrest htail
  refine ⟨synced ++ replay tail, ?_, hacked.trans (List.sublist_append_left _ _),
    (List.prefix_append_right_inj synced).2 hlead⟩
  rw [hfile, replay_ofEvents_append hsynced, List.append_assoc]

end Device

end Journal

end StudioRental
