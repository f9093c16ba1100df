import StudioRental.Proofs.Journal.Replay
import StudioRental.Journal.Writer
import StudioRental.Server.Startup
import StudioRental.Proofs.Engine.Restart

/-!
The journal's round trip.

Whatever the buffer does with each write, the file followed by the buffer is every byte written
since the journal was opened or compacted, in order (`Writer.written_write`). So after any
sequence of calls, the bytes written are the frames of the records of the last compaction, or of
the file as opened, followed by every record appended since (`Writer.written_run`); once synced,
that is the file, and replaying it gives those records. Before a sync the file holds a prefix of
those bytes, which replays as a prefix of those records (`replay_prefix`): a part of a frame reads
as nothing (`replay_strictPrefix`).
-/

namespace StudioRental

namespace Journal

theorem append_eq_append {a b c d : ByteArray} (h : a ++ b = c ++ d) :
    (∃ m, c = a ++ m ∧ b = m ++ d) ∨ (∃ m, a = c ++ m ∧ d = m ++ b) := by
  rw [ByteArray.ext_iff, ByteArray.data_append, ByteArray.data_append] at h
  rcases Array.append_eq_append_iff.1 h with ⟨m, hc, hb⟩ | ⟨m, ha, hd⟩
  · exact .inl ⟨⟨m⟩, by ext1; simpa using hc, by ext1; simpa using hb⟩
  · exact .inr ⟨⟨m⟩, by ext1; simpa using ha, by ext1; simpa using hd⟩

/-- A frame cut short reads as nothing: its length is read whole or not at all, and then the
frame does not fit. -/
theorem replay_strictPrefix {e : Event} (he : e.encode.size < 2 ^ 32) {p q : ByteArray}
    (h : p ++ q = frame e.encode) (hq : 0 < q.size) : replay p = [] := by
  have hsize : p.size + q.size = e.encode.size + 8 := by
    rw [← ByteArray.size_append, h, size_frame]
  unfold replay
  rw [replayFrom]
  split
  · rename_i h4
    -- the length is the payload's, and the payload and checksum run past the end
    have hlen : p.extract 0 4 = Binary.u32 e.encode.size := by
      have hleft : (p ++ q).extract 0 4 = p.extract 0 4 := by
        rw [ByteArray.extract_append]
        have hq0 : q.extract (0 - p.size) (4 - p.size) = .empty := by
          rw [ByteArray.extract_eq_empty_iff]
          omega
        rw [hq0, ByteArray.append_empty]
      rw [← hleft, h, frame, ByteArray.append_assoc]
      exact ByteArray.extract_append_eq_left (Binary.size_u32 _).symm
    simp only [Nat.zero_add, hlen, Binary.valueOf_u32 he]
    rw [if_neg (by omega)]
  · rfl

/-- A prefix of the frames of readable events reads as a prefix of the events. -/
theorem replay_prefix {es : List Event} (hes : ∀ e ∈ es, e.Readable) {p q : ByteArray}
    (h : p ++ q = ofEvents es) : replay p <+: es := by
  induction es generalizing p with
  | nil =>
    rw [ofEvents_nil, ← ByteArray.size_eq_zero_iff, ByteArray.size_append] at h
    have hp : p = .empty := ByteArray.size_eq_zero_iff.1 (by omega)
    simp only [hp, replay_empty, List.nil_prefix]
  | cons e es ih =>
    have he := hes e (by simp)
    rw [ofEvents_cons] at h
    rcases append_eq_append h with ⟨m, hf, -⟩ | ⟨m, hp, hm⟩
    · -- `p` ends inside the first frame, or at its end
      by_cases hm : m.size = 0
      · rw [ByteArray.size_eq_zero_iff.1 hm, ByteArray.append_empty] at hf
        rw [← hf, ← ByteArray.append_empty (b := frame e.encode), replay_frame_append he,
          replay_empty]
        exact List.cons_prefix_cons.2 ⟨rfl, List.nil_prefix⟩
      · rw [replay_strictPrefix he.2 hf.symm (by omega)]
        exact List.nil_prefix
    · -- `p` holds the first frame whole, and the rest of it is a prefix of the other frames
      rw [hp, replay_frame_append he]
      exact List.cons_prefix_cons.2 ⟨rfl, ih (fun e' he' => hes e' (by simp [he'])) hm.symm⟩

namespace Writer

/-! ### What a call writes -/

/-- Every byte written through the handle, on disk or in its buffer, in order. -/
def written (w : Writer) : ByteArray := w.file ++ w.buffer

@[simp] theorem written_openOn (file? : Option ByteArray) :
    (openOn file?).written = file?.getD .empty := by
  simp [written, openOn, ByteArray.append_empty]

@[simp] theorem written_flushBuffer (w : Writer) : w.flushBuffer.written = w.written := by
  simp [written, flushBuffer, ByteArray.append_empty]

@[simp] theorem file_flushBuffer (w : Writer) : w.flushBuffer.file = w.written := rfl

/-- The buffer keeps the order of the writes, whenever it writes out. -/
@[simp] theorem written_write (w : Writer) (bytes : ByteArray) :
    (w.write bytes).written = w.written ++ bytes := by
  unfold write
  dsimp only
  by_cases hfits : bytes.size < bufferCapacity - w.buffer.size
  · simp [hfits, written, ByteArray.append_assoc]
  · by_cases hout : bytes.size > bufferCapacity - w.buffer.size
    · -- the buffer goes out first, so the file holds everything written before
      by_cases hbig : bytes.size ≥ bufferCapacity <;>
        simp [hfits, hout, hbig, written, flushBuffer, ByteArray.append_assoc,
          ByteArray.append_empty]
    · by_cases hbig : bytes.size ≥ bufferCapacity
      · -- a write as long as the whole buffer that does not overflow it finds it empty
        have hempty : w.buffer = .empty := by
          unfold bufferCapacity at hbig hout
          exact ByteArray.size_eq_zero_iff.1 (by omega)
        rw [if_neg hfits, if_neg hout, if_pos hbig]
        simp [written, hempty, ByteArray.append_empty]
      · simp [hfits, hout, hbig, written, ByteArray.append_assoc]

@[simp] theorem written_appends (w : Writer) (n : Nat) :
    { w with appends := n }.written = w.written :=
  rfl

@[simp] theorem written_appendBuffered (w : Writer) (e : Event) :
    (w.appendBuffered e).written = append w.written e := by
  simp only [appendBuffered, written_appends, written_write, append_eq, frame,
    ByteArray.append_assoc]

@[simp] theorem written_compact (w : Writer) (events : List Event) :
    (w.compact events).written = ofEvents events := by
  simp [written, compact, ByteArray.append_empty]

@[simp] theorem file_flushSync (w : Writer) : w.flushSync.file = w.written := rfl

theorem file_append_buffer (w : Writer) : w.file ++ w.buffer = w.written := rfl

/-! ### The records a sequence of calls leaves -/

/-- The records a call leaves in the journal: those before it with an appended one at the end,
those of a compaction, or those before it. -/
def Call.records (es : List Event) : Call → List Event
  | .appendBuffered e => es ++ [e]
  | .compact events => events
  | .flushSync | .reopen => es

/-- The events a call writes. -/
def Call.events : Call → List Event
  | .appendBuffered e => [e]
  | .compact events => events
  | .flushSync | .reopen => []

/-- The records a sequence of calls leaves after the records `es₀`. -/
def recordsAfter (es₀ : List Event) (calls : List Call) : List Event :=
  calls.foldl Call.records es₀

theorem written_perform {w : Writer} {es : List Event} (h : w.written = ofEvents es) (c : Call) :
    (w.perform c).written = ofEvents (c.records es) := by
  cases c with
  | appendBuffered e => simp [perform, Call.records, h, ofEvents_concat]
  | flushSync => simpa [perform, flushSync, Call.records] using h
  | compact events => simp [perform, Call.records]
  | reopen => simpa [perform, Call.records] using h

/-- A sequence of calls writes the frames of the records it leaves. -/
theorem written_run {w : Writer} {es : List Event} (h : w.written = ofEvents es)
    (calls : List Call) : (w.run calls).written = ofEvents (recordsAfter es calls) := by
  induction calls generalizing w es with
  | nil => exact h
  | cons c calls ih => exact ih (written_perform h c)

theorem mem_recordsAfter {es : List Event} {calls : List Call} {e : Event}
    (he : e ∈ recordsAfter es calls) : e ∈ es ∨ ∃ c ∈ calls, e ∈ c.events := by
  induction calls generalizing es with
  | nil => exact .inl he
  | cons c calls ih =>
    rcases ih he with h | ⟨c', hc', h⟩
    · cases c with
      | appendBuffered e' =>
        rcases List.mem_append.1 h with h | h
        · exact .inl h
        · exact .inr ⟨_, List.mem_cons_self, by simpa [Call.events] using h⟩
      | compact events => exact .inr ⟨_, List.mem_cons_self, h⟩
      | flushSync | reopen => exact .inl h
    · exact .inr ⟨c', List.mem_cons_of_mem _ hc', h⟩

theorem records_readable {es : List Event} {calls : List Call} (hes : ∀ e ∈ es, e.Readable)
    (hcalls : ∀ c ∈ calls, ∀ e ∈ c.events, e.Readable) :
    ∀ e ∈ recordsAfter es calls, e.Readable := by
  intro e he
  rcases mem_recordsAfter he with h | ⟨c, hc, h⟩
  · exact hes e h
  · exact hcalls c hc e h

/-- On a journal opened on a missing file or on the frames of readable events, after calls that
write readable events: once synced, replay gives the records the calls leave; at any moment,
synced or not, a prefix of them. -/
theorem replay_run {file? : Option ByteArray} {es₀ : List Event} {calls : List Call}
    (hfile : file?.getD .empty = ofEvents es₀) (hes : ∀ e ∈ es₀, e.Readable)
    (hcalls : ∀ c ∈ calls, ∀ e ∈ c.events, e.Readable) :
    replay ((openOn file?).run (calls ++ [.flushSync])).file = recordsAfter es₀ calls ∧
      replay ((openOn file?).run calls).file <+: recordsAfter es₀ calls := by
  have hread := records_readable hes hcalls
  have hw := written_run (w := openOn file?) (by rw [written_openOn, hfile]) calls
  refine ⟨?_, replay_prefix hread ((file_append_buffer _).trans hw)⟩
  have hsync :
      (openOn file?).run (calls ++ [.flushSync]) = ((openOn file?).run calls).flushSync := by
    simp [run, List.foldl_append, perform]
  rw [hsync, file_flushSync, hw]
  exact replay_ofEvents hread

end Writer

/-- The journal's round trip. On a journal opened on a missing file or on the frames of readable
events, after every sequence of appends, syncs, compactions and reopenings writing readable
events: once synced, replay gives the records of the last compaction, or of the file as opened,
followed by every record appended since, in order; and at any moment, synced or not, it gives a
prefix of them. Frames of readable events followed by anything replay as those events followed
by what the rest replays as; so a rest that is a frame cut short, or whose first frame fails its
checksum or holds no event, adds nothing. A missing file replays as no records. -/
theorem journal_round_trip :
    (∀ (file? : Option ByteArray) (es₀ : List Event) (calls : List Writer.Call),
      file?.getD .empty = ofEvents es₀ → (∀ e ∈ es₀, e.Readable) →
      (∀ c ∈ calls, ∀ e ∈ c.events, e.Readable) →
        replay ((Writer.openOn file?).run (calls ++ [.flushSync])).file =
            Writer.recordsAfter es₀ calls ∧
          replay ((Writer.openOn file?).run calls).file <+: Writer.recordsAfter es₀ calls) ∧
    (∀ (es : List Event) (rest : ByteArray), (∀ e ∈ es, e.Readable) →
      replay (ofEvents es ++ rest) = es ++ replay rest) ∧
    (∀ (es : List Event) (e : Event) (p q : ByteArray), (∀ e ∈ es, e.Readable) → e.Readable →
      p ++ q = frame e.encode → 0 < q.size → replay (ofEvents es ++ p) = es) ∧
    (∀ (es : List Event) (p : ByteArray) (c : Nat) (more : ByteArray), (∀ e ∈ es, e.Readable) →
      p.size < 2 ^ 32 → c < 2 ^ 32 → (c ≠ (Crc32.ofBytes p).toNat ∨ Decoder.event.run p = none) →
        replay (ofEvents es ++ (Binary.u32 p.size ++ p ++ Binary.u32 c ++ more)) = es) ∧
    (∀ (d : Disk) (path : String), d.fileBytes path = .error .notFound →
      (Startup.readJournal d path).map replay = .ok []) := by
  refine ⟨fun _ _ _ hfile hes hcalls => Writer.replay_run hfile hes hcalls,
    fun es rest hes => replay_ofEvents_append hes rest, fun es e p q hes he h hq => ?_,
    fun es p c more hes hp hc hbad => ?_, fun d path h => ?_⟩
  · rw [replay_ofEvents_append hes, replay_strictPrefix he.2 h hq, List.append_nil]
  · -- the first frame of the rest fails its checksum or holds no event
    rw [replay_ofEvents_append hes, replay_raw p c more hp hc]
    rcases hbad with hbad | hbad
    · rw [if_neg hbad, List.append_nil]
    · split
      · rw [hbad, List.append_nil]
      · rw [List.append_nil]
  · rw [Startup.readJournal, h]
    simp only [Except.map, replay_empty]

/-- A journal created by appending a booking, compacted to its changed record, and appended to
again replays, once synced, as the compacted record followed by the one appended after. -/
theorem compacted_journal_round_trip :
    (∀ c ∈ [Writer.Call.appendBuffered (.bookingCreated Engine.sessionBooking),
        .compact [.bookingChanged Engine.sessionBooking],
        .appendBuffered (.bookingCreated Engine.sessionBooking)], ∀ e ∈ c.events, e.Readable) ∧
      replay ((Writer.openOn none).run
          ([.appendBuffered (.bookingCreated Engine.sessionBooking),
            .compact [.bookingChanged Engine.sessionBooking],
            .appendBuffered (.bookingCreated Engine.sessionBooking)] ++ [.flushSync])).file =
        [.bookingChanged Engine.sessionBooking, .bookingCreated Engine.sessionBooking] := by
  have hcalls : ∀ c ∈ [Writer.Call.appendBuffered (.bookingCreated Engine.sessionBooking),
      .compact [.bookingChanged Engine.sessionBooking],
      .appendBuffered (.bookingCreated Engine.sessionBooking)], ∀ e ∈ c.events, e.Readable := by
    intro c hc e he
    simp only [List.mem_cons, List.not_mem_nil, or_false] at hc
    rcases hc with rfl | rfl | rfl <;> simp only [Writer.Call.events, List.mem_singleton] at he <;>
      subst he
    exacts [Engine.sessionBooking_readable.1, Engine.sessionBooking_readable.2,
      Engine.sessionBooking_readable.1]
  exact ⟨hcalls, (journal_round_trip.1 none [] _ rfl (by simp) hcalls).1⟩

end Journal

end StudioRental
