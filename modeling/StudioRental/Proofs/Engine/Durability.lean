import StudioRental.Proofs.Engine.Restart

/-!
Durability across crashes.

A crash can leave the journal ending in bytes that are not a whole record: part of a frame, or
a frame whose checksum fails. Reading stops at the first such frame, so the records before it
come back whole, and opening the journal again gives the state at the crash
(`Recoverable.reopen`).

Opening does not cut those bytes off. It keeps the file as it found it unless it compacts, and
it compacts only past its threshold, when the snapshot is shorter than the journal. Records
written in the next session are then appended after the torn bytes, and where these swallow
whatever follows them, the next reading stops before those records: the next restart gives
back the state of the previous one, whatever was acknowledged in between
(`reopen_swallowed`). A compaction, on request or on opening, writes the journal whole again,
and from then on every restart gives back the state before it (`Recoverable.compact_reopen`).
-/

namespace StudioRental

namespace Journal

/-- Bytes that read as no event whatever follows them. -/
def Swallows (tail : ByteArray) : Prop := ∀ rest, replay (tail ++ rest) = []

/-- A frame of no payload whose checksum does not match. -/
def badFrame : ByteArray := Binary.u32 0 ++ ByteArray.empty ++ Binary.u32 1

theorem badFrame_swallows : Swallows badFrame := fun rest =>
  @replay_badChecksum_append ByteArray.empty 1 (by decide) (by decide) (by decide) rest

end Journal

namespace Engine

/-- The engine opened again after a crash that left `tail` after its journal. -/
def reopen (e : Engine) (tail : ByteArray) (th : Nat) : Engine := ofFile (e.file ++ tail) th

/-- A journal that rebuilds the state reads back as its events, followed by whatever the bytes
after it read as. -/
theorem Recoverable.replay_append {e : Engine} (h : e.Recoverable) :
    ∃ evs, (∀ rest, Journal.replay (e.file ++ rest) = evs ++ Journal.replay rest) ∧
      SameRecords (replayed evs) e := by
  obtain ⟨-, evs, hfile, hread, hsame⟩ := h
  exact ⟨evs, fun rest => by rw [hfile, Journal.replay_ofEvents_append hread], hsame⟩

/-- A crash that leaves bytes reading as no event loses nothing: opening again gives the state
at the crash. -/
theorem Recoverable.reopen {e : Engine} (h : e.Recoverable) {tail : ByteArray}
    (htorn : Journal.replay tail = []) (th : Nat) : SameState (e.reopen tail th) e := by
  obtain ⟨evs, hrep, hsame⟩ := h.replay_append
  have hfile : Journal.replay (e.file ++ tail) = evs := by rw [hrep, htorn, List.append_nil]
  exact sameState_ofFile_of_replay h.wellFormed hfile hsame th

/-- After opening again, a compaction writes the journal whole, and from then on the journal
rebuilds every state a run reaches, so that a crash leaving bytes that read as no event loses
nothing. -/
theorem Recoverable.compact_reopen {e : Engine} (h : e.Recoverable) (hr : e.Readable)
    {tail : ByteArray} (htorn : Journal.replay tail = []) (th : Nat) (ops : List Op)
    (hread : ∀ pre, pre <+: ops → ((e.reopen tail th).run (.compact :: pre)).Readable)
    {tail' : ByteArray} (htorn' : Journal.replay tail' = []) (th' : Nat) :
    SameState (((e.reopen tail th).run (.compact :: ops)).reopen tail' th')
      ((e.reopen tail th).run (.compact :: ops)) := by
  have hsame := h.reopen htorn th
  have hw := h.wellFormed.of_sameState hsame
  have hr' : (e.reopen tail th).Readable := hr.of_sameRecords hsame.toSameRecords
  have hc : (e.reopen tail th).compact.Recoverable :=
    .of_snapshot hw.compact ⟨hr'.bookings, hr'.intents⟩ (compact_file _)
  exact (hc.run ops hread).reopen htorn' th'

/-- When opening kept the file and the bytes the crash left swallow whatever follows, nothing a
later run of calls writes reads back: a restart after it gives the records of the first
opening. -/
theorem reopen_swallowed {e : Engine} (h : e.Recoverable) {tail : ByteArray}
    (hsw : Journal.Swallows tail) {th : Nat} (hkeep : (e.reopen tail th).file = e.file ++ tail)
    {ops : List Op} (hops : ∀ op ∈ ops, op.isCall = true) (tail' : ByteArray) (th' : Nat) :
    SameRecords (((e.reopen tail th).run ops).reopen tail' th') (e.reopen tail th) := by
  obtain ⟨evs, hrep, -⟩ := h.replay_append
  obtain ⟨more, hmore⟩ : ∃ more, ((e.reopen tail th).run ops).file = (e.reopen tail th).file ++ more :=
    run_calls_file hops
  -- both openings read the events before the torn bytes, and nothing after them
  have hswallow : ∀ rest, Journal.replay (e.file ++ tail ++ rest) = evs := fun rest => by
    rw [ByteArray.append_assoc, hrep, hsw, List.append_nil]
  have hfirst : Journal.replay (e.file ++ tail) = evs := by
    simpa [ByteArray.append_empty] using hswallow ByteArray.empty
  have hlater : Journal.replay (((e.reopen tail th).run ops).file ++ tail') = evs := by
    rw [hmore, hkeep, ByteArray.append_assoc, hswallow]
  have h₁ := ofFile_sameRecords (((e.reopen tail th).run ops).file ++ tail') th'
  have h₂ := ofFile_sameRecords (e.file ++ tail) th
  rw [hlater] at h₁
  rw [hfirst] at h₂
  exact h₁.trans h₂.symm

/-- Acknowledged writes and crashes. A crash that leaves the journal ending in bytes that read
as no event loses nothing: opening again gives the state at the crash. A compaction after that
opening keeps every later write through the next such crash. But where opening kept the file,
as it does when the journal holds no more events than the threshold, and the torn bytes
swallow whatever follows them, every write of the next session is lost at the next restart. -/
theorem torn_tail_durability (e : Engine) (h : e.Recoverable) (hr : e.Readable) (tail : ByteArray)
    (htorn : Journal.replay tail = []) (th : Nat) :
    SameState (e.reopen tail th) e ∧
    (∀ ops : List Op, (∀ pre, pre <+: ops → ((e.reopen tail th).run (.compact :: pre)).Readable) →
      ∀ tail', Journal.replay tail' = [] → ∀ th',
        SameState (((e.reopen tail th).run (.compact :: ops)).reopen tail' th')
          ((e.reopen tail th).run (.compact :: ops))) ∧
    ((Journal.replay e.file).length ≤ th → Journal.Swallows tail →
      ∀ ops : List Op, (∀ op ∈ ops, op.isCall = true) → ∀ tail' th',
        SameRecords (((e.reopen tail th).run ops).reopen tail' th') (e.reopen tail th)) := by
  refine ⟨h.reopen htorn th, fun ops hread tail' htorn' th' =>
    h.compact_reopen hr htorn th ops hread htorn' th', fun hlen hsw ops hops tail' th' => ?_⟩
  -- no more events than the threshold: opening keeps the file with its torn bytes
  obtain ⟨evs, hrep, -⟩ := h.replay_append
  have hcount : (Journal.replay (e.file ++ tail)).length ≤ th := by
    have hfile : Journal.replay e.file = evs := by
      simpa [ByteArray.append_empty] using hrep ByteArray.empty
    rw [hrep, htorn, List.append_nil, ← hfile]
    exact hlen
  exact reopen_swallowed h hsw (ofFile_file_of_length_le _ _ hcount) hops tail' th'

/-- From an empty journal and a crash that leaves a frame with a wrong checksum: the booking the
next session enters is held, and the restart after it has no room at all. -/
theorem badFrame_loses_next_session :
    let s := ({} : Engine).reopen Journal.badFrame 0
    Journal.replay Journal.badFrame = [] ∧ (Journal.replay ({} : Engine).file).length ≤ 0 ∧
      Journal.Swallows Journal.badFrame ∧ SameState s {} ∧
      SameState ((s.run [.compact]).reopen Journal.badFrame 0) (s.run [.compact]) ∧
      (s.run [.insertBooking sessionBooking]).rooms = [⟨Ulid.nil, [sessionBooking]⟩] ∧
      ((s.run [.insertBooking sessionBooking]).reopen ByteArray.empty 0).rooms = [] := by
  intro s
  have htorn : Journal.replay Journal.badFrame = [] := by
    simpa [ByteArray.append_empty] using Journal.badFrame_swallows ByteArray.empty
  have hempty : ({} : Engine).Readable := ⟨fun r hr => absurd hr List.not_mem_nil,
    fun p hp => absurd hp List.not_mem_nil⟩
  have hlen : (Journal.replay ({} : Engine).file).length ≤ 0 := by simp
  have h := torn_tail_durability {} Recoverable.empty hempty Journal.badFrame htorn 0
  -- the reopened engine holds nothing, and neither does its compaction
  have hs : s.Readable := hempty.of_sameRecords h.1.toSameRecords
  have hread : ∀ pre, pre <+: ([] : List Op) → (s.run (.compact :: pre)).Readable := by
    intro pre hpre
    rw [List.prefix_nil.1 hpre]
    exact ⟨hs.bookings, hs.intents⟩
  have hlost := h.2.2 hlen Journal.badFrame_swallows [.insertBooking sessionBooking]
    (by simp [Op.isCall]) ByteArray.empty 0
  refine ⟨htorn, hlen, Journal.badFrame_swallows, h.1, h.2.1 [] hread Journal.badFrame htorn 0,
    by decide +kernel, ?_⟩
  rw [hlost.rooms, h.1.rooms]

end Engine

end StudioRental
