import StudioRental.Journal.Log
import Mathlib.Algebra.Group.Nat.Defs
import Mathlib.Algebra.Group.Int.Defs

/-!
Reading a journal back.

A frame is read back as the event it was written for when the event's layout decodes to the
event and is short enough for the four bytes of the frame's length (`Event.Readable`). Reading
from a position depends only on the bytes from that position on
(`replayFrom_append_shift`), so a file made of the frames of some events, followed by anything,
reads back as those events followed by whatever the rest reads as (`replay_ofEvents_append`).

The rest is where a crash shows: a frame whose checksum does not match its payload stops the
reading for good, whatever is written after it (`replay_badChecksum_append`).
-/

namespace StudioRental

namespace Binary

@[simp] theorem size_littleEndian (n v : Nat) : (littleEndian n v).size = n := by
  simp [littleEndian, ByteArray.size]

@[simp] theorem size_u32 (v : Nat) : (u32 v).size = 4 := size_littleEndian 4 v

theorem foldr_digits (n v : Nat) :
    ((List.range n).map fun i => (v / 256 ^ i % 256).toUInt8).foldr
      (fun x acc => acc * 256 + x.toNat) 0 = v % 256 ^ n := by
  induction n generalizing v with
  | zero => simp [Nat.mod_one]
  | succ n ih =>
      rw [List.range_succ_eq_map]
      simp only [List.map_cons, List.map_map, List.foldr_cons]
      -- the bytes after the first are the bytes of `v / 256`
      have hshift : (fun i => (v / 256 ^ i % 256).toUInt8) ∘ Nat.succ =
          fun i => (v / 256 / 256 ^ i % 256).toUInt8 := by
        funext i
        simp [Nat.pow_succ, Nat.div_div_eq_div_mul, Nat.mul_comm]
      have hbyte : (v % 256).toUInt8.toNat = v % 256 := by simp
      have hmod : v % (256 * 256 ^ n) = v % 256 + 256 * (v / 256 % 256 ^ n) := Nat.mod_mul
      rw [hshift, ih (v / 256), Nat.pow_zero, Nat.div_one, hbyte, Nat.pow_succ', hmod]
      omega

/-- Reading `n` bytes least significant first gives back the number they were written from,
modulo `256 ^ n`. -/
theorem valueOf_littleEndian (n v : Nat) :
    Decoder.valueOf (littleEndian n v) = v % 256 ^ n := by
  simpa [Decoder.valueOf, littleEndian] using foldr_digits n v

theorem valueOf_u32 {v : Nat} (h : v < 2 ^ 32) : Decoder.valueOf (u32 v) = v := by
  rw [u32, valueOf_littleEndian]
  exact Nat.mod_eq_of_lt (by simpa using h)

end Binary

namespace Event

/-- An event whose frame reads back as itself: its layout decodes to it, and its length fits
the four bytes of a frame's header. -/
def Readable (e : Event) : Prop :=
  Decoder.event.run e.encode = some e ∧ e.encode.size < 2 ^ 32

end Event

instance : DecidablePred Event.Readable := fun _ => inferInstanceAs (Decidable (_ ∧ _))

namespace Journal

@[simp] theorem size_frame (p : ByteArray) : (frame p).size = p.size + 8 := by
  simp [frame]
  omega

/-- Reading from a position of a file depends only on the bytes from that position on. -/
theorem replayFrom_append_shift (A B : ByteArray) (pos : Nat) :
    replayFrom (A ++ B) (A.size + pos) = replayFrom B pos := by
  rw [replayFrom, replayFrom]
  simp only [ByteArray.size_append, Nat.add_assoc, Nat.add_le_add_iff_left,
    ByteArray.extract_append_size_add]
  split
  · split
    · split
      · rfl
      · split
        · rw [replayFrom_append_shift A B _]
        · rfl
    · rfl
  · rfl
termination_by B.size - pos
decreasing_by omega

/-! ### One frame -/

section Frame

variable (p : ByteArray) (c : Nat) (rest : ByteArray)

theorem raw_eq : Binary.u32 p.size ++ p ++ Binary.u32 c ++ rest =
    Binary.u32 p.size ++ (p ++ (Binary.u32 c ++ rest)) := by
  simp only [ByteArray.append_assoc]

theorem raw_extract_length :
    (Binary.u32 p.size ++ p ++ Binary.u32 c ++ rest).extract 0 4 = Binary.u32 p.size := by
  rw [raw_eq]
  exact ByteArray.extract_append_eq_left (Binary.size_u32 _).symm

theorem raw_extract_payload :
    (Binary.u32 p.size ++ p ++ Binary.u32 c ++ rest).extract 4 (4 + p.size) = p := by
  rw [raw_eq,
    @ByteArray.extract_append_size_add' (Binary.u32 p.size) _ 0 p.size 4 (Binary.size_u32 _).symm]
  exact ByteArray.extract_append_eq_left rfl

theorem raw_extract_checksum :
    (Binary.u32 p.size ++ p ++ Binary.u32 c ++ rest).extract (4 + p.size) (8 + p.size) =
      Binary.u32 c := by
  have h : Binary.u32 p.size ++ p ++ Binary.u32 c ++ rest =
      (Binary.u32 p.size ++ p) ++ (Binary.u32 c ++ rest) := by simp only [ByteArray.append_assoc]
  have e₁ : 4 + p.size = (Binary.u32 p.size ++ p).size + 0 := by simp
  have e₂ : 8 + p.size = (Binary.u32 p.size ++ p).size + 4 := by simp; omega
  rw [h, e₁, e₂, ByteArray.extract_append_size_add]
  exact ByteArray.extract_append_eq_left (Binary.size_u32 _).symm

/-- A frame with checksum `c` at the start of a file is read as nothing when the checksum does
not match or the payload holds no event, and otherwise as its event followed by what the rest
of the file reads as. -/
theorem replay_raw (hp : p.size < 2 ^ 32) (hc : c < 2 ^ 32) :
    replay (Binary.u32 p.size ++ p ++ Binary.u32 c ++ rest) =
      if c = (Crc32.ofBytes p).toNat then
        match Decoder.event.run p with
        | some e => e :: replay rest
        | none => []
      else [] := by
  have hsize : (Binary.u32 p.size ++ p ++ Binary.u32 c ++ rest).size = 8 + p.size + rest.size := by
    simp
    omega
  have hnext : 8 + p.size = (Binary.u32 p.size ++ p ++ Binary.u32 c).size + 0 := by
    simp
    omega
  unfold replay
  rw [replayFrom]
  simp only [Nat.zero_add, hsize, raw_extract_length, Binary.valueOf_u32 hp, raw_extract_payload,
    raw_extract_checksum, Binary.valueOf_u32 hc, ne_eq, ite_not]
  rw [if_pos (by omega), if_pos (by omega)]
  split
  · -- split on the decoded payload first, so that no goal compares two matches on it
    cases Decoder.event.run p with
    | none => rfl
    | some e =>
      dsimp only
      rw [hnext, replayFrom_append_shift]
  · rfl

end Frame

theorem replay_frame_append {e : Event} (he : e.Readable) (rest : ByteArray) :
    replay (frame e.encode ++ rest) = e :: replay rest := by
  have hc : (Crc32.ofBytes e.encode).toNat < 2 ^ 32 := UInt32.toNat_lt _
  rw [frame, replay_raw e.encode _ rest he.2 hc, if_pos rfl, he.1]

/-- A frame whose checksum does not match its payload ends the reading, whatever follows it. -/
theorem replay_badChecksum_append {p : ByteArray} {c : Nat} (hp : p.size < 2 ^ 32)
    (hc : c < 2 ^ 32) (hbad : c ≠ (Crc32.ofBytes p).toNat) (more : ByteArray) :
    replay (Binary.u32 p.size ++ p ++ Binary.u32 c ++ more) = [] := by
  rw [replay_raw p c more hp hc, if_neg hbad]

@[simp] theorem replay_empty : replay ByteArray.empty = [] := by
  simp [replay, replayFrom]

/-! ### Files of frames -/

theorem append_eq (file : ByteArray) (e : Event) : append file e = file ++ frame e.encode := rfl

theorem append_ne (file : ByteArray) (e : Event) : append file e ≠ file := by
  intro h
  have hsize := congrArg ByteArray.size h
  simp [append_eq] at hsize

@[simp] theorem ofEvents_nil : ofEvents [] = ByteArray.empty := rfl

theorem foldl_append (acc : ByteArray) (es : List Event) :
    es.foldl append acc = acc ++ ofEvents es := by
  induction es generalizing acc with
  | nil => simp
  | cons e es ih =>
      rw [List.foldl_cons, ih]
      show _ = acc ++ (e :: es).foldl append ByteArray.empty
      rw [List.foldl_cons, ih]
      simp [append_eq, ByteArray.append_assoc]

theorem ofEvents_cons (e : Event) (es : List Event) :
    ofEvents (e :: es) = frame e.encode ++ ofEvents es := by
  rw [ofEvents, List.foldl_cons, foldl_append]
  simp [append_eq]

theorem ofEvents_append (es fs : List Event) : ofEvents (es ++ fs) = ofEvents es ++ ofEvents fs := by
  rw [ofEvents, List.foldl_append, foldl_append, ← ofEvents]

theorem ofEvents_concat (es : List Event) (e : Event) :
    ofEvents (es ++ [e]) = append (ofEvents es) e := by
  rw [ofEvents_append, ofEvents_cons, ofEvents_nil, ByteArray.append_empty, append_eq]

/-- A file made of the frames of readable events, followed by anything, reads back as those
events followed by what the rest reads as. -/
theorem replay_ofEvents_append {es : List Event} (h : ∀ e ∈ es, e.Readable) (rest : ByteArray) :
    replay (ofEvents es ++ rest) = es ++ replay rest := by
  induction es with
  | nil => simp
  | cons e es ih =>
      rw [ofEvents_cons, ByteArray.append_assoc, replay_frame_append (h e (by simp)),
        ih (fun e' he' => h e' (by simp [he'])), List.cons_append]

/-- A file made of the frames of readable events reads back as those events. -/
theorem replay_ofEvents {es : List Event} (h : ∀ e ∈ es, e.Readable) : replay (ofEvents es) = es := by
  simpa using replay_ofEvents_append h ByteArray.empty

end Journal

end StudioRental
