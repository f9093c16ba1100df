import StudioRental.Journal.Event
import StudioRental.Digest.Crc32

/-!
The journal file: a sequence of frames, each the length of its payload in four bytes, the
payload (one event in the binary layout) and the payload's CRC-32 in four bytes.

Replaying a file reads frames from the start and stops, keeping what it has read, at the end
of the file, at a frame cut short, at a checksum that does not match, or at a payload that does
not hold an event. Writers only ever append, so a file whose tail was torn keeps its readable
prefix; frames appended after a torn tail are not read back.
-/

namespace StudioRental

namespace Journal

/-- A payload framed with its length and checksum. -/
def frame (payload : ByteArray) : ByteArray :=
  Binary.u32 payload.size ++ payload ++ Binary.u32 (Crc32.ofBytes payload).toNat

/-- The file with one more event at its end. -/
def append (file : ByteArray) (e : Event) : ByteArray := file ++ frame e.encode

/-- A file holding exactly these events. -/
def ofEvents (es : List Event) : ByteArray := es.foldl append ByteArray.empty

/-- The events read from position `pos` on. -/
def replayFrom (file : ByteArray) (pos : Nat) : List Event :=
  if pos + 4 ≤ file.size then
    let len := Decoder.valueOf (file.extract pos (pos + 4))
    if pos + 8 + len ≤ file.size then
      let payload := file.extract (pos + 4) (pos + 4 + len)
      let crc := Decoder.valueOf (file.extract (pos + 4 + len) (pos + 8 + len))
      if crc ≠ (Crc32.ofBytes payload).toNat then []
      else match Decoder.event.run payload with
        | some e => e :: replayFrom file (pos + 8 + len)
        | none => []
    else []
  else []
termination_by file.size - pos

/-- The events a file holds, read from its start. -/
def replay (file : ByteArray) : List Event := replayFrom file 0

end Journal

end StudioRental
