import StudioRental.Journal.Log

/-!
The journal's writer: a handle that appends to the journal file through an in-memory buffer of
8 KiB.

A write shorter than the buffer's spare room goes into the buffer. Otherwise the buffer is first
written out when the write is longer than the spare room; then a write at least as long as the
whole buffer goes straight to the file, and a shorter one into the buffer. Appending an event
writes its frame as three writes: the length, the payload, the checksum. Syncing writes the
buffer out. Compacting writes the given events to a new file and renames it over the journal:
what the old handle still buffered goes to the replaced file, and the handle reopened on the
new file starts empty. Dropping a handle writes its buffer out; opening the journal again
appends to the file as it is, creating it when it is missing.
-/

namespace StudioRental

namespace Journal

/-- The size of the writer's buffer. -/
def bufferCapacity : Nat := 8192

/-- The journal file and its writer. -/
structure Writer where
  /-- The file on disk. -/
  file : ByteArray
  /-- Bytes written but not yet out of the buffer. -/
  buffer : ByteArray := .empty
  /-- Records appended since the journal was opened or last compacted. -/
  appends : Nat := 0

namespace Writer

/-- Open the journal file, creating it empty when it is missing. -/
def openOn (file? : Option ByteArray) : Writer := { file := file?.getD .empty }

/-- Write the buffer out to the file. -/
def flushBuffer (w : Writer) : Writer := { w with file := w.file ++ w.buffer, buffer := .empty }

/-- One write through the buffer. -/
def write (w : Writer) (bytes : ByteArray) : Writer :=
  let spare := bufferCapacity - w.buffer.size
  if bytes.size < spare then { w with buffer := w.buffer ++ bytes }
  else
    let w := if bytes.size > spare then w.flushBuffer else w
    if bytes.size ≥ bufferCapacity then { w with file := w.file ++ bytes }
    else { w with buffer := w.buffer ++ bytes }

/-- Append an event's frame without syncing. -/
def appendBuffered (w : Writer) (e : Event) : Writer :=
  let p := e.encode
  let w := ((w.write (Binary.u32 p.size)).write p).write (Binary.u32 (Crc32.ofBytes p).toNat)
  { w with appends := w.appends + 1 }

/-- Write the buffer out and sync the file. -/
def flushSync (w : Writer) : Writer := w.flushBuffer

/-- Replace the journal by the frames of `events` and reopen it. -/
def compact (_ : Writer) (events : List Event) : Writer := { file := ofEvents events }

/-- A call on the journal's writer. -/
inductive Call where
  | appendBuffered (e : Event)
  | flushSync
  | compact (events : List Event)
  /-- Drop the handle and open the journal again. -/
  | reopen

/-- Make one call. -/
def perform (w : Writer) : Call → Writer
  | .appendBuffered e => w.appendBuffered e
  | .flushSync => w.flushSync
  | .compact events => w.compact events
  | .reopen => openOn (some w.flushBuffer.file)

/-- Make calls in order. -/
def run (w : Writer) (calls : List Call) : Writer := calls.foldl perform w

end Writer

end Journal

end StudioRental
