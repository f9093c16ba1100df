import StudioRental.Journal.Writer

/-!
The journal's writer on a device whose requests may fail.

Each request to the device (writing bytes to the file, or syncing it) is carried out or fails,
as the device's list of outcomes says; once the list is used up every request is carried out. A
write that fails has put fewer than all of its bytes in the file. The buffer behaves as in
`Writer`: writing it out hands the whole buffer to the device and keeps in it what the device did
not take; a write at least as long as the buffer goes straight to the file, and what the device
did not take of it is lost. An empty buffer, or an empty write, makes no request.

Appending an event writes its frame in three writes and stops at the first that fails; the count
of records goes up only when all three went through. A batch of events is committed by appending
them until one fails, then writing out the buffer and syncing the file even after a failure, and
the batch is reported done only when all of it went through. Dropping the handle writes its
buffer out and ignores a failure.
-/

namespace StudioRental

namespace Journal

/-- How the device ends one request. -/
inductive Outcome where
  /-- It carries the request out. -/
  | done
  /-- It fails, after taking the first `taken` bytes of a write when there are more than that. -/
  | fail (taken : Nat)
  deriving DecidableEq, Repr

namespace Outcome

/-- Whether the request went through. -/
def ok : Outcome → Bool
  | done => true
  | fail _ => false

/-- How many bytes of a write of `size` bytes reach the file: all of them, or fewer. -/
def taken : Outcome → Nat → Nat
  | done, size => size
  | fail n, size => min n (size - 1)

end Outcome

/-- The journal's writer with the outcomes of its next requests to the device. -/
structure Device extends Writer where
  /-- How the next requests end, in order. -/
  outcomes : List Outcome := []

namespace Device

/-- How the device ends its next request. -/
def outcome (d : Device) : Outcome := d.outcomes.headD .done

/-- The device once it has ended a request. -/
def answered (d : Device) : Device := { d with outcomes := d.outcomes.tail }

/-- Go on with `f` after a request that went through; stop at one that failed. -/
def proceed (r : Device × Bool) (f : Device → Device × Bool) : Device × Bool :=
  if r.2 then f r.1 else r

/-- Put bytes in the buffer. -/
def toBuffer (d : Device) (bytes : ByteArray) : Device := { d with buffer := d.buffer ++ bytes }

/-- Write the buffer out: the file takes what the device takes of it, and the rest stays in the
buffer. -/
def flushBuf (d : Device) : Device × Bool :=
  if d.buffer.size = 0 then (d, true)
  else
    let k := d.outcome.taken d.buffer.size
    ({ d.answered with
        file := d.file ++ d.buffer.extract 0 k
        buffer := d.buffer.extract k d.buffer.size }, d.outcome.ok)

/-- Write bytes straight to the file: what the device does not take of them is lost. -/
def writeFile (d : Device) (bytes : ByteArray) : Device × Bool :=
  if bytes.size = 0 then (d, true)
  else ({ d.answered with file := d.file ++ bytes.extract 0 (d.outcome.taken bytes.size) },
    d.outcome.ok)

/-- One write through the buffer, as `Writer.write` makes it. -/
def write (d : Device) (bytes : ByteArray) : Device × Bool :=
  let spare := bufferCapacity - d.buffer.size
  if bytes.size < spare then (d.toBuffer bytes, true)
  else
    proceed (if bytes.size > spare then d.flushBuf else (d, true)) fun d =>
      if bytes.size ≥ bufferCapacity then d.writeFile bytes else (d.toBuffer bytes, true)

/-- Append an event's frame without syncing. -/
def appendBuffered (d : Device) (e : Event) : Device × Bool :=
  let p := e.encode
  proceed (proceed (proceed (d.write (Binary.u32 p.size)) (·.write p))
    (·.write (Binary.u32 (Crc32.ofBytes p).toNat)))
    fun d => ({ d with appends := d.appends + 1 }, true)

/-- Sync the file: one request, which moves no bytes. -/
def syncAll (d : Device) : Device × Bool := (d.answered, d.outcome.ok)

/-- Write the buffer out and sync the file. -/
def flushSync (d : Device) : Device × Bool := proceed d.flushBuf syncAll

/-- Append events in order until one fails. -/
def appendAll (d : Device) : List Event → Device × Bool
  | [] => (d, true)
  | e :: es => proceed (d.appendBuffered e) (·.appendAll es)

/-- Commit a batch: append its events until one fails, then write out and sync what is buffered
even after a failure. The batch is done when all of it went through, and every caller of the
batch is told so. -/
def flushBatch (d : Device) (events : List Event) : Device × Bool :=
  let a := d.appendAll events
  let s := a.1.flushSync
  (s.1, a.2 && s.2)

/-- Drop the handle: its buffer is written out, and a failure is ignored. -/
def close (d : Device) : Device := d.flushBuf.1

end Device

end Journal

end StudioRental
