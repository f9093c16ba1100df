import StudioRental.Error

/-!
Failures of the embedded storage engine, and the service error each one is reported as: a
missing record is not found, an overlap is an overbooking, a lock wait that runs out means the
record is locked, a broken limit is a validation error, and a duplicate record or a journal
failure is a storage failure.
-/

namespace StudioRental

/-- Why the engine refused or failed a request. -/
inductive EngineError where
  /-- No record with this key; the text names it. -/
  | notFound (what : String)
  /-- A record with this key exists already; the text names it. -/
  | alreadyExists (what : String)
  /-- The span overlaps `existing`, which still holds the room. -/
  | overlap (room existing : Ulid)
  /-- The record's lock was not free in time. -/
  | lockTimeout
  /-- A limit of the engine is broken; the text says which. -/
  | limitExceeded (what : String)
  /-- The journal could not be written. -/
  | journal (text : String)

namespace EngineError

/-- The text of an engine error. -/
def message : EngineError → String
  | notFound w => "not found: " ++ w
  | alreadyExists w => "already exists: " ++ w
  | overlap room existing => "room " ++ room.render ++ " overlaps booking " ++ existing.render
  | lockTimeout => "timed out waiting for record lock"
  | limitExceeded w => "limit exceeded: " ++ w
  | journal t => "WAL error: " ++ t

/-- The service error an engine error is reported as. -/
def toError : EngineError → Error
  | notFound w => .notFound w
  | overlap room _ => .overbooking room
  | lockTimeout => .lockUnavailable
  | limitExceeded w => .validation w
  | e@(alreadyExists _) | e@(journal _) => .storage e.message

end EngineError

end StudioRental
