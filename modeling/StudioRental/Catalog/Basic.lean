import StudioRental.Catalog.Hours
import StudioRental.Ident.Ulid
import StudioRental.Money.Decimal.Text
import StudioRental.Json.Shape

/-!
The catalog: studios with their owner and managers, and rooms with their studio, hourly rate and
working hours.

A catalog is read from JSON of the form `{"studios": [...], "rooms": [...]}` (both lists may be
missing), checked against its shape as it is read: a problem is reported with its place in the
text. Studios are entered first, a later studio with the same id replacing an earlier one;
then each room in turn, which must name a studio already entered.
-/

namespace StudioRental

/-- A studio and the people who run it. -/
structure Studio where
  id : Ulid
  owner : Ulid
  managers : List Ulid := []
  deriving DecidableEq

/-- A bookable room. -/
structure Room where
  id : Ulid
  studio : Ulid
  hourlyRate : Decimal
  hours : WeeklyHours := {}

namespace Studio

/-- Whether the user owns or manages the studio. -/
def isStaff (s : Studio) (user : Ulid) : Bool :=
  s.owner == user || s.managers.contains user

end Studio

/-- Studios and rooms by id. -/
structure Catalog where
  studios : List Studio := []
  rooms : List Room := []

namespace Catalog

/-- The studio with this id. -/
def studio? (c : Catalog) (id : Ulid) : Option Studio :=
  c.studios.find? (·.id == id)

/-- The room with this id. -/
def room? (c : Catalog) (id : Ulid) : Option Room :=
  c.rooms.find? (·.id == id)

/-- Enter a studio, replacing one with the same id. -/
def putStudio (c : Catalog) (s : Studio) : Catalog :=
  { c with studios := s :: c.studios.filter (·.id != s.id) }

/-- Enter a room, replacing one with the same id. -/
def putRoom (c : Catalog) (r : Room) : Catalog :=
  { c with rooms := r :: c.rooms.filter (·.id != r.id) }

/-- How many rooms the catalog holds. -/
def roomCount (c : Catalog) : Nat := c.rooms.length

end Catalog

/-- Why a catalog could not be loaded. -/
inductive CatalogError where
  /-- The catalog file could not be read; the text is the system's reason. -/
  | unreadable (reason : String)
  /-- The text is not a catalog; the detail says why and where. -/
  | malformed (detail : String)
  /-- A room names a studio the catalog does not have. -/
  | unknownStudio (room studio : Ulid)

namespace CatalogError

/-- The text of a catalog error. -/
def message : CatalogError → String
  | unreadable r => "failed to read catalog: " ++ r
  | malformed d => "failed to parse catalog: " ++ d
  | unknownStudio room studio =>
    "room " ++ room.render ++ " references unknown studio " ++ studio.render

end CatalogError

namespace Json

/-- An identifier written as its 26-character text. -/
def readUlid (j : Json) : Except String Ulid := do
  match Ulid.parse? (← readString j) with
  | some u => .ok u
  | none => .error "invalid ulid"

/-- A decimal written as text. -/
def readDecimalText (j : Json) : Except String Decimal := do
  match Decimal.parse? (← readString j) with
  | some d => .ok d
  | none => .error "invalid decimal"

end Json

namespace Studio

/-- Read `{id, owner_id, manager_ids?}`. -/
def ofJson (j : Json) : Except String Studio := do
  let r ← RecordFields.ofJson ["id", "owner_id", "manager_ids"] j
  return ⟨← r.req "id" Json.readUlid, ← r.req "owner_id" Json.readUlid,
    ← r.withDefault "manager_ids" [] (Json.readList Json.readUlid)⟩

/-- `{id, owner_id, manager_ids}`. -/
def toJson (s : Studio) : Json :=
  Json.obj [("id", .string s.id.render), ("owner_id", .string s.owner.render),
    ("manager_ids", .array (s.managers.map fun m => .string m.render))]

end Studio

namespace Room

/-- Read `{id, studio_id, hourly_rate, schedule?}`; the rate must be written as text. -/
def ofJson (j : Json) : Except String Room := do
  let r ← RecordFields.ofJson ["id", "studio_id", "hourly_rate", "schedule"] j
  return ⟨← r.req "id" Json.readUlid, ← r.req "studio_id" Json.readUlid,
    ← r.req "hourly_rate" Json.readDecimalText, ← r.withDefault "schedule" {} WeeklyHours.ofJson⟩

/-- `{id, studio_id, hourly_rate, schedule}`. -/
def toJson (r : Room) : Json :=
  Json.obj [("id", .string r.id.render), ("studio_id", .string r.studio.render),
    ("hourly_rate", .string r.hourlyRate.render), ("schedule", r.hours.toJson)]

end Room

namespace Catalog

/-- Enter the studios, then the rooms, refusing a room of an unknown studio. -/
def build (studios : List Studio) (rooms : List Room) : Except CatalogError Catalog := do
  let c := studios.foldl putStudio {}
  rooms.foldlM (fun c r =>
    if (c.studio? r.studio).isSome then .ok (c.putRoom r)
    else .error (.unknownStudio r.id r.studio)) c

/-- The shape of a day's opening hours. -/
def hoursShape : Shape :=
  .record "OpeningHours" [("open", .clock, false), ("close", .clock, false)]

/-- The shape of a weekly schedule: every day and the offset may be left out. -/
def scheduleShape : Shape :=
  .record "WorkingHoursSchedule"
    ((WeeklyHours.fieldNames.take 7).map (fun d => (d, .option hoursShape, true)) ++
      [("utc_offset_minutes", .int32, true)])

/-- The shape of a studio. -/
def studioShape : Shape :=
  .record "Studio" [("id", .ulid, false), ("owner_id", .ulid, false),
    ("manager_ids", .list .ulid, true)]

/-- The shape of a room. -/
def roomShape : Shape :=
  .record "Room" [("id", .ulid, false), ("studio_id", .ulid, false),
    ("hourly_rate", .decimalText, false), ("schedule", scheduleShape, true)]

/-- The shape of a catalog file. -/
def fileShape : Shape :=
  .record "CatalogFile" [("studios", .list studioShape, true), ("rooms", .list roomShape, true)]

/-- Read a catalog from JSON text. -/
def ofText (text : String) : Except CatalogError Catalog :=
  match JsonReader.read fileShape text with
  | .error e => .error (.malformed e.message)
  | .ok j =>
    let parsed : Except String (List Studio × List Room) := do
      let r ← RecordFields.ofJson ["studios", "rooms"] j
      return (← r.withDefault "studios" [] (Json.readList Studio.ofJson),
        ← r.withDefault "rooms" [] (Json.readList Room.ofJson))
    match parsed with
    | .error m => .error (.malformed m)
    | .ok (studios, rooms) => build studios rooms

end Catalog

end StudioRental
