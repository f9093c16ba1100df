import StudioRental.Server.Disk
import StudioRental.Server.Database
import StudioRental.Engine.Basic
import StudioRental.Config

/-!
Starting the server and shutting it down.

Start-up reads the configuration, loads the catalog when a catalog file is named, and opens the
storage: for the embedded engine it makes the data directory and opens the journal in it
(replaying it, and compacting it when it has grown past the compaction threshold); for a
database it connects. A graceful shutdown compacts the journal to one creation per record.

The first failure ends start-up, and its text is what the server reports.
-/

namespace StudioRental

namespace Startup

/-- The catalog named by the configuration, or an empty one. -/
def loadCatalog (d : Disk) (path : Option String) : Except String Catalog :=
  match path with
  | none => .ok {}
  | some p =>
    match d.fileBytes p with
    | .error e => .error ("failed to read catalog: " ++ e.message)
    | .ok data =>
      match String.fromUTF8? data with
      | none => .error "failed to read catalog: stream did not contain valid UTF-8"
      | some text => (Catalog.ofText text).mapError (·.message)

/-- The journal's bytes, or none when there is no journal file. -/
def readJournal (d : Disk) (path : String) : Except IoError ByteArray :=
  match d.fileBytes path with
  | .error .notFound => .ok .empty
  | r => r

/-- Open the engine on the journal at `path`, creating the file if it is missing. -/
def openEngine (d : Disk) (path : String) (threshold : Nat) : Except IoError (Engine × Disk) := do
  let file ← readJournal d path
  let e := Engine.ofFile file threshold
  let d ← d.putFile path e.file
  return (e, d)

/-- Run the server from start-up to a graceful shutdown with the configuration read from
`lookup` and the files of `disk`: the directory tree afterwards, or the reason start-up
failed. -/
def run (lookup : String → Option String) (d : Disk) : Except String Disk := do
  let config ← (Config.ofLookup lookup).mapError (·.message)
  let _ ← loadCatalog d config.catalogPath
  match config.storage with
  | .postgres => throw (Database.connectError (config.databaseUrl.getD "")).message
  | .embedded =>
    let d ← (d.createDirAll config.dataDir).mapError (·.message)
    let (e, d) ← (openEngine d config.walPath config.compactThreshold).mapError (·.message)
    (d.putFile config.walPath e.compact.file).mapError (·.message)

end Startup

end StudioRental
