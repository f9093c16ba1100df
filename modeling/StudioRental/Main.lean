import StudioRental.Server.Startup

/-!
The command-line program: start the service from the environment and stop it again.

Start-up reads the configuration from the environment, loads the catalog file when one is named,
and opens the storage: for the embedded engine it makes the data directory, replays the journal
and compacts it when it has grown past the compaction threshold; a database is connected to.
Requests are served by a network front end outside this program, so the service stops at once,
compacting the journal to one creation per record. A failed start-up prints its reason and ends
with status 1.
-/

open StudioRental

/-- The bytes of a file, or none when it does not exist. -/
def readIfPresent (path : String) : IO (Option ByteArray) := do
  try
    return some (← IO.FS.readBinFile path)
  catch e =>
    match e with
    | .noFileOrDirectory .. => return none
    | e => throw e

/-- Start the service and stop it: the reason start-up failed, if it did. -/
def startAndStop : IO (Except String Unit) := do
  let mut vars : List (String × String) := []
  for name in Config.variableNames do
    if let some v ← IO.getEnv name then vars := (name, v) :: vars
  let lookup := fun name => (vars.find? (·.1 == name)).map (·.2)
  match Config.ofLookup lookup with
  | .error e => return .error e.message
  | .ok config =>
    if let some path := config.catalogPath then
      let text ← try IO.FS.readFile path
        catch e => return .error ("failed to read catalog: " ++ toString e)
      if let .error e := Catalog.ofText text then return .error e.message
    match config.storage with
    | .postgres => return .error (Database.connectError (config.databaseUrl.getD "")).message
    | .embedded =>
      IO.FS.createDirAll config.dataDir
      let file := (← readIfPresent config.walPath).getD .empty
      let engine := Engine.ofFile file config.compactThreshold
      IO.FS.writeBinFile config.walPath engine.file
      IO.FS.writeBinFile config.walPath engine.compact.file
      return .ok ()

/-- Run the program. -/
def main : IO UInt32 := do
  match ← startAndStop with
  | .ok () => return 0
  | .error m =>
    IO.eprintln ("Error: " ++ m)
    return 1
