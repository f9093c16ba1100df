/-!
The directory tree the server reads and writes: files with their bytes, and directories.

A path is split at `/` into parts, empty parts dropped. It is followed from the root as the
operating system does: every part before the last must lead to a directory (a file there is
"not a directory", a missing name "no such file"), `.` stays in the directory reached so far and
`..` steps back to its parent. The tree itself is keyed by the parts of the place a path leads
to.

Creating a directory with all its parents tries the directory itself first; when something on
the way is missing it makes the parent the same way and tries again. The parent is found from
the text alone: the path without its last part, `.` parts not counting as parts. A directory
that is there already counts as made.
-/

namespace StudioRental

/-- Why a file operation failed. -/
inductive IoError where
  | notFound
  | isDirectory
  | notDirectory
  | alreadyExists
  deriving DecidableEq, Repr, Inhabited

namespace IoError

/-- The system's text for the error. -/
def message : IoError → String
  | notFound => "No such file or directory (os error 2)"
  | isDirectory => "Is a directory (os error 21)"
  | notDirectory => "Not a directory (os error 20)"
  | alreadyExists => "File exists (os error 17)"

end IoError

/-- What a path names. -/
inductive Node where
  | file (data : ByteArray)
  | dir

/-- A directory tree: each path, as its parts, with what it names. -/
structure Disk where
  nodes : List (List String × Node) := []

namespace Disk

/-- The parts of a path, empty ones dropped. -/
def parts (path : String) : List String :=
  (path.splitOn "/").filter (· != "")

/-- The parts of a path as written names: empty ones and `.` dropped, `..` kept. The path
without its last such part is its parent. -/
def lexicalParts (path : String) : List String :=
  (parts path).filter (· != ".")

/-- What the path's parts name. -/
def node? (d : Disk) (ps : List String) : Option Node :=
  (d.nodes.find? (·.1 == ps)).map (·.2)

/-- Whether the parts name a directory; the empty path is the root. -/
def isDir (d : Disk) (ps : List String) : Bool :=
  ps.isEmpty || match d.node? ps with
    | some .dir => true
    | _ => false

/-- Whether the parts name something; the root is always there. -/
def present (d : Disk) (ps : List String) : Bool :=
  ps.isEmpty || (d.node? ps).isSome

/-- Put a node at a path, replacing what was there. -/
def put (d : Disk) (ps : List String) (n : Node) : Disk :=
  { nodes := d.nodes.filter (·.1 != ps) ++ [(ps, n)] }

/-- Follow parts from the directory `cur`, each of which must lead to a directory. -/
def walkDirs (d : Disk) (cur : List String) : List String → Except IoError (List String)
  | [] => .ok cur
  | p :: rest =>
    if p == "." then walkDirs d cur rest
    else if p == ".." then walkDirs d cur.dropLast rest
    else
      let next := cur ++ [p]
      match d.node? next with
      | some .dir => walkDirs d next rest
      | some (.file _) => .error .notDirectory
      | none => .error .notFound

/-- The place the parts of a path lead to: all parts but the last are followed as directories,
and a last part `.` names the directory reached, `..` its parent. -/
def locateParts (d : Disk) (ps : List String) : Except IoError (List String) :=
  match ps.getLast? with
  | none => .ok []
  | some last => do
    let dir ← d.walkDirs [] ps.dropLast
    pure (if last == "." then dir else if last == ".." then dir.dropLast else dir ++ [last])

/-- The place a path leads to. -/
def locate (d : Disk) (path : String) : Except IoError (List String) :=
  d.locateParts (parts path)

/-- Whether the parts lead to a directory. -/
def isDirPath (d : Disk) (ps : List String) : Bool :=
  match d.locateParts ps with
  | .ok t => d.isDir t
  | .error _ => false

/-- Make one directory. -/
def createDir (d : Disk) (ps : List String) : Except IoError Disk := do
  let t ← d.locateParts ps
  if d.present t then throw .alreadyExists
  return d.put t .dir

/-- The parts of the parent of a path given by its parts. -/
def parentParts (ps : List String) : List String :=
  (ps.filter (· != ".")).dropLast

/-- The parent's parts are fewer than the path's. -/
theorem parentParts_length_lt (p : String) (rest : List String) :
    (parentParts (p :: rest)).length < (p :: rest).length := by
  have h := List.length_filter_le (· != ".") (p :: rest)
  simp only [parentParts, List.length_dropLast]
  simp only [List.length_cons] at h ⊢
  omega

/-- Make a directory and every missing parent, given the parts of its path. -/
def createDirAllParts (d : Disk) : List String → Except IoError Disk
  | [] => .ok d
  | p :: rest =>
    let ps := p :: rest
    match d.createDir ps with
    | .ok d1 => .ok d1
    | .error .notFound => do
      let d1 ← createDirAllParts d (parentParts (p :: rest))
      match d1.createDir ps with
      | .ok d2 => .ok d2
      | .error e => if d1.isDirPath ps then .ok d1 else .error e
    | .error e => if d.isDirPath ps then .ok d else .error e
termination_by ps => ps.length
decreasing_by exact parentParts_length_lt p rest

/-- Make a directory and every missing parent. -/
def createDirAll (d : Disk) (path : String) : Except IoError Disk :=
  d.createDirAllParts (parts path)

/-- The bytes of a file. -/
def fileBytes (d : Disk) (path : String) : Except IoError ByteArray := do
  let t ← d.locate path
  match d.node? t with
  | some (.file data) => .ok data
  | some .dir => .error .isDirectory
  | none => if t.isEmpty then .error .isDirectory else .error .notFound

/-- Write a file, replacing it if it exists. -/
def putFile (d : Disk) (path : String) (data : ByteArray) : Except IoError Disk := do
  let t ← d.locate path
  if d.isDir t then throw .isDirectory
  return d.put t (.file data)

end Disk

end StudioRental
