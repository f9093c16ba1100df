import StudioRental.Error
import StudioRental.Address.Url
import StudioRental.Text.Quoted
import StudioRental.Server.Disk

/-!
Connecting to the database server, where none is running.

The address is read as a URL (`Url.parse`), and then into connection options in this order:
the host (one whose decoded text starts with `/` names the directory of a local socket), the
port, the user, the password and the database (the path without its leading slashes), each
decoded from its escapes and required to be UTF-8; then the query parameters in order.
`sslmode` must name a mode, `statement-cache-capacity` and `port` must be unsigned numbers of
64 and 16 bits, `hostaddr` must be an IP address, and `host` starting with `/` names the socket
directory. The first failure is a configuration error.

A pool without room for a connection cannot be made, and stops the program. Otherwise the
connection goes to the socket `<directory>/.s.PGSQL.<port>` when a socket directory is set, and
over the network to the host otherwise. A socket path must hold no NUL and be shorter than 108
bytes; it is then followed through the machine's directories, where a missing directory or a
file on the way fails at once. Where something answers but refuses, the pool keeps trying until
its time runs out.
-/

namespace StudioRental

namespace Database

/-- Where and as whom to connect. -/
structure Options where
  host : String := "localhost"
  socket : Option String := none
  port : Nat := 5432
  username : Option String := none
  password : Option String := none
  database : Option String := none
  statementCacheCapacity : Nat := 100
  applicationName : Option String := none
  deriving Repr

/-- Why a text is not an unsigned number. -/
inductive NumberError where
  | empty
  | invalidDigit
  | tooLarge
  deriving DecidableEq, Repr

namespace NumberError

/-- The text reporting the error. -/
def message : NumberError → String
  | empty => "cannot parse integer from empty string"
  | invalidDigit => "invalid digit found in string"
  | tooLarge => "number too large to fit in target type"

end NumberError

/-- Read decimal digits below `2 ^ bits`, from left to right, `acc` the value so far: the first
character that is not a digit, or the first digit that makes the value too large, fails. -/
def digitsBelow (bits : Nat) : List Char → Nat → Except NumberError Nat
  | [], acc => .ok acc
  | c :: rest, acc =>
    if !('0' ≤ c && c ≤ '9') then .error .invalidDigit
    else
      let n := acc * 10 + (c.toNat - 48)
      if n < 2 ^ bits then digitsBelow bits rest n else .error .tooLarge

/-- Read an unsigned number below `2 ^ bits`: an optional `+`, then decimal digits. -/
def readUnsigned (bits : Nat) (s : String) : Except NumberError Nat :=
  match s.toList with
  | [] => .error .empty
  | ['+'] => .error .invalidDigit
  | ['-'] => .error .invalidDigit
  | '+' :: rest => digitsBelow bits rest 0
  | cs => digitsBelow bits cs 0

/-- The names of the TLS modes, in lower case. -/
def sslModes : List String :=
  ["disable", "allow", "prefer", "require", "verify-ca", "verify-full"]

/-- Decode a component's escapes, which must give UTF-8. -/
def decodeComponent (s : String) : Except String String :=
  (Utf8.decodeStrict (FormUrl.percentDecode s.toUTF8.toList)).mapError Utf8.Flaw.message

/-- Apply one query parameter. -/
def applyParam (o : Options) : String × String → Except String Options
  | (key, value) =>
    if key == "sslmode" || key == "ssl-mode" then
      if sslModes.contains (String.ofList (value.toList.map Char.toLower)) then .ok o
      else .error ("error with configuration: unknown value " ++ Text.quoted value ++
        " for `ssl_mode`")
    else if key == "statement-cache-capacity" then
      match readUnsigned 64 value with
      | .ok n => .ok { o with statementCacheCapacity := n }
      | .error e => .error e.message
    else if key == "host" then
      .ok (if value.startsWith "/" then { o with socket := some value } else { o with host := value })
    else if key == "hostaddr" then
      if Ip.isAddress value then .ok { o with host := value } else .error "invalid IP address syntax"
    else if key == "port" then
      match readUnsigned 16 value with
      | .ok n => .ok { o with port := n }
      | .error e => .error e.message
    else if key == "dbname" then .ok { o with database := some value }
    else if key == "user" then .ok { o with username := some value }
    else if key == "password" then .ok { o with password := some value }
    else if key == "application_name" then .ok { o with applicationName := some value }
    else .ok o

/-- The options a URL gives, or the text of the configuration error. -/
def ofUrl (u : Url) : Except String Options := do
  let o : Options := {}
  let o ← match u.host with
    | none => pure o
    | some h =>
      if (FormUrl.percentDecode h.text.toUTF8.toList).head? == some 47 then do
        let dir ← decodeComponent h.text
        pure { o with socket := some dir }
      else pure { o with host := h.text }
  let o := match u.port with
    | some p => { o with port := p }
    | none => o
  let o ← if u.username.isEmpty then pure o
    else do
      let user ← decodeComponent u.username
      pure { o with username := some user }
  let o ← match u.password with
    | none => pure o
    | some p => do
      let password ← decodeComponent p
      pure { o with password := some password }
  let path := String.ofList (u.path.toList.dropWhile (· == '/'))
  let o ← if path.isEmpty then pure o
    else do
      let name ← decodeComponent path
      pure { o with database := some name }
  (FormUrl.decode (u.query.getD "")).foldlM applyParam o

/-- The path of the local socket the options lead to, if they lead to one. -/
def socketPath (o : Options) : Option String :=
  let file := "/.s.PGSQL." ++ toString o.port
  match o.socket with
  | some dir => some (dir ++ file)
  | none => if o.host.startsWith "/" then some (o.host ++ file) else none

/-- Directories of the machine the server runs on. -/
def machineDirectories : List String :=
  ["/bin", "/boot", "/dev", "/dev/shm", "/etc", "/home", "/lib", "/lib64", "/media", "/mnt",
    "/opt", "/proc", "/proc/self", "/proc/self/fd", "/proc/self/task", "/root", "/run", "/sbin",
    "/srv", "/sys", "/tmp", "/usr", "/usr/bin", "/usr/lib", "/usr/local", "/usr/local/bin",
    "/usr/sbin", "/usr/share", "/var", "/var/lib", "/var/log", "/var/run", "/var/tmp"]

/-- Files of the machine the server runs on: system configuration, devices, the kernel's
information files (the running process's among them) and the common programs. -/
def machineFiles : List String :=
  ["/etc/passwd", "/etc/group", "/etc/hosts", "/etc/hostname", "/etc/resolv.conf", "/etc/shadow",
    "/etc/os-release", "/etc/issue", "/etc/fstab", "/etc/profile", "/etc/shells",
    "/etc/nsswitch.conf", "/etc/ld.so.cache", "/etc/localtime", "/etc/machine-id",
    "/etc/environment", "/etc/mtab", "/dev/null", "/dev/zero", "/dev/random", "/dev/urandom",
    "/dev/tty", "/dev/full", "/dev/stdin", "/dev/stdout", "/dev/stderr", "/proc/version",
    "/proc/cpuinfo", "/proc/meminfo", "/proc/uptime", "/proc/stat", "/proc/loadavg",
    "/proc/cmdline", "/proc/mounts", "/proc/filesystems", "/proc/self/status",
    "/proc/self/cmdline", "/proc/self/environ", "/proc/self/stat", "/proc/self/statm",
    "/proc/self/maps", "/proc/self/mounts", "/proc/self/exe", "/proc/self/comm",
    "/proc/self/limits", "/proc/self/io", "/bin/sh", "/bin/bash", "/bin/dash", "/bin/ls",
    "/bin/cat", "/bin/env", "/bin/true", "/bin/false", "/bin/echo", "/bin/test", "/bin/sleep",
    "/bin/id", "/bin/uname", "/bin/head", "/bin/tail", "/bin/grep", "/bin/sed", "/bin/mkdir",
    "/bin/rm", "/bin/cp", "/bin/mv", "/bin/ln", "/bin/chmod", "/bin/date", "/bin/pwd",
    "/bin/touch", "/bin/sort", "/bin/tr", "/bin/wc", "/usr/bin/sh", "/usr/bin/bash",
    "/usr/bin/dash", "/usr/bin/ls", "/usr/bin/cat", "/usr/bin/env", "/usr/bin/true",
    "/usr/bin/false", "/usr/bin/echo", "/usr/bin/test", "/usr/bin/sleep", "/usr/bin/id",
    "/usr/bin/uname", "/usr/bin/head", "/usr/bin/tail", "/usr/bin/grep", "/usr/bin/sed",
    "/usr/bin/mkdir", "/usr/bin/rm", "/usr/bin/cp", "/usr/bin/mv", "/usr/bin/ln", "/usr/bin/chmod",
    "/usr/bin/date", "/usr/bin/pwd", "/usr/bin/touch", "/usr/bin/sort", "/usr/bin/tr",
    "/usr/bin/wc"]

/-- The machine's directory tree, as far as a socket path can run into it. -/
def machine : Disk :=
  let d := machineDirectories.foldl (fun d p => d.put (Disk.parts p) .dir) {}
  machineFiles.foldl (fun d p => d.put (Disk.parts p) (.file ByteArray.empty)) d

/-- The text of a pool that gave up waiting for a connection. -/
def timedOut : String := "pool timed out while waiting for an open connection"

/-- How connecting to a local socket fails. -/
def socketFailure (path : String) : String :=
  if path.toList.contains (Char.ofNat 0) then
    "error communicating with database: paths must not contain interior null bytes"
  else if path.utf8ByteSize ≥ 108 then
    "error communicating with database: path must be shorter than SUN_LEN"
  else
    match machine.locate path with
    | .error e => "error communicating with database: " ++ e.message
    | .ok place =>
      if machine.present place then timedOut
      else "error communicating with database: " ++ IoError.notFound.message

/-- How connecting over the network fails: the local host and addresses refuse until the pool
gives up, and other names are not found. -/
def networkFailure (host : String) : String :=
  if host == "localhost" || Ip.isAddress host then timedOut
  else "error communicating with database: failed to lookup address information: " ++
    "Temporary failure in name resolution"

/-- How an attempt to connect ends when no server runs. -/
inductive Failure where
  /-- The attempt reports an error. -/
  | error (e : Error)
  /-- The attempt stops the program with a message. -/
  | panic (message : String)

/-- Connect to the database at `url` with a pool of at most `maxConnections` connections. -/
def connect (maxConnections : Nat) (url : String) : Failure :=
  match Url.parse url with
  | .error e => .error (.storage ("error with configuration: " ++ e.message))
  | .ok u =>
    match ofUrl u with
    | .error m => .error (.storage ("error with configuration: " ++ m))
    | .ok o =>
      if maxConnections == 0 then .panic "capacity must be non-zero"
      else .error (.storage (match socketPath o with
        | some path => socketFailure path
        | none => networkFailure o.host))

/-- The error of connecting to the database at `url` with a pool that has room. -/
def connectError (url : String) : Error :=
  match connect 1 url with
  | .error e => e
  | .panic m => .storage m

end Database

end StudioRental
