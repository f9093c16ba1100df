import StudioRental.Text.Blank
import StudioRental.Text.Quoted
import StudioRental.Number.Power

/-!
Process configuration from named variables.

A variable whose value is blank after trimming counts as unset. Numbers are trimmed and read as
unsigned decimal integers of their width (an optional `+`, digits only); the storage kind is
`embedded` or `postgres` in any case, after trimming. Errors name the variable and quote its
value as given.

The order of the checks: the storage kind, the database address when the storage is `postgres`,
the test-mode switch, then the fields in their written order (bind address, port, metrics
port, data directory, compaction threshold, connection limit, the three timeouts) and last the
gateway's merchant login and two passwords.
-/

namespace StudioRental

open scoped CorePow

/-- Where bookings are stored. -/
inductive StorageKind where
  | embedded | postgres
  deriving DecidableEq, Repr, Inhabited

namespace StorageKind

/-- Read a storage kind in any ASCII case; the error is the lower-cased text. -/
def parse (s : String) : Except String StorageKind :=
  match s.toLower with
  | "embedded" => .ok embedded
  | "postgres" => .ok postgres
  | other => .error other

end StorageKind

/-- How the payment gateway is reached. -/
structure GatewayConfig where
  merchantLogin : String
  password1 : String
  password2 : String
  paymentUrl : String
  testMode : Bool

/-- The whole process configuration. Durations are in milliseconds. -/
structure Config where
  bind : String
  port : Nat
  metricsPort : Option Nat
  storage : StorageKind
  dataDir : String
  compactThreshold : Nat
  databaseUrl : Option String
  dbMaxConnections : Nat
  catalogPath : Option String
  lockTimeoutMs : Nat
  storageTimeoutMs : Nat
  requestTimeoutMs : Nat
  gateway : GatewayConfig

/-- Why the configuration could not be built. -/
inductive ConfigError where
  /-- A required variable is unset. -/
  | missing (name : String)
  /-- A variable's value cannot be read. -/
  | invalid (name value : String)

namespace ConfigError

/-- The text of a configuration error. -/
def message : ConfigError → String
  | missing n => n ++ " must be set"
  | invalid n v => "failed to parse " ++ n ++ ": " ++ Text.quoted v

end ConfigError

namespace Config

/-- The gateway's address when none is configured. -/
def defaultPaymentUrl : String := "https://auth.robokassa.ru/Merchant/Index.aspx"

/-- Read an unsigned integer below `2^bits`: an optional `+` and at least one digit. -/
def parseUnsigned (bits : Nat) (s : String) : Option Nat :=
  let cs := match s.toList with
    | '+' :: rest => rest
    | cs => cs
  if cs.isEmpty || !cs.all Char.isDigit then none
  else
    let n := cs.foldl (fun acc c => acc * 10 + (c.toNat - 48)) 0
    if n < 2 ^ bits then some n else none

/-- Every variable the configuration reads. -/
def variableNames : List String :=
  ["STUDIOBOOK_STORAGE", "DATABASE_URL", "STUDIOBOOK_PAYMENT_TEST_MODE", "STUDIOBOOK_BIND",
    "STUDIOBOOK_PORT", "STUDIOBOOK_METRICS_PORT", "STUDIOBOOK_DATA_DIR",
    "STUDIOBOOK_COMPACT_THRESHOLD", "STUDIOBOOK_DB_MAX_CONNECTIONS", "STUDIOBOOK_CATALOG",
    "STUDIOBOOK_LOCK_TIMEOUT_MS", "STUDIOBOOK_STORAGE_TIMEOUT_MS", "STUDIOBOOK_REQUEST_TIMEOUT_MS",
    "STUDIOBOOK_MERCHANT_LOGIN", "STUDIOBOOK_PAYMENT_PASSWORD1", "STUDIOBOOK_PAYMENT_PASSWORD2",
    "STUDIOBOOK_PAYMENT_URL"]

/-- Build the configuration from a lookup of variables. -/
def ofLookup (lookup : String → Option String) : Except ConfigError Config := do
  let get (name : String) : Option String :=
    match lookup name with
    | some v => if (Text.trimBlank v).isEmpty then none else some v
    | none => none
  let number (bits : Nat) (name : String) : Except ConfigError (Option Nat) :=
    match get name with
    | none => .ok none
    | some v =>
      match parseUnsigned bits (Text.trimBlank v) with
      | some n => .ok (some n)
      | none => .error (.invalid name v)
  let required (name : String) : Except ConfigError String :=
    match get name with
    | some v => .ok v
    | none => .error (.missing name)
  let storage ← match get "STUDIOBOOK_STORAGE" with
    | none => pure StorageKind.embedded
    | some v => match StorageKind.parse (Text.trimBlank v) with
      | .ok k => pure k
      | .error _ => throw (.invalid "STUDIOBOOK_STORAGE" v)
  let databaseUrl := get "DATABASE_URL"
  if storage == .postgres && databaseUrl.isNone then throw (.missing "DATABASE_URL")
  let testMode ← match get "STUDIOBOOK_PAYMENT_TEST_MODE" with
    | none => pure false
    | some v => match v.toLower with
      | "1" | "true" | "yes" => pure true
      | "0" | "false" | "no" => pure false
      | _ => throw (.invalid "STUDIOBOOK_PAYMENT_TEST_MODE" v)
  let bind := (get "STUDIOBOOK_BIND").getD "0.0.0.0"
  let port := (← number 16 "STUDIOBOOK_PORT").getD 8080
  let metricsPort ← number 16 "STUDIOBOOK_METRICS_PORT"
  let dataDir := (get "STUDIOBOOK_DATA_DIR").getD "./data"
  let compactThreshold := (← number 64 "STUDIOBOOK_COMPACT_THRESHOLD").getD 1000
  let dbMaxConnections := (← number 32 "STUDIOBOOK_DB_MAX_CONNECTIONS").getD 10
  let catalogPath := get "STUDIOBOOK_CATALOG"
  let lockTimeoutMs := (← number 64 "STUDIOBOOK_LOCK_TIMEOUT_MS").getD 2000
  let storageTimeoutMs := (← number 64 "STUDIOBOOK_STORAGE_TIMEOUT_MS").getD 5000
  let requestTimeoutMs := (← number 64 "STUDIOBOOK_REQUEST_TIMEOUT_MS").getD 15000
  let merchantLogin ← required "STUDIOBOOK_MERCHANT_LOGIN"
  let password1 ← required "STUDIOBOOK_PAYMENT_PASSWORD1"
  let password2 ← required "STUDIOBOOK_PAYMENT_PASSWORD2"
  let paymentUrl := (get "STUDIOBOOK_PAYMENT_URL").getD defaultPaymentUrl
  return { bind, port, metricsPort, storage, dataDir, compactThreshold, databaseUrl,
           dbMaxConnections, catalogPath, lockTimeoutMs, storageTimeoutMs, requestTimeoutMs,
           gateway := { merchantLogin, password1, password2, paymentUrl, testMode } }

/-- The log file inside the data directory: the directory and the file name joined by one
separator unless the directory already ends in one. -/
def walPath (c : Config) : String :=
  if c.dataDir.endsWith "/" then c.dataDir ++ "studiobook.wal" else c.dataDir ++ "/studiobook.wal"

/-- Digits of a fraction of a second (nine places) without trailing zeros. -/
def fractionDigits (nanos : Nat) : String :=
  let ds := (Nat.toDigits 10 nanos)
  let padded := List.replicate (9 - ds.length) '0' ++ ds
  String.ofList (padded.reverse.dropWhile (· = '0')).reverse

/-- A duration of `ms` milliseconds in the short diagnostic form: seconds with a fraction
(`1.5s`) from one second up, otherwise milliseconds (`100ms`), and `0ns` for nothing. -/
def durationText (ms : Nat) : String :=
  if ms ≥ 1000 then
    let frac := ms % 1000
    toString (ms / 1000) ++ (if frac = 0 then "" else "." ++ fractionDigits (frac * 1000000)) ++
      "s"
  else if ms = 0 then "0ns"
  else toString ms ++ "ms"

/-- The diagnostic text of an optional value. -/
def optionText (f : α → String) : Option α → String
  | some v => "Some(" ++ f v ++ ")"
  | none => "None"

/-- The diagnostic text of the gateway settings; passwords are not shown. -/
def gatewayText (g : GatewayConfig) : String :=
  "GatewayConfig \x7b merchant_login: " ++ Text.quoted g.merchantLogin ++
    ", password1: \"<redacted>\", password2: \"<redacted>\", payment_url: " ++
    Text.quoted g.paymentUrl ++ ", test_mode: " ++ toString g.testMode ++ " \x7d"

/-- The diagnostic text of the whole configuration. -/
def debugText (c : Config) : String :=
  "Config \x7b bind: " ++ Text.quoted c.bind ++ ", port: " ++ toString c.port ++
    ", metrics_port: " ++ optionText toString c.metricsPort ++ ", storage: " ++
    (match c.storage with | .embedded => "Embedded" | .postgres => "Postgres") ++
    ", data_dir: " ++ Text.quoted c.dataDir ++ ", compact_threshold: " ++
    toString c.compactThreshold ++ ", database_url: " ++ optionText Text.quoted c.databaseUrl ++
    ", db_max_connections: " ++ toString c.dbMaxConnections ++ ", catalog_path: " ++
    optionText Text.quoted c.catalogPath ++ ", lock_timeout: " ++ durationText c.lockTimeoutMs ++
    ", storage_timeout: " ++ durationText c.storageTimeoutMs ++ ", request_timeout: " ++
    durationText c.requestTimeoutMs ++ ", gateway: " ++ gatewayText c.gateway ++ " \x7d"

end Config

end StudioRental
