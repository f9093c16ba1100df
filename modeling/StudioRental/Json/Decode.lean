import StudioRental.Json.Value
import StudioRental.Text.Map

/-!
Reading records out of JSON values.

A record is written as an object or, positionally, as an array. In an object, members whose
names the record does not know are ignored and a known name given twice is an error. Three kinds
of field:

* a required field must be present;
* an optional field may be missing or `null` (in the positional form it must be present);
* a defaulted field takes its default when missing.

A map of text to text keeps the last value of a repeated key and holds its keys in byte
order.
-/

namespace StudioRental

/-- The fields of a record being read: for each known name, the value given, if any. -/
structure RecordFields where
  values : List (String × Json)
  positional : Bool

namespace RecordFields

/-- Collect the known fields `names` of a record written as an object or an array. -/
def ofJson (names : List String) (j : Json) : Except String RecordFields :=
  match j with
  | .object ms =>
    let known := ms.filter (fun m => names.contains m.1)
    let dup := names.any fun n => (known.filter (fun m => m.1 == n)).length > 1
    if dup then .error "duplicate field" else .ok ⟨known, false⟩
  | .array xs =>
    if xs.length > names.length then .error "invalid length"
    else .ok ⟨names.zip xs, true⟩
  | _ => .error "invalid type: expected a record"

/-- The value given for `name`. -/
def find? (r : RecordFields) (name : String) : Option Json :=
  (r.values.find? (fun m => m.1 == name)).map (·.2)

/-- A field that must be present. -/
def req (r : RecordFields) (name : String) (read : Json → Except String α) : Except String α :=
  match r.find? name with
  | some v => read v
  | none => .error ("missing field " ++ name)

/-- A field that may be missing or `null`. -/
def opt (r : RecordFields) (name : String) (read : Json → Except String α) :
    Except String (Option α) :=
  match r.find? name with
  | some .null => .ok none
  | some v => (read v).map some
  | none => if r.positional then .error ("missing field " ++ name) else .ok none

/-- A field that takes `d` when missing. -/
def withDefault (r : RecordFields) (name : String) (d : α) (read : Json → Except String α) :
    Except String α :=
  match r.find? name with
  | some v => read v
  | none => .ok d

end RecordFields

namespace Json

/-- A string value. -/
def readString (j : Json) : Except String String :=
  match j with
  | .string s => .ok s
  | _ => .error "invalid type: expected a string"

/-- An optional value: `null` is none. -/
def readOption (read : Json → Except String α) (j : Json) : Except String (Option α) :=
  match j with
  | .null => .ok none
  | v => (read v).map some

/-- An array of values. -/
def readList (read : Json → Except String α) (j : Json) : Except String (List α) :=
  match j with
  | .array xs => xs.mapM read
  | _ => .error "invalid type: expected a sequence"

/-- An integer written without fraction or exponent, within `[lo, hi]`. -/
def readIntIn (lo hi : Int) (j : Json) : Except String Int :=
  match j with
  | .number (.integer i) => if lo ≤ i && i ≤ hi then .ok i else .error "invalid value: out of range"
  | _ => .error "invalid type: expected an integer"

/-- A map of text to text, keys in byte order, the last value of a repeated key kept. -/
def readTextMap (j : Json) : Except String TextMap :=
  match j with
  | .object ms =>
    ms.foldlM (fun acc (k, v) => do
      let s ← readString v
      return acc.insert k s) []
  | _ => .error "invalid type: expected a map"

end Json

end StudioRental
