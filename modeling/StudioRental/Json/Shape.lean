import StudioRental.Json.Reader
import StudioRental.Json.Value
import StudioRental.Text.Map
import StudioRental.Text.Blank
import StudioRental.Ident.Ulid
import StudioRental.Time.Text
import StudioRental.Money.Decimal.Text
import StudioRental.Number.Power

/-!
Reading JSON text as a value of a known shape.

A shape says what the text must hold: a string, an identifier, an instant, a time of day, a
decimal, a 32-bit integer, a map of text to text, an optional value, a list, or a record with
named fields, some of which may be left out. Reading checks the text against the shape as it
goes, so the first problem in the text, of syntax or of data, is the one reported (see
`JsonReader`). What comes back is the value as a `Json` tree in a normal form: strings for the
string-like shapes (a decimal as text that reads back as the same decimal), objects with only the
fields given for records, and a map's keys in order, the last of a repeated key kept.

* A record may also be written as an array of its fields in order; trailing fields that may be
  left out may be missing. In an object, unknown fields are skipped, a repeated field is refused,
  and the first missing field that may not be left out is reported.
* A decimal may be written as a string or a number; a number with a fraction or an exponent is
  taken through its double's shortest text.
* An amount is a string, or a number taken as its JSON text.
-/

namespace StudioRental

open scoped CorePow

/-- What a reader expects. -/
inductive Shape where
  /-- A string. -/
  | text
  /-- A string holding a 26-character identifier. -/
  | ulid
  /-- A string holding a date and time with an offset. -/
  | instant
  /-- A string holding a time of day `hour:minute`. -/
  | clock
  /-- A string holding a decimal. -/
  | decimalText
  /-- A decimal written as a string or a number. -/
  | decimal
  /-- A string, or a number taken as its text; `name` names the pair in problem texts. -/
  | amount (name : String)
  /-- A number that fits 32 signed bits. -/
  | int32
  /-- An object of strings. -/
  | textMap
  /-- `null`, or a value of the inner shape. -/
  | option (inner : Shape)
  /-- An array of values of one shape. -/
  | list (item : Shape)
  /-- A record: its name, and its fields with their shapes and whether each may be left out. -/
  | record (name : String) (fields : List (String × Shape × Bool))

namespace JsonReader

namespace Reader

/-- What a decimal reader expects, in problem texts. -/
def decimalExpected : String := "a Decimal type representing a fixed-point number"

/-- What an instant reader expects, in problem texts. -/
def instantExpected : String := "a formatted date and time string or a unix timestamp"

/-- Refuse a value of the wrong kind, naming what was found: the value's start is read, and a
scalar is read whole. -/
def wrongType (expected : String) : Reader α := do
  let found ← match ← peek with
    | some 'n' => do eat; word ['u', 'l', 'l']; pure "null"
    | some 't' => do eat; word ['r', 'u', 'e']; pure "boolean `true`"
    | some 'f' => do eat; word ['a', 'l', 's', 'e']; pure "boolean `false`"
    | some '-' => do eat; let n ← number false; pure n.describe
    | some '"' => do eat; let s ← string; pure ("string " ++ Text.quoted s)
    | some '[' => pure "sequence"
    | some '{' => pure "map"
    | some d =>
      if d.isDigit then do let n ← number true; pure n.describe else failNext .expectedValue
    | none => failNext .expectedValue
  failHere (.data ("invalid type: " ++ found ++ ", expected " ++ expected))

/-- A string, or the wrong-type problem naming `expected`. -/
def stringValue (expected : String) : Reader String := do
  match ← blanks with
  | none => failNext .eofInValue
  | some '"' => do eat; string
  | some _ => wrongType expected

/-- An identifier; a text that is not one is a problem for the enclosing container. -/
def ulidValue : Reader Json := do
  let s ← stringValue "a string"
  match Ulid.parse? s with
  | some _ => pure (.string s)
  | none => failData (if s.utf8ByteSize != 26 then "invalid length" else "invalid character")

/-- Why a text is not a time of day `hour:minute`, in the time parser's words, or `none`. The
hour is checked as soon as it is read, the minute only at the end. -/
def clockProblem? (s : String) : Option String :=
  match Text.trimBlankStart s.toList with
  | [] => some "premature end of input"
  | cs =>
    let hs := (cs.take 2).takeWhile Char.isDigit
    if hs.isEmpty then some "input contains invalid characters"
    else
      let h := hs.foldl (fun n c => n * 10 + (c.toNat - 48)) 0
      if h > 23 then some "input is out of range"
      else
        match cs.drop hs.length with
        | [] => some "premature end of input"
        | ':' :: rest =>
          match Text.trimBlankStart rest with
          | [] => some "premature end of input"
          | ms =>
            let ds := (ms.take 2).takeWhile Char.isDigit
            if ds.isEmpty then some "input contains invalid characters"
            else if !(ms.drop ds.length).isEmpty then some "trailing input"
            else if ds.foldl (fun n c => n * 10 + (c.toNat - 48)) 0 > 59 then
              some "input is out of range"
            else none
        | _ :: _ => some "input contains invalid characters"

/-- A time of day; a text that is not one is a problem for the enclosing container. -/
def clockValue : Reader Json := do
  let s ← stringValue "a string"
  match clockProblem? s with
  | none => pure (.string s)
  | some p => failData p

/-- An instant written as text. -/
def instantValue : Reader Json := placed do
  let s ← stringValue instantExpected
  match TimeText.parseInstant? s with
  | some _ => pure (.string s)
  | none => failData "input contains invalid characters"

/-- A decimal written as text. -/
def decimalTextValue : Reader Json := placed do
  let s ← stringValue decimalExpected
  match Decimal.parse? s with
  | some _ => pure (.string s)
  | none => failData ("invalid value: string " ++ Text.quoted s ++ ", expected " ++ decimalExpected)

/-- A decimal from a number: integers exactly, doubles through their shortest text. -/
def decimalOfNumber (n : Number) : Reader Json :=
  match n with
  | .unsigned v => pure (.string (toString v))
  | .negative v => pure (.string (toString v))
  | .float x =>
    match Decimal.parsePlain? x.displayText with
    | some _ => pure (.string x.displayText)
    | none => failData ("invalid value: " ++ n.describe ++ ", expected " ++ decimalExpected)

/-- Check the depth left before opening a container. -/
def enter (depth : Nat) : Reader Unit :=
  if depth ≤ 1 then failNext .recursionLimit else eat

/-- A decimal written as a string or a number; any other value is refused, an array or object
after its closing check. -/
def decimalValue (depth : Nat) : Reader Json := placed do
  let refuse (found : String) : Reader Json :=
    failData ("invalid type: " ++ found ++ ", expected " ++ decimalExpected)
  match ← blanks with
  | none => failNext .eofInValue
  | some 'n' => do eat; word ['u', 'l', 'l']; refuse "null"
  | some 't' => do eat; word ['r', 'u', 'e']; refuse "boolean `true`"
  | some 'f' => do eat; word ['a', 'l', 's', 'e']; refuse "boolean `false`"
  | some '-' => do eat; decimalOfNumber (← number false)
  | some '"' => do
    eat
    let s ← string
    match Decimal.parse? s with
    | some _ => pure (.string s)
    | none => failData ("invalid value: string " ++ Text.quoted s ++ ", expected " ++ decimalExpected)
  | some '[' => do enter depth; closedBy (refuse "sequence") endList
  | some '{' => do enter depth; closedBy (refuse "map") endObject
  | some d => if d.isDigit then decimalOfNumber (← number true) else failNext .expectedValue

/-- What an untagged value turned out to be: a string, a number, or something else. -/
inductive Found where
  | text (s : String)
  | number (n : Number)
  | other

mutual

/-- Any value, read whole; arrays and objects count against the depth. -/
def anyValue (depth : Nat) : Nat → Reader Found
  | 0 => failHere .eofInValue
  | fuel + 1 => placed do
    match ← blanks with
    | none => failNext .eofInValue
    | some 'n' => do eat; word ['u', 'l', 'l']; pure .other
    | some 't' => do eat; word ['r', 'u', 'e']; pure .other
    | some 'f' => do eat; word ['a', 'l', 's', 'e']; pure .other
    | some '-' => do eat; Found.number <$> number false
    | some '"' => do eat; Found.text <$> string
    | some '[' => do
      enter depth
      closedBy (anyItems (depth - 1) fuel true) endList
      pure .other
    | some '{' => do
      enter depth
      closedBy (anyMembers (depth - 1) fuel true) endObject
      pure .other
    | some d => if d.isDigit then Found.number <$> number true else failNext .expectedValue

/-- The elements of an array read whole. -/
def anyItems (depth : Nat) : Nat → Bool → Reader Unit
  | 0, _ => failHere .eofInValue
  | fuel + 1, first => do
    if ← elementFollows first then
      let _ ← anyValue depth fuel
      anyItems depth fuel false
    else pure ()

/-- The members of an object read whole. -/
def anyMembers (depth : Nat) : Nat → Bool → Reader Unit
  | 0, _ => failHere .eofInValue
  | fuel + 1, first => do
    if ← keyFollows first then
      eat
      let _ ← string
      colon
      let _ ← anyValue depth fuel
      anyMembers depth fuel false
    else pure ()

end

/-- An amount: a string, or a number as its JSON text. -/
def amountValue (depth fuel : Nat) (name : String) : Reader Json := do
  match ← anyValue depth fuel with
  | .text s => pure (.string s)
  | .number n => pure (.string n.text)
  | .other => failData ("data did not match any variant of untagged enum " ++ name)

/-- A 32-bit integer. -/
def int32Value : Reader Json := placed do
  let check (n : Number) : Reader Json :=
    match n with
    | .unsigned v =>
      if (v : Int) ≤ i32Max then pure (Json.ofInt v)
      else failData ("invalid value: " ++ n.describe ++ ", expected i32")
    | .negative v =>
      if v ≥ -(2 ^ (31 : Nat)) then pure (Json.ofInt v)
      else failData ("invalid value: " ++ n.describe ++ ", expected i32")
    | .float _ => failData ("invalid type: " ++ n.describe ++ ", expected i32")
  match ← blanks with
  | none => failNext .eofInValue
  | some '-' => do eat; check (← number false)
  | some d => if d.isDigit then check (← number true) else wrongType "i32"

/-- The members of a map of text to text. -/
def textMembers : Nat → Bool → TextMap → Reader TextMap
  | 0, _, _ => failHere .eofInValue
  | fuel + 1, first, acc => do
    if ← keyFollows first then
      eat
      let key ← string
      colon
      let v ← stringValue "a string"
      textMembers fuel false (acc.insert key v)
    else pure acc

/-- A map of text to text. -/
def textMapValue (depth : Nat) : Reader Json := placed do
  match ← blanks with
  | none => failNext .eofInValue
  | some '{' => do
    enter depth
    let m ← closedBy (do textMembers ((← remaining) + 1) true []) endObject
    pure (.object (m.map fun (k, v) => (k, .string v)))
  | some _ => wrongType "a map"

/-- The first field, in declaration order, that must be given but is not. -/
def missingField (fields : List (String × Shape × Bool)) (given : List (String × Json)) :
    Option String :=
  (fields.find? fun (name, _, optional) => !optional && !(given.any (·.1 == name))).map (·.1)

mutual

/-- A value of a shape. -/
def value (depth : Nat) : Nat → Shape → Reader Json
  | 0, _ => failHere .eofInValue
  | fuel + 1, shape =>
    match shape with
    | .text => Json.string <$> stringValue "a string"
    | .ulid => ulidValue
    | .instant => instantValue
    | .clock => clockValue
    | .decimalText => decimalTextValue
    | .decimal => decimalValue depth
    | .amount name => amountValue depth fuel name
    | .int32 => int32Value
    | .textMap => textMapValue depth
    | .option inner => do
      match ← blanks with
      | some 'n' => do eat; word ['u', 'l', 'l']; pure .null
      | _ => value depth fuel inner
    | .list item => listValue depth fuel item
    | .record name fields => recordValue depth fuel name fields

/-- An array of values of one shape. -/
def listValue (depth : Nat) : Nat → Shape → Reader Json
  | 0, _ => failHere .eofInValue
  | fuel + 1, item => placed do
    match ← blanks with
    | none => failNext .eofInValue
    | some '[' => do
      enter depth
      Json.array <$> closedBy (listItems (depth - 1) fuel item true []) endList
    | some _ => wrongType "a sequence"

/-- The elements of an array, collected last first in `acc`. -/
def listItems (depth : Nat) : Nat → Shape → Bool → List Json → Reader (List Json)
  | 0, _, _, _ => failHere .eofInValue
  | fuel + 1, item, first, acc => do
    if ← elementFollows first then
      let v ← value depth fuel item
      listItems depth fuel item false (v :: acc)
    else pure acc.reverse

/-- A record, as an object or as an array of its fields. -/
def recordValue (depth : Nat) : Nat → String → List (String × Shape × Bool) → Reader Json
  | 0, _, _ => failHere .eofInValue
  | fuel + 1, name, fields => placed do
    match ← blanks with
    | none => failNext .eofInValue
    | some '[' => do
      enter depth
      let given ← closedBy
        (positional (depth - 1) fuel name fields.length fields 0 true []) endList
      pure (.object given)
    | some '{' => do
      enter depth
      let given ← closedBy (named (depth - 1) fuel fields true []) endObject
      pure (.object given)
    | some _ => wrongType ("struct " ++ name)

/-- A record's fields from an array, in order; `index` counts the fields taken. -/
def positional (depth : Nat) : Nat → String → Nat → List (String × Shape × Bool) → Nat → Bool →
    List (String × Json) → Reader (List (String × Json))
  | 0, _, _, _, _, _, _ => failHere .eofInValue
  | _ + 1, _, _, [], _, _, acc => pure acc.reverse
  | fuel + 1, name, count, (field, shape, optional) :: rest, index, first, acc => do
    if ← elementFollows first then
      let v ← value depth fuel shape
      positional depth fuel name count rest (index + 1) false ((field, v) :: acc)
    else if optional then positional depth fuel name count rest (index + 1) first acc
    else
      failData ("invalid length " ++ toString index ++ ", expected struct " ++ name ++ " with " ++
        toString count ++ " elements")

/-- A record's fields from an object, collected last first in `acc`. -/
def named (depth : Nat) : Nat → List (String × Shape × Bool) → Bool → List (String × Json) →
    Reader (List (String × Json))
  | 0, _, _, _ => failHere .eofInValue
  | fuel + 1, fields, first, acc => do
    if ← keyFollows first then
      eat
      let key ← string
      match fields.find? (·.1 == key) with
      | some (_, shape, _) =>
        if acc.any (·.1 == key) then failData ("duplicate field `" ++ key ++ "`")
        else do
          colon
          let v ← value depth fuel shape
          named depth fuel fields false ((key, v) :: acc)
      | none => do
        colon
        skipValue
        named depth fuel fields false acc
    else
      match missingField fields acc with
      | some f => failData ("missing field `" ++ f ++ "`")
      | none => pure acc.reverse

end

end Reader

/-- Read a text as a value of `shape`, followed by nothing but blanks. -/
def read (shape : Shape) (s : String) : Except ReadError Json :=
  Reader.run (do
    let v ← Reader.value 128 (4 * (s.length + 2)) shape
    Reader.endOfText
    pure v) s

end JsonReader

end StudioRental
