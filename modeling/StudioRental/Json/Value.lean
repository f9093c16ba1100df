/-!
JSON values as written: objects keep their members in order, repeated keys included, and
numbers keep the literal's exact value and whether it was written as an integer.

What a repeated key or a fractional number means is left to the readers of records built on
this tree: a record refuses a repeated field, a map keeps the last value.
-/

namespace StudioRental

/-- A JSON number literal: an integer, or a value `±digits × 10^exp10` written with a fraction
or an exponent. -/
inductive JsonNumber where
  | integer (value : Int)
  | decimal (negative : Bool) (digits : Nat) (exp10 : Int)
  deriving DecidableEq, Repr, Inhabited

/-- A JSON value. -/
inductive Json where
  | null
  | bool (value : Bool)
  | number (value : JsonNumber)
  | string (value : String)
  | array (items : List Json)
  | object (members : List (String × Json))
  deriving Repr, Inhabited

namespace Json

/-- The last value given for `key` in an object; `none` for a missing key or a non-object. -/
def get? (j : Json) (key : String) : Option Json :=
  match j with
  | .object ms => (ms.reverse.find? (fun m => m.1 == key)).map (·.2)
  | _ => none

/-- The text of a string value. -/
def str? : Json → Option String
  | .string s => some s
  | _ => none

/-- The items of an array value. -/
def arr? : Json → Option (List Json)
  | .array xs => some xs
  | _ => none

/-- The members of an object value. -/
def obj? : Json → Option (List (String × Json))
  | .object ms => some ms
  | _ => none

/-- The value of a boolean. -/
def bool? : Json → Option Bool
  | .bool b => some b
  | _ => none

/-- The value of a number written as an integer. -/
def int? : Json → Option Int
  | .number (.integer i) => some i
  | _ => none

/-- Whether the value is `null`. -/
def isNull : Json → Bool
  | .null => true
  | _ => false

/-- An integer number value. -/
def ofInt (i : Int) : Json := .number (.integer i)

/-- An object from members. -/
def obj (ms : List (String × Json)) : Json := .object ms

/-- A string value, or `null`. -/
def optStr : Option String → Json
  | some s => .string s
  | none => .null

end Json

end StudioRental
