import StudioRental.Json.Value

/-!
Reading JSON text (RFC 8259) into a `Json` tree.

* Blanks between tokens are space, tab, newline and carriage return only.
* Numbers: an optional minus, an integer part without leading zeros, an optional fraction and
  exponent, each with at least one digit.
* Strings may not hold raw control characters below U+0020; escapes are `\"`, `\\`, `\/`, `\b`,
  `\f`, `\n`, `\r`, `\t` and `\uXXXX`, where a high surrogate must be followed by an escaped low
  surrogate.
* Arrays and objects nest at most 128 deep.
* Only blanks may follow the value.
-/

namespace StudioRental

namespace Json

/-- Skip the four JSON blanks. -/
def skipWs : List Char → List Char
  | c :: cs => if c = ' ' || c = '\t' || c = '\n' || c = '\r' then skipWs cs else c :: cs
  | [] => []

/-- The value of a hexadecimal digit. -/
def hexValue? (c : Char) : Option Nat :=
  if c.isDigit then some (c.toNat - 48)
  else if 'a' ≤ c && c ≤ 'f' then some (c.toNat - 87)
  else if 'A' ≤ c && c ≤ 'F' then some (c.toNat - 55)
  else none

/-- Four hexadecimal digits. -/
def hex4 (cs : List Char) : Option (Nat × List Char) :=
  match cs with
  | a :: b :: c :: d :: rest => do
    let va ← hexValue? a
    let vb ← hexValue? b
    let vc ← hexValue? c
    let vd ← hexValue? d
    some (((va * 16 + vb) * 16 + vc) * 16 + vd, rest)
  | _ => none

/-- The characters of a string literal after its opening quote, up to the closing quote.
`acc` holds the characters read so far, last first; `fuel` bounds the steps by the input. -/
def stringChars : Nat → List Char → List Char → Option (String × List Char)
  | 0, _, _ => none
  | _ + 1, acc, '"' :: rest => some (String.ofList acc.reverse, rest)
  | fuel + 1, acc, '\\' :: e :: rest =>
    match e with
    | '"' => stringChars fuel ('"' :: acc) rest
    | '\\' => stringChars fuel ('\\' :: acc) rest
    | '/' => stringChars fuel ('/' :: acc) rest
    | 'b' => stringChars fuel (Char.ofNat 8 :: acc) rest
    | 'f' => stringChars fuel (Char.ofNat 12 :: acc) rest
    | 'n' => stringChars fuel ('\n' :: acc) rest
    | 'r' => stringChars fuel ('\r' :: acc) rest
    | 't' => stringChars fuel ('\t' :: acc) rest
    | 'u' =>
      match hex4 rest with
      | none => none
      | some (v, rest') =>
        if 0xD800 ≤ v && v < 0xDC00 then
          match rest' with
          | '\\' :: 'u' :: more =>
            match hex4 more with
            | some (w, rest'') =>
              if 0xDC00 ≤ w && w < 0xE000 then
                stringChars fuel (Char.ofNat (0x10000 + (v - 0xD800) * 0x400 + (w - 0xDC00)) :: acc)
                  rest''
              else none
            | none => none
          | _ => none
        else if 0xDC00 ≤ v && v < 0xE000 then none
        else stringChars fuel (Char.ofNat v :: acc) rest'
    | _ => none
  | fuel + 1, acc, c :: rest => if c.toNat < 0x20 then none else stringChars fuel (c :: acc) rest
  | _ + 1, _, [] => none

/-- A string literal's text after its opening quote. -/
def stringBody (cs : List Char) : Option (String × List Char) :=
  stringChars (cs.length + 1) [] cs

/-- Read a run of ASCII digits. -/
def digitRun (cs : List Char) : List Char × List Char :=
  (cs.takeWhile Char.isDigit, cs.dropWhile Char.isDigit)

/-- The value of a run of digits. -/
def digitsValue (ds : List Char) : Nat :=
  ds.foldl (fun n c => n * 10 + (c.toNat - 48)) 0

/-- Read a number literal. -/
def numberLit (cs : List Char) : Option (JsonNumber × List Char) :=
  let (negative, cs) := match cs with
    | '-' :: rest => (true, rest)
    | _ => (false, cs)
  let (intDs, rest) := digitRun cs
  if intDs.isEmpty || (intDs.length > 1 && intDs.head? = some '0') then none
  else
    let (fracDs, rest, hasFrac) := match rest with
      | '.' :: more => let (ds, r) := digitRun more; (ds, r, true)
      | _ => ([], rest, false)
    if hasFrac && fracDs.isEmpty then none
    else
      let (expPart, rest, hasExp) : Option Int × List Char × Bool := match rest with
        | e :: more =>
          if e = 'e' || e = 'E' then
            let (sign, more) := match more with
              | '+' :: m => (1, m)
              | '-' :: m => (-1, m)
              | m => (1, m)
            let (ds, r) := digitRun more
            if ds.isEmpty then (none, r, true) else (some (sign * (digitsValue ds : Int)), r, true)
          else (some 0, rest, false)
        | [] => (some 0, rest, false)
      match expPart with
      | none => none
      | some e =>
        if !hasFrac && !hasExp then
          let v : Int := digitsValue intDs
          some (.integer (if negative then -v else v), rest)
        else
          some (.decimal negative (digitsValue (intDs ++ fracDs)) (e - fracDs.length), rest)

/-- Read one value; `depth` is how many more arrays or objects may open, `fuel` bounds the
work by the input's length. -/
def value (depth : Nat) : Nat → List Char → Option (Json × List Char)
  | 0, _ => none
  | fuel + 1, cs =>
    match skipWs cs with
    | 'n' :: 'u' :: 'l' :: 'l' :: rest => some (.null, rest)
    | 't' :: 'r' :: 'u' :: 'e' :: rest => some (.bool true, rest)
    | 'f' :: 'a' :: 'l' :: 's' :: 'e' :: rest => some (.bool false, rest)
    | '"' :: rest => (stringBody rest).map fun (s, r) => (.string s, r)
    | '[' :: rest =>
      if depth = 0 then none
      else
        match skipWs rest with
        | ']' :: r => some (.array [], r)
        | _ => items (depth - 1) fuel [] rest
    | '{' :: rest =>
      if depth = 0 then none
      else
        match skipWs rest with
        | '}' :: r => some (.object [], r)
        | _ => members (depth - 1) fuel [] rest
    | c :: rest =>
      if c = '-' || c.isDigit then (numberLit (c :: rest)).map fun (n, r) => (.number n, r)
      else none
    | [] => none
where
  /-- The items of an array after `[`, collected in reverse in `acc`. -/
  items (depth : Nat) : Nat → List Json → List Char → Option (Json × List Char)
    | 0, _, _ => none
    | fuel + 1, acc, cs =>
      match value depth fuel cs with
      | none => none
      | some (v, r) =>
        match skipWs r with
        | ',' :: r' => items depth fuel (v :: acc) r'
        | ']' :: r' => some (.array (v :: acc).reverse, r')
        | _ => none
  /-- The members of an object after `{`, collected in reverse in `acc`. -/
  members (depth : Nat) : Nat → List (String × Json) → List Char → Option (Json × List Char)
    | 0, _, _ => none
    | fuel + 1, acc, cs =>
      match skipWs cs with
      | '"' :: r =>
        match stringBody r with
        | none => none
        | some (k, r) =>
          match skipWs r with
          | ':' :: r =>
            match value depth fuel r with
            | none => none
            | some (v, r) =>
              match skipWs r with
              | ',' :: r' => members depth fuel ((k, v) :: acc) r'
              | '}' :: r' => some (.object ((k, v) :: acc).reverse, r')
              | _ => none
          | _ => none
      | _ => none

/-- Read a whole JSON text: one value with only blanks after it. -/
def parse? (s : String) : Option Json :=
  let cs := s.toList
  match value 128 (2 * cs.length + 2) cs with
  | some (v, rest) => if (skipWs rest).isEmpty then some v else none
  | none => none

end Json

end StudioRental
