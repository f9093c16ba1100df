import StudioRental.Number.Binary64
import StudioRental.Text.Quoted
import StudioRental.Number.Power

/-!
A streaming JSON reader that reports the first problem it meets, with its place in the text.

Reading goes through the text once, front to back, and what it expects at each point is decided
by the caller: a record wants an object, a text wants a string, and so on. A problem is either
one of syntax, or one of data (well-formed JSON of the wrong kind or value); whichever comes
first in the text is the one reported, so a record whose second field has the wrong type is a
data problem even if the text breaks later on.

Places are a line (from one) and a column: the bytes read on that line so far. A syntax problem
found on looking at the next character is placed just after that character's first byte; one
found on reading a character is placed after it. A data problem found inside a value is placed
where reading stands; one raised by a record, list or map about its contents (a missing field,
an unreadable identifier) is placed where the container's reading ended.

* Blanks between tokens are space, tab, newline and carriage return.
* Numbers: an integer part without leading zeros, then an optional fraction and exponent. An
  integer without either is kept exactly when it fits 64 bits (negative ones down to `-2^63`);
  every other number becomes a double, from its first digits that fit 64 bits and a decimal
  exponent, and is out of range when that double would be infinite.
* Strings take the escapes `\" \\ \/ \b \f \n \r \t \uXXXX`; a `\u` high surrogate must be
  followed by a `\u` low surrogate, and raw characters below U+0020 are refused.
* Arrays and objects read as records, lists or maps nest at most 127 deep.
-/

namespace StudioRental

open scoped CorePow

namespace JsonReader

/-- What went wrong. -/
inductive Problem where
  | eofInList
  | eofInObject
  | eofInString
  | eofInValue
  | expectedColon
  | expectedListCommaOrEnd
  | expectedObjectCommaOrEnd
  | expectedIdent
  | expectedValue
  | invalidEscape
  | invalidNumber
  | numberOutOfRange
  | controlCharacter
  | keyMustBeString
  | loneLeadingSurrogate
  | trailingComma
  | trailingCharacters
  | unexpectedEndOfHexEscape
  | recursionLimit
  /-- Well-formed JSON that is not what was wanted. -/
  | data (text : String)
  deriving DecidableEq, Repr

namespace Problem

/-- The text of a problem. -/
def text : Problem → String
  | eofInList => "EOF while parsing a list"
  | eofInObject => "EOF while parsing an object"
  | eofInString => "EOF while parsing a string"
  | eofInValue => "EOF while parsing a value"
  | expectedColon => "expected `:`"
  | expectedListCommaOrEnd => "expected `,` or `]`"
  | expectedObjectCommaOrEnd => "expected `,` or `\x7d`"
  | expectedIdent => "expected ident"
  | expectedValue => "expected value"
  | invalidEscape => "invalid escape"
  | invalidNumber => "invalid number"
  | numberOutOfRange => "number out of range"
  | controlCharacter => "control character (\\u0000-\\u001F) found while parsing a string"
  | keyMustBeString => "key must be a string"
  | loneLeadingSurrogate => "lone leading surrogate in hex escape"
  | trailingComma => "trailing comma"
  | trailingCharacters => "trailing characters"
  | unexpectedEndOfHexEscape => "unexpected end of hex escape"
  | recursionLimit => "recursion limit exceeded"
  | data t => t

/-- Whether the problem is one of data rather than syntax. -/
def isData : Problem → Bool
  | data _ => true
  | _ => false

end Problem

/-- A problem and, once known, its line and column. -/
structure ReadError where
  problem : Problem
  position : Option (Nat × Nat)
  deriving Repr

namespace ReadError

/-- The text of the error, with its place when it has one. -/
def message (e : ReadError) : String :=
  match e.position with
  | some (line, column) =>
    e.problem.text ++ " at line " ++ toString line ++ " column " ++ toString column
  | none => e.problem.text

/-- Whether the error is one of data. -/
def isData (e : ReadError) : Bool := e.problem.isData

end ReadError

/-- Where reading stands: the characters left, and the line and byte column reached. -/
structure Cursor where
  rest : List Char
  line : Nat
  column : Nat

namespace Cursor

/-- The start of a text. -/
def start (s : String) : Cursor := ⟨s.toList, 1, 0⟩

/-- Step over one character. -/
def advance (c : Cursor) : Cursor :=
  match c.rest with
  | [] => c
  | ch :: rest => if ch = '\n' then ⟨rest, c.line + 1, 0⟩ else ⟨rest, c.line, c.column + ch.utf8Size⟩

/-- The place reached. -/
def position (c : Cursor) : Nat × Nat := (c.line, c.column)

/-- The place just after the first byte of the next character. -/
def peekPosition (c : Cursor) : Nat × Nat :=
  match c.rest with
  | [] => (c.line, c.column)
  | ch :: _ => if ch = '\n' then (c.line + 1, 0) else (c.line, c.column + 1)

/-- Step over `n` bytes of `rest` from a line and column; a character cut in two counts its
bytes up to the cut. -/
def advanceBytesFrom : List Char → Nat → Nat → Nat → Cursor
  | [], line, column, _ => ⟨[], line, column⟩
  | ch :: rest, line, column, n =>
    if n = 0 then ⟨ch :: rest, line, column⟩
    else if ch = '\n' then advanceBytesFrom rest (line + 1) 0 (n - 1)
    else if ch.utf8Size ≤ n then advanceBytesFrom rest line (column + ch.utf8Size) (n - ch.utf8Size)
    else ⟨rest, line, column + n⟩

/-- Step over `n` bytes. -/
def advanceBytes (c : Cursor) (n : Nat) : Cursor := advanceBytesFrom c.rest c.line c.column n

/-- Step to the end of the text. -/
def toEnd (c : Cursor) : Cursor :=
  c.rest.foldl (fun c _ => c.advance) c

/-- Skip blanks in `rest` from a line and column. -/
def skipBlanksFrom : List Char → Nat → Nat → Cursor
  | ch :: rest, line, column =>
    if ch = ' ' || ch = '\t' || ch = '\r' then skipBlanksFrom rest line (column + 1)
    else if ch = '\n' then skipBlanksFrom rest (line + 1) 0
    else ⟨ch :: rest, line, column⟩
  | [], line, column => ⟨[], line, column⟩

/-- Skip blanks. -/
def skipBlanks (c : Cursor) : Cursor := skipBlanksFrom c.rest c.line c.column

end Cursor

/-- A reader: from a cursor, a result and the cursor after it, or an error and the cursor where
reading stopped. -/
def Reader (α : Type) : Type := Cursor → Except (ReadError × Cursor) (α × Cursor)

instance : Monad Reader where
  pure a := fun c => .ok (a, c)
  bind r f := fun c =>
    match r c with
    | .ok (a, c') => f a c'
    | .error e => .error e

namespace Reader

/-- The next character, left in place. -/
def peek : Reader (Option Char) := fun c => .ok (c.rest.head?, c)

/-- Step over the next character. -/
def eat : Reader Unit := fun c => .ok ((), c.advance)

/-- Read the next character. -/
def next : Reader (Option Char) := fun c => .ok (c.rest.head?, c.advance)

/-- Skip blanks and look at the next character. -/
def blanks : Reader (Option Char) := fun c =>
  let c := c.skipBlanks
  .ok (c.rest.head?, c)

/-- The characters left. -/
def remaining : Reader Nat := fun c => .ok (c.rest.length, c)

/-- Fail where reading stands. -/
def failHere (p : Problem) : Reader α := fun c => .error (⟨p, some c.position⟩, c)

/-- Fail just after the first byte of the next character. -/
def failNext (p : Problem) : Reader α := fun c => .error (⟨p, some c.peekPosition⟩, c)

/-- Fail with a data problem whose place the enclosing reader sets. -/
def failData (text : String) : Reader α := fun c => .error (⟨.data text, none⟩, c)

/-- Run a reader; a failure becomes a value, reading going on from where it stopped. -/
def attempt (r : Reader α) : Reader (Except ReadError α) := fun c =>
  match r c with
  | .ok (a, c') => .ok (.ok a, c')
  | .error (e, c') => .ok (.error e, c')

/-- Give an error without a place the place where reading stands. -/
def placed (r : Reader α) : Reader α := fun c =>
  match r c with
  | .ok v => .ok v
  | .error (e, c') =>
    .error ((if e.position.isNone then { e with position := some c'.position } else e), c')

/-- Run the inside of a container and then its closing check. The check runs even when the
inside failed, and the inside's error wins. -/
def closedBy (inside : Reader α) (close : Reader Unit) : Reader α := fun c =>
  match inside c with
  | .ok (a, c1) =>
    match close c1 with
    | .ok (_, c2) => .ok (a, c2)
    | .error e => .error e
  | .error (e, c1) =>
    match close c1 with
    | .ok (_, c2) => .error (e, c2)
    | .error (_, c2) => .error (e, c2)

/-- Run a reader from the start of a text. -/
def run (r : Reader α) (s : String) : Except ReadError α :=
  match r (Cursor.start s) with
  | .ok (a, _) => .ok a
  | .error (e, _) => .error e

/-- Read the characters of a word after its first one (`null`, `true`, `false`). -/
def word : List Char → Reader Unit
  | [] => pure ()
  | x :: xs => do
    match ← next with
    | none => failHere .eofInValue
    | some ch => if ch = x then word xs else failHere .expectedIdent

/-- The value of a hexadecimal digit. -/
def hexValue? (c : Char) : Option Nat :=
  if c.isDigit then some (c.toNat - 48)
  else if 'a' ≤ c && c ≤ 'f' then some (c.toNat - 87)
  else if 'A' ≤ c && c ≤ 'F' then some (c.toNat - 55)
  else none

/-- The four hexadecimal digits of a `\u` escape: four bytes are taken whatever they are. -/
def hexEscape : Reader Nat := fun c =>
  let bytes := c.rest.foldl (fun n ch => n + ch.utf8Size) 0
  if bytes < 4 then .error (⟨.eofInString, some c.toEnd.position⟩, c.toEnd)
  else
    let c' := c.advanceBytes 4
    match c.rest with
    | a :: b :: d :: e :: _ =>
      match hexValue? a, hexValue? b, hexValue? d, hexValue? e with
      | some va, some vb, some vd, some ve => .ok (((va * 16 + vb) * 16 + vd) * 16 + ve, c')
      | _, _, _, _ => .error (⟨.invalidEscape, some c'.position⟩, c')
    | _ => .error (⟨.invalidEscape, some c'.position⟩, c')

/-- The next character, or the end-of-string problem. -/
def nextInString : Reader Char := do
  match ← next with
  | some ch => pure ch
  | none => failHere .eofInString

/-- The next character, left in place, or the end-of-string problem. -/
def peekInString : Reader Char := do
  match ← peek with
  | some ch => pure ch
  | none => failHere .eofInString

/-- A `\u` escape after the `u`: a character outside the surrogates, or a high surrogate
followed by an escaped low one. -/
def unicodeEscape : Reader Char := do
  let n ← hexEscape
  if 0xDC00 ≤ n && n ≤ 0xDFFF then failHere .loneLeadingSurrogate
  else if n < 0xD800 || n > 0xDBFF then pure (Char.ofNat n)
  else
    if (← peekInString) != '\\' then
      eat
      failHere .unexpectedEndOfHexEscape
    eat
    if (← peekInString) != 'u' then
      eat
      failHere .unexpectedEndOfHexEscape
    eat
    let n2 ← hexEscape
    if n2 < 0xDC00 || n2 > 0xDFFF then failHere .loneLeadingSurrogate
    else pure (Char.ofNat (0x10000 + (n - 0xD800) * 0x400 + (n2 - 0xDC00)))

/-- An escape after the backslash. -/
def escape : Reader Char := do
  match ← nextInString with
  | '"' => pure '"'
  | '\\' => pure '\\'
  | '/' => pure '/'
  | 'b' => pure (Char.ofNat 8)
  | 'f' => pure (Char.ofNat 12)
  | 'n' => pure '\n'
  | 'r' => pure '\r'
  | 't' => pure '\t'
  | 'u' => unicodeEscape
  | _ => failHere .invalidEscape

/-- The characters of a string after its opening quote, through the closing quote; `acc`
holds those read, last first. -/
def stringChars : Nat → List Char → Reader String
  | 0, _ => failHere .eofInString
  | fuel + 1, acc => do
    match ← peek with
    | none => failHere .eofInString
    | some '"' => do eat; pure (String.ofList acc.reverse)
    | some '\\' => do
      eat
      let ch ← escape
      stringChars fuel (ch :: acc)
    | some ch =>
      eat
      if ch.toNat < 0x20 then failHere .controlCharacter else stringChars fuel (ch :: acc)

/-- A string after its opening quote. -/
def string : Reader String := do
  stringChars ((← remaining) + 1) []

/-- Step over a string after its opening quote, checking only its escapes; a raw control
character is reported before it is read. -/
def skipStringChars : Nat → Reader Unit
  | 0 => failHere .eofInString
  | fuel + 1 => do
    match ← peek with
    | none => failHere .eofInString
    | some '"' => eat
    | some '\\' => do
      eat
      match ← nextInString with
      | '"' | '\\' | '/' | 'b' | 'f' | 'n' | 'r' | 't' => skipStringChars fuel
      | 'u' => do let _ ← hexEscape; skipStringChars fuel
      | _ => failHere .invalidEscape
    | some ch => if ch.toNat < 0x20 then failHere .controlCharacter else do eat; skipStringChars fuel

/-- Step over a string after its opening quote. -/
def skipString : Reader Unit := do
  skipStringChars ((← remaining) + 1)

end Reader

/-- A number as read: an unsigned or a negative 64-bit integer, or a double. -/
inductive Number where
  | unsigned (n : Nat)
  | negative (n : Int)
  | float (x : Binary64)
  deriving Repr

namespace Number

/-- The number in JSON notation. -/
def text : Number → String
  | unsigned n => toString n
  | negative n => toString n
  | float x => x.jsonText

/-- A double written with a decimal point. -/
def floatText (x : Binary64) : String :=
  let t := x.displayText
  if t.toList.contains '.' then t else t ++ ".0"

/-- How a problem text names the number. -/
def describe : Number → String
  | unsigned n => "integer `" ++ toString n ++ "`"
  | negative n => "integer `" ++ toString n ++ "`"
  | float x => "floating point `" ++ floatText x ++ "`"

end Number

namespace Reader

open Number

/-- The largest 64-bit unsigned integer. -/
def u64Max : Nat := 2 ^ (64 : Nat) - 1

/-- The largest 32-bit signed integer. -/
def i32Max : Int := 2 ^ (31 : Nat) - 1

/-- Keep an exponent within 32-bit signed integers. -/
def saturate32 (e : Int) : Int := max (-(2 ^ (31 : Nat))) (min i32Max e)

/-- The value of an ASCII digit. -/
def digitOf (c : Char) : Nat := c.toNat - 48

/-- The double of a significand and decimal exponent, with its sign. -/
def fromParts (positive : Bool) (significand : Nat) (exponent : Int) : Reader Binary64 :=
  match Binary64.ofDecimalParts significand exponent with
  | some x => pure (if positive then x else x.negate)
  | none => failHere .numberOutOfRange

/-- Step over digits. -/
def skipDigits : Nat → Reader Unit
  | 0 => pure ()
  | fuel + 1 => do
    match ← peek with
    | some d => if d.isDigit then do eat; skipDigits fuel else pure ()
    | none => pure ()

/-- The digits of an exponent after its first digit; past 32 bits the rest is skipped and the
value is zero, or out of range when it would be infinite. -/
def exponentDigits (positive : Bool) (significand : Nat) (startExp : Int) (positiveExp : Bool) :
    Nat → Int → Reader Binary64
  | 0, _ => failHere .invalidNumber
  | fuel + 1, exp => do
    match ← peek with
    | some d =>
      if d.isDigit then do
        eat
        let exp' := exp * 10 + digitOf d
        if exp' > i32Max then
          if significand != 0 && positiveExp then failHere .numberOutOfRange
          else do
            skipDigits (fuel + 1)
            pure (if positive then ⟨false, 0, Binary64.minExponent⟩ else ⟨true, 0, Binary64.minExponent⟩)
        else exponentDigits positive significand startExp positiveExp fuel exp'
      else finish exp
    | none => finish exp
where
  /-- Combine the exponent with the one from the digits. -/
  finish (exp : Int) : Reader Binary64 :=
    fromParts positive significand (saturate32 (if positiveExp then startExp + exp else startExp - exp))

/-- An exponent, at the `e`. -/
def exponentPart (positive : Bool) (significand : Nat) (startExp : Int) : Reader Binary64 := do
  eat
  let positiveExp ← match ← peek with
    | some '+' => do eat; pure true
    | some '-' => do eat; pure false
    | _ => pure true
  match ← next with
  | none => failHere .eofInValue
  | some d =>
    if d.isDigit then exponentDigits positive significand startExp positiveExp ((← remaining) + 1) (digitOf d)
    else failHere .invalidNumber

/-- Digits that no longer fit are skipped; then an exponent may follow. -/
def overflowDigits (positive : Bool) (significand : Nat) (exponent : Int) : Reader Binary64 := do
  skipDigits ((← remaining) + 1)
  match ← peek with
  | some 'e' | some 'E' => exponentPart positive significand exponent
  | _ => fromParts positive significand exponent

/-- Fraction digits after the point; `places` counts those taken into the significand. -/
def fractionDigits (positive : Bool) (startExp : Int) : Nat → Nat → Nat → Reader Binary64
  | 0, _, _ => failHere .invalidNumber
  | fuel + 1, significand, places => do
    match ← peek with
    | some d =>
      if d.isDigit then
        let s := significand * 10 + digitOf d
        if s > u64Max then overflowDigits positive significand (startExp - places)
        else do eat; fractionDigits positive startExp fuel s (places + 1)
      else afterFraction significand places
    | none => afterFraction significand places
where
  /-- At least one fraction digit is needed; then an exponent may follow. -/
  afterFraction (significand places : Nat) : Reader Binary64 := do
    if places = 0 then
      match ← peek with
      | some _ => failNext .invalidNumber
      | none => failNext .eofInValue
    else
      match ← peek with
      | some 'e' | some 'E' => exponentPart positive significand (startExp - places)
      | _ => fromParts positive significand (startExp - places)

/-- A fraction, at the point. -/
def fractionPart (positive : Bool) (significand : Nat) (startExp : Int) : Reader Binary64 := do
  eat
  fractionDigits positive startExp ((← remaining) + 1) significand 0

/-- Integer digits that no longer fit: each one raises the exponent. -/
def longDigits (positive : Bool) (significand : Nat) : Nat → Nat → Reader Binary64
  | 0, _ => failHere .invalidNumber
  | fuel + 1, exponent => do
    match ← peek with
    | some '.' => fractionPart positive significand exponent
    | some 'e' | some 'E' => exponentPart positive significand exponent
    | some d =>
      if d.isDigit then do eat; longDigits positive significand fuel (exponent + 1)
      else fromParts positive significand exponent
    | none => fromParts positive significand exponent

/-- After the integer digits: a fraction, an exponent, or an integer. -/
def afterInteger (positive : Bool) (significand : Nat) : Reader Number := do
  match ← peek with
  | some '.' => float <$> fractionPart positive significand 0
  | some 'e' | some 'E' => float <$> exponentPart positive significand 0
  | _ =>
    if positive then pure (unsigned significand)
    else if 1 ≤ significand && significand ≤ 2 ^ (63 : Nat) then pure (negative (-(significand : Int)))
    else
      match Binary64.ofNat significand with
      | some x => pure (float x.negate)
      | none => failHere .numberOutOfRange

/-- Integer digits after the first one. -/
def integerDigits (positive : Bool) : Nat → Nat → Reader Number
  | 0, _ => failHere .invalidNumber
  | fuel + 1, significand => do
    match ← peek with
    | some d =>
      if d.isDigit then
        let s := significand * 10 + digitOf d
        if s > u64Max then float <$> longDigits positive significand ((← remaining) + 1) 0
        else do eat; integerDigits positive fuel s
      else afterInteger positive significand
    | none => afterInteger positive significand

/-- A number, after its minus sign if it has one. -/
def number (positive : Bool) : Reader Number := do
  match ← next with
  | none => failHere .eofInValue
  | some '0' =>
    match ← peek with
    | some d => if d.isDigit then failNext .invalidNumber else afterInteger positive 0
    | none => afterInteger positive 0
  | some d =>
    if '1' ≤ d && d ≤ '9' then integerDigits positive ((← remaining) + 1) (digitOf d)
    else failHere .invalidNumber

/-- The next character, or none at the end. -/
def nextOrNone : Reader (Option Char) := next

/-- Step over an exponent, at the `e`. -/
def skipExponent : Reader Unit := do
  eat
  match ← peek with
  | some '+' | some '-' => eat
  | _ => pure ()
  match ← next with
  | some d => if d.isDigit then skipDigits ((← remaining) + 1) else failHere .invalidNumber
  | none => failHere .invalidNumber

/-- Step over a number without reading its value, after its minus sign if it has one. -/
def skipNumber : Reader Unit := do
  match ← next with
  | some '0' =>
    match ← peek with
    | some d => if d.isDigit then failNext .invalidNumber else afterDigits
    | none => pure ()
  | some d =>
    if '1' ≤ d && d ≤ '9' then do skipDigits ((← remaining) + 1); afterDigits
    else failHere .invalidNumber
  | none => failHere .invalidNumber
where
  /-- An optional fraction and exponent. -/
  afterDigits : Reader Unit := do
    match ← peek with
    | some '.' => do
      eat
      match ← peek with
      | some d =>
        if d.isDigit then do
          skipDigits ((← remaining) + 1)
          match ← peek with
          | some 'e' | some 'E' => skipExponent
          | _ => pure ()
        else failNext .invalidNumber
      | none => failNext .invalidNumber
    | some 'e' | some 'E' => skipExponent
    | _ => pure ()

/-- Before an array element: `false` at the closing bracket, `true` when an element follows
(after its comma, if it is not the first). -/
def elementFollows (first : Bool) : Reader Bool := do
  match ← blanks with
  | some ']' => pure false
  | some ',' =>
    if first then pure true
    else do
      eat
      match ← blanks with
      | some ']' => failNext .trailingComma
      | some _ => pure true
      | none => failNext .eofInValue
  | some _ => if first then pure true else failNext .expectedListCommaOrEnd
  | none => failNext .eofInList

/-- Before an object member: `false` at the closing brace, `true` at the quote of a key (after
its comma, if it is not the first). -/
def keyFollows (first : Bool) : Reader Bool := do
  match ← blanks with
  | some '}' => pure false
  | some ',' =>
    if first then failNext .keyMustBeString
    else do
      eat
      match ← blanks with
      | some '"' => pure true
      | some '}' => failNext .trailingComma
      | some _ => failNext .keyMustBeString
      | none => failNext .eofInValue
  | some ch =>
    if !first then failNext .expectedObjectCommaOrEnd
    else if ch = '"' then pure true
    else failNext .keyMustBeString
  | none => failNext .eofInObject

/-- The colon after a key. -/
def colon : Reader Unit := do
  match ← blanks with
  | some ':' => eat
  | some _ => failNext .expectedColon
  | none => failNext .eofInObject

/-- The end of an array whose elements were all taken. -/
def endList : Reader Unit := do
  match ← blanks with
  | some ']' => eat
  | some ',' => do
    eat
    match ← blanks with
    | some ']' => failNext .trailingComma
    | _ => failNext .trailingCharacters
  | some _ => failNext .expectedListCommaOrEnd
  | none => failNext .eofInList

/-- The end of an object whose members were all taken. -/
def endObject : Reader Unit := do
  match ← blanks with
  | some '}' => eat
  | some ',' => failNext .trailingComma
  | some _ => failNext .trailingCharacters
  | none => failNext .eofInObject

/-- Nothing but blanks may follow the value. -/
def endOfText : Reader Unit := do
  match ← blanks with
  | some _ => failNext .trailingCharacters
  | none => pure ()

/-- Step over one value, checking only its syntax. Containers are tracked on a stack of their
opening brackets, innermost first, with no limit on their depth. -/
def skipValue : Reader Unit := do
  skipFrom ((← remaining) + 2) []
where
  /-- Read one value inside the containers `stack`. -/
  skipFrom : Nat → List Char → Reader Unit
    | 0, _ => failHere .eofInValue
    | fuel + 1, stack => do
      let opened ← match ← blanks with
        | none => failNext .eofInValue
        | some 'n' => do eat; word ['u', 'l', 'l']; pure none
        | some 't' => do eat; word ['r', 'u', 'e']; pure none
        | some 'f' => do eat; word ['a', 'l', 's', 'e']; pure none
        | some '-' => do eat; skipNumber; pure none
        | some '"' => do eat; skipString; pure none
        | some '[' => do eat; pure (some '[')
        | some '{' => do eat; pure (some '{')
        | some d => if d.isDigit then do skipNumber; pure none else failNext .expectedValue
      match opened, stack with
      | some frame, _ => closeFrom fuel frame stack false
      | none, [] => pure ()
      | none, frame :: outer => closeFrom fuel frame outer true
  /-- After a value in container `frame` (or right after it opened, when `afterValue` is
  false): close containers, or take the separator before the next value. -/
  closeFrom : Nat → Char → List Char → Bool → Reader Unit
    | 0, _, _, _ => failHere .eofInValue
    | fuel + 1, frame, outer, afterValue => do
      let closing := if frame = '[' then ']' else '}'
      match ← blanks with
      | some ch =>
        if ch = ',' && afterValue then do
          eat
          nextMember fuel frame outer
        else if ch = closing then do
          eat
          match outer with
          | [] => pure ()
          | f :: rest => closeFrom fuel f rest true
        else if afterValue then
          failNext (if frame = '[' then .expectedListCommaOrEnd else .expectedObjectCommaOrEnd)
        else nextMember fuel frame outer
      | none => failNext (if frame = '[' then .eofInList else .eofInObject)
  /-- Before the next value of container `frame`: an object's member starts with its key. -/
  nextMember (fuel : Nat) (frame : Char) (outer : List Char) : Reader Unit := do
    if frame = '{' then
      match ← blanks with
      | some '"' => eat
      | some _ => failNext .keyMustBeString
      | none => failNext .eofInObject
      skipString
      colon
    skipFrom fuel (frame :: outer)

end Reader

end JsonReader

end StudioRental
