import StudioRental.Json.Value

/-!
Compact JSON text: no blanks, members in the order held, strings with `"` and `\` escaped,
the controls backspace, form feed, newline, carriage return and tab written as two-character
escapes and the other controls below U+0020 as `\u00XX` with lower-case hex digits. All other
characters are written as themselves.
-/

namespace StudioRental

/-- The text of a number literal. -/
def JsonNumber.render : JsonNumber → String
  | .integer i => toString i
  | .decimal neg digits e =>
    (if neg then "-" else "") ++ toString digits ++ (if e = 0 then "" else "e" ++ toString e)

namespace Json

/-- A lower-case hexadecimal digit. -/
def hexDigit (n : Nat) : Char :=
  if n < 10 then Char.ofNat (48 + n) else Char.ofNat (87 + n)

/-- The escaped form of one character inside a string literal. -/
def escapeChar (c : Char) : List Char :=
  match c with
  | '"' => ['\\', '"']
  | '\\' => ['\\', '\\']
  | '\n' => ['\\', 'n']
  | '\r' => ['\\', 'r']
  | '\t' => ['\\', 't']
  | c =>
    if c.toNat = 8 then ['\\', 'b']
    else if c.toNat = 12 then ['\\', 'f']
    else if c.toNat < 0x20 then
      ['\\', 'u', '0', '0', hexDigit (c.toNat / 16), hexDigit (c.toNat % 16)]
    else [c]

/-- A string literal with quotes. -/
def quote (s : String) : String :=
  String.ofList ('"' :: (s.toList.flatMap escapeChar ++ ['"']))

/-- Compact text of a value. -/
def render : Json → String
  | .null => "null"
  | .bool true => "true"
  | .bool false => "false"
  | .number n => n.render
  | .string s => quote s
  | .array xs => "[" ++ renderItems xs ++ "]"
  | .object ms => "\x7b" ++ renderMembers ms ++ "\x7d"
where
  /-- Items separated by commas. -/
  renderItems : List Json → String
    | [] => ""
    | [x] => render x
    | x :: xs => render x ++ "," ++ renderItems xs
  /-- Members separated by commas. -/
  renderMembers : List (String × Json) → String
    | [] => ""
    | [(k, v)] => quote k ++ ":" ++ render v
    | (k, v) :: ms => quote k ++ ":" ++ render v ++ "," ++ renderMembers ms

end Json

end StudioRental
