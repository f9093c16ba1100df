import StudioRental.Text.Printable

/-!
Quoted text for diagnostics: the text between double quotes, with `"` and `\` escaped by a
backslash, NUL, tab, carriage return and line feed written `\0`, `\t`, `\r`, `\n`, and every
other character that `Printable.isEscaped` names written as `\u{hex}` with lower-case hex digits
and no leading zeros. All other characters, ASCII or not, are written as themselves.
-/

namespace StudioRental

namespace Text

/-- Lower-case hexadecimal digits of `n`, with no leading zeros. -/
def hexText (n : Nat) : String :=
  String.ofList (Nat.toDigits 16 n)

/-- The written form of one character inside quotes. -/
def quoteChar (c : Char) : String :=
  match c with
  | '"' => "\\\""
  | '\\' => "\\\\"
  | '\n' => "\\n"
  | '\r' => "\\r"
  | '\t' => "\\t"
  | c =>
    if c.toNat = 0 then "\\0"
    else if Printable.isEscaped c then "\\u\x7b" ++ hexText c.toNat ++ "\x7d"
    else c.toString

/-- The text in double quotes with escapes. -/
def quoted (s : String) : String :=
  "\"" ++ String.join (s.toList.map quoteChar) ++ "\""

end Text

end StudioRental
