/-!
Blank characters: the Unicode `White_Space` property, and trimming by it.

The property holds for the ASCII controls tab to carriage return, the space, next line (U+0085),
no-break space (U+00A0), the Ogham space mark, the spaces U+2000 to U+200A, the line and
paragraph separators, the narrow no-break space, the medium mathematical space and the
ideographic space. Zero-width characters such as U+200B are not blank.
-/

namespace StudioRental

namespace Text

/-- Whether a character has the Unicode `White_Space` property. -/
def isBlank (c : Char) : Bool :=
  let n := c.toNat
  (0x09 ≤ n && n ≤ 0x0D) || n == 0x20 || n == 0x85 || n == 0xA0 || n == 0x1680 ||
    (0x2000 ≤ n && n ≤ 0x200A) || n == 0x2028 || n == 0x2029 || n == 0x202F ||
    n == 0x205F || n == 0x3000

/-- Every character that core calls whitespace is blank. -/
theorem isBlank_of_isWhitespace (c : Char) (h : c.isWhitespace = true) : isBlank c = true := by
  simp only [Char.isWhitespace, Bool.or_eq_true, decide_eq_true_eq] at h
  simp only [isBlank, Bool.or_eq_true, Bool.and_eq_true, decide_eq_true_eq, beq_iff_eq]
  rcases h with ((h | h) | h) | h <;> subst h <;> decide

/-- Drop blank characters from the front. -/
def trimBlankStart (cs : List Char) : List Char :=
  cs.dropWhile isBlank

/-- Drop blank characters from both ends of a text. -/
def trimBlank (s : String) : String :=
  String.ofList ((trimBlankStart (trimBlankStart s.toList).reverse).reverse)

end Text

end StudioRental
