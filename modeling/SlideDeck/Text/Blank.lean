/-!
White space in two senses: the spaces and separators of Unicode, and a wider one that also takes
the control characters which separate records. Trimming a text removes it from both ends.
-/

namespace SlideDeck.Text

/-- The Unicode separators, and the controls from tab to carriage return. -/
def isSpacing (c : Char) : Bool :=
  let n := c.toNat
  (9 ≤ n && n ≤ 13) || n == 32 || n == 0xa0 || n == 0x1680 || (0x2000 ≤ n && n ≤ 0x200a) ||
    n == 0x2028 || n == 0x2029 || n == 0x202f || n == 0x205f || n == 0x3000

/-- Spacing, the ASCII separators 28 to 31 and the next-line control. -/
def isBlank (c : Char) : Bool :=
  isSpacing c || (28 ≤ c.toNat && c.toNat ≤ 31) || c.toNat == 0x85

/-- Drops from the end, as `List.dropWhile` drops from the start. -/
def dropEndWhile (p : α → Bool) (s : List α) : List α := (s.reverse.dropWhile p).reverse

def trimSpacing (s : List Char) : List Char := dropEndWhile isSpacing (s.dropWhile isSpacing)

def trim (s : List Char) : List Char := dropEndWhile isBlank (s.dropWhile isBlank)

/-- A text without the white space at its ends. -/
def trimmed (s : String) : String := String.ofList (trim s.toList)

end SlideDeck.Text
