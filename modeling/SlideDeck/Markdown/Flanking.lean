import SlideDeck.Text.Punctuation

/-!
Which side of a run of emphasis marks touches text. A run opens emphasis if it is left-flanking
and closes it if it is right-flanking; inside a word only the marks that may split words do.
-/

namespace SlideDeck.Markdown

/-- White space next to a run of marks: ASCII blanks and the Unicode space separators. -/
def isSpaceMark (c : Char) : Bool :=
  let n := c.toNat
  (9 ≤ n && n ≤ 13) || n == 32 || n == 0xa0 || n == 0x1680 || (0x2000 ≤ n && n ≤ 0x200a) ||
    n == 0x202f || n == 0x205f || n == 0x3000

structure Flanking where
  opens : Bool
  closes : Bool
deriving DecidableEq, Repr

/-- The flanking of a run of marks that stands between two characters. -/
def flanking (splitsWords : Bool) (before after : Char) : Flanking :=
  let markBefore := Text.isPunctuation before
  let markAfter := Text.isPunctuation after
  let spaceBefore := isSpaceMark before
  let spaceAfter := isSpaceMark after
  let left := !(spaceAfter || (markAfter && !(spaceBefore || markBefore)))
  let right := !(spaceBefore || (markBefore && !(spaceAfter || markAfter)))
  { opens := left && (splitsWords || !right || markBefore)
    closes := right && (splitsWords || !left || markAfter) }

end SlideDeck.Markdown
