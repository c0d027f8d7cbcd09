import BlockComments.Text.CharSet
import BlockComments.Text.Utf8

/-!
# Blanks

The blank characters of all scripts, and texts without the blanks around them.
-/
namespace BlockComments

def blankSet : CharSet where
  bounds := #[
    0x9, 0xE, 0x20, 0x21, 0x85, 0x86, 0xA0, 0xA1, 0x1680, 0x1681, 0x2000, 0x200B, 0x2028, 0x202A,
    0x202F, 0x2030, 0x205F, 0x2060, 0x3000, 0x3001]

def isBlank (c : Char) : Bool :=
  if c.toNat < 0x80 then c = ' ' || ('\t' ≤ c && c ≤ '\r') else blankSet.contains c

/-- A text without the blanks at its ends. -/
def trimBlanks (t : Text) : Text :=
  (((t.dropWhile isBlank).reverse).dropWhile isBlank).reverse

end BlockComments
