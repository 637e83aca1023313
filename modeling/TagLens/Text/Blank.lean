import TagLens.Text.Basic

/-!
# Blank characters

Blank space is the union of the ASCII control characters that separate (tab, line feed,
vertical tab, form feed, carriage return and the four information separators), the space,
the C1 next-line character, and the separator characters of Unicode.
-/

namespace TagLens.Text

/-- Is the character blank space? -/
def isBlank (c : Char) : Bool :=
  let n := c.toNat
  (0x09 ≤ n && n ≤ 0x0d) || (0x1c ≤ n && n ≤ 0x20) || n == 0x85 || n == 0xa0 || n == 0x1680
    || (0x2000 ≤ n && n ≤ 0x200a) || n == 0x2028 || n == 0x2029 || n == 0x202f || n == 0x205f
    || n == 0x3000

/-- Is the character blank space that may stand around a number? The four information
separators may not. -/
def isBlankAroundNumber (c : Char) : Bool :=
  isBlank c && !(0x1c ≤ c.toNat && c.toNat ≤ 0x1f)

/-- Drop the characters of a class at both ends. -/
def trimBy (p : Char → Bool) (text : Text) : Text :=
  ((text.dropWhile p).reverse.dropWhile p).reverse

/-- Drop the blank characters at both ends. -/
def trim (text : Text) : Text := trimBy isBlank text

end TagLens.Text
