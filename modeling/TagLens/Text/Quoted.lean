import TagLens.Text.Printable

/-!
# Quoted text in messages

A text quoted in a message stands between single quotes, or between double quotes when it
holds a single quote and no double one. The backslash, the delimiter and the three common
control characters are written with a backslash; every other character that cannot be shown
is written as its code point in two, four or eight hexadecimal digits.
-/

namespace TagLens.Text

/-- The lower-case hexadecimal digits of `n`, padded with zeros to `width`. -/
def hexPadded (width n : Nat) : Text :=
  let digits := Nat.toDigits 16 n
  List.replicate (width - digits.length) '0' ++ digits

/-- A character that cannot be shown, by its code point. -/
def codePointEscape (c : Char) : Text :=
  let n := c.toNat
  if n < 0x100 then '\\' :: 'x' :: hexPadded 2 n
  else if n < 0x10000 then '\\' :: 'u' :: hexPadded 4 n
  else '\\' :: 'U' :: hexPadded 8 n

/-- One character between the delimiters `quote`. -/
def quotedChar (quote c : Char) : Text :=
  if c == quote || c == '\\' then ['\\', c]
  else if c == '\n' then ['\\', 'n']
  else if c == '\r' then ['\\', 'r']
  else if c == '\t' then ['\\', 't']
  else if isPrintable c then [c]
  else codePointEscape c

/-- The delimiter of a quoted text. -/
def delimiter (text : Text) : Char :=
  if List.elem singleQuote text && !List.elem doubleQuote text then doubleQuote else singleQuote

/-- The text as it is quoted in a message. -/
def quoted (text : Text) : Text :=
  let quote := delimiter text
  quote :: (text.flatMap (quotedChar quote) ++ [quote])

/-- The string as it is quoted in a message. -/
def quotedString (s : String) : String := String.ofList (quoted s.toList)

end TagLens.Text
