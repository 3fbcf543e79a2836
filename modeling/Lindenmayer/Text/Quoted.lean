import Lindenmayer.Text.Printable
import Lindenmayer.Text.Digit

/-!
Texts shown in quotes. Single quotes, or double quotes where the text holds a single and no double
one; the quote used, backslashes and what has no glyph are written with a backslash.
-/
namespace Lindenmayer.Text

/-- How a code point is shown between quotes of the given kind. -/
def shownIn (quote : Char) (c : CodePoint) : List Char :=
  if c.val = quote.toNat then ['\\', quote]
  else if c.val = 92 then ['\\', '\\']
  else if c.val = 10 then ['\\', 'n']
  else if c.val = 13 then ['\\', 'r']
  else if c.val = 9 then ['\\', 't']
  else if isPrintable c.val then [Char.ofNat c.val]
  else if c.val < 0x100 then '\\' :: 'x' :: hexDigits 2 c.val
  else if c.val < 0x10000 then '\\' :: 'u' :: hexDigits 4 c.val
  else '\\' :: 'U' :: hexDigits 8 c.val

/-- The quote that a text is shown in. -/
def quoteFor (s : Text) : Char :=
  if s.contains (ofChar '\'') && !s.contains (ofChar '"') then '"' else '\''

/-- A text in quotes. -/
def quoted (s : Text) : String :=
  let quote := quoteFor s
  String.ofList (quote :: s.flatMap (shownIn quote) ++ [quote])

end Lindenmayer.Text
