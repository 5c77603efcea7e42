import Playground.Text.Hex
import Playground.Text.Printable

namespace Playground.Text

/-- The quote around a displayed text: double quotes exactly for a text with single quotes and no double ones. -/
def displayQuote (t : Text) : Char :=
  if t.contains '\'' && !t.contains '"' then '"' else '\''

def displayChar (quote c : Char) : Text :=
  if c == quote || c == '\\' then ['\\', c]
  else if c == '\n' then ['\\', 'n']
  else if c == '\r' then ['\\', 'r']
  else if c == '\t' then ['\\', 't']
  else if isPrintable c then [c]
  else if c.toNat < 0x100 then '\\' :: 'x' :: hex 2 c.toNat
  else if c.toNat < 0x10000 then '\\' :: 'u' :: hex 4 c.toNat
  else '\\' :: 'U' :: hex 8 c.toNat

/-- A text in quotes, with escapes for the quote, the backslash, line ends, tabs and what cannot be shown. -/
def quoted (t : Text) : Text :=
  let quote := displayQuote t
  quote :: t.flatMap (displayChar quote) ++ [quote]

end Playground.Text
