import Verdict.Text.Digits
import Verdict.Text.Printable

/-!
# Quoted text

Inside lists and in log records a text is written between quotes, so that its ends and its hidden
characters can be seen. Single quotes are preferred; double quotes are used for a text that holds
a single quote and no double quote.
-/

namespace Verdict.Text

/-- The single quote. -/
def singleQuote : Char := Char.ofNat 39

/-- The double quote. -/
def doubleQuote : Char := Char.ofNat 34

/-- The quote that a text is written between. -/
def quoteFor (cs : List Char) : Char :=
  if cs.contains singleQuote && !cs.contains doubleQuote then doubleQuote else singleQuote

/-- One character of a quoted text: the quote and the backslash follow a backslash, line ends and
the tab have a letter, and a character without a picture is written by its number. -/
def quoteChar (quote c : Char) : List Char :=
  if c == quote || c == '\\' then ['\\', c]
  else if c == '\n' then ['\\', 'n']
  else if c == '\r' then ['\\', 'r']
  else if c == '\t' then ['\\', 't']
  else if isPrintable c then [c]
  else if c.toNat < 0x100 then '\\' :: 'x' :: hexadecimal 2 c.toNat
  else if c.toNat < 0x10000 then '\\' :: 'u' :: hexadecimal 4 c.toNat
  else '\\' :: 'U' :: hexadecimal 8 c.toNat

/-- The characters of the quoted text. -/
def quoteChars (cs : List Char) : List Char :=
  let quote := quoteFor cs
  quote :: (cs.flatMap (quoteChar quote) ++ [quote])

/-- The quoted text. -/
def quoted (s : String) : String := String.ofList (quoteChars s.toList)

end Verdict.Text
