import Findings.Text.Printable

/-!
Contract: text in quotes, as values inside a message show it.

Owns: the choice of the quote and the escapes.  The quote is single unless the text holds a single
quote and no double one.
-/

set_option autoImplicit false

namespace Findings.Text

def singleQuote : CodePoint := CodePoint.ofChar '\x27'

def doubleQuote : CodePoint := CodePoint.ofChar '"'

def backslash : CodePoint := CodePoint.ofChar '\\'

/-- The quote that a text is put in. -/
def quoteFor (text : Text) : CodePoint :=
  if text.contains singleQuote && !text.contains doubleQuote then doubleQuote else singleQuote

/-- One code point inside quotes.  A code point that is not printable is shown by number, in as few
of two, four or eight hexadecimal digits as hold it. -/
def quotedPoint (quote c : CodePoint) : Text :=
  if c = quote || c = backslash then [backslash, c]
  else if c.val = 0x0A then ofString "\\n"
  else if c.val = 0x0D then ofString "\\r"
  else if c.val = 0x09 then ofString "\\t"
  else if c.isPrintable then [c]
  else if c.val < 0x100 then ofString "\\x" ++ hexadecimal 2 c.val
  else if c.val < 0x10000 then ofString "\\u" ++ hexadecimal 4 c.val
  else ofString "\\U" ++ hexadecimal 8 c.val

/-- A text in quotes. -/
def quoted (text : Text) : Text :=
  quoteFor text :: text.flatMap (quotedPoint (quoteFor text)) ++ [quoteFor text]

end Findings.Text
