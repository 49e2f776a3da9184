import AcceptorHost.Text.HalfPair
import AcceptorHost.Text.Hex
import AcceptorHost.Text.Printable

/-!
# Quoted text

Messages show a text in quotes.  The quotes are single unless the text holds a
single quote and no double one.  The quote in use and the backslash get a
backslash, line feed, return and tab their letters, and every other character
that is not printable its code in hexadecimal.
-/

namespace AcceptorHost

namespace Text

/-- The quote that surrounds a text. -/
def quoteFor (cs : List Char) : Char :=
  if cs.contains '\'' && !cs.contains '"' then '"' else '\''

/-- A character inside quotes. -/
def escapeChar (quote c : Char) : List Char :=
  if c = quote ∨ c = '\\' then ['\\', c]
  else if c = '\n' then ['\\', 'n']
  else if c = '\r' then ['\\', 'r']
  else if c = '\t' then ['\\', 't']
  else if isPrintable c then [c]
  else if let some half := HalfPair.unit? c then '\\' :: 'u' :: Hex.padded 4 half
  else if c.toNat < 0x100 then '\\' :: 'x' :: Hex.padded 2 c.toNat
  else if c.toNat < 0x10000 then '\\' :: 'u' :: Hex.padded 4 c.toNat
  else '\\' :: 'U' :: Hex.padded 8 c.toNat

/-- A text in quotes. -/
def quoted (s : String) : String :=
  let cs := s.toList
  let quote := quoteFor cs
  String.ofList (quote :: cs.flatMap (escapeChar quote) ++ [quote])

end Text

end AcceptorHost
