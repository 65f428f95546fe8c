import ClusterClient.Text.Printable

/-!
# Quoted text

A text shown inside a message stands between quotes. Single quotes are preferred; double quotes are
taken where the text holds a single quote and no double one. What does not print is escaped.
-/

namespace ClusterClient

/-- The escape of a code point by its number: two, four or eight hexadecimal digits. -/
def CodePoint.numericEscape (c : CodePoint) : Text :=
  if c.val < 0x100 then "\\x" ++ Text.hexDigits 2 c.val
  else if c.val < 0x10000 then "\\u" ++ Text.hexDigits 4 c.val
  else "\\U" ++ Text.hexDigits 8 c.val

/-- A code point by its number, with at least four digits. -/
def CodePoint.numberName (c : CodePoint) : Text :=
  let width := if c.val < 0x10000 then 4 else if c.val < 0x100000 then 5 else 6
  "U+" ++ (List.range width).reverse.map fun place => CodePoint.upperHexDigit (c.val / Nat.pow 16 place % 16)

namespace Text

/-- The quote that a text is written between. -/
def quoteFor (t : Text) : CodePoint :=
  if t.contains (CodePoint.ofChar '\'') && !t.contains (CodePoint.ofChar '"') then '"' else '\''

/-- One code point between the quotes. -/
def escapeWithin (quote c : CodePoint) : Text :=
  if c = quote || c = '\\' then ['\\', c]
  else if c = '\n' then "\\n"
  else if c = '\r' then "\\r"
  else if c = '\t' then "\\t"
  else if c.isPrintable then [c]
  else c.numericEscape

/-- A text between quotes. -/
def quoted (t : Text) : Text :=
  let quote := t.quoteFor
  quote :: t.flatMap (escapeWithin quote) ++ [quote]

end Text

end ClusterClient
