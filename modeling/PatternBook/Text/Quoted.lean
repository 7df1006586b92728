import PatternBook.Text.Basic
import PatternBook.Text.Visible

/-!
# Quoted text

A text between double quotes, with escapes for the quote, the backslash and everything that would
not be seen: tab, newline, carriage return and NUL have short forms, all else is written with its
code point in hexadecimal.
-/

namespace PatternBook

namespace Text

/-- The escape that names a code point. -/
def codeEscape (c : Char) : Text :=
  "\\u\x7b" ++ Nat.toDigits 16 c.toNat ++ "\x7d"

/-- A character as it stands between quotes. -/
def quoteChar (c : Char) : Text :=
  if c = '\x00' then "\\0"
  else if c = '\t' then "\\t"
  else if c = '\r' then "\\r"
  else if c = '\n' then "\\n"
  else if c = '\\' then "\\\\"
  else if c = '"' then "\\\""
  else if isVisible c then [c]
  else codeEscape c

/-- The text between quotes. -/
def quoted (t : Text) : Text :=
  "\"" ++ t.flatMap quoteChar ++ "\""

end Text

end PatternBook
