import PatternBook.Json.Value

/-!
# Writing JSON

The indented form of a value: two spaces for each level, an item or a field to a line, and empty
arrays and objects without anything between their brackets.  In a string the quote, the backslash
and the characters below the space are escaped, and nothing else.
-/

namespace PatternBook.Json

/-- A number from 0 to 15 as a hexadecimal digit. -/
def hexDigit (n : Nat) : Char := Nat.digitChar n

/-- A character as it stands in a string. -/
def escape (c : Char) : Text :=
  if c = '"' then "\\\""
  else if c = '\\' then "\\\\"
  else if c = '\x08' then "\\b"
  else if c = '\x0C' then "\\f"
  else if c = '\n' then "\\n"
  else if c = '\r' then "\\r"
  else if c = '\t' then "\\t"
  else if c.toNat < 0x20 then "\\u00" ++ [hexDigit (c.toNat / 16), hexDigit (c.toNat % 16)]
  else [c]

/-- A string with its quotes. -/
def quote (s : Text) : Text := "\"" ++ s.flatMap escape ++ "\""

/-- The form of a number. -/
def Number.print : Number → Text
  | .integer n => if n < 0 then '-' :: Text.ofNat n.natAbs else Text.ofNat n.natAbs
  | .real negative x => if negative then '-' :: x.toText else x.toText

/-- The start of a line at a level. -/
def newline (depth : Nat) : Text := '\n' :: List.replicate (2 * depth) ' '

namespace Value

mutual

/-- The form of a value at a level. -/
def printAt (depth : Nat) : Value → Text
  | .null => "null"
  | .bool true => "true"
  | .bool false => "false"
  | .number n => n.print
  | .string s => quote s
  | .array [] => "[]"
  | .array (v :: rest) =>
    "[" ++ newline (depth + 1) ++ printAt (depth + 1) v ++ printItems (depth + 1) rest ++
      newline depth ++ "]"
  | .object [] => ['\x7b', '\x7d']
  | .object (field :: rest) =>
    ['\x7b'] ++ newline (depth + 1) ++ printField (depth + 1) field ++
      printFields (depth + 1) rest ++ newline depth ++ ['\x7d']

/-- The items after the first one. -/
def printItems (depth : Nat) : List Value → Text
  | [] => []
  | v :: rest => "," ++ newline depth ++ printAt depth v ++ printItems depth rest

/-- The fields after the first one. -/
def printFields (depth : Nat) : List (Text × Value) → Text
  | [] => []
  | field :: rest => "," ++ newline depth ++ printField depth field ++ printFields depth rest

/-- A field. -/
def printField (depth : Nat) : Text × Value → Text
  | (key, v) => quote key ++ ": " ++ printAt depth v

end

/-- The indented form of a value. -/
def print (v : Value) : Text := printAt 0 v

end Value

end PatternBook.Json
