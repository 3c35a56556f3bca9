/-
# FilterQuery.Text.Quoted -- texts and characters shown in quotes

Messages show a name that is no name, or a marker that is none, in quotes and
with everything visible: the quote itself and the backslash behind a backslash,
four control characters by their letters, and all other characters that would
not show (`isUnprintable`) by their number.
-/
import FilterQuery.Text.Unprintable

namespace FilterQuery.Text

/-- One character between quotes of the kind `quote`. -/
def shown (quote : Char) (c : Char) : String :=
  if c == '\x00' then "\\0"
  else if c == '\t' then "\\t"
  else if c == '\r' then "\\r"
  else if c == '\n' then "\\n"
  else if c == '\\' then "\\\\"
  else if c == quote then "\\" ++ quote.toString
  else if isUnprintable c then
    "\\u\x7b" ++ String.ofList (Nat.toDigits 16 c.toNat) ++ "\x7d"
  else c.toString

/-- A text in double quotes. -/
def quotedText (s : String) : String :=
  "\"" ++ String.join (s.toList.map (shown '"')) ++ "\""

/-- A character in single quotes. -/
def quotedChar (c : Char) : String :=
  "'" ++ shown '\'' c ++ "'"

end FilterQuery.Text
