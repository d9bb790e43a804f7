import FormatConfig.Text.Printable

/-!
# Quoting text in diagnostics

Diagnostics show a text between double quotes with its special characters escaped:
backslash escapes for tab, carriage return, line feed, the null character, quotes and
backslashes, and `\u{…}` with the hexadecimal code for every other character that is
not printable or that extends a grapheme cluster.
-/

namespace FormatConfig

namespace Quote

/-- Lower-case hexadecimal digits of a number. -/
def hexDigits (n : Nat) : String := String.ofList (Nat.toDigits 16 n)

/-- The escaped form of one character inside a quoted text. -/
def escapeChar (c : Char) : String :=
  match c with
  | '\t' => "\\t"
  | '\r' => "\\r"
  | '\n' => "\\n"
  | '\\' => "\\\\"
  | '"' => "\\\""
  | c =>
    if c.toNat = 0 then "\\0"
    else if Unicode.isGraphemeExtend c || !Unicode.isPrintable c then
      "\\u" ++ "\x7b" ++ hexDigits c.toNat ++ "\x7d"
    else c.toString

/-- A text in double quotes, escaped. -/
def quoted (s : String) : String := "\"" ++ String.join (s.toList.map escapeChar) ++ "\""

end Quote

end FormatConfig
