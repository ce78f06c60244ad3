import ThreeBit.Text.Hidden

/-! # Quoted text

A text shown inside double quotes on one line, so that a reader can tell exactly what it holds. -/

namespace ThreeBit.Text

/-- A character as it is written between quotes: quotes and backslashes after a backslash, four
controls by a letter, every other hidden character by its code point in hexadecimal. -/
def escaped (c : Char) : String :=
  match c with
  | '"' => "\\\""
  | '\\' => "\\\\"
  | '\t' => "\\t"
  | '\r' => "\\r"
  | '\n' => "\\n"
  | '\x00' => "\\0"
  | c =>
    if isHidden c then "\\u\x7b" ++ String.ofList (Nat.toDigits 16 c.toNat) ++ "\x7d"
    else String.singleton c

/-- A text in double quotes. -/
def quoted (text : String) : String :=
  "\"" ++ String.join (text.toList.map escaped) ++ "\""

end ThreeBit.Text
