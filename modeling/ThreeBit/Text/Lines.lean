/-! # Blanks, lines and pieces of a text

The characters that count as white space, and their removal at the ends of a text. Beyond that a
text is cut in two ways: into its lines, and at the first occurrence of a separator. -/

namespace ThreeBit.Text

/-- Whether a character is white space, as the Unicode property of that name has it: the six
ASCII characters, the next-line control, and the spaces and separators beyond. Zero-width characters
are not white space. -/
def isBlank (c : Char) : Bool :=
  let n := c.toNat
  (0x09 ≤ n && n ≤ 0x0D) || n == 0x20 || n == 0x85 || n == 0xA0 || n == 0x1680 ||
    (0x2000 ≤ n && n ≤ 0x200A) || n == 0x2028 || n == 0x2029 || n == 0x202F || n == 0x205F ||
    n == 0x3000

/-- A text without the blank characters at its ends. -/
def trim (text : List Char) : List Char :=
  ((text.dropWhile isBlank).reverse.dropWhile isBlank).reverse

/-- A line without the carriage return at its end. -/
def dropReturn (line : List Char) : List Char :=
  if line.getLast? = some '\r' then line.dropLast else line

/-- The lines among the pieces between line feeds. All pieces but the last were ended by a line
feed, to which a carriage return before it belongs; the last was not, and is a line only if there is
something in it. -/
def endedLines : List (List Char) → List (List Char)
  | [] => []
  | [unended] => if unended = [] then [] else [unended]
  | line :: rest => dropReturn line :: endedLines rest

/-- The lines of a text, without their ends. -/
def lines (text : List Char) : List (List Char) :=
  endedLines (text.splitOn '\n')

/-- What stands before and after the first occurrence of a separator. -/
def cutAt (separator : Char) (text : List Char) : Option (List Char × List Char) :=
  match text.dropWhile (· != separator) with
  | [] => none
  | _ :: after => some (text.takeWhile (· != separator), after)

end ThreeBit.Text
