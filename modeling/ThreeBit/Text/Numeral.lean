/-! # Reading numerals

A numeral is an optional plus sign and then decimal digits, any number of leading zeros allowed. It
is read from left to right against a bound, and the first character that cannot be part of a numeral
within the bound decides the error. -/

namespace ThreeBit.Text

/-- Why a text is no numeral within a bound. -/
inductive NumeralError where
  /-- There is no text at all. -/
  | empty
  /-- A character is no digit, or there is nothing after the sign. -/
  | invalidDigit
  /-- The digits up to some place exceed the bound. -/
  | tooLarge
  deriving DecidableEq, Repr

/-- The wording of an unreadable numeral. -/
def NumeralError.message : NumeralError → String
  | empty => "cannot parse integer from empty string"
  | invalidDigit => "invalid digit found in string"
  | tooLarge => "number too large to fit in target type"

/-- The value of a decimal digit. -/
def digitValue (c : Char) : Nat := c.toNat - '0'.toNat

/-- Append digits to a number that has been read. -/
def readDigits (bound : Nat) : Nat → List Char → Except NumeralError Nat
  | value, [] => .ok value
  | value, c :: rest =>
    -- a character that is no digit is the error even where a digit would exceed the bound
    if c.isDigit then
      if 10 * value + digitValue c ≤ bound then readDigits bound (10 * value + digitValue c) rest
      else .error .tooLarge
    else .error .invalidDigit

/-- The number a text stands for, if it is a numeral within the bound. -/
def readNumeral (bound : Nat) : List Char → Except NumeralError Nat
  | [] => .error .empty
  | ['+'] => .error .invalidDigit
  | '+' :: digits => readDigits bound 0 digits
  | digits => readDigits bound 0 digits

end ThreeBit.Text
