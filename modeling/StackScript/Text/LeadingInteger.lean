import StackScript.Text.Blank

/-!
# The integer at the start of a text

A text is read as a number by the digits it starts with, after white space and one sign. What
follows the digits does not matter, a text without digits reads as zero, and a number beyond the
range of 64-bit integers reads as the end of the range on its side.
-/

namespace StackScript.Text

/-- The 64-bit integer nearest to an integer. -/
def nearestWord (n : Int) : Int64 :=
  if n < Int64.minValue.toInt then Int64.minValue
  else if Int64.maxValue.toInt < n then Int64.maxValue
  else Int64.ofInt n

/-- The sign in front of a number, and the text after it. -/
def splitSign : List Char → Bool × List Char
  | '-' :: rest => (true, rest)
  | '+' :: rest => (false, rest)
  | text => (false, text)

/-- One more digit behind a number. The number is kept within the range when it makes place for the
digit, and once more when the digit is added on its side. -/
def appendDigit (negative : Bool) (value : Int64) (digit : Char) : Int64 :=
  let unit : Int := digit.toNat - '0'.toNat
  let tens := nearestWord (value.toInt * 10)
  nearestWord (tens.toInt + if negative then -unit else unit)

/-- The integer that a text starts with. -/
def leadingInteger (text : String) : Int64 :=
  let (negative, body) := splitSign (trimLeft text.toList)
  (body.takeWhile Char.isDigit).foldl (appendDigit negative) 0

end StackScript.Text
