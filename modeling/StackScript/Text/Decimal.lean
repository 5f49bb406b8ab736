/-!
# Decimal notation

Integers are written in decimal, with a minus sign in front when negative and without leading zeros.
A listing asks for a sign on every number or for zeros up to a fixed width.
-/

namespace StackScript.Text

/-- The decimal digits of a natural number, without leading zeros. -/
def digits (n : Nat) : List Char :=
  Nat.toDigits 10 n

/-- The decimal text of an integer. -/
def decimal (n : Int) : String :=
  if n < 0 then String.ofList ('-' :: digits n.natAbs) else String.ofList (digits n.natAbs)

/-- The decimal text of an integer, with a sign in either case. -/
def signed (n : Int) : String :=
  String.ofList ((if n < 0 then '-' else '+') :: digits n.natAbs)

/-- The decimal text of an integer, with zeros between the sign and the digits up to the width. -/
def zeroPadded (width : Nat) (n : Int) : String :=
  let sign := if n < 0 then ['-'] else []
  let body := digits n.natAbs
  String.ofList (sign ++ List.replicate (width - sign.length - body.length) '0' ++ body)

/-- Every character of a number's digits is a digit. -/
theorem isDigit_of_mem_digits {n : Nat} {c : Char} (member : c ∈ digits n) : c.isDigit = true :=
  Nat.isDigit_of_mem_toDigits (by decide) (by decide) member

/-- Digits read back as the number they were written from. -/
theorem ofDigitChars_digits (n : Nat) : Nat.ofDigitChars 10 (digits n) 0 = n :=
  Nat.ofDigitChars_toDigits (by decide) (by decide)

/-- Different numbers have different digits. -/
theorem digits_injective {m n : Nat} (same : digits m = digits n) : m = n := by
  rw [← ofDigitChars_digits m, ← ofDigitChars_digits n, same]

end StackScript.Text
