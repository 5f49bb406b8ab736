import StackScript.Text.Decimal

/-!
# Percentages

A share of a total is computed with numbers of 53 significant bits and written with one decimal.
The quotient and its hundredfold are each rounded to the nearest such number; the decimal is then
rounded from the exact value of the result. Ties go to the even neighbour throughout.
-/

namespace StackScript.Text

/-- The natural number nearest to a quotient; a tie goes to the even one. -/
def roundedQuotient (numerator denominator : Nat) : Nat :=
  let quotient := numerator / denominator
  let twice := 2 * (numerator % denominator)
  if twice < denominator then quotient
  else if denominator < twice then quotient + 1
  else quotient + quotient % 2

/-- A number given by a significand and the power of two that divides it. -/
structure Dyadic where
  /-- The whole-number significand. -/
  significand : Nat
  /-- The exponent of the power of two below it. -/
  scale : Nat
deriving DecidableEq, Repr

/-- The number of 53 significant bits nearest to a positive quotient below a thousand. -/
def Dyadic.nearest (numerator denominator : Nat) : Dyadic :=
  let scale := 53 + denominator.log2 - numerator.log2
  if Nat.pow 2 53 ≤ numerator * Nat.pow 2 scale / denominator then
    ⟨roundedQuotient (numerator * Nat.pow 2 (scale - 1)) denominator, scale - 1⟩
  else
    ⟨roundedQuotient (numerator * Nat.pow 2 scale) denominator, scale⟩

/-- The share of a total in percent. -/
def Dyadic.percentage (count total : Nat) : Dyadic :=
  let share := Dyadic.nearest count total
  Dyadic.nearest (share.significand * 100) (Nat.pow 2 share.scale)

/-- The tenths nearest to a number. -/
def Dyadic.tenths (value : Dyadic) : Nat :=
  roundedQuotient (10 * value.significand) (Nat.pow 2 value.scale)

/-- A share of a total in percent, with one decimal. -/
def percentage (count total : Nat) : String :=
  let tenths := (Dyadic.percentage count total).tenths
  decimal (tenths / 10 : Nat) ++ "." ++ decimal (tenths % 10 : Nat)

example : percentage 1 16 = "6.2" := by decide +kernel

end StackScript.Text
