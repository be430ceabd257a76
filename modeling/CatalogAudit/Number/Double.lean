import CatalogAudit.Number.Decimal

/-!
# Nearest doubles

Two decimals that lie next to the same double are the same number once they have been read. The
nearest double is found in whole numbers: scale until the mantissa has 53 bits, divide, and round a
tie to the even neighbour.
-/

namespace CatalogAudit.Number

/-- The double `mantissa × 2 ^ exponent`, its sign left aside. The mantissa has 53 bits, or fewer at
the least exponent; zero has exponent zero. -/
structure Double where
  /-- The whole number that is scaled. -/
  mantissa : Nat
  /-- The power of two by which it is scaled. -/
  exponent : Int
deriving DecidableEq, Repr

/-- The whole number nearest to a quotient; of two that are equally near, the even one. -/
def roundQuotient (numerator denominator : Nat) : Nat :=
  let quotient := numerator / denominator
  let twice := 2 * (numerator % denominator)
  if twice < denominator then quotient
  else if denominator < twice then quotient + 1
  else quotient + quotient % 2

/-- A quotient divided by a power of two. -/
def scaleDown (numerator denominator : Nat) : Int → Nat × Nat
  | .ofNat n => (numerator, denominator * Nat.pow 2 n)
  | .negSucc n => (numerator * Nat.pow 2 (n + 1), denominator)

namespace Double

/-- The number zero. -/
def zero : Double := ⟨0, 0⟩

/-- The least exponent of a double. -/
def leastExponent : Int := -1074

/-- The double nearest to a quotient of positive numbers below the overflow threshold. -/
def ofQuotient (numerator denominator : Nat) : Double :=
  let guess : Int := (numerator.log2 : Int) - denominator.log2 - 53
  let (n, d) := scaleDown numerator denominator guess
  let exponent := max leastExponent (if Nat.pow 2 53 ≤ n / d then guess + 1 else guess)
  let (n, d) := scaleDown numerator denominator exponent
  let mantissa := roundQuotient n d
  if mantissa = 0 then zero
  else if mantissa = Nat.pow 2 53 then ⟨Nat.pow 2 52, exponent + 1⟩
  else ⟨mantissa, exponent⟩

/-- The double nearest to a finite decimal. One below `10 ^ (-325)` is zero, whatever its digits. -/
def nearest (d : Decimal) : Double :=
  if d.coefficient = 0 || (d.significant : Int) + d.exponent ≤ -325 then zero
  else
    match d.exponent with
    | .ofNat n => ofQuotient (d.coefficient * Nat.pow 10 n) 1
    | .negSucc n => ofQuotient d.coefficient (Nat.pow 10 (n + 1))

end Double

example : (Decimal.ofLiteral? "1.0".toList).map Double.nearest
    = some ⟨Nat.pow 2 52, -52⟩ := by decide +kernel
example : (Decimal.ofLiteral? "0.1".toList).map Double.nearest
    = (Decimal.ofLiteral? "0.10000000000000000555".toList).map Double.nearest := by decide +kernel

end CatalogAudit.Number
