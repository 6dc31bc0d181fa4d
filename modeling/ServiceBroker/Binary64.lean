/-!
# Binary floating-point numbers

The finite numbers of the 64-bit binary format, as sign, significand and exponent. All arithmetic is
exact on natural numbers and rounds once, to the nearest number and a half to the even one:

- `Binary64.ofScaled` rounds a fraction times a power of two; it is `none` beyond the largest
  finite number;
- `Binary64.mul` and `Binary64.div` are the rounded product and quotient.
-/

namespace ServiceBroker

/-- The significands and exponents of finite numbers: 53 bits of which the first is set, unless
the exponent is the least one. -/
def Binary64.Canonical (significand : Nat) (exponent : Int) : Prop :=
  significand < 0x20000000000000 ∧ -1074 ≤ exponent ∧ exponent ≤ 971 ∧
    (0x10000000000000 ≤ significand ∨ exponent = -1074)

instance (significand : Nat) (exponent : Int) :
    Decidable (Binary64.Canonical significand exponent) := by
  unfold Binary64.Canonical
  infer_instance

/-- A finite number of the 64-bit binary format. Its value is `significand * 2 ^ exponent`,
negated if `negative`; zero has either sign. -/
structure Binary64 where
  /-- The sign. -/
  negative : Bool
  /-- The whole number that is scaled. -/
  significand : Nat
  /-- The power of two it is scaled by. -/
  exponent : Int
  /-- Every number has one significand and exponent. -/
  canonical : Binary64.Canonical significand exponent
deriving DecidableEq

namespace Binary64

/-- Zero with a sign. -/
def zero (negative : Bool) : Binary64 := ⟨negative, 0, -1074, by decide⟩

/-- Whether the number is zero, of either sign. -/
def isZero (x : Binary64) : Bool := x.significand == 0

/-- Whether two numbers have one value, as the two zeros do. -/
def same (x y : Binary64) : Bool := (x.isZero && y.isZero) || x == y

/-- The quotient rounded to the nearest whole number, a half to the even one. -/
def roundQuotient (num den : Nat) : Nat :=
  let whole := num / den
  let rest := 2 * (num % den)
  if rest < den then whole
  else if den < rest then whole + 1
  else whole + whole % 2

/-- The fraction `num / den * 2 ^ shift` as one fraction. -/
def scale (num den : Nat) (shift : Int) : Nat × Nat :=
  if 0 ≤ shift then (num <<< shift.toNat, den) else (num, den <<< (-shift).toNat)

/-- The number nearest to `num / den * 2 ^ shift`, a half to the even one; `none` if that is
beyond the largest finite number. -/
def ofScaled (negative : Bool) (num den : Nat) (shift : Int) : Option Binary64 :=
  if num = 0 then some (zero negative)
  else
    let (num, den) := scale num den shift
    let guess : Int := (num.log2 : Int) - den.log2 - 52
    let (a, b) := scale num den (-guess)
    let exponent := max (if a < b <<< 52 then guess - 1 else guess) (-1074)
    let (a, b) := scale num den (-exponent)
    let significand := roundQuotient a b
    let (significand, exponent) :=
      if significand = 0x20000000000000 then (0x10000000000000, exponent + 1)
      else (significand, exponent)
    if h : Canonical significand exponent then some ⟨negative, significand, exponent, h⟩
    else none

/-- The number nearest to a natural number. -/
def ofNat? (n : Nat) : Option Binary64 := ofScaled false n 1 0

/-- The rounded product. -/
def mul (x y : Binary64) : Option Binary64 :=
  ofScaled (x.negative != y.negative) (x.significand * y.significand) 1 (x.exponent + y.exponent)

/-- The rounded quotient; `none` also for a zero divisor. -/
def div (x y : Binary64) : Option Binary64 :=
  if y.isZero then none
  else ofScaled (x.negative != y.negative) x.significand y.significand (x.exponent - y.exponent)

/-- The number with the other sign. -/
def neg (x : Binary64) : Binary64 := { x with negative := !x.negative }

end Binary64

end ServiceBroker
