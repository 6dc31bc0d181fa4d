import ServiceBroker.Binary64

/-!
# Shortest decimals

The decimal with the fewest digits among those that read back as a given number, and of these the
nearest one. Digits are looked for on the grids of 1, 2, … 17 digits: on each grid only the two
neighbours of the number can be the answer.
-/

namespace ServiceBroker.Binary64

/-- The decimal `digits * 10 ^ exponent`. -/
structure Decimal where
  /-- The whole number made of the digits. -/
  digits : Nat
  /-- The power of ten it is scaled by. -/
  exponent : Int
deriving DecidableEq, Repr

/-- The least `k`, counting up from `k` for at most `steps`, with `den ≤ num * 10 ^ k`. -/
def tenfoldsUp (num den : Nat) : (steps k : Nat) → Nat
  | 0, k => k
  | steps + 1, k => if den ≤ num * Nat.pow 10 k then k else tenfoldsUp num den steps (k + 1)

/-- The power of ten of the first digit of `num / den`. -/
def leadingExponent (num den : Nat) : Int :=
  if den ≤ num then ((Nat.toDigits 10 (num / den)).length : Int) - 1
  else -(tenfoldsUp num den 400 1 : Nat)

/-- The interval of reals that round to a number, in units of a quarter of its last place: the
lower end, the number itself and the upper end. Below a power of two numbers lie closer. -/
def quarters (x : Binary64) : Nat × Nat × Nat :=
  let m := 4 * x.significand
  (if x.significand = 0x10000000000000 ∧ x.exponent ≠ -1074 then m - 1 else m - 2, m, m + 2)

/-- The decimal of `count` digits that reads back as the number, if there is one; of two, the
nearer, and of two equally near the one with an even last digit. -/
def decimalOf? (x : Binary64) (count : Nat) : Option Decimal :=
  let (low, mid, high) := quarters x
  let (mid, den) := scale mid 1 (x.exponent - 2)
  let (low, _) := scale low 1 (x.exponent - 2)
  let (high, _) := scale high 1 (x.exponent - 2)
  let place := leadingExponent mid den - count + 1
  let up := Nat.pow 10 (-place).toNat
  let grid := den * Nat.pow 10 place.toNat
  let below := mid * up / grid
  let inside (n : Nat) : Bool :=
    if x.significand % 2 = 0 then low * up ≤ n * grid && n * grid ≤ high * up
    else low * up < n * grid && n * grid < high * up
  let toBelow := mid * up - below * grid
  let toAbove := (below + 1) * grid - mid * up
  match inside below, inside (below + 1) with
  | true, true =>
    if toBelow < toAbove then some ⟨below, place⟩
    else if toAbove < toBelow then some ⟨below + 1, place⟩
    else some ⟨below + below % 2, place⟩
  | true, false => some ⟨below, place⟩
  | false, true => some ⟨below + 1, place⟩
  | false, false => none

/-- The decimal with its final zeros moved into the exponent. -/
def Decimal.strip (d : Decimal) : (steps : Nat) → Decimal
  | 0 => d
  | steps + 1 => if d.digits ≠ 0 ∧ d.digits % 10 = 0 then
      Decimal.strip ⟨d.digits / 10, d.exponent + 1⟩ steps
    else d

/-- The shortest decimal that reads back as the number, whatever its sign. -/
def shortest (x : Binary64) : Decimal :=
  if x.isZero then ⟨0, 0⟩
  else
    match (List.range 17).findSome? fun n => decimalOf? x (n + 1) with
    | some d => d.strip 18
    | none => ⟨0, 0⟩

/-- Zeros. -/
def zeros (n : Nat) : List Char := List.replicate n '0'

/-- The decimal in positional notation, always with a fraction. -/
def Decimal.positional (d : Decimal) : List Char :=
  let digits := Nat.toDigits 10 d.digits
  let point := (digits.length : Int) + d.exponent
  if 0 ≤ d.exponent then digits ++ zeros d.exponent.toNat ++ ['.', '0']
  else if 0 < point then digits.take point.toNat ++ ['.'] ++ digits.drop point.toNat
  else ['0', '.'] ++ zeros (-point).toNat ++ digits

/-- The decimal with one digit before the point and a signed power of ten. -/
def Decimal.scientific (d : Decimal) : List Char :=
  let digits := Nat.toDigits 10 d.digits
  let power := (digits.length : Int) + d.exponent - 1
  let fraction := if digits.length = 1 then [] else '.' :: digits.drop 1
  let sign := if power < 0 then '-' else '+'
  digits.take 1 ++ fraction ++ ['e', sign] ++ Nat.toDigits 10 power.natAbs

/-- A number's text with its sign in front. -/
def signed (x : Binary64) (text : List Char) : String :=
  String.ofList (if x.negative then '-' :: text else text)

/-- The number as data files write it: positional from `1e-5` up to but not including `1e16`,
scientific outside. -/
def text (x : Binary64) : String :=
  let d := x.shortest
  let point := ((Nat.toDigits 10 d.digits).length : Int) + d.exponent
  signed x (if x.isZero || (-5 < point && point ≤ 16) then d.positional else d.scientific)

end ServiceBroker.Binary64
