/-!
# Double-precision numbers

A finite number of double precision is a sign and a magnitude `coefficient * 2 ^ exponent`, where
the coefficient has at most 53 bits and the exponent is at least -1074. Everything here is
arithmetic on natural numbers: a ratio of two of them is rounded to the nearest magnitude, a tie to
the even coefficient, and products and quotients are the rounded exact results.
-/

namespace ParityDuel

/-- The quotient of two natural numbers rounded to the nearest whole number, a tie to the even
one. -/
def roundEven (num den : Nat) : Nat :=
  let whole := num / den
  let rest := 2 * (num % den)
  if rest < den then whole
  else if den < rest then whole + 1
  else if whole % 2 = 0 then whole else whole + 1

/-- The value `coefficient * 2 ^ exponent`. -/
structure Magnitude where
  coefficient : Nat
  exponent : Int
deriving DecidableEq, Repr

namespace Magnitude

/-- The least exponent. -/
def leastExponent : Int := -1074

/-- The greatest exponent. -/
def greatestExponent : Int := 971

/-- Nothing at all. -/
def zero : Magnitude := ⟨0, leastExponent⟩

/-- The exponent of the greatest power of two that is at most `num / den`, both being positive. -/
def floorLog (num den : Nat) : Int :=
  let e : Int := (Nat.log2 num : Int) - (Nat.log2 den : Int)
  let reached : Bool :=
    if 0 ≤ e then den <<< e.toNat ≤ num else den ≤ num <<< (-e).toNat
  if reached then e else e - 1

/-- The magnitude nearest to `num / den`, or nothing if that is beyond the greatest magnitude. -/
def ofRatio? (num den : Nat) : Option Magnitude :=
  if num = 0 then some zero
  else
    let q := max (floorLog num den - 52) leastExponent
    let m :=
      if 0 ≤ q then roundEven num (den <<< q.toNat) else roundEven (num <<< (-q).toNat) den
    let (m, q) := if m = 1 <<< 53 then (1 <<< 52, q + 1) else (m, q)
    if q ≤ greatestExponent then some ⟨m, q⟩ else none

/-- The magnitude nearest to `num / den * 2 ^ shift`. -/
def ofShiftedRatio? (num den : Nat) (shift : Int) : Option Magnitude :=
  if 0 ≤ shift then ofRatio? (num <<< shift.toNat) den
  else ofRatio? num (den <<< (-shift).toNat)

/-- The product, rounded. -/
def mul? (a b : Magnitude) : Option Magnitude :=
  ofShiftedRatio? (a.coefficient * b.coefficient) 1 (a.exponent + b.exponent)

/-- The quotient, rounded. -/
def div? (a b : Magnitude) : Option Magnitude :=
  ofShiftedRatio? a.coefficient b.coefficient (a.exponent - b.exponent)

/-- The magnitude nearest to `10 ^ n`. -/
def powerOfTen? (n : Nat) : Option Magnitude := ofRatio? (Nat.pow 10 n) 1

/-- The magnitude nearest to `digits * 10 ^ exponent`. Far outside the range the power of ten is
not computed: beyond 400 places the answer is known. -/
def ofDecimal? (digits : Nat) (exponent : Int) : Option Magnitude :=
  let places : Int := exponent + (Nat.toDigits 10 digits).length
  if digits = 0 ∨ places < -400 then some zero
  else if 400 < places then none
  else if 0 ≤ exponent then ofRatio? (digits * Nat.pow 10 exponent.toNat) 1
  else ofRatio? digits (Nat.pow 10 (-exponent).toNat)

/-- The nearest whole number, a half counting as more than a half. -/
def round (a : Magnitude) : Nat :=
  if 0 ≤ a.exponent then a.coefficient <<< a.exponent.toNat
  else
    let den := 1 <<< (-a.exponent).toNat
    (2 * a.coefficient + den) / (2 * den)

end Magnitude

/-- A number of double precision. -/
inductive Binary64 where
  | finite (negative : Bool) (magnitude : Magnitude)
  | infinite (negative : Bool)
  | nan
deriving DecidableEq, Repr

namespace Binary64

/-- A signed magnitude, infinite where there is no magnitude. -/
def ofMagnitude? (negative : Bool) : Option Magnitude → Binary64
  | some a => .finite negative a
  | none => .infinite negative

/-- The nearest 64-bit word, a half going away from zero; what lies outside the range of words goes
to its nearer end, and what is no number goes to zero. -/
def toWord : Binary64 → UInt64
  | .finite false a => (min a.round ((1 <<< 64) - 1)).toUInt64
  | .infinite false => ((1 <<< 64) - 1).toUInt64
  | _ => 0

end Binary64

end ParityDuel
