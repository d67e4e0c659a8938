import ParityDuel.Decimal.Binary64

/-!
# The shortest decimal of a double-precision number

A decimal reads back as a given magnitude if it lies in the interval of values that round to it, the
ends included where the coefficient is even. The shortest such decimal lies on the coarsest grid
`10 ^ k` that has a point in the interval; such a point is one of the two neighbours of the value on
that grid. Of two hits the nearer is taken; of two equally near ones, the style of writing says
which.
-/

namespace ParityDuel

/-- The decimal `digits * 10 ^ exponent`. -/
structure Decimal where
  digits : Nat
  exponent : Int
deriving DecidableEq, Repr

/-- Which of two equally near decimals is taken: the one with an even last digit, or the greater. -/
inductive Tie where
  | even
  | greater
deriving DecidableEq, Repr

namespace Magnitude

/-- The distance between two natural numbers. -/
def distance (a b : Nat) : Nat := (a - b) + (b - a)

/-- The point of the grid `10 ^ k` that reads back as a positive magnitude, if there is one. The
value and the ends of its interval are taken in quarters of its unit, and `up / down` is a quarter
of the unit divided by the grid's step. -/
def onGrid? (tie : Tie) (a : Magnitude) (k : Int) : Option Decimal :=
  let quarter := a.exponent - 2
  let up := Nat.pow 10 (-k).toNat <<< quarter.toNat
  let down := Nat.pow 10 k.toNat <<< (-quarter).toNat
  let value := 4 * a.coefficient
  let low := if a.coefficient = 1 <<< 52 ∧ leastExponent < a.exponent then value - 1 else value - 2
  let high := value + 2
  let reads (n : Nat) : Bool :=
    if a.coefficient % 2 = 0 then low * up ≤ n * down && n * down ≤ high * up
    else low * up < n * down && n * down < high * up
  let below := value * up / down
  let above := below + 1
  let gapBelow := distance (below * down) (value * up)
  let gapAbove := distance (above * down) (value * up)
  match reads below, reads above with
  | true, true =>
    if gapBelow < gapAbove ∨ gapBelow = gapAbove ∧ tie = .even ∧ below % 2 = 0 then
      some ⟨below, k⟩
    else some ⟨above, k⟩
  | true, false => some ⟨below, k⟩
  | false, true => some ⟨above, k⟩
  | false, false => none

/-- The shortest decimal that reads back as the magnitude. The coarsest grid that can have a point
is `10 ^ 309`; the finest that is needed has a step below the least unit. -/
def shortest (tie : Tie) (a : Magnitude) : Decimal :=
  if a.coefficient = 0 then ⟨0, 0⟩
  else
    ((List.range 660).findSome? fun (i : Nat) => onGrid? tie a (309 - (i : Int))).getD ⟨0, 0⟩

end Magnitude

/-- How numbers are written: which exponents of the leading digit are written out in full, what
follows a whole number, and which of two equally near decimals stands for a number. -/
structure FloatStyle where
  positional : Int → Bool
  wholeTail : String
  tie : Tie

namespace Decimal

/-- `count` zeros. -/
def zeros (count : Nat) : List Char := List.replicate count '0'

/-- A decimal written out in full. -/
def positional (tail : String) (d : Decimal) : List Char :=
  let digits := Nat.toDigits 10 d.digits
  let point := d.exponent + digits.length
  if 0 ≤ d.exponent then digits ++ zeros d.exponent.toNat ++ tail.toList
  else if 0 < point then digits.take point.toNat ++ '.' :: digits.drop point.toNat
  else '0' :: '.' :: zeros (-point).toNat ++ digits

/-- A decimal with one digit before the point and its exponent with a sign. -/
def scientific (d : Decimal) : List Char :=
  let digits := Nat.toDigits 10 d.digits
  let exponent := d.exponent + digits.length - 1
  let mantissa := match digits with
    | [] => []
    | [c] => [c]
    | c :: rest => c :: '.' :: rest
  let sign := if exponent < 0 then '-' else '+'
  mantissa ++ 'e' :: sign :: Nat.toDigits 10 exponent.natAbs

/-- A decimal in a given style. -/
def write (style : FloatStyle) (d : Decimal) : List Char :=
  let leading := d.exponent + (Nat.toDigits 10 d.digits).length - 1
  if d.digits = 0 ∨ style.positional leading then d.positional style.wholeTail else d.scientific

end Decimal

/-- A double-precision number in a given style. -/
def Binary64.write (style : FloatStyle) : Binary64 → String
  | .finite negative a =>
    String.ofList ((if negative then ['-'] else []) ++ (a.shortest style.tie).write style)
  | .infinite negative => if negative then "-inf" else "inf"
  | .nan => "NaN"

end ParityDuel
