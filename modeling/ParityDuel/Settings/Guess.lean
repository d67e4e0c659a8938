import ParityDuel.Decimal.Shortest
import ParityDuel.Text.Quoted

/-!
# Values of variables

A variable holds text, but its value is guessed: a truth value, a 64-bit number with a sign, a
double-precision number, or else the text. What a setting wants is then read from the guess, so
`007` as an address is `7`. Only ASCII letters and digits take part in the guess.
-/

namespace ParityDuel.Settings

/-- The guessed value of a variable. -/
inductive Guess where
  | boolean (b : Bool)
  | integer (n : Int64)
  | float (x : Binary64)
  | text (s : String)
deriving DecidableEq, Repr

/-- Whether the character is an ASCII digit. -/
def isDigit (c : Char) : Bool := '0' ≤ c && c ≤ '9'

/-- The number that digits stand for. -/
def digitsValue (cs : List Char) : Nat :=
  cs.foldl (fun n c => n * 10 + (c.toNat - '0'.toNat)) 0

/-- A whole number, of digits alone. -/
def natural? (cs : List Char) : Option Nat :=
  if cs ≠ [] ∧ cs.all isDigit then some (digitsValue cs) else none

/-- A sign that may stand in front: whether it is a minus, and the rest. -/
def splitSign : List Char → Bool × List Char
  | '-' :: cs => (true, cs)
  | '+' :: cs => (false, cs)
  | cs => (false, cs)

/-- A whole number that may have a plus in front. -/
def unsigned? (cs : List Char) : Option Nat :=
  match cs with
  | '+' :: rest => natural? rest
  | cs => natural? cs

/-- A whole number that may have a sign in front, within 64 bits. -/
def integer? (cs : List Char) : Option Int64 := do
  let (negative, digits) := splitSign cs
  let n ← natural? digits
  if negative then
    if n ≤ 1 <<< 63 then some (Int64.ofInt (-(n : Int))) else none
  else
    if n < 1 <<< 63 then some (Int64.ofInt n) else none

/-- An exponent: nothing, or a mark and a whole number that may have a sign in front. -/
def exponent? : List Char → Option Int
  | [] => some 0
  | c :: cs => do
    if c = 'e' ∨ c = 'E' then
      let (negative, digits) := splitSign cs
      let n ← natural? digits
      return if negative then -(n : Int) else n
    else none

/-- A decimal without a sign: digits, a point that may stand anywhere among them, and an
exponent. -/
def decimal? (cs : List Char) : Option Decimal := do
  let whole := cs.takeWhile isDigit
  let rest := cs.dropWhile isDigit
  let (fraction, rest) :=
    match rest with
    | '.' :: rest => (rest.takeWhile isDigit, rest.dropWhile isDigit)
    | rest => ([], rest)
  if whole ++ fraction = [] then none
  else
    let e ← exponent? rest
    return ⟨digitsValue (whole ++ fraction), e - fraction.length⟩

/-- A text in lower-case ASCII letters. -/
def lowered (cs : List Char) : String := String.ofList (cs.map Char.toLower)

/-- A double-precision number. -/
def float? (cs : List Char) : Option Binary64 :=
  let (negative, rest) := splitSign cs
  if lowered rest = "inf" ∨ lowered rest = "infinity" then some (.infinite negative)
  else if lowered rest = "nan" then some .nan
  else
    (decimal? rest).map fun d =>
      Binary64.ofMagnitude? negative (Magnitude.ofDecimal? d.digits d.exponent)

/-- The value that a text is taken for. -/
def Guess.of (s : String) : Guess :=
  let cs := s.toList
  if lowered cs = "true" then .boolean true
  else if lowered cs = "false" then .boolean false
  else
    match integer? cs with
    | some n => .integer n
    | none =>
      match float? cs with
      | some x => .float x
      | none => .text s

/-- Settings write every number out in full and drop a fraction of zero. -/
def floatStyle : FloatStyle := ⟨fun _ => true, "", .greater⟩

/-- A guess as text. -/
def Guess.toText : Guess → String
  | boolean b => if b then "true" else "false"
  | integer n => toString n.toInt
  | float x => x.write floatStyle
  | text s => s

/-- Why a setting could not be read. -/
inductive LoadError where
  /-- A value of the wrong kind: what was met and wanted, the setting, and whether the value came
  straight from a variable. -/
  | wrongType (found expected key : String) (fromVariable : Bool)
  | notFound (name : String)
  | other (detail : String)
deriving DecidableEq, Repr

/-- The words for a load error. -/
def LoadError.message : LoadError → String
  | wrongType found expected key fromVariable =>
    "invalid type: " ++ found ++ ", expected " ++ expected ++ " for key `" ++ key ++ "`"
      ++ (if fromVariable then " in the environment" else "")
  | notFound name => "configuration property " ++ Quoted.quote name ++ " not found"
  | other detail => detail

/-- A guess as a whole number without sign. Truth values count as one and zero, also when spelled as
switches; a double-precision number is rounded. -/
def Guess.toCount (key : String) : Guess → Except LoadError UInt64
  | boolean b => .ok (if b then 1 else 0)
  | integer n =>
    if 0 ≤ n then .ok n.toInt.toNat.toUInt64
    else
      .error (.wrongType ("64-bit integer `" ++ toString n.toInt ++ "`")
        "an unsigned 64 bit or less integer" key true)
  | float x => .ok x.toWord
  | text s =>
    let word := lowered s.toList
    if word = "true" ∨ word = "on" ∨ word = "yes" then .ok 1
    else if word = "false" ∨ word = "off" ∨ word = "no" then .ok 0
    else
      match (unsigned? s.toList).filter (· < 1 <<< 64) with
      | some n => .ok n.toUInt64
      | none => .error (.wrongType ("string " ++ Quoted.quote s) "an integer" key true)

end ParityDuel.Settings
