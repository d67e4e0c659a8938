import ParityDuel.Json.Scan

/-!
# Numbers in JSON texts

A literal without fraction and exponent is a whole number if it fits a word or a negative 64-bit
number; `-0` and everything else is of double precision. The digits that fit a word form the
significand and the others only move the decimal point; the significand is rounded to double
precision and then multiplied or divided by a rounded power of ten, so a long literal need not give
the number nearest to it.
-/

namespace ParityDuel.Json

/-- Whether the byte is a decimal digit. -/
def isDigit (b : UInt8) : Bool := 0x30 ≤ b && b ≤ 0x39

/-- The number a digit stands for. -/
def digitValue (b : UInt8) : Nat := b.toNat - 0x30

/-- The digit zero. -/
def zeroDigit : UInt8 := 0x30

/-- The sign before a negative number or exponent. -/
def minus : UInt8 := 0x2D

/-- The sign before a positive exponent. -/
def plus : UInt8 := 0x2B

/-- The byte before a fraction. -/
def point : UInt8 := 0x2E

/-- Whether the byte introduces an exponent. -/
def isExponentMark (b : UInt8) : Bool := b == 0x65 || b == 0x45

/-- Whether a number is a word. -/
def fitsWord (n : Nat) : Bool := n < 1 <<< 64

/-- Takes digits into a whole number while it fits a word: the number, how many further digits
there are, and the rest. -/
def wholeDigits (value : Nat) : Bytes → Nat × Nat × Bytes
  | [] => (value, 0, [])
  | b :: s =>
    if isDigit b then
      if fitsWord (value * 10 + digitValue b) then wholeDigits (value * 10 + digitValue b) s
      else (value, ((b :: s).takeWhile isDigit).length, (b :: s).dropWhile isDigit)
    else (value, 0, b :: s)

/-- Takes digits behind the point into a number while it fits a word and passes over the others:
the number, how many digits were taken, and the rest. -/
def fractionDigits (value : Nat) : Bytes → Nat × Nat × Bytes
  | [] => (value, 0, [])
  | b :: s =>
    if isDigit b then
      if fitsWord (value * 10 + digitValue b) then
        let (v, taken, rest) := fractionDigits (value * 10 + digitValue b) s
        (v, taken + 1, rest)
      else (value, 0, (b :: s).dropWhile isDigit)
    else (value, 0, b :: s)

/-- The greatest exponent that is counted. -/
def exponentLimit : Nat := (1 <<< 31) - 1

/-- Takes the digits of an exponent; nothing, with what follows the digit that went too far, if it
exceeds the limit. -/
def exponentDigits (value : Nat) : Bytes → Option Nat × Bytes
  | [] => (some value, [])
  | b :: s =>
    if isDigit b then
      if value * 10 + digitValue b ≤ exponentLimit then exponentDigits (value * 10 + digitValue b) s
      else (none, s)
    else (some value, b :: s)

/-- Divides by `10 ^ n`, at most 308 places at a time. -/
def divideByTens (a : Magnitude) (n : Nat) : Option Magnitude :=
  if n ≤ 308 then do a.div? (← Magnitude.powerOfTen? n)
  else if a.coefficient = 0 then some a
  else do
    let b ← a.div? (← Magnitude.powerOfTen? 308)
    divideByTens b (n - 308)
termination_by n

/-- The magnitude of a significand and an exponent of ten, unless it is out of range. -/
def scaled? (significand : Nat) (exponent : Int) : Option Magnitude := do
  let a ← Magnitude.ofRatio? significand 1
  if exponent < 0 then divideByTens a (-exponent).toNat
  else if exponent ≤ 308 then a.mul? (← Magnitude.powerOfTen? exponent.toNat)
  else if a.coefficient = 0 then some a
  else none

/-- The double-precision number of the literal that ends before `rest`. -/
def floatLiteral (negative : Bool) (significand : Nat) (exponent : Int) (rest : Bytes) :
    Except Fault (Value × Bytes) :=
  match scaled? significand exponent with
  | some a => .ok (.float (.finite negative a), rest)
  | none => .error (.before .numberOutOfRange rest)

/-- Reads what follows the exponent mark. -/
def readExponent (negative : Bool) (significand : Nat) (exponent : Int) (s : Bytes) :
    Except Fault (Value × Bytes) :=
  let (down, s) := match s with
    | b :: t => if b = minus then (true, t) else if b = plus then (false, t) else (false, b :: t)
    | [] => (false, [])
  match s with
  | [] => .error (.before .eofInValue [])
  | b :: t =>
    if isDigit b then
      match exponentDigits (digitValue b) t with
      | (some e, rest) =>
        floatLiteral negative significand (if down then exponent - e else exponent + e) rest
      | (none, rest) =>
        if significand ≠ 0 ∧ ¬ down then .error (.before .numberOutOfRange rest)
        else .ok (.float (.finite negative .zero), rest.dropWhile isDigit)
    else .error (.before .invalidNumber t)

/-- Reads what follows the point. -/
def readFraction (negative : Bool) (significand dropped : Nat) (s : Bytes) :
    Except Fault (Value × Bytes) :=
  match s with
  | [] => .error (.peeking .eofInValue [])
  | b :: t =>
    if isDigit b then
      let (value, taken, rest) := fractionDigits significand (b :: t)
      let exponent : Int := (dropped : Int) - (taken : Int)
      match rest with
      | c :: u =>
        if isExponentMark c then readExponent negative value exponent u
        else floatLiteral negative value exponent (c :: u)
      | [] => floatLiteral negative value exponent []
    else .error (.peeking .invalidNumber (b :: t))

/-- The whole number of a literal. -/
def wholeLiteral (negative : Bool) (value : Nat) (rest : Bytes) : Except Fault (Value × Bytes) :=
  if negative then
    if 0 < value ∧ value ≤ 1 <<< 63 then .ok (.signed (Int64.ofInt (-(value : Int))), rest)
    else floatLiteral true value 0 rest
  else .ok (.unsigned value.toUInt64, rest)

/-- Reads what follows the whole part. -/
def readTail (negative : Bool) (value dropped : Nat) (s : Bytes) : Except Fault (Value × Bytes) :=
  match s with
  | b :: t =>
    if b = point then readFraction negative value dropped t
    else if isExponentMark b then readExponent negative value dropped t
    else if dropped = 0 then wholeLiteral negative value (b :: t)
    else floatLiteral negative value dropped (b :: t)
  | [] =>
    if dropped = 0 then wholeLiteral negative value [] else floatLiteral negative value dropped []

/-- Reads a number whose sign has been read. -/
def readNumber (negative : Bool) : Reader Value
  | [] => .error (.before .eofInValue [])
  | b :: s =>
    if b = zeroDigit then
      match s with
      | c :: t => if isDigit c then .error (.peeking .invalidNumber (c :: t))
          else readTail negative 0 0 (c :: t)
      | [] => readTail negative 0 0 []
    else if isDigit b then
      let (value, dropped, rest) := wholeDigits (digitValue b) s
      readTail negative value dropped rest
    else .error (.before .invalidNumber s)

end ParityDuel.Json
