import ParityDuel.Text.Utf8

/-!
# Bytes in hexadecimal

A byte is written as two lower-case hexadecimal digits. Reading takes either case.
-/

namespace ParityDuel.Hex

/-- The number a hexadecimal digit stands for. -/
def digit? (c : Char) : Option Nat :=
  let n := c.toNat
  if 0x30 ≤ n ∧ n ≤ 0x39 then some (n - 0x30)
  else if 0x61 ≤ n ∧ n ≤ 0x66 then some (n - 0x61 + 10)
  else if 0x41 ≤ n ∧ n ≤ 0x46 then some (n - 0x41 + 10)
  else none

/-- The two digits of a byte. -/
def ofByte (b : UInt8) : List Char :=
  [Nat.digitChar (b.toNat / 16), Nat.digitChar (b.toNat % 16)]

/-- The digits of a byte list. -/
def encode (s : Bytes) : String := String.ofList (s.flatMap ofByte)

/-- The bytes that pairs of digits stand for. -/
def decodeChars? : List Char → Option Bytes
  | [] => some []
  | [_] => none
  | a :: b :: rest => do
    let high ← digit? a
    let low ← digit? b
    let s ← decodeChars? rest
    return (high * 16 + low).toUInt8 :: s

/-- The bytes that a text of digit pairs stands for. -/
def decode? (s : String) : Option Bytes := decodeChars? s.toList

end ParityDuel.Hex
