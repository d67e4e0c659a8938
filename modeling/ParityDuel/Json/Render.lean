import ParityDuel.Json.Value

/-!
# Writing values

The compact form of a value: no blanks, members in their order. In a text only the quote, the
backslash and control characters are escaped, by a short escape where there is one.
-/

namespace ParityDuel.Json

/-- The four digits of a hexadecimal escape for a character below `0x20`. -/
def controlDigits (n : Nat) : List Char :=
  ['0', '0', Nat.digitChar (n / 16), Nat.digitChar (n % 16)]

/-- How one character stands in a text. -/
def renderChar (c : Char) : List Char :=
  if c = '\x22' ∨ c = '\\' then ['\\', c]
  else if c = '\x08' then ['\\', 'b']
  else if c = '\x0c' then ['\\', 'f']
  else if c = '\n' then ['\\', 'n']
  else if c = '\r' then ['\\', 'r']
  else if c = '\t' then ['\\', 't']
  else if c.toNat < 0x20 then '\\' :: 'u' :: controlDigits c.toNat
  else [c]

/-- A text between quotes. -/
def renderText (s : String) : List Char := '\x22' :: s.toList.flatMap renderChar ++ ['\x22']

/-- Parts with commas between them. -/
def separated : List (List Char) → List Char
  | [] => []
  | [p] => p
  | p :: q :: rest => p ++ ',' :: separated (q :: rest)

mutual

/-- The characters of a value. -/
def renderChars : Value → List Char
  | .null => ['n', 'u', 'l', 'l']
  | .boolean true => ['t', 'r', 'u', 'e']
  | .boolean false => ['f', 'a', 'l', 's', 'e']
  | .unsigned n => Nat.toDigits 10 n.toNat
  | .signed n =>
    let digits := Nat.toDigits 10 n.toInt.natAbs
    if n < 0 then '-' :: digits else digits
  | .float x => (x.write floatStyle).toList
  | .text s => renderText s
  | .list items => '[' :: separated (renderItems items) ++ [']']
  | .object members => '\x7b' :: separated (renderMembers members) ++ ['\x7d']

/-- The characters of each element. -/
def renderItems : List Value → List (List Char)
  | [] => []
  | v :: rest => renderChars v :: renderItems rest

/-- The characters of each member. -/
def renderMembers : List (String × Value) → List (List Char)
  | [] => []
  | (name, v) :: rest => (renderText name ++ ':' :: renderChars v) :: renderMembers rest

end

/-- The compact form of a value. -/
def render (v : Value) : String := String.ofList (renderChars v)

end ParityDuel.Json
