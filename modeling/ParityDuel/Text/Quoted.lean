import ParityDuel.Text.Printable

/-!
# Quoted texts

How error messages show a text: between double quotes, with a backslash before a quote or a
backslash, short escapes for the usual control characters and the number of the character in braces
for whatever is not shown as it is.
-/

namespace ParityDuel.Quoted

/-- The digits of a number in base 16. -/
def hexDigits (n : Nat) : List Char := Nat.toDigits 16 n

/-- How one character stands between the quotes. -/
def escape (c : Char) : List Char :=
  if c = '\x00' then ['\\', '0']
  else if c = '\t' then ['\\', 't']
  else if c = '\n' then ['\\', 'n']
  else if c = '\r' then ['\\', 'r']
  else if c = '\x22' then ['\\', c]
  else if c = '\\' then ['\\', c]
  else if Printable.isPrintable c then [c]
  else ['\\', 'u', '\x7b'] ++ hexDigits c.toNat ++ ['\x7d']

/-- A text between quotes. -/
def quote (s : String) : String :=
  String.ofList ('\x22' :: s.toList.flatMap escape ++ ['\x22'])

end ParityDuel.Quoted
