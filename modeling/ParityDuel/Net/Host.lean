import ParityDuel.Text.Hex

/-!
# Hosts

A host is known by a number of 32 or of 128 bits, or by a name. A number of 32 bits is written as
one to four numerals with points between them: every numeral but the last stands for eight bits, and
the last one for all bits that remain. A numeral may be decimal, octal behind a zero, or hexadecimal
behind `0x`. A number of 128 bits is written as eight groups of 16 bits with colons between them,
where two colons may stand for groups of zero, and the last two groups may be four octets. Whatever
is neither is a name.
-/

namespace ParityDuel

/-- Whom an address is about. -/
inductive Host where
  | short (number : Nat)
  | long (number : Nat)
  | named (name : String)
deriving DecidableEq, Repr

namespace Host

/-- A text cut at every separator. -/
def parts (separator : Char) : List Char → List (List Char)
  | [] => [[]]
  | c :: cs =>
    if c = separator then [] :: parts separator cs
    else
      match parts separator cs with
      | [] => [[c]]
      | p :: ps => (c :: p) :: ps

/-- The number that digits of a base stand for. -/
def number? (base : Nat) (cs : List Char) : Option Nat :=
  if cs.isEmpty then none
  else
    cs.foldlM (fun n c => ((Hex.digit? c).filter (· < base)).map (n * base + ·)) 0

/-- The number that a numeral stands for. -/
def numeral? : List Char → Option Nat
  | ['0'] => some 0
  | '0' :: 'x' :: cs | '0' :: 'X' :: cs => number? 16 cs
  | '0' :: cs => number? 8 cs
  | cs => number? 10 cs

/-- The number of 32 bits that a text stands for. -/
def short? (cs : List Char) : Option Nat := do
  match ← (parts '.' cs).mapM numeral? with
  | [a] => if a < 1 <<< 32 then some a else none
  | [a, b] => if a < 1 <<< 8 ∧ b < 1 <<< 24 then some (a <<< 24 + b) else none
  | [a, b, c] =>
    if a < 1 <<< 8 ∧ b < 1 <<< 8 ∧ c < 1 <<< 16 then some ((a <<< 8 + b) <<< 16 + c) else none
  | [a, b, c, d] =>
    if a < 1 <<< 8 ∧ b < 1 <<< 8 ∧ c < 1 <<< 8 ∧ d < 1 <<< 8 then
      some (((a <<< 8 + b) <<< 8 + c) <<< 8 + d)
    else none
  | _ => none

/-- A group of 16 bits: one to four hexadecimal digits. -/
def group? (cs : List Char) : Option Nat := if cs.length ≤ 4 then number? 16 cs else none

/-- An octet: a decimal number below 256 without needless zeros. -/
def octet? (cs : List Char) : Option Nat :=
  if cs.head? = some '0' ∧ cs ≠ ['0'] then none else (number? 10 cs).filter (· < 1 <<< 8)

/-- Groups of which the last two may be four octets. -/
def groups? : List (List Char) → Option (List Nat)
  | [] => some []
  | [g] =>
    match (parts '.' g).mapM octet? with
    | some [a, b, c, d] => some [a <<< 8 + b, c <<< 8 + d]
    | _ => (group? g).map ([·])
  | g :: gs => do return (← group? g) :: (← groups? gs)

/-- The texts before and behind the first two colons that stand side by side. -/
def splitGap? : List Char → Option (List Char × List Char)
  | ':' :: ':' :: cs => some ([], cs)
  | c :: cs => (splitGap? cs).map fun (before, behind) => (c :: before, behind)
  | [] => none

/-- The number that groups stand for. -/
def ofGroups (gs : List Nat) : Nat := gs.foldl (fun n g => n <<< 16 + g) 0

/-- The number of 128 bits that a text stands for. -/
def long? (cs : List Char) : Option Nat := do
  match splitGap? cs with
  | some (before, behind) =>
    let front ← if before.isEmpty then some [] else (parts ':' before).mapM group?
    let back ← if behind.isEmpty then some [] else groups? (parts ':' behind)
    if front.length + back.length < 8 then
      some (ofGroups (front ++ List.replicate (8 - front.length - back.length) 0 ++ back))
    else none
  | none =>
    let gs ← groups? (parts ':' cs)
    if gs.length = 8 then some (ofGroups gs) else none

/-- The host that a text stands for. -/
def ofText (cs : List Char) : Host :=
  match short? cs, long? cs with
  | some n, _ => .short n
  | none, some n => .long n
  | none, none => .named (String.ofList cs)

/-- The number of 32 bits that a number of 128 bits wraps: `ffff` stands before it, and zeros before
that. -/
def wrapped? (n : Nat) : Option Nat := if n >>> 32 = 0xFFFF then some (n % (1 <<< 32)) else none

end Host

end ParityDuel
