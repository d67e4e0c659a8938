/-!
# Characters as bytes

Frames travel as bytes, texts are made of characters. `Utf8.encode` gives the one to four bytes of a
character and `Utf8.next?` takes the first character off a byte list. Only the shortest form of a
character counts, and a surrogate or a number above `0x10FFFF` is no character, so a byte list is
the written form of at most one text.
-/

namespace ParityDuel

/-- The bytes of a frame, or what is left of them. -/
abbrev Bytes := List UInt8

namespace Utf8

/-- A byte that continues a character begun by an earlier byte. -/
def isContinuation (b : UInt8) : Bool := 0x80 ≤ b && b < 0xC0

/-- The six bits that a continuation byte carries. -/
def payload (b : UInt8) : Nat := b.toNat - 0x80

/-- The bytes of one character, shortest form. -/
def encode (c : Char) : Bytes :=
  let n := c.toNat
  if n < 0x80 then [n.toUInt8]
  else if n < 0x800 then [(0xC0 + n / 64).toUInt8, (0x80 + n % 64).toUInt8]
  else if n < 0x10000 then
    [(0xE0 + n / 4096).toUInt8, (0x80 + n / 64 % 64).toUInt8, (0x80 + n % 64).toUInt8]
  else
    [(0xF0 + n / 262144).toUInt8, (0x80 + n / 4096 % 64).toUInt8,
      (0x80 + n / 64 % 64).toUInt8, (0x80 + n % 64).toUInt8]

/-- The bytes of a list of characters. -/
def encodeAll (cs : List Char) : Bytes := cs.flatMap encode

/-- The bytes of a text. -/
def ofString (s : String) : Bytes := encodeAll s.toList

/-- The character numbered `n`, unless `n` is below the least number its length may carry. -/
def scalar? (least n : Nat) : Option Char :=
  if h : least ≤ n ∧ n.isValidChar then some (Char.ofNatAux n h.2) else none

/-- The first character of a byte list and the bytes after it. -/
def next? : Bytes → Option (Char × Bytes)
  | [] => none
  | a :: s =>
    if a < 0x80 then (scalar? 0 a.toNat).map (·, s)
    else if a < 0xC0 then none
    else if a < 0xE0 then
      match s with
      | b :: t =>
        if isContinuation b then
          (scalar? 0x80 ((a.toNat - 0xC0) * 64 + payload b)).map (·, t)
        else none
      | _ => none
    else if a < 0xF0 then
      match s with
      | b :: c :: t =>
        if isContinuation b && isContinuation c then
          (scalar? 0x800 ((a.toNat - 0xE0) * 4096 + payload b * 64 + payload c)).map (·, t)
        else none
      | _ => none
    else
      match s with
      | b :: c :: d :: t =>
        if isContinuation b && isContinuation c && isContinuation d then
          (scalar? 0x10000
            ((a.toNat - 0xF0) * 262144 + payload b * 4096 + payload c * 64 + payload d)).map (·, t)
        else none
      | _ => none

/-- Taking a character off leaves fewer bytes. -/
theorem length_lt_of_next? {s t : Bytes} {c : Char} (h : next? s = some (c, t)) :
    t.length < s.length := by
  unfold next? at h
  grind [Option.map_eq_some_iff]

/-- The characters at the front of a byte list, as many as there are, and the bytes behind them. -/
def decode (s : Bytes) : List Char × Bytes :=
  match _h : next? s with
  | some (c, t) =>
    let (cs, rest) := decode t
    (c :: cs, rest)
  | none => ([], s)
termination_by s.length
decreasing_by exact length_lt_of_next? _h

/-- The characters of a byte list that is the written form of a text. -/
def decode? (s : Bytes) : Option (List Char) :=
  match decode s with
  | (cs, []) => some cs
  | _ => none

end Utf8

end ParityDuel
