import ParityDuel.Json.Scan

/-!
# Texts in JSON texts

A text stands between quotes. Control characters may not stand in it; a backslash begins an escape,
where a character beyond `0xFFFF` takes two hexadecimal escapes, a leading and a trailing surrogate.
`readText` gives the characters. It collects their bytes up to the closing quote, and only then asks
whether they are characters at all. `skipText` only finds the closing quote: it checks control
characters and the form of escapes, but neither surrogates nor the bytes of characters.
-/

namespace ParityDuel.Json

/-- The byte that introduces a hexadecimal escape. -/
def hexMark : UInt8 := 0x75

/-- The number a hexadecimal digit stands for. -/
def hexValue? (b : UInt8) : Option Nat :=
  if 0x30 ≤ b && b ≤ 0x39 then some (b.toNat - 0x30)
  else if 0x61 ≤ b && b ≤ 0x66 then some (b.toNat - 0x61 + 10)
  else if 0x41 ≤ b && b ≤ 0x46 then some (b.toNat - 0x41 + 10)
  else none

/-- Reads the four digits of a hexadecimal escape. -/
def readHex : Reader Nat
  | a :: b :: c :: d :: rest =>
    match hexValue? a, hexValue? b, hexValue? c, hexValue? d with
    | some w, some x, some y, some z => .ok (((w * 16 + x) * 16 + y) * 16 + z, rest)
    | _, _, _, _ => .error (.before .invalidEscape rest)
  | _ => .error (.before .eofInString [])

/-- Whether the number is a leading surrogate. -/
def isLeading (n : Nat) : Bool := 0xD800 ≤ n && n ≤ 0xDBFF

/-- Whether the number is a trailing surrogate. -/
def isTrailing (n : Nat) : Bool := 0xDC00 ≤ n && n ≤ 0xDFFF

/-- The character that a leading and a trailing surrogate make together. -/
def joined (leading trailing : Nat) : Char :=
  Char.ofNat (0x10000 + (leading - 0xD800) * 0x400 + (trailing - 0xDC00))

/-- Reads the trailing surrogate after a leading one. -/
def readTrailing (leading : Nat) : Reader Char
  | [] => .error (.before .eofInString [])
  | b :: s =>
    if b ≠ backslash then .error (.before .cutHexEscape s)
    else
      match s with
      | [] => .error (.before .eofInString [])
      | c :: t =>
        if c ≠ hexMark then .error (.before .cutHexEscape t)
        else
          match readHex t with
          | .error f => .error f
          | .ok (n, rest) =>
            if isTrailing n then .ok (joined leading n, rest)
            else .error (.before .loneSurrogate rest)

/-- Reads what follows the mark of a hexadecimal escape. -/
def readHexEscape (s : Bytes) : Except Fault (Char × Bytes) :=
  match readHex s with
  | .error f => .error f
  | .ok (n, rest) =>
    if isTrailing n then .error (.before .loneSurrogate rest)
    else if isLeading n then readTrailing n rest
    else .ok (Char.ofNat n, rest)

/-- The character of an escape of one letter. -/
def shortEscape? (b : UInt8) : Option Char :=
  if b = quote then some '\x22'
  else if b = backslash then some '\\'
  else if b = 0x2F then some '/'
  else if b = 0x62 then some '\x08'
  else if b = 0x66 then some '\x0c'
  else if b = 0x6E then some '\n'
  else if b = 0x72 then some '\r'
  else if b = 0x74 then some '\t'
  else none

/-- Reads what follows the backslash of an escape. -/
def readEscape : Reader Char
  | [] => .error (.before .eofInString [])
  | b :: s =>
    match shortEscape? b with
    | some c => .ok (c, s)
    | none => if b = hexMark then readHexEscape s else .error (.before .invalidEscape s)

/-- Passes over an escape; the digits of a hexadecimal escape are checked, its number is not. -/
def skipEscape : Bytes → Except Fault Bytes
  | [] => .error (.before .eofInString [])
  | b :: s =>
    match shortEscape? b with
    | some _ => .ok s
    | none =>
      if b = hexMark then (readHex s).map Prod.snd else .error (.before .invalidEscape s)

theorem length_lt_of_readHex {s t : Bytes} {n : Nat} (h : readHex s = .ok (n, t)) :
    t.length < s.length := by
  unfold readHex at h
  split at h
  · grind
  · simp at h

theorem length_lt_of_readTrailing {s t : Bytes} {n : Nat} {c : Char}
    (h : readTrailing n s = .ok (c, t)) : t.length < s.length := by
  unfold readTrailing at h
  grind [→ length_lt_of_readHex]

theorem length_lt_of_readHexEscape {s t : Bytes} {c : Char} (h : readHexEscape s = .ok (c, t)) :
    t.length < s.length := by
  unfold readHexEscape at h
  grind [→ length_lt_of_readHex, → length_lt_of_readTrailing]

/-- Reading an escape leaves fewer bytes. -/
theorem length_lt_of_readEscape {s t : Bytes} {c : Char} (h : readEscape s = .ok (c, t)) :
    t.length < s.length := by
  unfold readEscape at h
  grind [→ length_lt_of_readHexEscape]

/-- Passing over an escape leaves fewer bytes. -/
theorem length_lt_of_skipEscape {s t : Bytes} (h : skipEscape s = .ok t) :
    t.length < s.length := by
  unfold skipEscape at h
  split at h
  · simp at h
  · split at h
    · grind
    · split at h
      · next b s _ _ _ =>
        match hr : readHex s with
        | .error f => simp [hr, Except.map] at h
        | .ok (n, u) =>
          have := length_lt_of_readHex hr
          simp [hr, Except.map] at h
          grind
      · simp at h

/-- Reads the bytes of the characters up to the closing quote, the opening one having been read. An
escape stands for the bytes of its character. -/
def readTextBytes (s : Bytes) : Except Fault (Bytes × Bytes) :=
  match s with
  | [] => .error (.before .eofInString [])
  | b :: t =>
    if b = quote then .ok ([], t)
    else if b = backslash then
      match _h : readEscape t with
      | .error f => .error f
      | .ok (c, u) => (readTextBytes u).map fun (bs, rest) => (Utf8.encode c ++ bs, rest)
    else if b < 0x20 then .error (.before .controlCharacter t)
    else (readTextBytes t).map fun (bs, rest) => (b :: bs, rest)
termination_by s.length
decreasing_by
  · have := length_lt_of_readEscape _h
    simp only [List.length_cons]
    omega
  · simp

/-- Reads a text, its opening quote having been read. If the bytes of the text are no characters
from some byte on, the place of the fault lies as many bytes before the end of the literal as are
no characters. -/
def readText (s : Bytes) : Except Fault (String × Bytes) :=
  match readTextBytes s with
  | .error f => .error f
  | .ok (bs, rest) =>
    match Utf8.decode bs with
    | (cs, []) => .ok (String.ofList cs, rest)
    | (_, broken) => .error (.before .invalidCodePoint (broken ++ rest))

/-- Passes over a text, its opening quote having been read. -/
def skipText (s : Bytes) : Except Fault Bytes :=
  match s with
  | [] => .error (.before .eofInString [])
  | b :: t =>
    if b = quote then .ok t
    else if b = backslash then
      match _h : skipEscape t with
      | .error f => .error f
      | .ok u => skipText u
    else if b < 0x20 then .error (.before .controlCharacter (b :: t))
    else skipText t
termination_by s.length
decreasing_by
  · have := length_lt_of_skipEscape _h
    simp only [List.length_cons]
    omega
  · simp

end ParityDuel.Json
