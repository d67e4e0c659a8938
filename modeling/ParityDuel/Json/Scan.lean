import ParityDuel.Json.Fault

/-!
# Bytes of JSON texts

The bytes with a meaning of their own, blanks between tokens, the fixed words and the punctuation
around values. A reader takes what is left of the text and returns what is left after it.
-/

namespace ParityDuel.Json

/-- A reader of an `α` from the front of a text. -/
abbrev Reader (α : Type) := Bytes → Except Fault (α × Bytes)

/-- The byte around texts. -/
def quote : UInt8 := 0x22

/-- The byte before an escape. -/
def backslash : UInt8 := 0x5C

/-- The byte between elements. -/
def comma : UInt8 := 0x2C

/-- The byte between a name and its value. -/
def colon : UInt8 := 0x3A

/-- The byte that opens a list. -/
def openList : UInt8 := 0x5B

/-- The byte that closes a list. -/
def closeList : UInt8 := 0x5D

/-- The byte that opens an object. -/
def openObject : UInt8 := 0x7B

/-- The byte that closes an object. -/
def closeObject : UInt8 := 0x7D

/-- Whether the byte may stand between tokens. -/
def isBlank (b : UInt8) : Bool := b == 0x20 || b == 0x0A || b == 0x09 || b == 0x0D

/-- The text without the blanks at its front. -/
def skipBlanks (s : Bytes) : Bytes := s.dropWhile isBlank

/-- The bytes of a word of ASCII letters. -/
def asciiBytes (w : String) : Bytes := w.toList.map fun c => c.toNat.toUInt8

/-- Reads the remaining bytes of a word. -/
def word : Bytes → Bytes → Except Fault Bytes
  | [], s => .ok s
  | _ :: _, [] => .error (.before .eofInValue [])
  | c :: w, b :: s => if b = c then word w s else .error (.before .expectedWord s)

/-- Reads the colon between a name and its value. -/
def readColon (s : Bytes) : Except Fault Bytes :=
  match skipBlanks s with
  | [] => .error (.peeking .eofInObject [])
  | b :: t => if b = colon then .ok t else .error (.peeking .expectedColon (b :: t))

/-- Accepts only blanks. -/
def endOfText (s : Bytes) : Except Fault Unit :=
  match skipBlanks s with
  | [] => .ok ()
  | b :: t => .error (.peeking .trailingCharacters (b :: t))

end ParityDuel.Json
