import ParityDuel.Json.Value
import ParityDuel.Text.Utf8

/-!
# Faults of JSON texts

Why a JSON text was refused, and where. Readers work on what is left of the text, so a fault first
remembers how many bytes were left; `Fault.locate` turns that into a line and a column. Faults in a
value that has already been read have no place.
-/

namespace ParityDuel.Json

/-- Why a text was refused. -/
inductive Cause where
  | eofInList
  | eofInObject
  | eofInString
  | eofInValue
  | expectedColon
  | expectedListEnd
  | expectedObjectEnd
  | expectedWord
  | expectedValue
  | invalidEscape
  | invalidNumber
  | numberOutOfRange
  | invalidCodePoint
  | controlCharacter
  | keyNotString
  | loneSurrogate
  | cutHexEscape
  | trailingComma
  | trailingCharacters
  | tooDeep
  | wrongType (found : Found) (expected : String)
  | wrongValue (found : Found) (expected : String)
  | wrongLength (length : Nat) (expected : String)
  | unknownVariant (name : String) (known : List String)
  | missingField (name : String)
  | duplicateField (name : String)
deriving DecidableEq, Repr

/-- A list of alternatives in words. -/
def alternatives : List String → String
  | [] => "there are no variants"
  | [a] => "expected `" ++ a ++ "`"
  | [a, b] => "expected `" ++ a ++ "` or `" ++ b ++ "`"
  | names => "expected one of " ++ String.intercalate ", " (names.map fun n => "`" ++ n ++ "`")

namespace Cause

/-- The words for a cause. -/
def message : Cause → String
  | eofInList => "EOF while parsing a list"
  | eofInObject => "EOF while parsing an object"
  | eofInString => "EOF while parsing a string"
  | eofInValue => "EOF while parsing a value"
  | expectedColon => "expected `:`"
  | expectedListEnd => "expected `,` or `]`"
  | expectedObjectEnd => "expected `,` or `\x7d`"
  | expectedWord => "expected ident"
  | expectedValue => "expected value"
  | invalidEscape => "invalid escape"
  | invalidNumber => "invalid number"
  | numberOutOfRange => "number out of range"
  | invalidCodePoint => "invalid unicode code point"
  | controlCharacter => "control character (\\u0000-\\u001F) found while parsing a string"
  | keyNotString => "key must be a string"
  | loneSurrogate => "lone leading surrogate in hex escape"
  | cutHexEscape => "unexpected end of hex escape"
  | trailingComma => "trailing comma"
  | trailingCharacters => "trailing characters"
  | tooDeep => "recursion limit exceeded"
  | wrongType found expected => "invalid type: " ++ found.describe ++ ", expected " ++ expected
  | wrongValue found expected => "invalid value: " ++ found.describe ++ ", expected " ++ expected
  | wrongLength n expected => "invalid length " ++ toString n ++ ", expected " ++ expected
  | unknownVariant name known => "unknown variant `" ++ name ++ "`, " ++ alternatives known
  | missingField name => "missing field `" ++ name ++ "`"
  | duplicateField name => "duplicate field `" ++ name ++ "`"

end Cause

/-- A cause and, if it has a place, the number of bytes left behind that place. -/
structure Fault where
  cause : Cause
  left : Option Nat
deriving DecidableEq, Repr

namespace Fault

/-- A fault noticed after everything before `rest` was consumed. -/
def before (cause : Cause) (rest : Bytes) : Fault := ⟨cause, some rest.length⟩

/-- A fault noticed by looking at the first byte of `rest`; that byte counts as reached. -/
def peeking (cause : Cause) (rest : Bytes) : Fault := ⟨cause, some (rest.length - 1)⟩

/-- A fault in a value that has been read already. -/
def within (cause : Cause) : Fault := ⟨cause, none⟩

end Fault

/-- A line, counted from one, and the number of bytes of it before the place. -/
structure Position where
  line : Nat
  column : Nat
deriving DecidableEq, Repr

/-- The line break. -/
def newline : UInt8 := 0x0A

/-- The position behind the given bytes. -/
def Position.after (consumed : Bytes) : Position :=
  ⟨1 + consumed.count newline, (consumed.reverse.takeWhile (· != newline)).length⟩

/-- A cause with its position in the whole text. -/
structure Problem where
  cause : Cause
  place : Option Position
deriving DecidableEq, Repr

/-- The position of a fault in the text it arose in. -/
def Fault.locate (text : Bytes) (f : Fault) : Problem :=
  ⟨f.cause, f.left.map fun n => Position.after (text.take (text.length - n))⟩

/-- The words for a problem. -/
def Problem.message (p : Problem) : String :=
  match p.place with
  | none => p.cause.message
  | some q => p.cause.message ++ " at line " ++ toString q.line ++ " column " ++ toString q.column

/-- What two readings come to can be compared. -/
instance decidableEqExcept {ε α : Type} [DecidableEq ε] [DecidableEq α] : DecidableEq (Except ε α)
  | .ok a, .ok b => decidable_of_iff (a = b) ⟨congrArg _, Except.ok.inj⟩
  | .error e, .error f => decidable_of_iff (e = f) ⟨congrArg _, Except.error.inj⟩
  | .ok _, .error _ => isFalse nofun
  | .error _, .ok _ => isFalse nofun

end ParityDuel.Json
