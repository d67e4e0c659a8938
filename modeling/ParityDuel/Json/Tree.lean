import ParityDuel.Json.Elements
import ParityDuel.Json.Number

/-!
# Reading values

`readValue` gives the tree of a value whose brackets are nested at most so deep, `skipValue` passes
over a value of any depth. Skipping is more generous in other ways too: it does not look at the size
of numbers, at surrogates, or at the bytes of characters in the texts that it passes over.
-/

namespace ParityDuel.Json

/-- Reads a value without elements. -/
def readScalar : Reader Value
  | [] => .error (.peeking .eofInValue [])
  | b :: t =>
    if b = 0x6E then (word (asciiBytes "ull") t).map (.null, ·)
    else if b = 0x74 then (word (asciiBytes "rue") t).map (.boolean true, ·)
    else if b = 0x66 then (word (asciiBytes "alse") t).map (.boolean false, ·)
    else if b = minus then readNumber true t
    else if isDigit b then readNumber false (b :: t)
    else if b = quote then (readText t).map fun (s, rest) => (.text s, rest)
    else .error (.peeking .expectedValue (b :: t))

/-- The fault of a value of the wrong kind. Scalars are read first; brackets are not entered. -/
def wrongKind (expected : String) (s : Bytes) : Fault :=
  match s with
  | [] => .peeking .expectedValue []
  | b :: t =>
    if b = openList then .before (.wrongType .sequence expected) (b :: t)
    else if b = openObject then .before (.wrongType .map expected) (b :: t)
    else
      match readScalar (b :: t) with
      | .error f => f
      | .ok (v, rest) => .before (.wrongType v.found expected) rest

/-- Reads an element and puts it in front of those before it. -/
def pushElement (inner : Reader Value) (items : List Value) (s : Bytes) :
    Except Fault (List Value × Bytes) :=
  (inner s).map fun (v, rest) => (v :: items, rest)

/-- Reads the value of a member and puts the member in front of those before it. -/
def pushMember (inner : Reader Value) (members : List (String × Value)) (name : String)
    (s : Bytes) : Except Fault (List (String × Value) × Bytes) :=
  match readColon s with
  | .error f => .error f
  | .ok t => (inner t).map fun (v, rest) => ((name, v) :: members, rest)

/-- Reads a value; `inner` reads the values within its brackets, and there may be none without
it. -/
def readLevel (inner : Option (Reader Value)) (s : Bytes) : Except Fault (Value × Bytes) :=
  match skipBlanks s with
  | [] => .error (.peeking .eofInValue [])
  | b :: t =>
    if b = openList then
      match inner with
      | none => .error (.peeking .tooDeep (b :: t))
      | some r =>
        (readElements (pushElement r) [] t).map fun (items, rest) => (.list items.reverse, rest)
    else if b = openObject then
      match inner with
      | none => .error (.peeking .tooDeep (b :: t))
      | some r =>
        (readMembers (pushMember r) [] t).map fun (members, rest) =>
          (.object members.reverse, rest)
    else readScalar (b :: t)

/-- Reads a value with at most `depth` brackets open at a time. -/
def readValue : Nat → Reader Value
  | 0 => readLevel none
  | depth + 1 => readLevel (some (readValue depth))

/-- How many brackets may be open at a time. -/
def depthLimit : Nat := 127

/-- Reads a text that is one value. -/
def parse (s : Bytes) : Except Fault Value := do
  let (v, rest) ← readValue depthLimit s
  endOfText rest
  return v

/-- Passes over an exponent, its mark having been read. -/
def skipExponent (s : Bytes) : Except Fault Bytes :=
  let s := match s with
    | b :: t => if b = plus ∨ b = minus then t else b :: t
    | [] => []
  match s with
  | [] => .error (.before .invalidNumber [])
  | b :: t => if isDigit b then .ok (t.dropWhile isDigit) else .error (.before .invalidNumber t)

/-- Passes over a fraction, the point having been read. -/
def skipFraction (s : Bytes) : Except Fault Bytes :=
  match s with
  | [] => .error (.peeking .invalidNumber [])
  | b :: t =>
    if isDigit b then
      match t.dropWhile isDigit with
      | c :: u => if isExponentMark c then skipExponent u else .ok (c :: u)
      | [] => .ok []
    else .error (.peeking .invalidNumber (b :: t))

/-- Passes over what follows the whole part of a number. -/
def skipTail : Bytes → Except Fault Bytes
  | [] => .ok []
  | b :: t =>
    if b = point then skipFraction t
    else if isExponentMark b then skipExponent t
    else .ok (b :: t)

/-- Passes over a number whose sign has been read. -/
def skipNumber : Bytes → Except Fault Bytes
  | [] => .error (.before .invalidNumber [])
  | b :: s =>
    if b = zeroDigit then
      match s with
      | c :: t => if isDigit c then .error (.peeking .invalidNumber (c :: t)) else skipTail (c :: t)
      | [] => .ok []
    else if isDigit b then skipTail (s.dropWhile isDigit)
    else .error (.before .invalidNumber s)

/-- Passes over a value without elements. -/
def skipScalar : Bytes → Except Fault Bytes
  | [] => .error (.peeking .eofInValue [])
  | b :: t =>
    if b = 0x6E then word (asciiBytes "ull") t
    else if b = 0x74 then word (asciiBytes "rue") t
    else if b = 0x66 then word (asciiBytes "alse") t
    else if b = minus then skipNumber t
    else if isDigit b then skipNumber (b :: t)
    else if b = quote then skipText t
    else .error (.peeking .expectedValue (b :: t))

/-- Passes over the elements behind the first one and the closing bracket. -/
def skipMoreElements (inner : Bytes → Except Fault Bytes) : Nat → Bytes → Except Fault Bytes
  | 0, _ => .error (.before .eofInList [])
  | bound + 1, s =>
    match skipBlanks s with
    | [] => .error (.peeking .eofInList [])
    | b :: t =>
      if b = closeList then .ok t
      else if b = comma then
        match inner t with
        | .error f => .error f
        | .ok rest => skipMoreElements inner bound rest
      else .error (.peeking .expectedListEnd (b :: t))

/-- Passes over the elements of a list and its closing bracket. -/
def skipElements (inner : Bytes → Except Fault Bytes) (s : Bytes) : Except Fault Bytes :=
  match skipBlanks s with
  | [] => .error (.peeking .eofInList [])
  | b :: t =>
    if b = closeList then .ok t
    else
      match inner (b :: t) with
      | .error f => .error f
      | .ok rest => skipMoreElements inner (rest.length + 1) rest

/-- Passes over a member: a name, a colon and a value. -/
def skipMember (inner : Bytes → Except Fault Bytes) (s : Bytes) : Except Fault Bytes :=
  match skipBlanks s with
  | [] => .error (.peeking .eofInObject [])
  | b :: t =>
    if b = quote then do
      let t ← skipText t
      let t ← readColon t
      inner t
    else .error (.peeking .keyNotString (b :: t))

/-- Passes over the members behind the first one and the closing bracket. -/
def skipMoreMembers (inner : Bytes → Except Fault Bytes) : Nat → Bytes → Except Fault Bytes
  | 0, _ => .error (.before .eofInObject [])
  | bound + 1, s =>
    match skipBlanks s with
    | [] => .error (.peeking .eofInObject [])
    | b :: t =>
      if b = closeObject then .ok t
      else if b = comma then
        match skipMember inner t with
        | .error f => .error f
        | .ok rest => skipMoreMembers inner bound rest
      else .error (.peeking .expectedObjectEnd (b :: t))

/-- Passes over the members of an object and its closing bracket. -/
def skipMembers (inner : Bytes → Except Fault Bytes) (s : Bytes) : Except Fault Bytes :=
  match skipBlanks s with
  | [] => .error (.peeking .eofInObject [])
  | b :: t =>
    if b = closeObject then .ok t
    else
      match skipMember inner (b :: t) with
      | .error f => .error f
      | .ok rest => skipMoreMembers inner (rest.length + 1) rest

/-- Passes over a value with at most `depth` brackets open at a time. -/
def skipWithin : Nat → Bytes → Except Fault Bytes
  | 0, s =>
    match skipBlanks s with
    | [] => .error (.peeking .eofInValue [])
    | b :: t => skipScalar (b :: t)
  | depth + 1, s =>
    match skipBlanks s with
    | [] => .error (.peeking .eofInValue [])
    | b :: t =>
      if b = openList then skipElements (skipWithin depth) t
      else if b = openObject then skipMembers (skipWithin depth) t
      else skipScalar (b :: t)

/-- Passes over a value. No more brackets can be open than there are bytes. -/
def skipValue (s : Bytes) : Except Fault Bytes := skipWithin s.length s

end ParityDuel.Json
