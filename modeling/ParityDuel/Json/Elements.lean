import ParityDuel.Json.Literal

/-!
# Elements of lists and members of objects

The loops over what stands between brackets, folded with a reader for one element or one member. A
member reader gets the name and the text behind it, colon included, so that it can refuse a name
before its value is looked at. The number that bounds a loop is the length of the text: every round
takes at least a comma.
-/

namespace ParityDuel.Json

variable {σ : Type}

/-- Reads the elements behind the first one, up to the closing bracket. -/
def moreElements (element : σ → Bytes → Except Fault (σ × Bytes)) :
    Nat → σ → Bytes → Except Fault (σ × Bytes)
  | 0, _, _ => .error (.before .eofInList [])
  | bound + 1, st, s =>
    match skipBlanks s with
    | [] => .error (.peeking .eofInList [])
    | b :: t =>
      if b = closeList then .ok (st, t)
      else if b = comma then
        match skipBlanks t with
        | [] => .error (.peeking .eofInValue [])
        | c :: u =>
          if c = closeList then .error (.peeking .trailingComma (c :: u))
          else
            match element st (c :: u) with
            | .error f => .error f
            | .ok (st, rest) => moreElements element bound st rest
      else .error (.peeking .expectedListEnd (b :: t))

/-- Reads the elements of a list, its opening bracket having been read. -/
def readElements (element : σ → Bytes → Except Fault (σ × Bytes)) (st : σ) (s : Bytes) :
    Except Fault (σ × Bytes) :=
  match skipBlanks s with
  | [] => .error (.peeking .eofInList [])
  | b :: t =>
    if b = closeList then .ok (st, t)
    else
      match element st (b :: t) with
      | .error f => .error f
      | .ok (st, rest) => moreElements element (rest.length + 1) st rest

/-- Reads one member, the opening quote of its name having been read. -/
def readMember (member : σ → String → Bytes → Except Fault (σ × Bytes)) (st : σ) (s : Bytes) :
    Except Fault (σ × Bytes) :=
  match readText s with
  | .error f => .error f
  | .ok (name, rest) => member st name rest

/-- Reads the members behind the first one, up to the closing bracket. -/
def moreMembers (member : σ → String → Bytes → Except Fault (σ × Bytes)) :
    Nat → σ → Bytes → Except Fault (σ × Bytes)
  | 0, _, _ => .error (.before .eofInObject [])
  | bound + 1, st, s =>
    match skipBlanks s with
    | [] => .error (.peeking .eofInObject [])
    | b :: t =>
      if b = closeObject then .ok (st, t)
      else if b = comma then
        match skipBlanks t with
        | [] => .error (.peeking .eofInValue [])
        | c :: u =>
          if c = quote then
            match readMember member st u with
            | .error f => .error f
            | .ok (st, rest) => moreMembers member bound st rest
          else if c = closeObject then .error (.peeking .trailingComma (c :: u))
          else .error (.peeking .keyNotString (c :: u))
      else .error (.peeking .expectedObjectEnd (b :: t))

/-- Reads the members of an object, its opening bracket having been read. -/
def readMembers (member : σ → String → Bytes → Except Fault (σ × Bytes)) (st : σ) (s : Bytes) :
    Except Fault (σ × Bytes) :=
  match skipBlanks s with
  | [] => .error (.peeking .eofInObject [])
  | b :: t =>
    if b = closeObject then .ok (st, t)
    else if b = quote then
      match readMember member st t with
      | .error f => .error f
      | .ok (st, rest) => moreMembers member (rest.length + 1) st rest
    else .error (.peeking .keyNotString (b :: t))

/-- Accepts the end of a list that may have no further element. -/
def closeListHere (s : Bytes) : Except Fault Bytes :=
  match skipBlanks s with
  | [] => .error (.peeking .eofInList [])
  | b :: t =>
    if b = closeList then .ok t
    else if b = comma then
      match skipBlanks t with
      | [] => .error (.peeking .trailingCharacters [])
      | c :: u =>
        if c = closeList then .error (.peeking .trailingComma (c :: u))
        else .error (.peeking .trailingCharacters (c :: u))
    else .error (.peeking .trailingCharacters (b :: t))

/-- The text behind an object that is given up inside: its closing bracket is taken if it is
next. -/
def abandonObject (s : Bytes) : Bytes :=
  match skipBlanks s with
  | [] => []
  | b :: t => if b = closeObject then t else b :: t

end ParityDuel.Json
