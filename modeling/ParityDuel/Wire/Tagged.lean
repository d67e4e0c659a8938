import ParityDuel.Wire.Fields

/-!
# Messages with a kind

A message is an object whose member `type` names its kind, wherever it stands, or a list that begins
with the name of the kind. `readTagged` reads the kind and keeps what stands beside it;
`readKindOnly` reads nothing but the kind of an object, or of a list that has no further element,
and passes over everything else.
-/

namespace ParityDuel.Wire

open Json

/-- The name of the member that holds the kind. -/
def kindMember : String := "type"

/-- A kind and what stands beside it. -/
structure Tagged (κ : Type) where
  kind : κ
  content : Content

/-- A named family of messages: the name and how the names of the kinds are understood. -/
structure Family (κ : Type) where
  name : String
  kinds : List String
  ofName? : String → Option κ

/-- Reads a name out of a fixed set. -/
def readVariant {κ : Type} (kinds : List String) (ofName? : String → Option κ) (s : Bytes) :
    Except Fault (κ × Bytes) :=
  match skipBlanks s with
  | [] => .error (.peeking .eofInValue [])
  | b :: t =>
    if b = quote then
      match readText t with
      | .error f => .error f
      | .ok (name, rest) =>
        match ofName? name with
        | some k => .ok (k, rest)
        | none => .error (.before (.unknownVariant name kinds) rest)
    else .error (wrongKind "variant identifier" (b :: t))

/-- Reads a member of a message: the kind, once, or another member that is kept. -/
def taggedMember {κ : Type} (family : Family κ) (st : Option κ × List Member) (name : String)
    (s : Bytes) : Except Fault ((Option κ × List Member) × Bytes) :=
  if name = kindMember then
    match st.1 with
    | some _ => .error (.before (.duplicateField kindMember) (abandonObject s))
    | none =>
      match readColon s with
      | .error f => .error f
      | .ok t =>
        (readVariant family.kinds family.ofName? t).map fun (k, rest) => ((some k, st.2), rest)
  else
    (pushMember (readValue (depthLimit - 1)) st.2 name s).map fun (ms, rest) => ((st.1, ms), rest)

/-- Reads the elements of a message in a list, its opening bracket having been read. -/
def readTaggedList {κ : Type} (family : Family κ) (s : Bytes) : Except Fault (Tagged κ × Bytes) :=
  match skipBlanks s with
  | [] => .error (.peeking .eofInList [])
  | b :: t =>
    if b = closeList then .error (.before (.missingField kindMember) t)
    else
      match readVariant family.kinds family.ofName? (b :: t) with
      | .error f => .error f
      | .ok (k, rest) =>
        (moreElements (pushElement (readValue (depthLimit - 1))) (rest.length + 1) [] rest).map
          fun (vs, rest) => (⟨k, .items vs.reverse⟩, rest)

/-- Reads a message of a family. -/
def readTagged {κ : Type} (family : Family κ) (s : Bytes) : Except Fault (Tagged κ × Bytes) :=
  match skipBlanks s with
  | [] => .error (.peeking .eofInValue [])
  | b :: t =>
    if b = openObject then
      match readMembers (taggedMember family) (none, []) t with
      | .error f => .error f
      | .ok ((some k, ms), rest) => .ok (⟨k, .members ms.reverse⟩, rest)
      | .ok ((none, _), rest) => .error (.before (.missingField kindMember) rest)
    else if b = openList then readTaggedList family t
    else .error (wrongKind ("internally tagged enum " ++ family.name) (b :: t))

/-- Reads a text that is one message of a family. -/
def decodeTagged {κ α : Type} (family : Family κ) (interpret : Tagged κ → Except Fault α)
    (s : Bytes) : Except Fault α := do
  let (tagged, rest) ← readTagged family s
  let a ← interpret tagged
  endOfText rest
  return a

/-- Reads a text or a null. -/
def readOptionalText (s : Bytes) : Except Fault (Option String × Bytes) :=
  match skipBlanks s with
  | [] => .error (.peeking .eofInValue [])
  | b :: t =>
    if b = 0x6E then (word (asciiBytes "ull") t).map (none, ·)
    else if b = quote then (readText t).map fun (name, rest) => (some name, rest)
    else .error (wrongKind "a string" (b :: t))

/-- Reads the kind out of a member, or passes over the member. -/
def kindMemberOnly (st : Option (Option String)) (name : String) (s : Bytes) :
    Except Fault (Option (Option String) × Bytes) :=
  if name = kindMember then
    match st with
    | some _ => .error (.before (.duplicateField kindMember) (abandonObject s))
    | none =>
      match readColon s with
      | .error f => .error f
      | .ok t => (readOptionalText t).map fun (kind, rest) => (some kind, rest)
  else
    match readColon s with
    | .error f => .error f
    | .ok t => (skipValue t).map (st, ·)

/-- Reads the kind of a message in a list, its opening bracket having been read. -/
def readKindOfList (s : Bytes) : Except Fault (Option String × Bytes) :=
  match skipBlanks s with
  | [] => .error (.peeking .eofInList [])
  | b :: t =>
    if b = closeList then
      .error (.before (.wrongLength 0 ("struct Discriminant with " ++ elementsInWords 1)) t)
    else
      match readOptionalText (b :: t) with
      | .error f => .error f
      | .ok (kind, rest) => (closeListHere rest).map (kind, ·)

/-- Reads the kind of a message, which may be absent or null, and passes over everything else. -/
def readKindOnly (s : Bytes) : Except Fault (Option String × Bytes) :=
  match skipBlanks s with
  | [] => .error (.peeking .eofInValue [])
  | b :: t =>
    if b = openObject then
      (readMembers kindMemberOnly none t).map fun (st, rest) => (st.join, rest)
    else if b = openList then readKindOfList t
    else .error (wrongKind "struct Discriminant" (b :: t))

/-- The kind of a text that is one message. -/
def decodeKind (s : Bytes) : Except Fault (Option String) := do
  let (kind, rest) ← readKindOnly s
  endOfText rest
  return kind

end ParityDuel.Wire
