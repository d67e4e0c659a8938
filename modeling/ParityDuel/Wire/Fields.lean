import ParityDuel.Json.Tree
import ParityDuel.Message

/-!
# Fields of messages

Taking the parts of a message out of a value that has been read. An object gives fields by name:
members are checked in the order in which they stand, unknown ones are passed over, a known one must
not come twice. A list gives fields by position. Faults have no place, because the text is behind.
-/

namespace ParityDuel.Wire

open Json (Value Found Cause Fault)

/-- A member of an object. -/
abbrev Member := String × Value

/-- A 64-bit number with a sign. -/
def signedField : Value → Except Fault Int64
  | .unsigned n =>
    if n.toNat < 1 <<< 63 then .ok (Int64.ofNat n.toNat)
    else .error (.within (.wrongValue (.unsigned n) "i64"))
  | .signed n => .ok n
  | v => .error (.within (.wrongType v.found "i64"))

/-- A word; `name` is what messages about it call its type. -/
def wordField (name : String) : Value → Except Fault UInt64
  | .unsigned n => .ok n
  | .signed n => .error (.within (.wrongValue (.signed n) name))
  | v => .error (.within (.wrongType v.found name))

/-- A text. -/
def textField : Value → Except Fault String
  | .text s => .ok s
  | v => .error (.within (.wrongType v.found "a string"))

/-- The role of a name. -/
def roleNamed (s : String) : Except Fault Role :=
  match Role.ofName? s with
  | some r => .ok r
  | none => .error (.within (.unknownVariant s Role.names))

/-- A role: its name, or an object whose only member has the name and no content. -/
def roleField : Value → Except Fault Role
  | .text s => roleNamed s
  | .object [(name, v)] =>
    match roleNamed name with
    | .error f => .error f
    | .ok r =>
      match v with
      | .null => .ok r
      | .object [] => .ok r
      | v => .error (.within (.wrongType v.found "unit"))
  | .object _ => .error (.within (.wrongValue .map "map with a single key"))
  | v => .error (.within (.wrongType v.found "string or map"))

/-- `count` elements in words. -/
def elementsInWords (count : Nat) : String :=
  toString count ++ (if count = 1 then " element" else " elements")

/-- The first `count` elements, each read as a word; `total` are wanted and `done` are behind. -/
def wordsFrom (name : String) (total : Nat) : Nat → Nat → List Value →
    Except Fault (List UInt64 × List Value)
  | _, 0, rest => .ok ([], rest)
  | done, _ + 1, [] =>
    .error (.within (.wrongLength done ("an array of length " ++ toString total)))
  | done, count + 1, v :: rest =>
    match wordField name v with
    | .error f => .error f
    | .ok n => (wordsFrom name total (done + 1) count rest).map fun (ns, rest) => (n :: ns, rest)

/-- A list of exactly `count` words. -/
def wordsField (name : String) (count : Nat) : Value → Except Fault (Vector UInt64 count)
  | .list items =>
    match wordsFrom name count 0 count items with
    | .error f => .error f
    | .ok (ns, rest) =>
      if h : ns.length = count ∧ rest.isEmpty then .ok ⟨ns.toArray, h.1⟩
      else
        .error (.within (.wrongLength items.length (elementsInWords count ++ " in sequence")))
  | v => .error (.within (.wrongType v.found ("an array of length " ++ toString count)))

/-- A board. -/
def boardField (v : Value) : Except Fault Board := (wordsField "u64" 25 v).map Board.mk

/-- The cells of a line. -/
def lineField : Value → Except Fault (Vector UInt64 5) := wordsField "usize" 5

/-- A square or a count. -/
def indexField : Value → Except Fault UInt64 := wordField "usize"

/-- A field of a message: its name and a check of its value. -/
structure Field where
  name : String
  check : Value → Except Fault Unit

/-- Checks the members in the order in which they stand; `seen` are the names behind. -/
def checkMembers (fields : List Field) : List String → List Member → Except Fault Unit
  | _, [] => .ok ()
  | seen, (name, v) :: rest =>
    match fields.find? (·.name == name) with
    | none => checkMembers fields seen rest
    | some field =>
      if seen.contains name then .error (.within (.duplicateField name))
      else
        match field.check v with
        | .error f => .error f
        | .ok () => checkMembers fields (name :: seen) rest

/-- The field of a name. -/
def named {α : Type} (name : String) (read : Value → Except Fault α) (members : List Member) :
    Except Fault α :=
  match members.lookup name with
  | some v => read v
  | none => .error (.within (.missingField name))

/-- The next field of a list; `done` are behind, and `whole` names the message. -/
def positioned {α : Type} (whole : String) (done : Nat) (read : Value → Except Fault α) :
    List Value → Except Fault (α × List Value)
  | [] => .error (.within (.wrongLength done whole))
  | v :: rest => (read v).map (·, rest)

/-- Accepts the end of a list of `count` fields. -/
def noFurther (count : Nat) : List Value → Except Fault Unit
  | [] => .ok ()
  | rest =>
    .error (.within (.wrongLength (count + rest.length) (elementsInWords count ++ " in sequence")))

/-- What stands beside the kind of a message: members by name or elements by position. -/
inductive Content where
  | members (ms : List Member)
  | items (vs : List Value)

/-- A check that a value can be read. -/
def reads {α : Type} (read : Value → Except Fault α) (v : Value) : Except Fault Unit :=
  (read v).map fun _ => ()

/-- A message of one field. -/
def oneField {α : Type} (whole name : String) (read : Value → Except Fault α) :
    Content → Except Fault α
  | .members ms => do
    checkMembers [⟨name, reads read⟩] [] ms
    named name read ms
  | .items vs => do
    let (a, rest) ← positioned (whole ++ " with " ++ elementsInWords 1) 0 read vs
    noFurther 1 rest
    return a

/-- A message of two fields. -/
def twoFields {α β : Type} (whole name₁ : String) (read₁ : Value → Except Fault α) (name₂ : String)
    (read₂ : Value → Except Fault β) : Content → Except Fault (α × β)
  | .members ms => do
    checkMembers [⟨name₁, reads read₁⟩, ⟨name₂, reads read₂⟩] [] ms
    return (← named name₁ read₁ ms, ← named name₂ read₂ ms)
  | .items vs => do
    let whole := whole ++ " with " ++ elementsInWords 2
    let (a, rest) ← positioned whole 0 read₁ vs
    let (b, rest) ← positioned whole 1 read₂ rest
    noFurther 2 rest
    return (a, b)

/-- A message of three fields. -/
def threeFields {α β γ : Type} (whole name₁ : String) (read₁ : Value → Except Fault α)
    (name₂ : String) (read₂ : Value → Except Fault β) (name₃ : String)
    (read₃ : Value → Except Fault γ) : Content → Except Fault (α × β × γ)
  | .members ms => do
    checkMembers [⟨name₁, reads read₁⟩, ⟨name₂, reads read₂⟩, ⟨name₃, reads read₃⟩] [] ms
    return (← named name₁ read₁ ms, ← named name₂ read₂ ms, ← named name₃ read₃ ms)
  | .items vs => do
    let whole := whole ++ " with " ++ elementsInWords 3
    let (a, rest) ← positioned whole 0 read₁ vs
    let (b, rest) ← positioned whole 1 read₂ rest
    let (c, rest) ← positioned whole 2 read₃ rest
    noFurther 3 rest
    return (a, b, c)

/-- A message without fields: members are passed over, elements are not. -/
def noFields : Content → Except Fault Unit
  | .members _ => .ok ()
  | .items vs => noFurther 0 vs

end ParityDuel.Wire
