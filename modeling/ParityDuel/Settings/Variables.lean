import ParityDuel.Settings.Basic

/-!
# Settings from variables

Variables whose name begins with `ODDEVEN_`, in any letter case, hold settings. A name with a point
or a bracket behind the name of a setting makes that setting a map or a list, which it must not be.
An element that no list can have is no setting at all, and the reading of variables breaks off.
`PORT` alone names the port where no address is set; a value that is no port is refused before
anything else is looked at.

Names of settings are made of ASCII characters. Of the letters beyond ASCII only the Kelvin sign is
an ASCII letter in lower case, so no other one changes case here.
-/

namespace ParityDuel.Settings

/-- A variable: its name and its text. -/
abbrev Variable := String × String

/-- What the names of variables for settings begin with, in lower case. -/
def marker : List Char := "oddeven_".toList

/-- The variable that holds a port. -/
def portName : String := "PORT"

/-- What a variable makes of a setting. -/
inductive Entry where
  | leaf (value : Guess)
  | map
  | sequence
deriving DecidableEq, Repr

/-- A character in lower case, as far as names of settings are concerned. -/
def lowerCase (c : Char) : Char := if c = '\u212A' then 'k' else c.toLower

/-- Whether the character may stand in the name of a setting. -/
def isNameChar (c : Char) : Bool :=
  c.isAlphanum || c == ' ' || c == '_' || c == '-'

/-- A step from a setting into what it holds: to a member of a map or to an element of a list. -/
inductive Step where
  | member
  | element (index : Int)
deriving DecidableEq, Repr

/-- Whether the character may stand around the number of a subscript. -/
def isPadding (c : Char) : Bool := c == ' ' || c == '\t'

/-- The number of a subscript at the front of a text, and the text behind the bracket that closes
it. The number is a 64-bit number with a sign. -/
def subscript? (cs : List Char) : Option (Int × List Char) :=
  let cs := cs.dropWhile isPadding
  let (negative, cs) := match cs with
    | '-' :: rest => (true, rest)
    | rest => (false, rest)
  match natural? (cs.takeWhile isDigit), (cs.dropWhile isDigit).dropWhile isPadding with
  | some n, ']' :: rest =>
    let index : Int := if negative then -n else n
    if Int64.minValue.toInt ≤ index ∧ index ≤ Int64.maxValue.toInt then some (index, rest) else none
  | _, _ => none

/-- The steps that a text consists of: points with names, and subscripts. The bound is the length of
the text. -/
def steps? : Nat → List Char → Option (List Step)
  | _, [] => some []
  | 0, _ => none
  | bound + 1, '.' :: cs =>
    if (cs.takeWhile isNameChar).isEmpty then none
    else (steps? bound (cs.dropWhile isNameChar)).map (.member :: ·)
  | bound + 1, '[' :: cs =>
    match subscript? cs with
    | some (index, rest) => (steps? bound rest).map (.element index :: ·)
    | none => none
  | _, _ => none

/-- What a key is about: a setting, and the steps from there. A key that is not well-formed is the
name of a setting of its own. -/
def target (key : List Char) : String × List Step :=
  let name := key.takeWhile isNameChar
  let rest := key.dropWhile isNameChar
  match steps? rest.length rest with
  | some steps => if name.isEmpty then (String.ofList key, []) else (String.ofList name, steps)
  | none => (String.ofList key, [])

/-- The setting that a variable is about and the steps from there, if it is about a setting. -/
def target? (v : Variable) : Option (String × List Step) :=
  let key := v.1.toList.map lowerCase
  if marker.isPrefixOf key then some (target (key.drop marker.length)) else none

/-- What a variable makes of a setting. -/
def entryOf (value : Guess) : List Step → Entry
  | [] => .leaf value
  | .member :: _ => .map
  | .element _ :: _ => .sequence

/-- The entry of a variable, if it is about a setting. -/
def entry? (v : Variable) : Option (String × Entry) :=
  (target? v).map fun (name, steps) => (name, entryOf (Guess.of v.2) steps)

/-- The greatest number of elements that a list can have. -/
def longestList : Nat := 1 <<< 32

/-- Whether there can be what the step leads to. A list becomes as long as the element asks for, but
a negative number counts from the end of a list that has no elements yet. -/
def Step.isPossible : Step → Bool
  | member => true
  | element index => 0 ≤ index && index < longestList

/-- Whether there can be what a variable is about. -/
def isPossible (v : Variable) : Bool :=
  match target? v with
  | some (_, steps) => steps.all Step.isPossible
  | none => true

/-- What the variables make of a setting; a later variable counts more than an earlier one. -/
def lookup (vars : List Variable) (name : String) : Option Entry :=
  (vars.reverse.filterMap entry?).lookup name

/-- A setting that is a text. -/
def textSetting (key : String) : Entry → Except LoadError String
  | .leaf value => .ok value.toText
  | .map => .error (.wrongType "map" "a string" key false)
  | .sequence => .error (.wrongType "sequence" "a string" key false)

/-- A setting that is a count. -/
def countSetting (key : String) : Entry → Except LoadError UInt64
  | .leaf value => value.toCount key
  | .map => .error (.wrongType "map" "an integer" key false)
  | .sequence => .error (.wrongType "sequence" "an integer" key false)

/-- A setting, or what holds without it. -/
def settingOr {α : Type} (read : String → Entry → Except LoadError α) (standard : α)
    (vars : List Variable) (name : String) : Except LoadError α :=
  match lookup vars name with
  | some e => read name e
  | none => .ok standard

/-- The port that a text names. -/
def port? (s : String) : Option Nat :=
  (unsigned? (Blank.trim s.toList)).filter (· < 1 <<< 16)

/-- Why settings could not be taken from variables. -/
inductive Error where
  | load (error : LoadError)
  | fault (fault : SettingsFault)
  /-- A variable is about an element that no list can have. -/
  | noElement
  /-- A variable that no process can have. -/
  | noVariable
deriving DecidableEq, Repr

/-- The address where none is set. -/
def standardAddress (vars : List Variable) : Except SettingsFault String :=
  match vars.reverse.lookup portName with
  | none => .ok ServerSettings.standard.address
  | some text =>
    match port? text with
    | some port => .ok (ServerSettings.addressOfPort port)
    | none => .error (.badPort text)

/-- The settings that variables hold, not yet checked. -/
def read (vars : List Variable) (address : String) : Except LoadError ServerSettings := do
  let address ← settingOr textSetting address vars "addr"
  let queue ← settingOr countSetting ServerSettings.standard.queue vars "command_buffer"
  let idle ← settingOr (fun key e => (countSetting key e).map fun n => some (Span.ofSeconds n)) none
    vars "idle_timeout_secs"
  return ⟨address, queue, idle⟩

/-- The settings that variables hold. -/
def ofVariables (vars : List Variable) : Except Error ServerSettings :=
  match standardAddress vars with
  | .error f => .error (.fault f)
  | .ok address =>
    if vars.all isPossible then
      match read vars address with
      | .error e => .error (.load e)
      | .ok settings =>
        match settings.validate with
        | .error f => .error (.fault f)
        | .ok () => .ok settings
    else .error .noElement

end ParityDuel.Settings
