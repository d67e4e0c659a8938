import ParityDuel.Settings.Variables
import ParityDuel.Text.Letter

/-!
# Files of variables

A file of lines `NAME=value` adds variables to those of a process; a variable that is there already
keeps its value. Values may be quoted, weakly with escapes and substitutions or strongly without
either, and a quoted value may go on over the end of a line. The first line that makes no sense ends
the file; what was before it counts.
-/

namespace ParityDuel.Settings.Dotenv

/-- How a line stands with quotes and escapes after some of its characters. -/
inductive Quoting where
  | complete
  | blank
  | escape
  | strong
  | strongEscape
  | weak
  | weakEscape
deriving DecidableEq, Repr

namespace Quoting

/-- What a character opens outside quotes. -/
def opened (c : Char) : Quoting :=
  if c = '\\' then escape
  else if c = '\x22' then weak
  else if c = '\x27' then strong
  else complete

/-- The state after a character; none if a comment begins with it. -/
def next? : Quoting → Char → Option Quoting
  | blank, c => if c = '#' then none else some (opened c)
  | escape, _ => some complete
  | complete, c =>
    if Blank.isBlank c && c != '\n' && c != '\r' then some blank else some (opened c)
  | weak, c =>
    if c = '\\' then some weakEscape else if c = '\x22' then some complete else some weak
  | weakEscape, _ => some weak
  | strong, c =>
    if c = '\\' then some strongEscape else if c = '\x27' then some complete else some strong
  | strongEscape, _ => some strong

/-- The characters of a line before a comment, and the state at the end of the line; none if there
is a comment. -/
def scan : Quoting → List Char → List Char × Option Quoting
  | q, [] => ([], some q)
  | q, c :: cs =>
    match q.next? c with
    | none => ([], none)
    | some q =>
      let (kept, ending) := scan q cs
      (c :: kept, ending)

end Quoting

/-- A text in lines, each with its line break. -/
def lines : List Char → List (List Char)
  | [] => []
  | c :: cs =>
    if c = '\n' then [c] :: lines cs
    else
      match lines cs with
      | [] => [[c]]
      | l :: ls => (c :: l) :: ls

/-- A line without its line break. -/
def chomp (l : List Char) : List Char :=
  match l.reverse with
  | '\n' :: '\r' :: rest => rest.reverse
  | '\n' :: rest => rest.reverse
  | _ => l

/-- A text in entries: lines that belong together because of quotes make one. The last entry is none
if the text ends within quotes. -/
def entries (q : Quoting) (before : List Char) : List (List Char) → List (Option (List Char))
  | [] => if q = .complete then [] else [none]
  | line :: rest =>
    let text := before ++ line
    if (Blank.trimLeft text).head? = some '#' then some [] :: entries .complete [] rest
    else
      match q.scan line with
      | (kept, none) => some (before ++ kept) :: entries .complete [] rest
      | (_, some .complete) => some (chomp text) :: entries .complete [] rest
      | (_, some q) => entries q text rest

/-- The name at the front of a text, and the rest. -/
def name? (cs : List Char) : Option (List Char × List Char) :=
  match cs with
  | c :: _ =>
    if c.isAlpha || c == '_' then
      let isInner (c : Char) : Bool := c.isAlphanum || c == '_' || c == '.'
      some (cs.takeWhile isInner, cs.dropWhile isInner)
    else none
  | [] => none

/-- The text behind an equals sign. -/
def afterEquals? : List Char → Option (List Char)
  | '=' :: cs => some cs
  | _ => none

/-- Where the reading of a value stands. `within` tells whether weak quotes are open. -/
inductive Mode where
  | plain
  | ended
  | weak
  | strong
  | escaped (within : Bool)
  | bare (within : Bool) (name : List Char)
  | braced (within : Bool) (name : List Char)

/-- Outside or inside weak quotes. -/
def Mode.back (within : Bool) : Mode := if within then weak else plain

/-- The value at the front of a text; `get` gives the values of names. -/
def value? (get : List Char → List Char) : Mode → List Char → Option (List Char)
  | .plain, [] => some []
  | .ended, [] => some []
  | .escaped false, [] => some []
  | .bare false name, [] => some (get name)
  | _, [] => none
  | .ended, c :: cs =>
    if c = ' ' ∨ c = '\t' then value? get .ended cs else if c = '#' then some [] else none
  | .escaped within, c :: cs =>
    if c = 'n' then (value? get (.back within) cs).map ('\n' :: ·)
    else if c = '\\' ∨ c = '\x27' ∨ c = '\x22' ∨ c = '$' ∨ c = ' ' then
      (value? get (.back within) cs).map (c :: ·)
    else none
  | .strong, c :: cs =>
    if c = '\x27' then value? get .plain cs else (value? get .strong cs).map (c :: ·)
  | .bare within name, c :: cs =>
    if Letter.isAlphanumeric c then value? get (.bare within (name ++ [c])) cs
    else if c = '\x7b' ∧ name = [] then value? get (.braced within []) cs
    else if c = '$' then (value? get (.bare within []) cs).map (get name ++ ·)
    else (value? get (.back within) cs).map (get name ++ c :: ·)
  | .braced within name, c :: cs =>
    if c = '\x7d' then (value? get (.back within) cs).map (get name ++ ·)
    else value? get (.braced within (name ++ [c])) cs
  | .weak, c :: cs =>
    if c = '$' then value? get (.bare true []) cs
    else if c = '\x22' then value? get .plain cs
    else if c = '\\' then value? get (.escaped true) cs
    else (value? get .weak cs).map (c :: ·)
  | .plain, c :: cs =>
    if c = '$' then value? get (.bare false []) cs
    else if c = '\x27' then value? get .strong cs
    else if c = '\x22' then value? get .weak cs
    else if c = '\\' then value? get (.escaped false) cs
    else if c = ' ' ∨ c = '\t' then value? get .ended cs
    else (value? get .plain cs).map (c :: ·)

/-- Whether a process can have the variable: its name is not empty and has no equals sign in it, and
neither name nor text has a character of number zero. -/
def isStorable (v : Variable) : Bool :=
  v.1 ≠ "" && v.1.toList.all (fun c => c != '=' && c != '\x00') && v.2.toList.all (· != '\x00')

/-- The variables of a process after one more has been set. A name keeps the place where it was set
first. -/
def put (vars : List Variable) (v : Variable) : List Variable :=
  if vars.any (·.1 == v.1) then vars.map fun w => if w.1 = v.1 then v else w else vars ++ [v]

/-- The text that a name stands for; nothing without it. A process keeps each variable as one text
`NAME=value`, and the first that begins with the name and an equals sign is taken, so that a name
with an equals sign of its own reaches into a value. -/
def textOf (vars : List Variable) (name : List Char) : List Char :=
  let wanted := name ++ ['=']
  let kept := vars.map fun (n, text) => n.toList ++ '=' :: text.toList
  match kept.find? wanted.isPrefixOf with
  | some entry => entry.drop wanted.length
  | none => []

/-- The name that an entry sets and the text behind the equals sign. The word `export` may stand
before the name, and is a name itself where an equals sign follows it. -/
def target? (entry : List Char) : Option (List Char × List Char) := do
  let (name, rest) ← name? entry
  match afterEquals? (Blank.trimLeft rest) with
  | some rest => some (name, rest)
  | none =>
    if name = "export".toList then do
      let (name, rest) ← name? (Blank.trimLeft rest)
      (afterEquals? (Blank.trimLeft rest)).map (name, ·)
    else none

/-- Whether nothing but a comment follows. -/
def isBare (cs : List Char) : Bool := cs.isEmpty || cs.head? == some '#'

/-- What an entry adds: nothing, or a variable; none if it makes no sense. -/
def read? (vars : List Variable) (entry : List Char) : Option (Option Variable) := do
  let cs := Blank.trim entry
  if isBare cs then some none
  else
    let (name, rest) ← target? cs
    let rest := Blank.trimLeft rest
    if isBare rest then some (some (String.ofList name, ""))
    else
      (value? (textOf vars) .plain rest).map fun value =>
        some (String.ofList name, String.ofList value)

/-- Adds a variable unless there is one of its name; none if no process can have it. -/
def add (vars : List Variable) (v : Variable) : Option (List Variable) :=
  if vars.any (·.1 == v.1) then some vars
  else if isStorable v then some (vars ++ [v])
  else none

/-- The variables together with those of the entries. -/
def extend (vars : List Variable) : List (Option (List Char)) → Option (List Variable)
  | [] => some vars
  | none :: _ => some vars
  | some entry :: rest =>
    match read? vars entry with
    | none => some vars
    | some none => extend vars rest
    | some (some v) => (add vars v).bind (extend · rest)

/-- A text without the mark of its byte order. -/
def unmarked : List Char → List Char
  | '\ufeff' :: cs => cs
  | cs => cs

/-- The variables together with those of a file. -/
def load (vars : List Variable) (file : String) : Option (List Variable) :=
  extend vars (entries .complete [] (lines (unmarked file.toList)))

end Dotenv

/-- The settings that the variables of a process, set one after the other, and of a file hold. -/
def ofEnvironment (vars : List Variable) (file : String) : Except Error ServerSettings :=
  if vars.all Dotenv.isStorable then
    match Dotenv.load (vars.foldl Dotenv.put []) file with
    | some vars => ofVariables vars
    | none => .error .noVariable
  else .error .noVariable

end ParityDuel.Settings
