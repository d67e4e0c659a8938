import ParityDuel.Decimal.Shortest
import ParityDuel.Text.Quoted

/-!
# JSON values

The tree of a JSON text. Members of an object keep their order and may repeat a name. A number is a
word, a negative 64-bit number, or of double precision if it is neither.
-/

namespace ParityDuel.Json

/-- A JSON value. -/
inductive Value where
  | null
  | boolean (b : Bool)
  | unsigned (n : UInt64)
  | signed (n : Int64)
  | float (x : Binary64)
  | text (s : String)
  | list (items : List Value)
  | object (members : List (String × Value))
deriving Inhabited

/-- What a reader met where it wanted something else. -/
inductive Found where
  | null
  | boolean (b : Bool)
  | unsigned (n : UInt64)
  | signed (n : Int64)
  | float (x : Binary64)
  | text (s : String)
  | sequence
  | map
deriving DecidableEq, Repr

/-- The kind of a value, as error messages tell it. -/
def Value.found : Value → Found
  | .null => .null
  | .boolean b => .boolean b
  | .unsigned n => .unsigned n
  | .signed n => .signed n
  | .float x => .float x
  | .text s => .text s
  | .list _ => .sequence
  | .object _ => .map

/-- Error messages write a number out in full if its leading digit stands for `10 ^ -5` to
`10 ^ 15`, and keep a fraction of zero. -/
def floatStyle : FloatStyle := ⟨fun e => -5 ≤ e && e ≤ 15, ".0", .even⟩

namespace Found

/-- The words for what was met. -/
def describe : Found → String
  | null => "null"
  | boolean b => "boolean `" ++ (if b then "true" else "false") ++ "`"
  | unsigned n => "integer `" ++ toString n.toNat ++ "`"
  | signed n => "integer `" ++ toString n.toInt ++ "`"
  | float x => "floating point `" ++ x.write floatStyle ++ "`"
  | text s => "string " ++ Quoted.quote s
  | sequence => "sequence"
  | map => "map"

end Found

end ParityDuel.Json
