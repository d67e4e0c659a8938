import ParityDuel.Refusal
import ParityDuel.Role

/-!
# The board

Five by five cells, each a counter that starts at zero. A move adds one to the counter of a square;
counters are words.
-/

namespace ParityDuel

/-- The number of cells in a row, in a column and in a line. -/
def side : Nat := 5

/-- A square of the board, counted along the rows. -/
abbrev Square := Fin 25

/-- The square a player names. -/
def Square.ofNumber (n : Int64) : Except Refusal Square :=
  if h : n.toInt.toNat < 25 then
    if 0 ≤ n then .ok ⟨n.toInt.toNat, h⟩ else .error (.outOfRange n)
  else .error (.outOfRange n)

/-- The number of a square. -/
def Square.number (s : Square) : UInt64 := s.val.toUInt64

/-- The counters, in the order of the squares. -/
structure Board where
  cells : Vector UInt64 25
deriving DecidableEq, Repr

namespace Board

/-- The board before the first move. -/
def empty : Board := ⟨Vector.replicate 25 0⟩

/-- The counter of a square. -/
def get (b : Board) (s : Square) : UInt64 := b.cells[s]

/-- The board after a move on a square. -/
def bump (b : Board) (s : Square) : Board := ⟨b.cells.set s (b.get s + 1)⟩

/-- Whether no cell has been touched. -/
def isEmpty (b : Board) : Bool := b.cells.all (· == 0)

/-- The counter at an index, if the board reaches so far. -/
def get? (b : Board) (index : UInt64) : Option UInt64 := b.cells[index.toNat]?

/-- An index as the number of a square, the greatest number standing for all beyond it. -/
def clampIndex (index : UInt64) : Int64 :=
  if index.toNat < 1 <<< 63 then Int64.ofNat index.toNat else Int64.ofNat ((1 <<< 63) - 1)

/-- Adds one at an index: the new counter and the board. -/
def increment (b : Board) (index : UInt64) : Except Refusal (UInt64 × Board) :=
  if h : index.toNat < 25 then .ok (b.get ⟨index.toNat, h⟩ + 1, b.bump ⟨index.toNat, h⟩)
  else .error (.outOfRange (clampIndex index))

@[simp] theorem get_empty (s : Square) : empty.get s = 0 := by
  simp [empty, get]

@[simp] theorem get_bump_self (b : Board) (s : Square) : (b.bump s).get s = b.get s + 1 := by
  simp [bump, get]

theorem get_bump_of_ne (b : Board) {s t : Square} (h : s ≠ t) : (b.bump s).get t = b.get t := by
  have h' : s.val ≠ t.val := fun e => h (Fin.ext e)
  simp [bump, get, h']

end Board

end ParityDuel
