import ParityDuel.Board

/-!
# Lines

A line is a row, a column or one of the two diagonals. It is complete when one role owns all its
cells, and the first complete line, rows before columns before diagonals, decides the game.
-/

namespace ParityDuel

/-- The five squares of a line, in ascending order. -/
abbrev Line := Vector Square 5

namespace Line

/-- The square in a given row and column. -/
def cell (row column : Fin 5) : Square := ⟨row.val * 5 + column.val, by omega⟩

/-- A row. -/
def row (r : Fin 5) : Line := Vector.ofFn fun i => cell r i

/-- A column. -/
def column (c : Fin 5) : Line := Vector.ofFn fun i => cell i c

/-- The diagonal from the first square to the last. -/
def mainDiagonal : Line := Vector.ofFn fun i => cell i i

/-- The diagonal from the end of the first row to the start of the last. -/
def antiDiagonal : Line := Vector.ofFn fun i => cell i i.rev

/-- All lines, in the order in which they are looked at. -/
def inOrder : List Line :=
  (List.finRange 5).map row ++ (List.finRange 5).map column ++ [mainDiagonal, antiDiagonal]

/-- The role that owns all cells of a line. -/
def owner (b : Board) (l : Line) : Option Role :=
  match Role.owning (b.get l[0]) with
  | none => none
  | some r => if l.toList.all fun s => Role.owning (b.get s) == some r then some r else none

end Line

/-- A won game: who won and by which line. -/
structure Win where
  winner : Role
  line : Line
deriving DecidableEq, Repr

/-- The win that a board shows, by its first complete line. -/
def Board.win? (b : Board) : Option Win :=
  Line.inOrder.findSome? fun l => (l.owner b).map fun r => ⟨r, l⟩

end ParityDuel
