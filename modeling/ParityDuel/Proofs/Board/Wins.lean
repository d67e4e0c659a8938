import Mathlib.Algebra.Ring.Parity
import ParityDuel.Proofs.Board.Lines

/-!
# The win that a board shows

A line is full for a role (`Line.IsFull`) when each of its counters has been touched and has the
parity of the role. The owner of a line is the role that it is full for, so the win of a board is
the first line, in the order of `Line.table`, that is full for anybody (`first_full_line_wins`).
Boards of which every counter is untouched in both or in neither, with the same parity, therefore
show the same win (`Board.Resembles`).
-/

namespace ParityDuel

/-- A counter is one of those that a role plays for: it has been touched, and has the parity of the
role. -/
def Role.PlaysFor (r : Role) (value : UInt64) : Prop :=
  value ≠ 0 ∧ match r with
    | .odd => Odd value.toNat
    | .even => Even value.toNat

/-- The owner of a counter is the role that plays for it. -/
lemma Role.owning_eq_some_iff {value : UInt64} {r : Role} :
    owning value = some r ↔ r.PlaysFor value := by
  have parity : value % 2 = 1 ↔ Odd value.toNat := by
    rw [← UInt64.toNat_inj, UInt64.toNat_mod, Nat.odd_iff]
    rfl
  unfold owning PlaysFor
  by_cases untouched : value = 0
  · simp [untouched]
  · rw [if_neg untouched]
    by_cases odd : Odd value.toNat
    · rw [if_pos (parity.2 odd)]
      cases r with
      | odd => simp [untouched, odd]
      | even => simp [odd]
    · rw [if_neg (mt parity.1 odd)]
      cases r with
      | odd => simp [odd]
      | even => simp [untouched, Nat.not_odd_iff_even.1 odd]

namespace Line

/-- The numbers of the squares of all lines: the rows from top to bottom, the columns from left to
right, and the two diagonals. -/
def table : List (List Nat) :=
  [[0, 1, 2, 3, 4], [5, 6, 7, 8, 9], [10, 11, 12, 13, 14], [15, 16, 17, 18, 19],
    [20, 21, 22, 23, 24],
    [0, 5, 10, 15, 20], [1, 6, 11, 16, 21], [2, 7, 12, 17, 22], [3, 8, 13, 18, 23],
    [4, 9, 14, 19, 24],
    [0, 6, 12, 18, 24], [4, 8, 12, 16, 20]]

/-- The numbers of the squares of a line. -/
def numbers (l : Line) : List Nat := l.toList.map Fin.val

/-- A role plays for every counter of a line. -/
def IsFull (l : Line) (b : Board) (r : Role) : Prop := ∀ q ∈ l, r.PlaysFor (b.get q)

/-- A line belongs to the role that it is full for. -/
lemma ownedBy_iff {l : Line} {b : Board} {r : Role} : l.OwnedBy b r ↔ l.IsFull b r := by
  unfold OwnedBy IsFull
  apply forall₂_congr
  intro q _
  exact Role.owning_eq_some_iff

/-- A line has no owner when it is full for nobody. -/
lemma owner_eq_none_iff {l : Line} {b : Board} : l.owner b = none ↔ ∀ r, ¬ l.IsFull b r := by
  rw [Option.eq_none_iff_forall_ne_some]
  apply forall_congr'
  intro r
  rw [Ne, owner_eq_some_iff, ownedBy_iff]

/-- Lines are looked at in the order of the table. -/
lemma inOrder_eq_table : inOrder.map numbers = table := by
  decide

end Line

namespace Board

/-- Boards with the same counters, but that a touched counter may have any other value of its parity
that is not zero. -/
def Resembles (b b' : Board) : Prop :=
  ∀ q, b'.get q = b.get q ∨
    b.get q ≠ 0 ∧ b'.get q ≠ 0 ∧ (b'.get q).toNat % 2 = (b.get q).toNat % 2

instance (b b' : Board) : Decidable (b.Resembles b') := Nat.decidableForallFin _

/-- The win of a board is the first line that is full, and the role that it is full for. -/
lemma win?_eq_some_iff {b : Board} {w : Win} :
    b.win? = some w ↔ ∃ before after, Line.inOrder = before ++ w.line :: after ∧
      w.line.IsFull b w.winner ∧ ∀ l ∈ before, ∀ r, ¬ l.IsFull b r := by
  obtain ⟨winner, line⟩ := w
  unfold win?
  rw [List.findSome?_eq_some_iff]
  constructor
  · rintro ⟨before, l, after, order, found, none⟩
    obtain ⟨r, owner, win⟩ := Option.map_eq_some_iff.1 found
    rw [Win.mk.injEq] at win
    obtain ⟨rfl, rfl⟩ := win
    refine ⟨before, after, order, ?_, ?_⟩
    · exact Line.ownedBy_iff.1 (Line.owner_eq_some_iff.1 owner)
    · intro k hk
      exact Line.owner_eq_none_iff.1 (Option.map_eq_none_iff.1 (none k hk))
  · rintro ⟨before, after, order, full, none⟩
    refine ⟨before, line, after, order, ?_, ?_⟩
    · rw [Line.owner_eq_some_iff.2 (Line.ownedBy_iff.2 full)]
      rfl
    · intro k hk
      rw [Line.owner_eq_none_iff.2 (none k hk)]
      rfl

/-- Touched counters of one parity have the same owner. -/
lemma Resembles.owning_eq {b b' : Board} (same : b.Resembles b') (q : Square) :
    Role.owning (b'.get q) = Role.owning (b.get q) := by
  obtain equal | ⟨touched, touched', parity⟩ := same q
  · rw [equal]
  · apply Option.ext
    intro r
    rw [Role.owning_eq_some_iff, Role.owning_eq_some_iff]
    apply and_congr (iff_of_true touched' touched)
    cases r with
    | odd => rw [Nat.odd_iff, Nat.odd_iff, parity]
    | even => rw [Nat.even_iff, Nat.even_iff, parity]

/-- Boards of the same parities have the same first full line. -/
lemma Resembles.win?_eq {b b' : Board} (same : b.Resembles b') : b'.win? = b.win? := by
  have owner : ∀ l : Line, l.owner b' = l.owner b := by
    intro l
    simp only [Line.owner, same.owning_eq]
  simp only [win?, owner]

/-- Lines are looked at in the order of the table. On every board, a win is the first line of which
all counters have been touched and have one parity, with the role of this parity as the winner; and
there is no win if and only if there is no such line. So a board that differs by touched counters of
the same parity shows the same win. -/
theorem first_full_line_wins :
    Line.inOrder.map Line.numbers = Line.table ∧
    (∀ (b : Board) (w : Win), b.win? = some w ↔
      ∃ before after, Line.inOrder = before ++ w.line :: after ∧
        w.line.IsFull b w.winner ∧ ∀ l ∈ before, ∀ r, ¬ l.IsFull b r) ∧
    (∀ b : Board, b.win? = none ↔ ∀ l ∈ Line.inOrder, ∀ r, ¬ l.IsFull b r) ∧
    ∀ b b' : Board, b.Resembles b' → b'.win? = b.win? := by
  refine ⟨Line.inOrder_eq_table, ?_, ?_, ?_⟩
  · intro b w
    exact win?_eq_some_iff
  · intro b
    rw [win?_eq_none_iff]
    simp only [Line.ownedBy_iff]
  · intro b b' same
    exact same.win?_eq

/-- The middle row and the middle column are full for even, and the first row is not full because a
counter of it has not been touched. -/
def crossed : Board :=
  ⟨#v[2, 2, 4, 2, 0,
      1, 0, 4, 0, 0,
      2, 2, 2, 2, 2,
      0, 0, 4, 3, 0,
      0, 0, 4, 0, 1]⟩

/-- The same lines are full, with greater counters in them. -/
def crossedLater : Board :=
  ⟨#v[2, 2, 8, 2, 0,
      1, 0, 4, 0, 0,
      6, 2, 2, 2, 18446744073709551614,
      0, 0, 4, 5, 0,
      0, 0, 4, 0, 7]⟩

/-- The row comes before the column, whatever the counters are. -/
theorem first_full_line_wins_crossed :
    crossed.Resembles crossedLater ∧ crossed.win? = some ⟨.even, Line.row 2⟩ ∧
      crossedLater.win? = some ⟨.even, Line.row 2⟩ := by
  obtain ⟨-, first, -, stays⟩ := first_full_line_wins
  have same : crossed.Resembles crossedLater := by decide +kernel
  have win : crossed.win? = some ⟨.even, Line.row 2⟩ := by decide +kernel
  exact ⟨same, win, (stays _ _ same).trans win⟩

end Board

end ParityDuel
