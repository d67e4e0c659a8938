import Mathlib.Tactic.Lemma
import ParityDuel.Board.Line

/-!
# Complete lines

A line belongs to a role when the role owns every cell of it (`Line.OwnedBy`). The win that a board
shows is such a line, and a board shows one whenever there is such a line. A move touches one square
only, so a line that does not pass through it belongs to whom it belonged before.
-/

namespace ParityDuel

/-- A role owns every cell of a line. -/
def Line.OwnedBy (l : Line) (b : Board) (r : Role) : Prop :=
  ∀ q ∈ l, Role.owning (b.get q) = some r

/-- The owner of a line owns all of it, and there is no other. -/
lemma Line.owner_eq_some_iff {l : Line} {b : Board} {r : Role} :
    l.owner b = some r ↔ l.OwnedBy b r := by
  have first : l[0] ∈ l := Vector.getElem_mem _
  unfold owner OwnedBy
  cases h : Role.owning (b.get l[0]) with
  | none =>
    constructor
    · intro e
      cases e
    · intro owned
      rw [owned _ first] at h
      cases h
  | some r' =>
    simp only [List.all_eq_true, Vector.mem_toList_iff, beq_iff_eq]
    constructor
    · intro e
      split at e
      case isTrue all =>
        cases e
        exact all
      case isFalse => cases e
    · intro owned
      have e : some r' = some r := h.symm.trans (owned _ first)
      cases e
      exact if_pos owned

/-- A win is a line that belongs to the winner. -/
lemma Board.win?_eq_some {b : Board} {w : Win} (h : b.win? = some w) :
    w.line ∈ Line.inOrder ∧ w.line.OwnedBy b w.winner := by
  obtain ⟨l, hl, hw⟩ := List.exists_of_findSome?_eq_some h
  obtain ⟨r, hr, rfl⟩ := Option.map_eq_some_iff.1 hw
  exact ⟨hl, Line.owner_eq_some_iff.1 hr⟩

/-- No win means that no line belongs to anybody. -/
lemma Board.win?_eq_none_iff {b : Board} :
    b.win? = none ↔ ∀ l ∈ Line.inOrder, ∀ r, ¬ l.OwnedBy b r := by
  have unowned (l : Line) : l.owner b = none ↔ ∀ r, ¬ l.OwnedBy b r := by
    rw [Option.eq_none_iff_forall_ne_some]
    exact forall_congr' fun r => not_congr Line.owner_eq_some_iff
  unfold win?
  rw [List.findSome?_eq_none_iff]
  simp only [Option.map_eq_none_iff, unowned]

/-- A line that a move does not touch belongs to whom it belonged before. -/
lemma Line.OwnedBy.of_bump {l : Line} {b : Board} {q : Square} {r : Role}
    (owned : l.OwnedBy (b.bump q) r) (apart : q ∉ l) : l.OwnedBy b r := by
  intro p hp
  have ne : q ≠ p := by
    rintro rfl
    exact apart hp
  rw [← Board.get_bump_of_ne b ne]
  exact owned p hp

end ParityDuel
