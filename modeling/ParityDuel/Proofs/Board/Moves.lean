import Mathlib.Data.List.Iterate
import Mathlib.Tactic.Lemma
import ParityDuel.Board

/-!
# Moves on the board

What a list of moves makes of a board (`Board.bumpAll`), and the counters that its moves lead to
(`Board.counters`). Moves commute, so the board after them depends only on how often each square is
played (`bumpAll_perm`), and so do the counters of one square, which count on from where it stood
(`counters_at`).
-/

namespace ParityDuel

namespace Board

/-- The board after moves, one after the other. -/
def bumpAll (b : Board) (qs : List Square) : Board := qs.foldl bump b

/-- Moves, each with the counter that it leads to. -/
def counters (b : Board) : List Square → List (Square × UInt64)
  | [] => []
  | q :: qs => (q, (b.bump q).get q) :: (b.bump q).counters qs

/-- A board is what it has on its squares. -/
lemma ext_get {b b' : Board} (h : ∀ q, b.get q = b'.get q) : b = b' := by
  obtain ⟨cells⟩ := b
  obtain ⟨cells'⟩ := b'
  congr 1
  apply Vector.ext
  intro i hi
  exact h ⟨i, hi⟩

/-- Two moves commute. -/
lemma bump_comm (b : Board) (p q : Square) : (b.bump p).bump q = (b.bump q).bump p := by
  by_cases e : p = q
  · rw [e]
  apply ext_get
  intro i
  by_cases hq : q = i
  · subst hq
    rw [get_bump_self, get_bump_of_ne _ e, get_bump_of_ne _ e, get_bump_self]
  · rw [get_bump_of_ne _ hq]
    by_cases hp : p = i
    · subst hp
      rw [get_bump_self, get_bump_self, get_bump_of_ne _ hq]
    · rw [get_bump_of_ne _ hp, get_bump_of_ne _ hp, get_bump_of_ne _ hq]

/-- The order of moves does not matter to the board. -/
lemma bumpAll_perm {b : Board} {qs qs' : List Square} (same : qs.Perm qs') :
    b.bumpAll qs = b.bumpAll qs' :=
  same.foldl_eq' (fun p _ q _ c => bump_comm c p q) b

lemma bumpAll_append (b : Board) (qs qs' : List Square) :
    b.bumpAll (qs ++ qs') = (b.bumpAll qs).bumpAll qs' :=
  List.foldl_append

/-- What is counted later is counted on the later board. -/
lemma counters_append (b : Board) (qs qs' : List Square) :
    b.counters (qs ++ qs') = b.counters qs ++ (b.bumpAll qs).counters qs' := by
  induction qs generalizing b with
  | nil => rfl
  | cons q qs ih => exact congrArg _ (ih (b.bump q))

/-- One counter is told for each square that is bumped. -/
lemma map_fst_counters (b : Board) (qs : List Square) : (b.counters qs).map Prod.fst = qs := by
  induction qs generalizing b with
  | nil => rfl
  | cons q qs ih => exact congrArg _ (ih (b.bump q))

lemma toNat_add_one {v : UInt64} (h : v.toNat + 1 < 2 ^ 64) : (v + 1).toNat = v.toNat + 1 := by
  rw [UInt64.toNat_add]
  exact Nat.mod_eq_of_lt h

/-- A bump adds one, short of the top. -/
lemma toNat_get_bump {b : Board} {q : Square} (h : (b.get q).toNat + 1 < 2 ^ 64) :
    ((b.bump q).get q).toNat = (b.get q).toNat + 1 := by
  rw [get_bump_self, toNat_add_one h]

/-- After moves a counter has grown by the number of moves on its square. -/
lemma toNat_get_bumpAll {b : Board} {qs : List Square} {i : Square}
    (fit : (b.get i).toNat + qs.count i < 2 ^ 64) :
    ((b.bumpAll qs).get i).toNat = (b.get i).toNat + qs.count i := by
  induction qs generalizing b with
  | nil => rfl
  | cons q qs ih =>
    show (((b.bump q).bumpAll qs).get i).toNat = _
    by_cases e : q = i
    · subst e
      rw [List.count_cons_self] at fit ⊢
      have grown := toNat_get_bump (b := b) (q := q) (by omega)
      rw [ih (by omega)]
      omega
    · rw [List.count_cons_of_ne e] at fit ⊢
      have same := get_bump_of_ne b e
      rw [ih (by rwa [same]), same]

/-- The counters of one square count on from the one before the moves. -/
lemma counters_at (b : Board) (qs : List Square) (i : Square) :
    ((b.counters qs).filter (·.1 = i)).map Prod.snd =
      List.iterate (· + 1) (b.get i + 1) (qs.count i) := by
  induction qs generalizing b with
  | nil => rfl
  | cons q qs ih =>
    by_cases e : q = i
    · subst e
      rw [counters, List.filter_cons_of_pos (by simp), List.map_cons, ih, get_bump_self,
        List.count_cons_self]
      rfl
    · rw [counters, List.filter_cons_of_neg (by simpa using e), ih, get_bump_of_ne b e,
        List.count_cons_of_ne e]

/-- Words that count on are numbers that count on, as long as they fit. -/
lemma map_toNat_iterate {v : UInt64} {n : Nat} (fit : v.toNat + n ≤ 2 ^ 64) :
    (List.iterate (· + 1) v n).map UInt64.toNat = List.range' v.toNat n := by
  induction n generalizing v with
  | zero => rfl
  | succ n ih =>
    rw [List.iterate, List.map_cons, List.range'_succ]
    congr 1
    -- the last word need not have a successor that fits
    cases n with
    | zero => rfl
    | succ n =>
      have grown := toNat_add_one (v := v) (by omega)
      rw [ih (by omega), grown]

/-- The counters of one square are the numbers that follow the one before the moves. -/
lemma counters_of_square {b : Board} {qs : List Square} {i : Square}
    (fit : (b.get i).toNat + qs.count i < 2 ^ 64) :
    ((b.counters qs).filter (·.1 = i)).map (·.2.toNat) =
      List.range' ((b.get i).toNat + 1) (qs.count i) := by
  have words := congrArg (List.map UInt64.toNat) (counters_at b qs i)
  rw [List.map_map] at words
  refine words.trans ?_
  cases n : qs.count i with
  | zero => rfl
  | succ n =>
    have grown := toNat_add_one (v := b.get i) (by omega)
    rw [map_toNat_iterate (by omega), grown]

end Board

end ParityDuel
