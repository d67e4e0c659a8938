import Mathlib.Data.Set.Card
import ParityDuel.Proofs.Session.Inversion

/-!
# Seating

Seats that are given and freed for one connection at a time. Nobody is ever given a second seat
(`Distinct.after`), and this is what makes the role that is found for a connection, odd before even,
the other direction of who holds a seat (`distinct_iff_roleOf`). From there on seating and leaving
change one seat only: a connection gets its old role or the first free one and everyone else keeps
theirs (`Distinct.seated`), and whoever leaves frees what it held (`Distinct.holder_remove`).
-/

namespace ParityDuel

namespace Seats

/-- What can be done to the seats: for one connection, or for all of them at once. -/
inductive Op where
  | assign (c : Conn)
  | remove (c : Conn)
  | vacate
deriving DecidableEq, Repr

/-- One operation. What is refused changes nothing. -/
def step (s : Seats) : Op → Seats
  | .assign c =>
    match s.assign c with
    | .ok (_, t) => t
    | .error _ => s
  | .remove c => (s.remove c).2
  | .vacate => empty

/-- The seats after a list of operations, one after the other. -/
def after (s : Seats) (ops : List Op) : Seats := ops.foldl step s

/-- No connection holds two seats. -/
def Distinct (s : Seats) : Prop :=
  ∀ c r r', s.holder r = some c → s.holder r' = some c → r = r'

/-- What seating a connection comes to. -/
structure Seated (s : Seats) (c : Conn) (role : Role) (t : Seats) : Prop where
  /-- Whoever has a role keeps it. -/
  kept : ∀ old, s.roleOf c = some old → role = old
  /-- Whoever has none gets a free seat, the odd one before the even one. -/
  first : s.roleOf c = none →
    s.holder role = none ∧ role = if s.holder .odd = none then .odd else .even
  /-- This is its role from then on, and everyone else's is what it was. -/
  roles : ∀ d, t.roleOf d = if d = c then some role else s.roleOf d
  /-- Asking again gives the same role and changes nothing. -/
  again : t.assign c = .ok (role, t)
  /-- Leaving takes back a seat that has just been given. -/
  undone : s.roleOf c = none → t.remove c = (some role, s)

section Holders

variable {s t : Seats} {c d : Conn} {r r' : Role} {x : Option Conn}

lemma ext_holder (h : ∀ r, s.holder r = t.holder r) : s = t := by
  obtain ⟨_, _⟩ := s
  obtain ⟨_, _⟩ := t
  exact congrArg₂ mk (h .odd) (h .even)

/-- Giving or freeing a seat leaves the other one alone. -/
lemma holder_set : (s.set r x).holder r' = if r' = r then x else s.holder r' := by
  cases r <;> cases r' <;> rfl

/-- Whoever holds a seat then holds this one, or another one that it has held before. -/
lemma holder_set_eq_some_iff : (s.set r x).holder r' = some c ↔
    r' = r ∧ x = some c ∨ r' ≠ r ∧ s.holder r' = some c := by
  rw [holder_set]
  split
  case isTrue e => simp [e]
  case isFalse ne => simp [ne]

/-- A free seat that is given away and freed again leaves no trace. -/
lemma set_set_none (free : s.holder r = none) : (s.set r x).set r none = s := by
  apply ext_holder
  intro r'
  rw [holder_set, holder_set]
  split
  case isTrue e => rw [e, free]
  case isFalse => rfl

/-- Whoever is found to play a role holds its seat. -/
lemma holder_of_roleOf (h : s.roleOf c = some r) : s.holder r = some c := by
  cases r with
  | odd => exact roleOf_eq_odd_iff.1 h
  | even => exact (roleOf_eq_even_iff.1 h).2

/-- Whoever plays no role holds no seat. -/
lemma holder_ne_of_roleOf_eq_none (h : s.roleOf c = none) (r : Role) : s.holder r ≠ some c := by
  have unseated : ¬ s.isSeated c = true := Bool.eq_false_iff.1 (isSeated_eq_false_iff.2 h)
  rw [isSeated_iff, not_or] at unseated
  cases r with
  | odd => exact unseated.1
  | even => exact unseated.2

/-- A connection without a seat finds both filled when others hold them. -/
lemma taken_iff : s.isSeated c = false ∧ s.areFilled = true ↔
    ∀ r, ∃ d, d ≠ c ∧ s.holder r = some d := by
  constructor
  · rintro ⟨unseated, filled⟩ r
    obtain ⟨⟨a, b⟩, hp⟩ := Option.isSome_iff_exists.1 filled
    obtain rfl := pair_eq_some_iff.1 hp
    have others := holder_ne_of_roleOf_eq_none (isSeated_eq_false_iff.1 unseated)
    cases r with
    | odd => exact ⟨a, fun e => others .odd (congrArg some e), rfl⟩
    | even => exact ⟨b, fun e => others .even (congrArg some e), rfl⟩
  · intro taken
    obtain ⟨a, na, odd⟩ := taken .odd
    obtain ⟨b, nb, even⟩ := taken .even
    have seats : s = ⟨some a, some b⟩ := by
      apply ext_holder
      rintro (_ | _)
      · exact odd
      · exact even
    have held : s.AreOf a b := .inl seats
    constructor
    · rw [Bool.eq_false_iff, Ne, held.isSeated_iff]
      rintro (rfl | rfl)
      · exact na rfl
      · exact nb rfl
    · rw [seats]
      rfl

/-- Whoever has a role is seated where it is. -/
lemma assign_of_roleOf (h : s.roleOf c = some r) : s.assign c = .ok (r, s) := by
  simp [assign, h]

/-- Whoever gets a seat has a role already, or is given the first free seat. -/
lemma Assigned.kept_or_given (as : s.Assigned c r t) : s.roleOf c = some r ∧ t = s ∨
    s.roleOf c = none ∧ s.holder r = none ∧ (r = if s.holder .odd = none then .odd else .even) ∧
      t = s.set r (some c) := by
  cases as with
  | kept h => exact .inl ⟨h, rfl⟩
  | odd new free => exact .inr ⟨isSeated_eq_false_iff.1 new, free, (if_pos free).symm, rfl⟩
  | even new taken free =>
    have odd : s.holder .odd ≠ none := by simp [holder, taken]
    exact .inr ⟨isSeated_eq_false_iff.1 new, free, (if_neg odd).symm, rfl⟩

/-- Whoever leaves is told the role it played. -/
lemma fst_remove : (s.remove c).1 = s.roleOf c := by
  rw [remove]
  split
  case h_1 h => exact h.symm
  case h_2 h => exact h.symm

/-- While nobody holds two seats, and only then, everyone who holds a seat is found to play its
role. -/
lemma distinct_iff_roleOf :
    s.Distinct ↔ ∀ c r, s.roleOf c = some r ↔ s.holder r = some c := by
  constructor
  · intro distinct c r
    refine ⟨holder_of_roleOf, fun held => ?_⟩
    cases h : s.roleOf c with
    | none => exact absurd held (holder_ne_of_roleOf_eq_none h r)
    | some r' => rw [distinct c r r' held (holder_of_roleOf h)]
  · intro both c r r' h h'
    rw [← both] at h h'
    exact Option.some.inj (h.symm.trans h')

/-- A connection that is put on both seats is found on the odd one only. -/
example : ((empty.put ⟨1⟩ .odd).put ⟨1⟩ .even).holder .even = some ⟨1⟩ ∧
    ((empty.put ⟨1⟩ .odd).put ⟨1⟩ .even).roleOf ⟨1⟩ = some .odd := by decide

/-- A seat that is freed, or given to somebody who has none, leaves nobody with two. -/
lemma Distinct.set (distinct : s.Distinct) (new : ∀ c, x = some c → s.roleOf c = none) :
    (s.set r x).Distinct := by
  intro c r₁ r₂ h₁ h₂
  obtain ⟨e₁, h₁⟩ | ⟨_, h₁⟩ := holder_set_eq_some_iff.1 h₁
  · obtain ⟨e₂, _⟩ | ⟨_, h₂⟩ := holder_set_eq_some_iff.1 h₂
    · exact e₁.trans e₂.symm
    · exact absurd h₂ (holder_ne_of_roleOf_eq_none (new c h₁) r₂)
  · obtain ⟨_, h₂⟩ | ⟨_, h₂⟩ := holder_set_eq_some_iff.1 h₂
    · exact absurd h₁ (holder_ne_of_roleOf_eq_none (new c h₂) r₁)
    · exact distinct c r₁ r₂ h₁ h₂

lemma Distinct.give (distinct : s.Distinct) (new : s.roleOf c = none) :
    (s.set r (some c)).Distinct :=
  distinct.set fun _ e => Option.some.inj e ▸ new

/-- A free seat that is given to somebody who has none changes nobody else's role. -/
lemma Distinct.roleOf_give (distinct : s.Distinct) (new : s.roleOf c = none)
    (free : s.holder r = none) :
    (s.set r (some c)).roleOf d = if d = c then some r else s.roleOf d := by
  have roles := distinct_iff_roleOf.1 (distinct.give (r := r) new)
  split
  case isTrue e => exact (roles d r).2 (holder_set_eq_some_iff.2 (.inl ⟨rfl, congrArg some e.symm⟩))
  case isFalse ne =>
    ext r'
    rw [roles, distinct_iff_roleOf.1 distinct, holder_set_eq_some_iff]
    constructor
    · rintro (⟨_, e⟩ | ⟨_, held⟩)
      · exact absurd (Option.some.inj e).symm ne
      · exact held
    · intro held
      -- the seat that is given away was free, so this is the other one
      refine .inr ⟨?_, held⟩
      rintro rfl
      rw [free] at held
      cases held

/-- Whoever gets a seat is seated as it should be. -/
lemma Distinct.seated (distinct : s.Distinct) (as : s.Assigned c r t) : s.Seated c r t := by
  obtain ⟨role, rfl⟩ | ⟨new, free, first, rfl⟩ := as.kept_or_given
  · have seated : t.roleOf c ≠ none := by simp [role]
    exact {
      kept := fun _ h => Option.some.inj (role.symm.trans h)
      first := fun new => absurd new seated
      roles := by
        intro d
        split
        case isTrue e => rw [e, role]
        case isFalse => rfl
      again := assign_of_roleOf role
      undone := fun new => absurd new seated }
  · have role : (s.set r (some c)).roleOf c = some r := by
      rw [distinct.roleOf_give new free, if_pos rfl]
    exact {
      kept := by
        intro old h
        rw [new] at h
        cases h
      first := fun _ => ⟨free, first⟩
      roles := fun _ => distinct.roleOf_give new free
      again := assign_of_roleOf role
      undone := by
        intro _
        rw [remove, role]
        exact congrArg (some r, ·) (set_set_none free) }

/-- Whoever leaves frees the seat that it holds, and no other. -/
lemma Distinct.holder_remove (distinct : s.Distinct) :
    (s.remove c).2.holder r = if s.holder r = some c then none else s.holder r := by
  rw [remove]
  split
  case h_1 r' h =>
    have own : s.holder r = some c ↔ r = r' := by
      rw [← distinct_iff_roleOf.1 distinct, h, Option.some.injEq, eq_comm]
    simp only [holder_set, own]
  case h_2 h => rw [if_neg (holder_ne_of_roleOf_eq_none h r)]

/-- A seat has one holder, or none when it is free. -/
lemma encard_holder (x : Option Conn) : {c | x = some c}.encard = x.toList.length := by
  cases x <;> simp

/-- There are as many players as seats that are filled. -/
lemma Distinct.encard_players (distinct : s.Distinct) :
    {c | ∃ r, s.roleOf c = some r}.encard = s.count := by
  have players : {c | ∃ r, s.roleOf c = some r} = {c | s.odd = some c} ∪ {c | s.even = some c} := by
    ext c
    rw [Set.mem_ofPred_eq, ← Option.isSome_iff_exists]
    exact isSeated_iff
  have apart : Disjoint {c | s.odd = some c} {c | s.even = some c} := by
    rw [Set.disjoint_left]
    intro c odd even
    exact nomatch distinct c .odd .even odd even
  rw [players, Set.encard_union_eq apart, encard_holder, encard_holder, count, Nat.cast_add]

end Holders

section Runs

variable {s : Seats}

/-- At the beginning nobody is seated. -/
lemma distinct_empty : empty.Distinct := by
  rintro c (_ | _) _ ⟨⟩

/-- No operation gives anybody a second seat. -/
lemma Distinct.step (distinct : s.Distinct) (op : Op) : (s.step op).Distinct := by
  cases op with
  | assign c =>
    dsimp only [Seats.step]
    split
    case h_1 h =>
      obtain ⟨_, rfl⟩ | ⟨new, _, _, rfl⟩ := (assign_inv h).kept_or_given
      · exact distinct
      · exact distinct.give new
    case h_2 => exact distinct
  | remove c =>
    dsimp only [Seats.step, remove]
    split
    case h_1 => exact distinct.set nofun
    case h_2 => exact distinct
  | vacate => exact distinct_empty

/-- No list of operations gives anybody a second seat. -/
lemma Distinct.after (distinct : s.Distinct) (ops : List Op) : (s.after ops).Distinct := by
  induction ops generalizing s with
  | nil => exact distinct
  | cons op ops ih => exact ih (distinct.step op)

end Runs

/-- What holds of every connection after every list of operations. It holds one seat at most, and
the seat it holds is that of its role. It is refused a seat exactly when others hold both, and then
nothing changes; otherwise it is seated as it should be. If it leaves, it frees what it held and
nothing else. And there are as many players as seats that are filled. -/
theorem seating_is_one_to_one {ops : List Op} {s : Seats} (reached : empty.after ops = s)
    (c : Conn) :
    (∀ r r', s.holder r = some c → s.holder r' = some c → r = r') ∧
    (∀ r, s.roleOf c = some r ↔ s.holder r = some c) ∧
    (s.assign c = .error .full ↔ ∀ r, ∃ d, d ≠ c ∧ s.holder r = some d) ∧
    (s.assign c = .error .full ∧ s.step (.assign c) = s ∨
      ∃ role t, s.assign c = .ok (role, t) ∧ s.step (.assign c) = t ∧ s.Seated c role t) ∧
    ((s.remove c).1 = s.roleOf c ∧
      ∀ r, (s.remove c).2.holder r = if s.holder r = some c then none else s.holder r) ∧
    {d | ∃ r, s.roleOf d = some r}.encard = s.count := by
  have distinct : s.Distinct := reached ▸ distinct_empty.after ops
  refine ⟨distinct c, distinct_iff_roleOf.1 distinct c, ?_, ?_,
    ⟨fst_remove, fun _ => distinct.holder_remove⟩, distinct.encard_players⟩
  · rw [assign_eq_error_iff, and_iff_right rfl, taken_iff]
  · cases answer : s.assign c with
    | error e =>
      obtain ⟨rfl, _⟩ := assign_eq_error_iff.1 answer
      exact .inl ⟨rfl, by rw [step, answer]⟩
    | ok granted =>
      obtain ⟨role, t⟩ := granted
      exact .inr ⟨role, t, rfl, by rw [step, answer], distinct.seated (assign_inv answer)⟩

/-- Somebody is refused and later sits down where the first one has left. -/
def outOfOrder : List Op :=
  [.assign ⟨1⟩, .assign ⟨2⟩, .assign ⟨3⟩, .remove ⟨1⟩, .assign ⟨3⟩, .remove ⟨2⟩]

/-- Whoever sat down there holds the odd seat alone, and somebody who comes back is seated as even.
-/
theorem seating_is_one_to_one_outOfOrder :
    empty.after outOfOrder = ⟨some ⟨3⟩, none⟩ ∧
      Seated ⟨some ⟨3⟩, none⟩ ⟨1⟩ .even ⟨some ⟨3⟩, some ⟨1⟩⟩ ∧
      {d | ∃ r, roleOf ⟨some ⟨3⟩, none⟩ d = some r}.encard = 1 := by
  have reached : empty.after outOfOrder = ⟨some ⟨3⟩, none⟩ := by decide
  obtain ⟨_, _, _, answered, _, players⟩ := seating_is_one_to_one reached ⟨1⟩
  refine ⟨reached, ?_, players⟩
  obtain ⟨refused, _⟩ | ⟨role, t, granted, _, seated⟩ := answered
  · exact absurd refused (by decide)
  · cases granted
    exact seated

end Seats

end ParityDuel
