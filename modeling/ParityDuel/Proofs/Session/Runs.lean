import ParityDuel.Proofs.Session.Soundness

/-!
# Runs of a session

A session takes operations one after the other. `Session.turn` is one operation with the letters it
sends, where a refused one changes nothing and sends nothing, and `Session.letters` collects what a
run sends. `Session.Turn` lists what one operation can do; `turn_inv` says that every operation does
one of these things. A game goes on (`Session.GoesOn`) until a rematch is agreed, a player leaves or
the session is reset.
-/

namespace ParityDuel

namespace Session

/-- The session after an operation and the letters it sends. -/
def turn (s : Session) (op : Op) : Session × List Letter :=
  match s.perform op with
  | .ok t => t
  | .error _ => (s, [])

/-- Everything that a run of operations sends. -/
def letters (s : Session) : List Op → List Letter
  | [] => []
  | op :: ops => (s.turn op).2 ++ (s.turn op).1.letters ops

/-- Whether an operation is the vote that agrees on a rematch. -/
def agrees (s : Session) : Op → Bool
  | .vote c =>
    match s.ballot.vote s.seats c with
    | .ok (.agreed _ _, _) => true
    | _ => false
  | _ => false

/-- Whether an operation agrees on a rematch, takes a player out or resets the session. -/
def endsGame (s : Session) : Op → Bool
  | .leave c => s.seats.isSeated c
  | .reset => true
  | op => s.agrees op

/-- No operation of the list ends a game. -/
def GoesOn (s : Session) : List Op → Prop
  | [] => True
  | op :: ops => s.endsGame op = false ∧ (s.turn op).1.GoesOn ops

@[simp] lemma after_nil (s : Session) : s.after [] = s := rfl

@[simp] lemma after_cons (s : Session) (op : Op) (ops : List Op) :
    s.after (op :: ops) = (s.turn op).1.after ops := by
  rw [Session.after, turn]
  split <;> simp_all

/-- A run goes on where the one before it has ended. -/
lemma after_append (s : Session) (ops ops' : List Op) :
    s.after (ops ++ ops') = (s.after ops).after ops' := by
  induction ops generalizing s with
  | nil => rfl
  | cons op ops ih => rw [List.cons_append, after_cons, after_cons, ih]

/-- What one operation does to a session: the session afterwards and the letters it sends. -/
inductive Turn (s : Session) : Op → Session → List Letter → Prop where
  | joined {c role s' ls} :
    s.connect c = .ok (role, s', ls) →
    Turn s (.connect c) s' ls
  | turnedAway {c e} :
    s.connect c = .error e →
    Turn s (.connect c) s []
  | moved {c n s' ls} :
    s.Served c (.increment n) s' ls →
    Turn s (.increment c n) s' ls
  | unmoved {c n e} :
    s.increment c n = .error e →
    Turn s (.increment c n) s []
  | voted {c s' ls} :
    s.Served c .rematch s' ls →
    Turn s (.vote c) s' ls
  | unvoted {c e} :
    s.vote c = .error e →
    Turn s (.vote c) s []
  | left {c s' ls} :
    s.leave c = (s', ls) →
    Turn s (.leave c) s' ls
  | reset :
    Turn s .reset initial []

/-- An operation that is not refused does what it is for. -/
lemma turn_of_ok {s : Session} {op : Op} {t : Session × List Letter} (h : s.perform op = .ok t) :
    s.turn op = t := by
  rw [turn, h]

/-- An operation that is refused does nothing. -/
lemma turn_of_error {s : Session} {op : Op} {e : Refusal} (h : s.perform op = .error e) :
    s.turn op = (s, []) := by
  rw [turn, h]

/-- Inversion for `turn`. -/
lemma turn_inv (s : Session) (op : Op) : s.Turn op (s.turn op).1 (s.turn op).2 := by
  cases op with
  | connect c =>
    cases h : s.connect c with
    | error e =>
      rw [turn_of_error (e := e) (by rw [Session.perform, h]; rfl)]
      exact .turnedAway h
    | ok t =>
      rw [turn_of_ok (t := t.2) (by rw [Session.perform, h]; rfl)]
      exact .joined h
  | increment c n =>
    cases h : s.perform (.increment c n) with
    | error e =>
      rw [turn_of_error h]
      exact .unmoved h
    | ok t =>
      rw [turn_of_ok h]
      exact .moved (increment_inv h)
  | vote c =>
    cases h : s.perform (.vote c) with
    | error e =>
      rw [turn_of_error h]
      exact .unvoted h
    | ok t =>
      rw [turn_of_ok h]
      exact .voted (vote_inv h)
  | leave c =>
    rw [turn_of_ok (t := s.leave c) rfl]
    exact .left rfl
  | reset =>
    rw [turn_of_ok (t := (initial, [])) rfl]
    exact .reset

/-- Every operation keeps soundness. -/
lemma Sound.turn {s : Session} (sd : s.Sound) (op : Op) : (s.turn op).1.Sound := by
  unfold Session.turn
  split
  case h_1 t h => exact sd.perform h
  case h_2 => exact sd

end Session

end ParityDuel
