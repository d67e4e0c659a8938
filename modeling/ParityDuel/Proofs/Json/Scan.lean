import Mathlib.Data.List.TakeWhile
import ParityDuel.Proofs.Json.Grammar

/-!
# Between tokens

What the small readers around values succeed with: blanks are passed over as far as they go, a word
is read as it is written, and a text ends where only blanks are left. `Stops` tells the bytes behind
which a number is not read any further.
-/

namespace ParityDuel.Json

/-- A change of what is read succeeds where the reading does. -/
lemma map_eq_ok_iff {ε α β : Type} {f : α → β} {x : Except ε α} {b : β} :
    x.map f = .ok b ↔ ∃ a, x = .ok a ∧ f a = b := by
  cases x <;> simp [Except.map]

/-- Two steps succeed where both do. -/
lemma bind_eq_ok_iff {ε α β : Type} {f : α → Except ε β} {x : Except ε α} {b : β} :
    x >>= f = .ok b ↔ ∃ a, x = .ok a ∧ f a = .ok b := by
  cases x <;> simp [bind, Except.bind]

/-- Two steps fail where the first one fails, or the second one after it. -/
lemma bind_eq_error_iff {ε α β : Type} {f : α → Except ε β} {x : Except ε α} {e : ε} :
    x >>= f = .error e ↔ x = .error e ∨ ∃ a, x = .ok a ∧ f a = .error e := by
  cases x <;> simp [bind, Except.bind]

variable {s t w rest : Bytes} {b : UInt8}

/-- Blanks behind blanks are blanks. -/
lemma Blanks.append (h : Blanks s) (h' : Blanks t) : Blanks (s ++ t) :=
  List.forall_mem_append.2 ⟨h, h'⟩

/-- Blanks in front make no difference. -/
lemma skipBlanks_append (hw : Blanks w) : skipBlanks (w ++ s) = skipBlanks s :=
  List.dropWhile_append_of_pos hw

/-- A byte that is no blank is not passed over. -/
lemma skipBlanks_cons (h : isBlank b = false) : skipBlanks (b :: s) = b :: s :=
  List.dropWhile_cons_of_neg (by simp [h])

/-- Nothing is left behind blanks only. -/
lemma skipBlanks_eq_nil_iff : skipBlanks s = [] ↔ Blanks s := List.dropWhile_eq_nil_iff

/-- What blanks were passed over, and what they end at. -/
lemma exists_of_skipBlanks_eq_cons (h : skipBlanks s = b :: t) :
    isBlank b = false ∧ ∃ w, Blanks w ∧ s = w ++ b :: t := by
  unfold skipBlanks at h
  constructor
  · have hb := List.head_dropWhile_not isBlank (l := s) (h ▸ List.cons_ne_nil b t)
    simpa only [h, List.head_cons] using hb
  · refine ⟨s.takeWhile isBlank, fun b hb => List.mem_takeWhile_imp hb, ?_⟩
    rw [← h, List.takeWhile_append_dropWhile]

/-- A word is read where its bytes stand. -/
lemma word_eq_ok_iff : word w s = .ok rest ↔ s = w ++ rest := by
  fun_induction word w s with
  | case1 s => simp [eq_comm]
  | case2 c w => simp
  | case3 w b s ih => simpa using ih
  | case4 c w b s hb => simp [hb]

/-- A colon is read behind blanks. -/
lemma readColon_eq_ok_iff : readColon s = .ok rest ↔ ∃ w, Blanks w ∧ s = w ++ colon :: rest := by
  constructor
  · intro h
    unfold readColon at h
    split at h
    case h_1 => cases h
    case h_2 b t hs =>
      obtain ⟨_, w, hw, rfl⟩ := exists_of_skipBlanks_eq_cons hs
      split at h
      case isTrue hb =>
        cases h
        exact ⟨w, hw, by rw [hb]⟩
      case isFalse => cases h
  · rintro ⟨w, hw, rfl⟩
    rw [readColon, skipBlanks_append hw, skipBlanks_cons (by decide)]
    rfl

/-- A text may end in blanks. -/
lemma endOfText_eq_ok_iff : endOfText s = .ok () ↔ Blanks s := by
  rw [← skipBlanks_eq_nil_iff]
  unfold endOfText
  split
  case h_1 h => simp [h]
  case h_2 h => simp [h]

/-- Nothing that belongs to a number comes next. -/
def Stops : Bytes → Prop
  | [] => True
  | b :: _ => isDigit b = false ∧ b ≠ point ∧ isExponentMark b = false

/-- A blank ends a number. -/
lemma stops_of_isBlank (h : isBlank b = true) : Stops (b :: s) := by
  simp only [isBlank, Bool.or_eq_true, beq_iff_eq, or_assoc] at h
  rcases h with rfl | rfl | rfl | rfl <;> exact ⟨by decide, by decide, by decide⟩

/-- A digit is no byte with another meaning. -/
lemma ne_of_isDigit {c : UInt8} (hb : isDigit b = true) (hc : isDigit c = false) : b ≠ c := by
  rintro rfl
  rw [hb] at hc
  cases hc

/-- A digit is no blank. -/
lemma isBlank_of_isDigit (hb : isDigit b = true) : isBlank b = false := by
  apply Bool.eq_false_iff.2
  intro blank
  exact absurd hb (Bool.eq_false_iff.1 (stops_of_isBlank (s := []) blank).1)

/-- Blanks in front of what ends a number end it as well. -/
lemma Stops.blanks_append (h : Stops s) (hw : Blanks w) : Stops (w ++ s) := by
  cases w with
  | nil => exact h
  | cons b w => exact stops_of_isBlank (hw b (List.mem_cons_self ..))

/-- Blanks end a number. -/
lemma Blanks.stops (hw : Blanks w) : Stops w := by
  have h := Stops.blanks_append (s := []) trivial hw
  rwa [List.append_nil] at h

end ParityDuel.Json
