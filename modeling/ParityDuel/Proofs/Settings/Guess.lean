import Mathlib.Data.List.TakeWhile
import Mathlib.Tactic.Lemma
import ParityDuel.Settings.Guess

/-!
# What texts are taken for

A number in decimal digits is taken for this number (`of_toString`), and a text with a colon in it,
such as an address with a port, for this text (`of_colon`). A text that is taken for a text is no
number, so that it counts as one or zero if it counts at all (`toCount_text`). Only numbers count as
much as `2 ^ 61` (`huge_iff`).
-/

namespace ParityDuel.Settings

section Numerals

variable {cs : List Char} {n : Nat}

/-- The digits of a number are read back. -/
lemma natural?_toDigits (n : Nat) : natural? (Nat.toDigits 10 n) = some n := by
  have digits : (Nat.toDigits 10 n).all isDigit = true := by
    rw [List.all_eq_true]
    intro c hc
    exact Nat.isDigit_of_mem_toDigits (by decide) (by decide) hc
  have value : digitsValue (Nat.toDigits 10 n) = n := by
    have read := Nat.ofDigitChars_toDigits (n := n) (b := 10) (by decide) (by decide)
    simp only [Nat.ofDigitChars, Nat.mul_comm] at read
    exact read
  rw [natural?, if_pos ⟨Nat.toDigits_ne_nil, digits⟩, value]

/-- Digits have no sign in front. -/
lemma splitSign_toDigits (n : Nat) :
    splitSign (Nat.toDigits 10 n) = (false, Nat.toDigits 10 n) := by
  have digits : ∀ c ∈ Nat.toDigits 10 n, c.isDigit = true :=
    fun c hc => Nat.isDigit_of_mem_toDigits (by decide) (by decide) hc
  unfold splitSign
  split
  case h_1 e => exact absurd (digits '-' (by simp [e])) (by decide)
  case h_2 e => exact absurd (digits '+' (by simp [e])) (by decide)
  case h_3 => rfl

/-- They are read back as an integer, if 63 bits hold the number. -/
lemma integer?_toDigits (h : n < 1 <<< 63) :
    integer? (Nat.toDigits 10 n) = some (Int64.ofInt n) := by
  simp only [integer?, splitSign_toDigits, natural?_toDigits, Option.bind_eq_bind,
    Option.bind_some]
  rw [if_neg Bool.false_ne_true, if_pos h]

/-- A text is no word if it has a character in it that the word has not. -/
lemma lowered_ne {word : String} {c : Char} (hc : c ∈ cs) (kept : c.toLower = c)
    (h : c ∉ word.toList) : lowered cs ≠ word := by
  rintro rfl
  refine h ?_
  rw [lowered, String.toList_ofList, ← kept]
  exact List.mem_map_of_mem hc

lemma toLower_of_isDigit {c : Char} (h : c.isDigit = true) : c.toLower = c := by
  unfold Char.toLower
  split
  case isTrue upper =>
    -- the digits come before the capital letters
    have small : c.val ≤ '9'.val := by
      simp only [Char.isDigit, Bool.and_eq_true, decide_eq_true_eq] at h
      exact h.2
    exact absurd (UInt32.le_trans upper.1 small) (by decide)
  case isFalse => rfl

/-- A number in decimal digits is taken for this number. -/
lemma of_toString (h : n < 1 <<< 63) : Guess.of (toString n) = .integer (Int64.ofInt n) := by
  have shown : (toString n).toList = Nat.toDigits 10 n := Nat.toList_repr
  -- the first digit tells the number from a truth value
  have first := List.head_mem (Nat.toDigits_ne_nil (b := 10) (n := n))
  have digit := Nat.isDigit_of_mem_toDigits (by decide) (by decide) first
  have noWord (word : String) (letters : word.toList.any Char.isDigit = false) :
      lowered (Nat.toDigits 10 n) ≠ word := by
    refine lowered_ne first (toLower_of_isDigit digit) ?_
    intro mem
    exact List.any_eq_false.1 letters _ mem digit
  unfold Guess.of
  simp only [shown, noWord "true" (by decide), noWord "false" (by decide), if_false,
    integer?_toDigits h]

end Numerals

section Colons

variable {c : Char} {cs : List Char}

/-- A character that is no digit is in no natural number. -/
lemma natural?_eq_none (hc : c ∈ cs) (h : isDigit c = false) : natural? cs = none := by
  rw [natural?, if_neg]
  rintro ⟨_, digits⟩
  have digit := List.all_eq_true.1 digits c hc
  rw [h] at digit
  cases digit

/-- A colon is not a sign. -/
lemma mem_splitSign (hc : ':' ∈ cs) : ':' ∈ (splitSign cs).2 := by
  unfold splitSign
  split
  case h_1 => simpa using hc
  case h_2 => simpa using hc
  case h_3 => exact hc

/-- A colon is in no integer. -/
lemma integer?_of_colon (hc : ':' ∈ cs) : integer? cs = none := by
  simp only [integer?, natural?_eq_none (mem_splitSign hc) (by decide), Option.bind_eq_bind,
    Option.bind_none]

lemma exponent?_of_colon (hc : ':' ∈ cs) : exponent? cs = none := by
  cases cs with
  | nil => cases hc
  | cons d ds =>
    by_cases mark : d = 'e' ∨ d = 'E'
    · have rest : ':' ∈ ds := by
        obtain rfl | rest := List.mem_cons.1 hc
        · exact absurd mark (by decide)
        · exact rest
      simp only [exponent?, mark, if_true, natural?_eq_none (mem_splitSign rest) (by decide),
        Option.bind_eq_bind, Option.bind_none]
    · simp only [exponent?, mark, if_false]

/-- What is no digit is behind the digits. -/
lemma mem_dropWhile_isDigit (hc : c ∈ cs) (h : isDigit c = false) : c ∈ cs.dropWhile isDigit := by
  rw [← List.takeWhile_append_dropWhile (p := isDigit) (l := cs), List.mem_append] at hc
  obtain digit | rest := hc
  · have digit := List.mem_takeWhile_imp digit
    rw [h] at digit
    cases digit
  · exact rest

/-- A colon is in no decimal number. -/
lemma decimal?_of_colon (hc : ':' ∈ cs) : decimal? cs = none := by
  have rest := mem_dropWhile_isDigit hc (by decide)
  unfold decimal?
  dsimp only
  -- with a fraction or without one, the exponent would have the colon in it
  split
  case h_1 ds e =>
    rw [e, List.mem_cons] at rest
    have behind : ':' ∈ ds.dropWhile isDigit :=
      mem_dropWhile_isDigit (rest.resolve_left (by decide)) (by decide)
    simp only [exponent?_of_colon behind, Option.bind_eq_bind, Option.bind_none, ite_self]
  case h_2 =>
    simp only [exponent?_of_colon rest, Option.bind_eq_bind, Option.bind_none, ite_self]

/-- A text with a colon is no number of double precision. -/
lemma float?_of_colon (hc : ':' ∈ cs) : float? cs = none := by
  have rest := mem_splitSign hc
  have noWord (word : String) (h : ':' ∉ word.toList) : lowered (splitSign cs).2 ≠ word :=
    lowered_ne rest (by decide) h
  simp only [float?, noWord "inf" (by decide), noWord "infinity" (by decide),
    noWord "nan" (by decide), or_false, if_false, decimal?_of_colon rest, Option.map_none]

/-- A text with a colon in it is taken for itself. -/
lemma of_colon {a : String} (h : ':' ∈ a.toList) : Guess.of a = .text a := by
  have noWord (word : String) (other : ':' ∉ word.toList) : lowered a.toList ≠ word :=
    lowered_ne h (by decide) other
  unfold Guess.of
  simp only [noWord "true" (by decide), noWord "false" (by decide), if_false,
    integer?_of_colon h, float?_of_colon h]

end Colons

section Counts

variable {cs : List Char} {n : Nat} {key text : String} {count : UInt64}

/-- A guess is a number that is rounded to `2 ^ 61` or more. -/
def Guess.IsHuge : Guess → Prop
  | .integer n => 1 <<< 61 ≤ n.toInt.toNat
  | .float (.finite false a) => 1 <<< 61 ≤ a.round
  | .float (.infinite false) => True
  | _ => False

/-- A natural number is made of digits. -/
lemma natural?_eq_some (h : natural? cs = some n) : cs ≠ [] ∧ ∀ c ∈ cs, isDigit c = true := by
  unfold natural? at h
  split at h
  case isTrue digits => exact ⟨digits.1, List.all_eq_true.1 digits.2⟩
  case isFalse => cases h

/-- A number without a minus is natural behind its sign. -/
lemma natural?_splitSign (h : unsigned? cs = some n) : natural? (splitSign cs).2 = some n := by
  unfold unsigned? at h
  split at h
  case h_1 => exact h
  case h_2 =>
    unfold splitSign
    split
    case h_1 => exact absurd ((natural?_eq_some h).2 '-' (by simp)) (by decide)
    case h_2 => exact absurd ((natural?_eq_some h).2 '+' (by simp)) (by decide)
    case h_3 => exact h

/-- A natural number is a decimal number too. -/
lemma decimal?_of_natural (h : natural? cs = some n) : (decimal? cs).isSome = true := by
  obtain ⟨some, digits⟩ := natural?_eq_some h
  have whole : cs.takeWhile isDigit = cs := List.takeWhile_eq_self_iff.2 digits
  have rest : cs.dropWhile isDigit = [] := List.dropWhile_eq_nil_iff.2 digits
  simp [decimal?, whole, rest, some, exponent?]

/-- A whole number without a minus is a double-precision number as well. -/
lemma float?_of_unsigned (h : unsigned? cs = some n) : (float? cs).isSome = true := by
  have number := decimal?_of_natural (natural?_splitSign h)
  obtain ⟨negative, rest, hs⟩ : ∃ negative rest, splitSign cs = (negative, rest) := ⟨_, _, rfl⟩
  rw [hs] at number
  rw [float?, hs]
  dsimp only
  split
  case isTrue => rfl
  case isFalse =>
    split
    case isTrue => rfl
    case isFalse => simpa using number

/-- A text that is taken for a text is no number. -/
lemma unsigned?_of_text {s : String} (h : Guess.of text = .text s) :
    s = text ∧ unsigned? s.toList = none := by
  unfold Guess.of at h
  dsimp only at h
  split at h
  case isTrue => cases h
  case isFalse =>
    split at h
    case isTrue => cases h
    case isFalse =>
      split at h
      case h_1 => cases h
      case h_2 =>
        split at h
        case h_1 => cases h
        case h_2 noFloat =>
          cases h
          refine ⟨rfl, Option.eq_none_iff_forall_ne_some.2 ?_⟩
          intro n number
          have float := float?_of_unsigned number
          rw [noFloat] at float
          cases float

/-- A text counts as a switch or not at all. -/
lemma toCount_text {s : String} (h : Guess.of text = .text s)
    (hc : (Guess.text s).toCount key = .ok count) : count = 1 ∨ count = 0 := by
  simp only [Guess.toCount, (unsigned?_of_text h).2, Option.filter_none] at hc
  split at hc
  case isTrue =>
    cases hc
    exact .inl rfl
  case isFalse =>
    split at hc
    case isTrue =>
      cases hc
      exact .inr rfl
    case isFalse => cases hc

/-- What counts as much as `2 ^ 61` is a number as great as that. -/
lemma huge_iff (h : (Guess.of text).toCount key = .ok count) :
    1 <<< 61 ≤ count.toNat ↔ (Guess.of text).IsHuge := by
  cases guess : Guess.of text with
  | boolean b =>
    rw [guess] at h
    cases b <;> cases h <;> exact iff_of_false (by decide) not_false
  | integer n =>
    rw [guess, Guess.toCount] at h
    split at h
    case isFalse => cases h
    case isTrue =>
      cases h
      have fits : n.toInt.toNat < UInt64.size := by
        have upper := n.toInt_lt
        have size : UInt64.size = 1 <<< 64 := rfl
        omega
      show 1 <<< 61 ≤ (UInt64.ofNat n.toInt.toNat).toNat ↔ 1 <<< 61 ≤ n.toInt.toNat
      rw [UInt64.toNat_ofNat_of_lt' fits]
  | float x =>
    rw [guess] at h
    cases h
    match x with
    | .finite true a =>
      exact iff_of_false (show ¬ 1 <<< 61 ≤ (0 : UInt64).toNat by decide) not_false
    | .finite false a =>
      have word : (min a.round ((1 <<< 64) - 1)).toUInt64.toNat = min a.round ((1 <<< 64) - 1) :=
        UInt64.toNat_ofNat_of_lt' (Nat.lt_of_le_of_lt (Nat.min_le_right ..) (by decide))
      show 1 <<< 61 ≤ (min a.round ((1 <<< 64) - 1)).toUInt64.toNat ↔ 1 <<< 61 ≤ a.round
      rw [word, Nat.le_min]
      exact and_iff_left (by decide)
    | .infinite false => exact iff_of_true (by decide) trivial
    | .infinite true => exact iff_of_false (by decide) not_false
    | .nan => exact iff_of_false (by decide) not_false
  | text s =>
    rw [guess] at h
    obtain rfl | rfl := toCount_text guess h
    · exact iff_of_false (by decide) not_false
    · exact iff_of_false (by decide) not_false

end Counts

end ParityDuel.Settings
