import Mathlib.Tactic.SplitIfs
import ParityDuel.Proofs.Json.Tree

/-!
# Passing over literals

One lemma for each of the small readers that pass over a text, a number or a word: it succeeds
exactly on the loose form of the literal, up to its end. What is read as a literal is passed over to
the same place.
-/

namespace ParityDuel.Json

variable {s t rest ds f e : Bytes} {b : UInt8} {v : Value}

section Texts

/-- An escape is passed over if it has the form of one. -/
lemma skipEscape_eq_ok_iff : skipEscape s = .ok rest ↔ ∃ e, LooseEscape e ∧ s = e ++ rest := by
  constructor
  · intro h
    unfold skipEscape at h
    split at h
    case h_1 => cases h
    case h_2 b t =>
      split at h
      case h_1 c hc =>
        cases h
        exact ⟨[b], .short hc, rfl⟩
      case h_2 =>
        split at h
        case isFalse => cases h
        case isTrue hb =>
          obtain ⟨⟨n, _⟩, hn, rfl⟩ := map_eq_ok_iff.1 h
          obtain ⟨x, hx, rfl⟩ := readHex_eq_ok_iff.1 hn
          exact ⟨hexMark :: x, .hex hx, by rw [hb]; rfl⟩
  · rintro ⟨e, he, rfl⟩
    cases he with
    | short hb => simp only [List.cons_append, List.nil_append, skipEscape, hb]
    | hex hh =>
      have long : shortEscape? hexMark = none := by decide
      simp only [List.cons_append, skipEscape, long, if_true, readHex_eq_ok_iff.2 ⟨_, hh, rfl⟩,
        Except.map]

/-- A quote ends a text that is passed over. -/
lemma skipText_quote : skipText (quote :: rest) = .ok rest := by
  rw [skipText, if_pos rfl]

/-- A byte without a meaning of its own is passed over. -/
lemma skipText_plain (hq : b ≠ quote) (hb : b ≠ backslash) (large : 0x20 ≤ b) :
    skipText (b :: s) = skipText s := by
  rw [skipText, if_neg hq, if_neg hb, if_neg (UInt8.not_lt.2 large)]

/-- An escape is passed over, whatever character it stands for. -/
lemma skipText_escape (he : LooseEscape e) : skipText (backslash :: e ++ s) = skipText s := by
  have hskip : skipEscape (e ++ s) = .ok s := skipEscape_eq_ok_iff.2 ⟨e, he, rfl⟩
  rw [List.cons_append, skipText, if_neg (by decide), if_pos rfl]
  split
  case h_1 h => rw [hskip] at h; cases h
  case h_2 h =>
    rw [hskip, Except.ok.injEq] at h
    rw [h]

/-- A text is passed over up to the first quote that is not escaped. -/
lemma skipText_eq_ok_iff : skipText s = .ok rest ↔
    ∃ body, LooseBody body ∧ s = body ++ quote :: rest := by
  constructor
  · intro h
    fun_induction skipText s with
    | case1 => cases h
    | case2 t =>
      cases h
      exact ⟨[], .nil, rfl⟩
    | case3 => cases h
    | case4 t u he _ ih =>
      obtain ⟨body, hbody, rfl⟩ := ih h
      obtain ⟨e, hc, rfl⟩ := skipEscape_eq_ok_iff.1 he
      exact ⟨backslash :: e ++ body, .escape hc hbody, by simp⟩
    | case5 => cases h
    | case6 b t hq hb large ih =>
      obtain ⟨body, hbody, rfl⟩ := ih h
      exact ⟨b :: body, .plain hq hb (UInt8.not_lt.1 large) hbody, rfl⟩
  · rintro ⟨body, hbody, rfl⟩
    induction hbody with
    | nil => exact skipText_quote
    | plain hq hb large _ ih => rwa [List.cons_append, skipText_plain hq hb large]
    | escape he _ ih => rwa [List.append_assoc, skipText_escape he]

/-- What is read as a text is passed over as one. -/
lemma skipText_of_readText {x : String} (h : readText s = .ok (x, rest)) :
    skipText s = .ok rest := by
  obtain ⟨body, hbody, rfl⟩ := readText_eq_ok_iff.1 h
  exact skipText_eq_ok_iff.2 ⟨body, hbody.loose, rfl⟩

end Texts

section Numbers

/-- Passes over the digits of an exponent, its sign having been passed over. -/
def skipPower : Bytes → Except Fault Bytes
  | [] => .error (.before .invalidNumber [])
  | b :: t => if isDigit b then .ok (t.dropWhile isDigit) else .error (.before .invalidNumber t)

/-- The digits of an exponent are passed over up to the first byte that is none. -/
lemma skipPower_eq_ok_iff : skipPower s = .ok rest ↔
    ∃ b ds, isDigit b = true ∧ AllDigits ds ∧ Avoids isDigit rest ∧ s = b :: (ds ++ rest) := by
  constructor
  · intro h
    unfold skipPower at h
    split at h
    case h_1 => cases h
    case h_2 b t =>
      split at h
      case isFalse => cases h
      case isTrue hb =>
        obtain ⟨ds, r, hds, hr, rfl⟩ := exists_digits t
        rw [hds.dropWhile hr] at h
        cases h
        exact ⟨b, ds, hb, hds, hr, rfl⟩
  · rintro ⟨b, ds, hb, hds, hr, rfl⟩
    rw [skipPower, if_pos hb, hds.dropWhile hr]

/-- A sign in front of the digits makes no difference. -/
lemma exists_skipPower (s : Bytes) :
    ∃ sign t, ExponentSign sign ∧ s = sign ++ t ∧ skipExponent s = skipPower t := by
  cases s with
  | nil => exact ⟨[], [], .none, rfl, rfl⟩
  | cons b t =>
    by_cases hp : b = plus
    · subst hp
      exact ⟨[plus], t, .plus, rfl, rfl⟩
    by_cases hm : b = minus
    · subst hm
      exact ⟨[minus], t, .minus, rfl, rfl⟩
    refine ⟨[], b :: t, .none, rfl, ?_⟩
    simp only [skipExponent, hp, hm, or_self, if_false]
    rfl

/-- The sign of an exponent is passed over. -/
lemma skipExponent_sign {sign : Bytes} (hs : ExponentSign sign) (hb : isDigit b = true) :
    skipExponent (sign ++ b :: s) = skipPower (b :: s) := by
  have hp : b ≠ plus := ne_of_isDigit hb (by decide)
  have hm : b ≠ minus := ne_of_isDigit hb (by decide)
  cases hs with
  | none =>
    simp only [List.nil_append, skipExponent, hp, hm, or_self, if_false]
    rfl
  | plus => rfl
  | minus => rfl

/-- An exponent is passed over behind its mark, with a sign or without. -/
lemma skipExponent_eq_ok_iff : skipExponent s = .ok rest ↔
    ∃ sign b ds, ExponentSign sign ∧ isDigit b = true ∧ AllDigits ds ∧ Avoids isDigit rest ∧
      s = sign ++ b :: (ds ++ rest) := by
  constructor
  · intro h
    obtain ⟨sign, t, hs, rfl, same⟩ := exists_skipPower s
    rw [same] at h
    obtain ⟨b, ds, hb, hds, hr, rfl⟩ := skipPower_eq_ok_iff.1 h
    exact ⟨sign, b, ds, hs, hb, hds, hr, rfl⟩
  · rintro ⟨sign, b, ds, hs, hb, hds, hr, rfl⟩
    rw [skipExponent_sign hs hb]
    exact skipPower_eq_ok_iff.2 ⟨b, ds, hb, hds, hr, rfl⟩

/-- Passes over an exponent, if there is one. -/
def skipScale : Bytes → Except Fault Bytes
  | [] => .ok []
  | c :: u => if isExponentMark c then skipExponent u else .ok (c :: u)

/-- An exponent is passed over if there is one. -/
lemma skipScale_eq_ok_iff (hs : Avoids isDigit s) : skipScale s = .ok rest ↔
    ∃ e, Exponent e ∧ CutExponent e rest ∧ s = e ++ rest := by
  constructor
  · intro h
    unfold skipScale at h
    split at h
    case h_1 =>
      cases h
      exact ⟨[], .none, ⟨trivial, fun _ => trivial⟩, rfl⟩
    case h_2 c u =>
      split at h
      case isTrue hm =>
        obtain ⟨sign, b, ds, hsign, hb, hds, hr, rfl⟩ := skipExponent_eq_ok_iff.1 h
        exact ⟨c :: (sign ++ b :: ds), .some hm hsign hb hds,
          ⟨hr, fun empty => absurd empty (List.cons_ne_nil _ _)⟩, by simp⟩
      case isFalse hm =>
        cases h
        exact ⟨[], .none, ⟨hs, fun _ => Bool.eq_false_iff.2 hm⟩, rfl⟩
  · rintro ⟨e, he, hr, rfl⟩
    cases he with
    | none =>
      cases rest with
      | nil => rfl
      | cons c u => rw [List.nil_append, skipScale, if_neg (Bool.eq_false_iff.1 (hr.2 rfl))]
    | some hm hsign hb hds =>
      rw [List.cons_append, skipScale, if_pos hm, List.append_assoc]
      exact skipExponent_eq_ok_iff.2 ⟨_, _, _, hsign, hb, hds, hr.1, rfl⟩

/-- The digits of a fraction are passed over. -/
lemma skipFraction_digits (hb : isDigit b = true) (hds : AllDigits ds) (hr : Avoids isDigit s) :
    skipFraction (b :: (ds ++ s)) = skipScale s := by
  simp only [skipFraction, hb, if_true, hds.dropWhile hr]
  cases s <;> rfl

/-- A fraction is passed over with the exponent behind it. -/
lemma skipFraction_eq_ok_iff : skipFraction s = .ok rest ↔
    ∃ b ds e, isDigit b = true ∧ AllDigits ds ∧ Exponent e ∧ CutExponent e rest ∧
      s = b :: (ds ++ (e ++ rest)) := by
  constructor
  · intro h
    cases s with
    | nil => cases h
    | cons b t =>
      cases hb : isDigit b with
      | false =>
        simp only [skipFraction, hb, Bool.false_eq_true, if_false] at h
        cases h
      | true =>
        obtain ⟨ds, r, hds, hr, rfl⟩ := exists_digits t
        rw [skipFraction_digits hb hds hr] at h
        obtain ⟨e, he, hcut, rfl⟩ := (skipScale_eq_ok_iff hr).1 h
        exact ⟨b, ds, e, hb, hds, he, hcut, rfl⟩
  · rintro ⟨b, ds, e, hb, hds, he, hr, rfl⟩
    have hend := he.avoids_append hr.1
    rw [skipFraction_digits hb hds hend]
    exact (skipScale_eq_ok_iff hend).2 ⟨e, he, hr, rfl⟩

/-- Without a point only an exponent can follow a whole part. -/
lemma skipTail_scale (hp : Avoids (· == point) s) : skipTail s = skipScale s := by
  cases s with
  | nil => rfl
  | cons b t =>
    have hb : b ≠ point := beq_eq_false_iff_ne.1 hp
    rw [skipTail, if_neg hb]
    rfl

/-- No exponent begins with a point. -/
lemma Exponent.avoids_point (he : Exponent e) (hr : e = [] → Avoids (· == point) rest) :
    Avoids (· == point) (e ++ rest) := by
  cases he with
  | none => exact hr rfl
  | @some m b sign ds hm hs hb hds =>
    apply beq_eq_false_iff_ne.2
    rintro rfl
    exact absurd hm (by decide)

/-- What follows a whole part is passed over as a fraction and an exponent. -/
lemma skipTail_eq_ok_iff (hs : Avoids isDigit s) : skipTail s = .ok rest ↔
    ∃ f e, Fraction f ∧ Exponent e ∧ CutNumber f e rest ∧ s = f ++ (e ++ rest) := by
  constructor
  · intro h
    have ending (hp : Avoids (· == point) s) :
        ∃ f e, Fraction f ∧ Exponent e ∧ CutNumber f e rest ∧ s = f ++ (e ++ rest) := by
      rw [skipTail_scale hp] at h
      obtain ⟨e, he, hcut, rfl⟩ := (skipScale_eq_ok_iff hs).1 h
      exact ⟨[], e, .none, he, ⟨hcut, fun _ none => by rwa [none] at hp⟩, rfl⟩
    cases s with
    | nil => exact ending trivial
    | cons b t =>
      by_cases hp : b = point
      · subst hp
        obtain ⟨b, ds, e, hb, hds, he, hr, rfl⟩ := skipFraction_eq_ok_iff.1 h
        exact ⟨point :: b :: ds, e, .some hb hds, he, ⟨hr, nofun⟩, rfl⟩
      · exact ending (beq_eq_false_iff_ne.2 hp)
  · rintro ⟨f, e, hf, he, hr, rfl⟩
    cases hf with
    | none =>
      rw [List.nil_append, skipTail_scale (he.avoids_point (hr.2 rfl))]
      exact (skipScale_eq_ok_iff (he.avoids_append hr.1.1)).2 ⟨e, he, hr.1, rfl⟩
    | some hb hds => exact skipFraction_eq_ok_iff.2 ⟨_, _, e, hb, hds, he, hr.1, rfl⟩

/-- The digits of a whole part are passed over. -/
lemma skipNumber_whole (hds : Whole ds) (hr : Avoids isDigit s) :
    skipNumber (ds ++ s) = skipTail s := by
  cases hds with
  | zero =>
    rw [List.singleton_append, skipNumber.eq_def]
    cases s with
    | nil => rfl
    | cons c u =>
      have hc : isDigit c = false := hr
      simp only [hc, Bool.false_eq_true, if_true, if_false]
  | digits hb hz hds =>
    rw [List.cons_append, skipNumber.eq_def]
    simp only [hz, hb, if_true, if_false, hds.dropWhile hr]

/-- Whatever is passed over as a number begins with a whole part. -/
lemma exists_whole_of_skipNumber (h : skipNumber s = .ok rest) :
    ∃ ds r, Whole ds ∧ Avoids isDigit r ∧ s = ds ++ r := by
  cases s with
  | nil => cases h
  | cons b t =>
    by_cases hz : b = zeroDigit
    · subst hz
      refine ⟨[zeroDigit], t, .zero, ?_, rfl⟩
      cases t with
      | nil => trivial
      | cons c u =>
        apply Bool.eq_false_iff.2
        intro hc
        simp only [skipNumber, hc, if_true] at h
        cases h
    cases hb : isDigit b with
    | false =>
      simp only [skipNumber, hz, hb, Bool.false_eq_true, if_false] at h
      cases h
    | true =>
      obtain ⟨ds, r, hds, hr, rfl⟩ := exists_digits t
      exact ⟨b :: ds, r, .digits hb hz hds, hr, rfl⟩

/-- A number is passed over if it has the parts of one, however large it is. -/
lemma skipNumber_eq_ok_iff : skipNumber s = .ok rest ↔
    ∃ ds f e, Whole ds ∧ Fraction f ∧ Exponent e ∧ CutNumber f e rest ∧
      s = ds ++ (f ++ (e ++ rest)) := by
  constructor
  · intro h
    obtain ⟨ds, r, hds, hr, rfl⟩ := exists_whole_of_skipNumber h
    rw [skipNumber_whole hds hr] at h
    obtain ⟨f, e, hf, he, hcut, rfl⟩ := (skipTail_eq_ok_iff hr).1 h
    exact ⟨ds, f, e, hds, hf, he, hcut, rfl⟩
  · rintro ⟨ds, f, e, hds, hf, he, hcut, rfl⟩
    have hend := hf.avoids_append (he.avoids_append hcut.1.1)
    rw [skipNumber_whole hds hend]
    exact (skipTail_eq_ok_iff hend).2 ⟨f, e, hf, he, hcut, rfl⟩

/-- What is read as a number is passed over as one. -/
lemma skipNumber_of_readNumber {negative : Bool} (h : readNumber negative s = .ok (v, rest)) :
    skipNumber s = .ok rest := by
  obtain ⟨ds, f, e, hds, hf, he, hr, rfl, _⟩ := exists_of_readNumber h
  exact skipNumber_eq_ok_iff.2 ⟨ds, f, e, hds, hf, he, hr, rfl⟩

end Numbers

section Scalars

/-- What is passed over as a value without elements has the form of one. -/
lemma loose_of_skipScalar (h : skipScalar s = .ok rest) : ∃ t, LooseScalar t ∧ s = t ++ rest := by
  unfold skipScalar at h
  split at h
  case h_1 => cases h
  case h_2 b u =>
    split at h
    case isTrue hb => exact ⟨_, .nullWord, by rw [hb, word_eq_ok_iff.1 h, null_eq]; rfl⟩
    split at h
    case isTrue hb => exact ⟨_, .trueWord, by rw [hb, word_eq_ok_iff.1 h, true_eq]; rfl⟩
    split at h
    case isTrue hb => exact ⟨_, .falseWord, by rw [hb, word_eq_ok_iff.1 h, false_eq]; rfl⟩
    split at h
    case isTrue hb =>
      obtain ⟨ds, f, e, hds, hf, he, _, rfl⟩ := skipNumber_eq_ok_iff.1 h
      have number : LooseScalar (signBytes true ++ (ds ++ (f ++ e))) := .number hds hf he
      exact ⟨_, number, by simp [signBytes, hb]⟩
    split at h
    case isTrue =>
      obtain ⟨ds, f, e, hds, hf, he, _, hs⟩ := skipNumber_eq_ok_iff.1 h
      have number : LooseScalar (signBytes false ++ (ds ++ (f ++ e))) := .number hds hf he
      exact ⟨_, number, by simp [signBytes, hs]⟩
    split at h
    case isTrue hb =>
      obtain ⟨body, hbody, rfl⟩ := skipText_eq_ok_iff.1 h
      exact ⟨_, .text hbody, by simp [hb]⟩
    cases h

/-- A number begins with a digit. -/
lemma digit_of_skipNumber (h : skipNumber s = .ok rest) : ∃ b u, isDigit b = true ∧ s = b :: u := by
  obtain ⟨ds, r, hds, _, rfl⟩ := exists_whole_of_skipNumber h
  cases hds with
  | zero => exact ⟨_, _, rfl, rfl⟩
  | digits hb _ _ => exact ⟨_, _, hb, rfl⟩

/-- What begins with a digit is passed over as a number. -/
lemma skipScalar_digit (hb : isDigit b = true) : skipScalar (b :: s) = skipNumber (b :: s) := by
  rw [skipScalar, if_neg (ne_of_isDigit hb (by decide)), if_neg (ne_of_isDigit hb (by decide)),
    if_neg (ne_of_isDigit hb (by decide)), if_neg (ne_of_isDigit hb (by decide)), if_pos hb]

/-- What has the form of a value without elements is passed over to its end. -/
lemma skipScalar_of_loose (h : LooseScalar t) (hr : Stops rest) :
    skipScalar (t ++ rest) = .ok rest := by
  have skip {w t : Bytes} : word w (w ++ t) = .ok t := word_eq_ok_iff.2 rfl
  cases h with
  | nullWord => rw [null_eq, List.cons_append, skipScalar, if_pos rfl, skip]
  | trueWord => rw [true_eq, List.cons_append, skipScalar, if_neg (by decide), if_pos rfl, skip]
  | falseWord =>
    rw [false_eq, List.cons_append, skipScalar, if_neg (by decide), if_neg (by decide), if_pos rfl,
      skip]
  | @number negative ds f e hds hf he =>
    have hskip : skipNumber (ds ++ (f ++ (e ++ rest))) = .ok rest :=
      skipNumber_eq_ok_iff.2 ⟨ds, f, e, hds, hf, he, hr.cutNumber, rfl⟩
    have shape : ds ++ (f ++ e) ++ rest = ds ++ (f ++ (e ++ rest)) := by simp
    rw [List.append_assoc, shape]
    cases negative with
    | true => exact hskip
    | false =>
      obtain ⟨b, u, hb, hs⟩ := digit_of_skipNumber hskip
      rw [hs] at hskip ⊢
      exact (skipScalar_digit hb).trans hskip
  | text hbody =>
    rw [List.cons_append, List.cons_append, skipScalar, if_neg (by decide), if_neg (by decide),
      if_neg (by decide), if_neg (by decide), if_neg (by decide), if_pos rfl, List.append_assoc]
    exact skipText_eq_ok_iff.2 ⟨_, hbody, rfl⟩

/-- What is read as a value without elements is passed over as one. -/
lemma skipScalar_of_readScalar (h : readScalar s = .ok (v, rest)) : skipScalar s = .ok rest := by
  have word_of_map {c : Value} {w t : Bytes} (hw : (word w t).map (c, ·) = .ok (v, rest)) :
      word w t = .ok rest := by
    obtain ⟨_, hw, same⟩ := map_eq_ok_iff.1 hw
    cases same
    exact hw
  cases s with
  | nil => cases h
  | cons b t =>
    rw [readScalar] at h
    rw [skipScalar]
    split_ifs at h ⊢
    · exact word_of_map h
    · exact word_of_map h
    · exact word_of_map h
    · exact skipNumber_of_readNumber h
    · exact skipNumber_of_readNumber h
    · obtain ⟨_, hx, same⟩ := map_eq_ok_iff.1 h
      cases same
      exact skipText_of_readText hx

end Scalars

end ParityDuel.Json
