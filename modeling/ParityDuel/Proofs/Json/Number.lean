import ParityDuel.Proofs.Json.Scan

/-!
# Reading numbers

A number is read as far as its grammar goes and no further: `exists_of_readNumber` cuts what
`readNumber` took into whole part, fraction and exponent, `readNumber_extends` says that it would
have been read in the same way on its own. From the two, `readNumber` succeeds exactly on what
`Number` tells (`number_of_readNumber`, `readNumber_of_number`).
-/

namespace ParityDuel.Json

variable {s r rest ds f e : Bytes} {b : UInt8} {v : Value}

section Digits

/-- No byte of the kind comes next. -/
def Avoids (p : UInt8 → Bool) : Bytes → Prop
  | [] => True
  | b :: _ => p b = false

/-- Behind digits stands what does not begin with one. -/
lemma AllDigits.dropWhile (hds : AllDigits ds) (hr : Avoids isDigit r) :
    (ds ++ r).dropWhile isDigit = r := by
  rw [List.dropWhile_append_of_pos hds]
  cases r with
  | nil => rfl
  | cons b r => exact List.dropWhile_cons_of_neg (Bool.eq_false_iff.1 hr)

/-- Digits end where no digit comes next. -/
lemma AllDigits.takeWhile (hds : AllDigits ds) (hr : Avoids isDigit r) :
    (ds ++ r).takeWhile isDigit = ds := by
  rw [List.takeWhile_append_of_pos hds]
  cases r with
  | nil => exact List.append_nil ds
  | cons b r => rw [List.takeWhile_cons_of_neg (Bool.eq_false_iff.1 hr), List.append_nil]

/-- The digits at the front of a text. -/
lemma exists_digits (s : Bytes) : ∃ ds r, AllDigits ds ∧ Avoids isDigit r ∧ s = ds ++ r := by
  induction s with
  | nil => exact ⟨[], [], nofun, trivial, rfl⟩
  | cons b s ih =>
    obtain ⟨ds, r, hds, hr, rfl⟩ := ih
    cases hb : isDigit b with
    | false => exact ⟨[], b :: (ds ++ r), nofun, hb, rfl⟩
    | true => exact ⟨b :: ds, r, List.forall_mem_cons.2 ⟨hb, hds⟩, hr, rfl⟩

/-- Digits of the whole part are taken up to the first byte that is none. -/
lemma wholeDigits_append {n : Nat} (hds : AllDigits ds) (hr : Avoids isDigit r) :
    wholeDigits n (ds ++ r) = ((wholeDigits n ds).1, (wholeDigits n ds).2.1, r) := by
  induction ds generalizing n with
  | nil =>
    cases r with
    | nil => rfl
    | cons b r =>
      have hb : isDigit b = false := hr
      simp only [List.nil_append, wholeDigits, hb, Bool.false_eq_true, if_false]
  | cons b ds ih =>
    obtain ⟨hb, hds'⟩ := List.forall_mem_cons.1 hds
    rw [List.cons_append, wholeDigits, wholeDigits, if_pos hb, if_pos hb]
    split
    case isTrue => exact ih hds'
    case isFalse =>
      have ht := hds.takeWhile hr
      have hd := hds.dropWhile hr
      have ht' := hds.takeWhile (r := []) trivial
      rw [List.append_nil] at ht'
      rw [List.cons_append] at ht hd
      rw [ht, hd, ht']

/-- Digits of the fraction are taken up to the first byte that is none. -/
lemma fractionDigits_append {n : Nat} (hds : AllDigits ds) (hr : Avoids isDigit r) :
    fractionDigits n (ds ++ r) = ((fractionDigits n ds).1, (fractionDigits n ds).2.1, r) := by
  induction ds generalizing n with
  | nil =>
    cases r with
    | nil => rfl
    | cons b r =>
      have hb : isDigit b = false := hr
      simp only [List.nil_append, fractionDigits, hb, Bool.false_eq_true, if_false]
  | cons b ds ih =>
    obtain ⟨hb, hds'⟩ := List.forall_mem_cons.1 hds
    rw [List.cons_append, fractionDigits, fractionDigits, if_pos hb, if_pos hb]
    split
    case isTrue => rw [ih hds']
    case isFalse =>
      have hd := hds.dropWhile hr
      rw [List.cons_append] at hd
      rw [hd]

/-- The digits of an exponent are counted to the end, or up to one that goes too far. -/
lemma exponentDigits_append {n : Nat} (hds : AllDigits ds) (hr : Avoids isDigit r) :
    (∃ k, exponentDigits n ds = (some k, []) ∧ exponentDigits n (ds ++ r) = (some k, r)) ∨
      ∃ u, AllDigits u ∧ exponentDigits n ds = (none, u) ∧
        exponentDigits n (ds ++ r) = (none, u ++ r) := by
  induction ds generalizing n with
  | nil =>
    refine .inl ⟨n, rfl, ?_⟩
    cases r with
    | nil => rfl
    | cons b r =>
      have hb : isDigit b = false := hr
      simp only [List.nil_append, exponentDigits, hb, Bool.false_eq_true, if_false]
  | cons b ds ih =>
    obtain ⟨hb, hds'⟩ := List.forall_mem_cons.1 hds
    rw [List.cons_append, exponentDigits, exponentDigits, if_pos hb, if_pos hb]
    split
    case isTrue => exact ih hds'
    case isFalse => exact .inr ⟨ds, hds', rfl, rfl⟩

end Digits

section ReadingOn

/-- The first reading succeeds just as the second one, which leaves nothing, and leaves `r`. -/
def Extends (r : Bytes) (x y : Except Fault (Value × Bytes)) : Prop :=
  ∀ v rest, x = .ok (v, rest) ↔ rest = r ∧ y = .ok (v, [])

variable {negative : Bool} {k : Nat} {x : Int}

/-- Whoever leaves nothing of a text leaves what is put behind it. -/
lemma extends_ok : Extends r (.ok (v, r)) (.ok (v, [])) := by
  intro v' rest
  simp [and_comm, eq_comm]

/-- Failures are alike. -/
lemma extends_error {a b : Fault} : Extends r (.error a) (.error b) := by
  intro v rest
  simp

/-- A number of double precision does not depend on what follows. -/
lemma floatLiteral_extends :
    Extends r (floatLiteral negative k x r) (floatLiteral negative k x []) := by
  unfold floatLiteral
  cases scaled? k x with
  | none => exact extends_error
  | some a => exact extends_ok

/-- A whole number does not depend on what follows. -/
lemma wholeLiteral_extends :
    Extends r (wholeLiteral negative k r) (wholeLiteral negative k []) := by
  unfold wholeLiteral
  split
  case isTrue =>
    split
    case isTrue => exact extends_ok
    case isFalse => exact floatLiteral_extends
  case isFalse => exact extends_ok

/-- A number of double precision is read as one, and nothing is taken for it. -/
lemma float_of_floatLiteral (h : floatLiteral negative k x s = .ok (v, rest)) :
    (∃ y, v = .float y) ∧ s = rest := by
  unfold floatLiteral at h
  split at h
  case h_1 =>
    cases h
    exact ⟨⟨_, rfl⟩, rfl⟩
  case h_2 => cases h

end ReadingOn

section Exponents

variable {negative down : Bool} {k : Nat} {x : Int} {sign : Bytes}

/-- Reads what follows the sign of an exponent. -/
def readPower (negative : Bool) (k : Nat) (x : Int) (down : Bool) :
    Bytes → Except Fault (Value × Bytes)
  | [] => .error (.before .eofInValue [])
  | b :: t =>
    if isDigit b then
      match exponentDigits (digitValue b) t with
      | (some n, rest) => floatLiteral negative k (if down then x - n else x + n) rest
      | (none, rest) =>
        if k ≠ 0 ∧ ¬ down then .error (.before .numberOutOfRange rest)
        else .ok (.float (.finite negative .zero), rest.dropWhile isDigit)
    else .error (.before .invalidNumber t)

/-- An exponent is read behind its sign, if it has one. -/
lemma exists_sign (negative : Bool) (k : Nat) (x : Int) (s : Bytes) :
    ∃ sign t, ExponentSign sign ∧ s = sign ++ t ∧
      readExponent negative k x s = readPower negative k x (decide (sign = [minus])) t := by
  cases s with
  | nil => exact ⟨[], [], .none, rfl, rfl⟩
  | cons b t =>
    by_cases hm : b = minus
    · subst hm
      exact ⟨[minus], t, .minus, rfl, rfl⟩
    by_cases hp : b = plus
    · subst hp
      exact ⟨[plus], t, .plus, rfl, rfl⟩
    · refine ⟨[], b :: t, .none, rfl, ?_⟩
      simp only [readExponent, hm, hp, if_false]
      rfl

/-- A sign in front of digits tells which way the exponent goes. -/
lemma readExponent_sign (hs : ExponentSign sign) (hb : isDigit b = true) :
    readExponent negative k x (sign ++ b :: s) =
      readPower negative k x (decide (sign = [minus])) (b :: s) := by
  have hm : b ≠ minus := by rintro rfl; exact absurd hb (by decide)
  have hp : b ≠ plus := by rintro rfl; exact absurd hb (by decide)
  cases hs with
  | none =>
    simp only [List.nil_append, readExponent, hm, hp, if_false]
    rfl
  | plus => rfl
  | minus => rfl

/-- The digits of an exponent are read the same whatever follows them. -/
lemma readPower_extends (hb : isDigit b = true) (hds : AllDigits ds) (hr : Avoids isDigit r) :
    Extends r (readPower negative k x down (b :: (ds ++ r)))
      (readPower negative k x down (b :: ds)) := by
  simp only [readPower, hb, if_true]
  obtain ⟨n, h, h'⟩ | ⟨u, hu, h, h'⟩ := exponentDigits_append (n := digitValue b) hds hr
  · rw [h, h']
    exact floatLiteral_extends
  · have hend : u.dropWhile isDigit = [] := by
      have := hu.dropWhile (r := []) trivial
      rwa [List.append_nil] at this
    simp only [h, h']
    split
    case isTrue => exact extends_error
    case isFalse =>
      rw [hu.dropWhile hr, hend]
      exact extends_ok

/-- What is read behind the sign of an exponent are digits. -/
lemma exists_of_readPower (h : readPower negative k x down s = .ok (v, rest)) :
    (∃ y, v = .float y) ∧ ∃ b ds, isDigit b = true ∧ AllDigits ds ∧ Avoids isDigit rest ∧
      s = b :: (ds ++ rest) := by
  unfold readPower at h
  split at h
  case h_1 => cases h
  case h_2 b t =>
    obtain ⟨ds, r, hds, hr, rfl⟩ := exists_digits t
    split at h
    case isFalse => cases h
    case isTrue hb =>
      obtain ⟨n, _, h'⟩ | ⟨u, hu, _, h'⟩ := exponentDigits_append (n := digitValue b) hds hr
      · rw [h'] at h
        obtain ⟨hy, rfl⟩ := float_of_floatLiteral h
        exact ⟨hy, b, ds, hb, hds, hr, rfl⟩
      · simp only [h', hu.dropWhile hr] at h
        split at h
        case isTrue => cases h
        case isFalse =>
          cases h
          exact ⟨⟨_, rfl⟩, b, ds, hb, hds, hr, rfl⟩

/-- An exponent is read the same whatever follows its digits. -/
lemma readExponent_extends (hs : ExponentSign sign) (hb : isDigit b = true) (hds : AllDigits ds)
    (hr : Avoids isDigit r) :
    Extends r (readExponent negative k x (sign ++ b :: (ds ++ r)))
      (readExponent negative k x (sign ++ b :: ds)) := by
  rw [readExponent_sign hs hb, readExponent_sign hs hb]
  exact readPower_extends hb hds hr

/-- What is read behind the mark of an exponent is a sign and digits. -/
lemma exists_of_readExponent (h : readExponent negative k x s = .ok (v, rest)) :
    (∃ y, v = .float y) ∧ ∃ sign b ds, ExponentSign sign ∧ isDigit b = true ∧ AllDigits ds ∧
      Avoids isDigit rest ∧ s = sign ++ b :: (ds ++ rest) := by
  obtain ⟨sign, t, hs, rfl, he⟩ := exists_sign negative k x s
  rw [he] at h
  obtain ⟨hy, b, ds, hb, hds, hr, rfl⟩ := exists_of_readPower h
  exact ⟨hy, sign, b, ds, hs, hb, hds, hr, rfl⟩

/-- Reads what follows the digits of a fraction. -/
def readScale (negative : Bool) (k : Nat) (x : Int) : Bytes → Except Fault (Value × Bytes)
  | [] => floatLiteral negative k x []
  | c :: u =>
    if isExponentMark c then readExponent negative k x u else floatLiteral negative k x (c :: u)

/-- What may follow an exponent, or the place where one might stand. -/
def CutExponent (e rest : Bytes) : Prop :=
  Avoids isDigit rest ∧ (e = [] → Avoids isExponentMark rest)

/-- An exponent or its absence is read the same whatever may follow it. -/
lemma readScale_extends (he : Exponent e) (hr : CutExponent e r) :
    Extends r (readScale negative k x (e ++ r)) (readScale negative k x e) := by
  cases he with
  | none =>
    cases r with
    | nil => exact floatLiteral_extends
    | cons c u =>
      have hc : isExponentMark c = false := hr.2 rfl
      simp only [List.nil_append, readScale, hc, Bool.false_eq_true, if_false]
      exact floatLiteral_extends
  | some hm hs hb hds =>
    simp only [List.cons_append, List.append_assoc, readScale, hm, if_true]
    exact readExponent_extends hs hb hds hr.1

/-- What is read behind the digits of a fraction is an exponent or nothing. -/
lemma exists_of_readScale (h : readScale negative k x s = .ok (v, rest)) (hs : Avoids isDigit s) :
    (∃ y, v = .float y) ∧ ∃ e, Exponent e ∧ CutExponent e rest ∧ s = e ++ rest := by
  unfold readScale at h
  split at h
  case h_1 =>
    obtain ⟨hy, rfl⟩ := float_of_floatLiteral h
    exact ⟨hy, [], .none, ⟨trivial, fun _ => trivial⟩, rfl⟩
  case h_2 c u =>
    split at h
    case isTrue hm =>
      obtain ⟨hy, sign, b, ds, hsign, hb, hds, hr, rfl⟩ := exists_of_readExponent h
      exact ⟨hy, c :: (sign ++ b :: ds), .some hm hsign hb hds,
        ⟨hr, fun none => absurd none (List.cons_ne_nil _ _)⟩, by simp⟩
    case isFalse hm =>
      obtain ⟨hy, rfl⟩ := float_of_floatLiteral h
      exact ⟨hy, [], .none, ⟨hs, fun _ => Bool.eq_false_iff.2 hm⟩, rfl⟩

end Exponents

section Tails

variable {negative : Bool} {k d : Nat}

/-- No exponent begins with a digit. -/
lemma Exponent.avoids_append (he : Exponent e) (hr : Avoids isDigit r) :
    Avoids isDigit (e ++ r) := by
  cases he with
  | none => exact hr
  | @some m b sign ds hm hs hb hds =>
    simp only [isExponentMark, Bool.or_eq_true, beq_iff_eq] at hm
    obtain rfl | rfl := hm <;> rfl

/-- The digits of a fraction are taken before its exponent is read. -/
lemma readFraction_digits (hb : isDigit b = true) (hds : AllDigits ds) (hr : Avoids isDigit r) :
    readFraction negative k d (b :: (ds ++ r)) =
      readScale negative (fractionDigits k (b :: ds)).1
        ((d : Int) - ((fractionDigits k (b :: ds)).2.1 : Int)) r := by
  have hf := fractionDigits_append (n := k) (List.forall_mem_cons.2 ⟨hb, hds⟩) hr
  rw [List.cons_append] at hf
  simp only [readFraction, hb, if_true, hf]
  cases r <;> rfl

/-- A fraction is read the same whatever may follow it. -/
lemma readFraction_extends (hb : isDigit b = true) (hds : AllDigits ds) (he : Exponent e)
    (hr : CutExponent e r) :
    Extends r (readFraction negative k d (b :: (ds ++ (e ++ r))))
      (readFraction negative k d (b :: (ds ++ e))) := by
  have hend := he.avoids_append (r := []) trivial
  rw [List.append_nil] at hend
  rw [readFraction_digits hb hds (he.avoids_append hr.1), readFraction_digits hb hds hend]
  exact readScale_extends he hr

/-- What is read behind a point are digits and an exponent or nothing. -/
lemma exists_of_readFraction (h : readFraction negative k d s = .ok (v, rest)) :
    (∃ y, v = .float y) ∧ ∃ b ds e, isDigit b = true ∧ AllDigits ds ∧ Exponent e ∧
      CutExponent e rest ∧ s = b :: (ds ++ (e ++ rest)) := by
  cases s with
  | nil => cases h
  | cons b t =>
    cases hb : isDigit b with
    | false =>
      simp only [readFraction, hb, Bool.false_eq_true, if_false] at h
      cases h
    | true =>
      obtain ⟨ds, r, hds, hr, rfl⟩ := exists_digits t
      rw [readFraction_digits hb hds hr] at h
      obtain ⟨hy, e, he, hcut, rfl⟩ := exists_of_readScale h hr
      exact ⟨hy, b, ds, e, hb, hds, he, hcut, rfl⟩

/-- What may follow a number, or the place where its fraction and exponent might stand. -/
def CutNumber (f e rest : Bytes) : Prop :=
  CutExponent e rest ∧ (f = [] → e = [] → Avoids (· == point) rest)

/-- The number of a literal that ends with its whole part. -/
def readWhole (negative : Bool) (k d : Nat) (rest : Bytes) : Except Fault (Value × Bytes) :=
  if d = 0 then wholeLiteral negative k rest else floatLiteral negative k d rest

/-- A number that ends with its whole part does not depend on what follows. -/
lemma readWhole_extends : Extends r (readWhole negative k d r) (readWhole negative k d []) := by
  unfold readWhole
  split
  case isTrue => exact wholeLiteral_extends
  case isFalse => exact floatLiteral_extends

/-- Without a point or a mark a number ends with its whole part. -/
lemma readTail_whole (hm : Avoids isExponentMark r) (hp : Avoids (· == point) r) :
    readTail negative k d r = readWhole negative k d r := by
  cases r with
  | nil => rfl
  | cons c u =>
    have hc : isExponentMark c = false := hm
    have hc' : c ≠ point := beq_eq_false_iff_ne.1 hp
    simp only [readTail, hc, hc', Bool.false_eq_true, if_false]
    rfl

/-- A point begins a fraction. -/
lemma readTail_fraction (s : Bytes) :
    readTail negative k d (point :: s) = readFraction negative k d s := rfl

/-- A mark begins an exponent. -/
lemma readTail_exponent (hb : isExponentMark b = true) :
    readTail negative k d (b :: s) = readExponent negative k d s := by
  have hp : b ≠ point := by rintro rfl; exact absurd hb (by decide)
  simp only [readTail, hp, hb, if_true, if_false]

/-- What follows a whole part is read the same whatever may follow it in turn. -/
lemma readTail_extends (hf : Fraction f) (he : Exponent e) (hr : CutNumber f e r) :
    Extends r (readTail negative k d (f ++ (e ++ r))) (readTail negative k d (f ++ e)) := by
  cases hf with
  | some hb hds =>
    simp only [List.cons_append, readTail_fraction]
    exact readFraction_extends hb hds he hr.1
  | none =>
    cases he with
    | none =>
      simp only [List.nil_append]
      rw [readTail_whole (hr.1.2 rfl) (hr.2 rfl rfl), readTail_whole (r := []) trivial trivial]
      exact readWhole_extends
    | some hm hs hb hds =>
      simp only [List.nil_append, List.cons_append, List.append_assoc, readTail_exponent hm]
      exact readExponent_extends hs hb hds hr.1.1

/-- What is read behind a whole part is a fraction and an exponent, or nothing. -/
lemma exists_of_readTail (h : readTail negative k d s = .ok (v, rest)) (hs : Avoids isDigit s) :
    ∃ f e, Fraction f ∧ Exponent e ∧ CutNumber f e rest ∧ s = f ++ (e ++ rest) ∧
      ((∃ y, v = .float y) ∨ f = [] ∧ e = []) := by
  have ending (hm : Avoids isExponentMark s) (hp : Avoids (· == point) s) :
      ∃ f e, Fraction f ∧ Exponent e ∧ CutNumber f e rest ∧ s = f ++ (e ++ rest) ∧
        ((∃ y, v = .float y) ∨ f = [] ∧ e = []) := by
    rw [readTail_whole hm hp] at h
    obtain ⟨rfl, _⟩ := (readWhole_extends v rest).1 h
    exact ⟨[], [], .none, .none, ⟨⟨hs, fun _ => hm⟩, fun _ _ => hp⟩, rfl, .inr ⟨rfl, rfl⟩⟩
  cases s with
  | nil => exact ending trivial trivial
  | cons b t =>
    by_cases hp : b = point
    · subst hp
      obtain ⟨hy, b, ds, e, hb, hds, he, hr, rfl⟩ := exists_of_readFraction h
      exact ⟨point :: b :: ds, e, .some hb hds, he, ⟨hr, nofun⟩, rfl, .inl hy⟩
    cases hm : isExponentMark b with
    | true =>
      rw [readTail_exponent hm] at h
      obtain ⟨hy, sign, c, ds, hsign, hc, hds, hr, rfl⟩ := exists_of_readExponent h
      exact ⟨[], b :: (sign ++ c :: ds), .none, .some hm hsign hc hds, ⟨⟨hr, nofun⟩, nofun⟩,
        by simp, .inl hy⟩
    | false => exact ending hm (beq_eq_false_iff_ne.2 hp)

end Tails

section Numbers

variable {negative : Bool}

/-- No fraction begins with a digit. -/
lemma Fraction.avoids_append (hf : Fraction f) (hr : Avoids isDigit r) :
    Avoids isDigit (f ++ r) := by
  cases hf with
  | none => exact hr
  | some _ _ => rfl

/-- A digit stands for nine at most. -/
lemma digitValue_le (hb : isDigit b = true) : digitValue b ≤ 9 := by
  rw [isDigit, Bool.and_eq_true, decide_eq_true_eq, decide_eq_true_eq] at hb
  have high : b.toNat ≤ 57 := hb.2
  rw [digitValue]
  omega

/-- A number fits a word if it is less than `2 ^ 64`. -/
lemma fitsWord_iff {n : Nat} : fitsWord n = true ↔ n < 1 <<< 64 := by
  rw [fitsWord, decide_eq_true_eq]

/-- The digits of the whole part are taken before the rest of a number is read. -/
lemma readNumber_whole (hds : Whole ds) (hr : Avoids isDigit r) :
    readNumber negative (ds ++ r) =
      readTail negative (wholeDigits 0 ds).1 (wholeDigits 0 ds).2.1 r := by
  cases hds with
  | zero =>
    cases r with
    | nil => rfl
    | cons c u =>
      have hc : isDigit c = false := hr
      simp only [List.cons_append, List.nil_append, readNumber, hc, Bool.false_eq_true, if_false,
        if_true]
      rfl
  | @digits b ds hb hz hds =>
    have fits : fitsWord (0 * 10 + digitValue b) = true := by
      have := digitValue_le hb
      rw [fitsWord_iff]
      omega
    have value : wholeDigits 0 (b :: ds) = wholeDigits (digitValue b) ds := by
      rw [wholeDigits, if_pos hb, if_pos fits, Nat.zero_mul, Nat.zero_add]
    rw [value]
    simp only [List.cons_append, readNumber.eq_def, hz, hb, if_false, if_true,
      wholeDigits_append hds hr]

/-- What is read as a number begins with a whole part. -/
lemma exists_whole {p : Value × Bytes} (h : readNumber negative s = .ok p) :
    ∃ ds r, Whole ds ∧ Avoids isDigit r ∧ s = ds ++ r := by
  cases s with
  | nil => cases h
  | cons b t =>
    by_cases hz : b = zeroDigit
    · subst hz
      refine ⟨[zeroDigit], t, .zero, ?_, rfl⟩
      cases t with
      | nil => trivial
      | cons c u =>
        apply Bool.eq_false_iff.2
        intro hc
        simp only [readNumber, hc, if_true] at h
        cases h
    cases hb : isDigit b with
    | false =>
      simp only [readNumber, hz, hb, Bool.false_eq_true, if_false] at h
      cases h
    | true =>
      obtain ⟨ds, r, hds, hr, rfl⟩ := exists_digits t
      exact ⟨b :: ds, r, .digits hb hz hds, hr, rfl⟩

/-- What was read as a number is made of a whole part, a fraction and an exponent. -/
lemma exists_of_readNumber (h : readNumber negative s = .ok (v, rest)) :
    ∃ ds f e, Whole ds ∧ Fraction f ∧ Exponent e ∧ CutNumber f e rest ∧
      s = ds ++ (f ++ (e ++ rest)) ∧ ((∃ y, v = .float y) ∨ f = [] ∧ e = []) := by
  obtain ⟨ds, r, hds, hr, rfl⟩ := exists_whole h
  rw [readNumber_whole hds hr] at h
  obtain ⟨f, e, hf, he, hcut, rfl, hv⟩ := exists_of_readTail h hr
  exact ⟨ds, f, e, hds, hf, he, hcut, rfl, hv⟩

/-- A number is read the same whatever stands behind it. -/
lemma readNumber_extends (hds : Whole ds) (hf : Fraction f) (he : Exponent e)
    (hr : CutNumber f e r) :
    Extends r (readNumber negative (ds ++ (f ++ (e ++ r))))
      (readNumber negative (ds ++ (f ++ e))) := by
  have hend := hf.avoids_append (he.avoids_append (r := []) trivial)
  rw [List.append_nil] at hend
  rw [readNumber_whole hds (hf.avoids_append (he.avoids_append hr.1.1)), readNumber_whole hds hend]
  exact readTail_extends hf he hr

/-- Further digits never make a number less. -/
lemma le_numeralFrom (n : Nat) (ds : Bytes) : n ≤ numeralFrom n ds := by
  induction ds generalizing n with
  | nil => exact Nat.le_refl n
  | cons b ds ih =>
    have grows : n ≤ n * 10 + digitValue b := by omega
    exact Nat.le_trans grows (ih (n * 10 + digitValue b))

/-- Digits whose number fits are all taken. -/
lemma wholeDigits_of_fits {n : Nat} (hds : AllDigits ds) (fits : numeralFrom n ds < 1 <<< 64) :
    wholeDigits n ds = (numeralFrom n ds, 0, []) := by
  induction ds generalizing n with
  | nil => rfl
  | cons b ds ih =>
    obtain ⟨hb, hds'⟩ := List.forall_mem_cons.1 hds
    have step : fitsWord (n * 10 + digitValue b) = true :=
      fitsWord_iff.2 (Nat.lt_of_le_of_lt (le_numeralFrom _ ds) fits)
    rw [wholeDigits, if_pos hb, if_pos step]
    exact ih hds' fits

/-- Where no digit is dropped the number fits. -/
lemma fits_of_wholeDigits {n : Nat} (hds : AllDigits ds) (hn : n < 1 <<< 64)
    (h : (wholeDigits n ds).2.1 = 0) : numeralFrom n ds < 1 <<< 64 := by
  induction ds generalizing n with
  | nil => exact hn
  | cons b ds ih =>
    obtain ⟨hb, hds'⟩ := List.forall_mem_cons.1 hds
    rw [wholeDigits, if_pos hb] at h
    by_cases step : fitsWord (n * 10 + digitValue b) = true
    · rw [if_pos step] at h
      exact ih hds' (fitsWord_iff.1 step) h
    · rw [if_neg step, List.takeWhile_cons_of_pos hb, List.length_cons] at h
      exact absurd h (Nat.succ_ne_zero _)

/-- A whole part is made of digits. -/
lemma Whole.allDigits (h : Whole ds) : AllDigits ds := by
  cases h with
  | zero => exact List.forall_mem_cons.2 ⟨rfl, nofun⟩
  | digits hb _ hds => exact List.forall_mem_cons.2 ⟨hb, hds⟩

/-- A whole part by itself is read as a whole number. -/
lemma readNumber_eq_readWhole (hds : Whole ds) :
    readNumber negative ds = readWhole negative (wholeDigits 0 ds).1 (wholeDigits 0 ds).2.1 [] := by
  have h : readNumber negative (ds ++ []) = _ := readNumber_whole hds trivial
  rwa [List.append_nil, readTail_whole (r := []) trivial trivial] at h

/-- A whole number that fits is read as this number. -/
lemma readNumber_of_fits (hds : Whole ds) (fits : numeral ds < 1 <<< 64) :
    readNumber negative ds = wholeLiteral negative (numeral ds) [] := by
  rw [readNumber_eq_readWhole hds, wholeDigits_of_fits hds.allDigits fits]
  rfl

/-- A whole number that is not read as one of double precision fits. -/
lemma fits_of_readNumber (hds : Whole ds) (h : readNumber negative ds = .ok (v, []))
    (hv : ¬ ∃ y, v = .float y) : numeral ds < 1 <<< 64 := by
  rw [readNumber_eq_readWhole hds, readWhole] at h
  split at h
  case isTrue none => exact fits_of_wholeDigits hds.allDigits (by decide) none
  case isFalse => exact absurd (float_of_floatLiteral h).1 hv

/-- The numbers are what is read as one without anything behind it. -/
lemma number_iff {t : Bytes} : Number t v ↔
    ∃ negative u, t = signBytes negative ++ u ∧ readNumber negative u = .ok (v, []) := by
  constructor
  · intro h
    cases h with
    | @unsigned _ n ht =>
      generalize hi : (n.toNat : Int) = i at ht
      cases ht with
      | natural hds =>
        have value : numeral t = n.toNat := by omega
        refine ⟨false, t, rfl, ?_⟩
        rw [readNumber_of_fits hds (value ▸ n.toNat_lt), value, wholeLiteral,
          if_neg Bool.false_ne_true]
        simp
      | negative _ pos => omega
    | @signed _ n ht neg =>
      generalize hi : n.toInt = i at ht
      cases ht with
      | natural hds => omega
      | @negative ds hds pos =>
        have low : -2 ^ 63 ≤ n.toInt := n.le_toInt
        have fits : numeral ds < 1 <<< 64 := by omega
        refine ⟨true, ds, rfl, ?_⟩
        rw [readNumber_of_fits hds fits, wholeLiteral, if_pos rfl, if_pos ⟨pos, by omega⟩, ← hi]
        simp
    | float hds hf he hr => exact ⟨_, _, rfl, hr⟩
  · rintro ⟨negative, u, rfl, h⟩
    obtain ⟨ds, f, e, hds, hf, he, _, hu, hv⟩ := exists_of_readNumber h
    rw [List.append_nil] at hu
    subst hu
    by_cases hfl : ∃ y, v = .float y
    · obtain ⟨y, rfl⟩ := hfl
      exact .float hds hf he h
    · obtain ⟨rfl, rfl⟩ := hv.resolve_left hfl
      rw [List.append_nil, List.append_nil] at h ⊢
      have fits := fits_of_readNumber hds h hfl
      rw [readNumber_of_fits hds fits, wholeLiteral] at h
      split at h
      case isTrue hn =>
        subst hn
        split at h
        case isTrue bounds =>
          cases h
          have back : (Int64.ofInt (-(numeral ds : Int))).toInt = -(numeral ds : Int) := by
            apply Int64.toInt_ofInt_of_le <;> omega
          refine .signed ?_ ?_
          · rw [back]
            exact .negative hds bounds.1
          · omega
        case isFalse => exact absurd (float_of_floatLiteral h).1 hfl
      case isFalse hn =>
        cases h
        rw [Bool.not_eq_true] at hn
        subst hn
        have back : (numeral ds).toUInt64.toNat = numeral ds := by
          simp
          omega
        refine .unsigned ?_
        rw [back]
        exact .natural hds

/-- What is read as a number is one, with its sign in front. -/
lemma number_of_readNumber (h : readNumber negative s = .ok (v, rest)) :
    ∃ u, s = u ++ rest ∧ Number (signBytes negative ++ u) v := by
  obtain ⟨ds, f, e, hds, hf, he, hcut, rfl, _⟩ := exists_of_readNumber h
  obtain ⟨_, alone⟩ := (readNumber_extends hds hf he hcut v rest).1 h
  exact ⟨ds ++ (f ++ e), by simp, number_iff.2 ⟨negative, _, rfl, alone⟩⟩

/-- What stops a number may follow it, whatever parts it has. -/
lemma Stops.cutNumber (h : Stops r) : CutNumber f e r := by
  cases r with
  | nil => exact ⟨⟨trivial, fun _ => trivial⟩, fun _ _ => trivial⟩
  | cons b r => exact ⟨⟨h.1, fun _ => h.2.2⟩, fun _ _ => beq_eq_false_iff_ne.2 h.2.1⟩

/-- A number is read to its end where nothing follows that belongs to a number. -/
lemma readNumber_of_number {t : Bytes} (h : Number t v) (hr : Stops r) :
    ∃ negative u, t = signBytes negative ++ u ∧ readNumber negative (u ++ r) = .ok (v, r) := by
  obtain ⟨negative, u, rfl, alone⟩ := number_iff.1 h
  obtain ⟨ds, f, e, hds, hf, he, _, hu, _⟩ := exists_of_readNumber alone
  rw [List.append_nil] at hu
  subst hu
  refine ⟨negative, _, rfl, ?_⟩
  rw [List.append_assoc, List.append_assoc]
  exact (readNumber_extends hds hf he hr.cutNumber v r).2 ⟨rfl, alone⟩

end Numbers

end ParityDuel.Json
