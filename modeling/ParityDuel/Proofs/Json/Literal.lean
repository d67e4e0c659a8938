import ParityDuel.Proofs.Json.Scan
import ParityDuel.Proofs.Text.Utf8

/-!
# Reading texts

`readText` succeeds with a text exactly on what may stand between quotes for the bytes of this text
(`readText_eq_ok_iff`), one lemma for each reader it is made of.
-/

namespace ParityDuel.Json

variable {s rest : Bytes} {c : Char} {n : Nat}

/-- Four digits are read for the number they stand for. -/
lemma readHex_eq_ok_iff : readHex s = .ok (n, rest) ↔ ∃ h, Hex h n ∧ s = h ++ rest := by
  constructor
  · intro h
    unfold readHex at h
    split at h
    case h_2 => cases h
    case h_1 a b c d s =>
      split at h
      case h_2 => cases h
      case h_1 w x y z hw hx hy hz =>
        cases h
        exact ⟨[a, b, c, d], .mk hw hx hy hz, rfl⟩
  · rintro ⟨_, ⟨hw, hx, hy, hz⟩, rfl⟩
    simp only [List.cons_append, List.nil_append, readHex, hw, hx, hy, hz]

/-- A second surrogate is read where it makes a character with the first one. -/
lemma readTrailing_eq_ok_iff {m : Nat} : readTrailing m s = .ok (c, rest) ↔
    ∃ h n, Hex h n ∧ isTrailing n = true ∧ joined m n = c ∧
      s = backslash :: hexMark :: h ++ rest := by
  constructor
  · intro h
    unfold readTrailing at h
    split at h
    case h_1 => cases h
    case h_2 b s =>
      split at h
      case isTrue => cases h
      case isFalse hb =>
        split at h
        case h_1 => cases h
        case h_2 d s =>
          split at h
          case isTrue => cases h
          case isFalse hd =>
            split at h
            case h_1 => cases h
            case h_2 n rest' hr =>
              obtain ⟨x, hx, rfl⟩ := readHex_eq_ok_iff.1 hr
              split at h
              case isFalse => cases h
              case isTrue ht =>
                rw [Except.ok.injEq, Prod.mk.injEq] at h
                obtain ⟨hc, rfl⟩ := h
                exact ⟨x, n, hx, ht, hc, by rw [not_not.1 hb, not_not.1 hd]; rfl⟩
  · rintro ⟨h, n, hh, ht, rfl, rfl⟩
    have hr : readHex (h ++ rest) = .ok (n, rest) := readHex_eq_ok_iff.2 ⟨h, hh, rfl⟩
    simp only [readTrailing, List.cons_append, ne_eq, not_true, if_false, hr, ht, if_true]

/-- No number is both surrogates. -/
lemma isTrailing_of_isLeading (h : isLeading n = true) : isTrailing n = false := by
  simp only [isLeading, isTrailing, Bool.and_eq_true, decide_eq_true_eq, Bool.and_eq_false_iff,
    decide_eq_false_iff_not] at h ⊢
  omega

/-- A hexadecimal escape is read for the character it stands for. -/
lemma readHexEscape_eq_ok_iff : readHexEscape s = .ok (c, rest) ↔
    ∃ e, HexEscape e c ∧ s = e ++ rest := by
  constructor
  · intro h
    unfold readHexEscape at h
    split at h
    case h_1 => cases h
    case h_2 m rest' hr =>
      obtain ⟨x, hx, rfl⟩ := readHex_eq_ok_iff.1 hr
      split at h
      case isTrue => cases h
      case isFalse trailing =>
        split at h
        case isTrue leading =>
          obtain ⟨y, n, hy, ht, rfl, rfl⟩ := readTrailing_eq_ok_iff.1 h
          exact ⟨x ++ backslash :: hexMark :: y, .pair hx hy leading ht, by simp⟩
        case isFalse leading =>
          rw [Except.ok.injEq, Prod.mk.injEq] at h
          obtain ⟨rfl, rfl⟩ := h
          exact ⟨x, .unit hx (Bool.eq_false_iff.2 leading) (Bool.eq_false_iff.2 trailing), rfl⟩
  · rintro ⟨e, he, rfl⟩
    cases he with
    | @unit _ n hh leading trailing =>
      have hr : readHex (e ++ rest) = .ok (n, rest) := readHex_eq_ok_iff.2 ⟨e, hh, rfl⟩
      simp only [readHexEscape, hr, leading, trailing, Bool.false_eq_true, if_false]
    | @pair h h' m n hh hh' leading trailing =>
      have hr : readHex (h ++ (backslash :: hexMark :: h' ++ rest)) =
          .ok (m, backslash :: hexMark :: h' ++ rest) := readHex_eq_ok_iff.2 ⟨h, hh, rfl⟩
      rw [List.append_assoc, readHexEscape, hr]
      simp only [isTrailing_of_isLeading leading, leading, Bool.false_eq_true, if_false, if_true]
      exact readTrailing_eq_ok_iff.2 ⟨h', n, hh', trailing, rfl, rfl⟩

/-- An escape is read for the character it stands for. -/
lemma readEscape_eq_ok_iff : readEscape s = .ok (c, rest) ↔ ∃ e, Escape e c ∧ s = e ++ rest := by
  constructor
  · intro h
    unfold readEscape at h
    split at h
    case h_1 => cases h
    case h_2 b s =>
      split at h
      case h_1 hb =>
        rw [Except.ok.injEq, Prod.mk.injEq] at h
        obtain ⟨rfl, rfl⟩ := h
        exact ⟨[b], .short hb, rfl⟩
      case h_2 =>
        split at h
        case isFalse => cases h
        case isTrue hb =>
          obtain ⟨e, he, rfl⟩ := readHexEscape_eq_ok_iff.1 h
          exact ⟨hexMark :: e, .hex he, by rw [hb]; rfl⟩
  · rintro ⟨e, he, rfl⟩
    cases he with
    | short hb => simp only [List.cons_append, List.nil_append, readEscape, hb]
    | @hex e _ he =>
      have hr : readHexEscape (e ++ rest) = .ok (c, rest) := readHexEscape_eq_ok_iff.2 ⟨e, he, rfl⟩
      have long : shortEscape? hexMark = none := by decide
      simp only [List.cons_append, readEscape, long, if_true, hr]

/-- A quote ends the bytes of a text. -/
lemma readTextBytes_quote : readTextBytes (quote :: s) = .ok ([], s) := by
  rw [readTextBytes, if_pos rfl]

/-- A byte without a meaning of its own stands for itself. -/
lemma readTextBytes_plain {b : UInt8} (hq : b ≠ quote) (hb : b ≠ backslash) (large : 0x20 ≤ b) :
    readTextBytes (b :: s) = (readTextBytes s).map fun (bs, rest) => (b :: bs, rest) := by
  rw [readTextBytes, if_neg hq, if_neg hb, if_neg (UInt8.not_lt.2 large)]

/-- An escape stands for the bytes of its character. -/
lemma readTextBytes_escape {e : Bytes} (he : Escape e c) :
    readTextBytes (backslash :: e ++ s) =
      (readTextBytes s).map fun (bs, rest) => (Utf8.encode c ++ bs, rest) := by
  have hr : readEscape (e ++ s) = .ok (c, s) := readEscape_eq_ok_iff.2 ⟨e, he, rfl⟩
  rw [List.cons_append, readTextBytes, if_neg (by decide), if_pos rfl]
  split
  case h_1 h => rw [hr] at h; cases h
  case h_2 h =>
    rw [hr, Except.ok.injEq, Prod.mk.injEq] at h
    rw [h.1, h.2]

/-- The bytes of a text and what stands between quotes. -/
lemma readTextBytes_eq_ok_iff {out : Bytes} : readTextBytes s = .ok (out, rest) ↔
    ∃ body, TextBody body out ∧ s = body ++ quote :: rest := by
  constructor
  · intro h
    fun_induction readTextBytes s generalizing out with
    | case1 => cases h
    | case2 t =>
      cases h
      exact ⟨[], .nil, rfl⟩
    | case3 => cases h
    | case4 t c u he _ ih =>
      obtain ⟨⟨bs, _⟩, hr, same⟩ := map_eq_ok_iff.1 h
      cases same
      obtain ⟨body, hbody, rfl⟩ := ih hr
      obtain ⟨e, hc, rfl⟩ := readEscape_eq_ok_iff.1 he
      exact ⟨backslash :: e ++ body, .escape hc hbody, by simp⟩
    | case5 => cases h
    | case6 b t hq hb large ih =>
      obtain ⟨⟨bs, _⟩, hr, same⟩ := map_eq_ok_iff.1 h
      cases same
      obtain ⟨body, hbody, rfl⟩ := ih hr
      exact ⟨b :: body, .plain hq hb (UInt8.not_lt.1 large) hbody, rfl⟩
  · rintro ⟨body, hbody, rfl⟩
    induction hbody with
    | nil => exact readTextBytes_quote
    | plain hq hb large _ ih => rw [List.cons_append, readTextBytes_plain hq hb large, ih]; rfl
    | escape he _ ih => rw [List.append_assoc, readTextBytes_escape he, ih]; rfl

/-- A text is read off what may stand between quotes for the bytes of its characters, and off
nothing else. -/
lemma readText_eq_ok_iff {x : String} : readText s = .ok (x, rest) ↔
    ∃ body, TextBody body (Utf8.ofString x) ∧ s = body ++ quote :: rest := by
  constructor
  · intro h
    unfold readText at h
    split at h
    case h_1 => cases h
    case h_2 bs rest' hr =>
      split at h
      case h_2 => cases h
      case h_1 cs hd =>
        cases h
        obtain ⟨body, hbody, rfl⟩ := readTextBytes_eq_ok_iff.1 hr
        refine ⟨body, ?_, rfl⟩
        rwa [Utf8.ofString, String.toList_ofList, ← Utf8.decode_eq_nil_iff.1 hd]
  · rintro ⟨body, hbody, rfl⟩
    have hr : readTextBytes (body ++ quote :: rest) = .ok (Utf8.ofString x, rest) :=
      readTextBytes_eq_ok_iff.2 ⟨body, hbody, rfl⟩
    have hd : Utf8.decode (Utf8.ofString x) = (x.toList, []) := Utf8.decode_eq_nil_iff.2 rfl
    rw [readText, hr]
    simp only [hd, String.ofList_toList]

end ParityDuel.Json
