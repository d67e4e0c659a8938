import Mathlib.Data.List.Forall2
import ParityDuel.Json.Render
import ParityDuel.Proofs.Json.Tree

/-!
# Reading back what is written

What `render` writes denotes the value that it was given (`denotes_render`), so the parser gives
this value back (`parse_render`). `ReadsBack depth` are the values that this is said of: numbers are
words or negative, and at most `depth` brackets are open at a time. Each kind of token has its
lemma: the escapes of characters, the digits of a number, and the commas between elements.
-/

namespace ParityDuel.Json

/-- Nothing is written between tokens. -/
lemma blanks_nil : Blanks [] := nofun

section Texts

variable {s out bs : Bytes} {n : Nat} {c : Char} {b : UInt8}

/-- A byte that stands for itself between quotes. -/
def Unescaped (b : UInt8) : Prop := b ≠ quote ∧ b ≠ backslash ∧ 0x20 ≤ b

/-- Bytes that need no escape stand for themselves. -/
lemma TextBody.plain_append (h : ∀ b ∈ bs, Unescaped b) (hs : TextBody s out) :
    TextBody (bs ++ s) (bs ++ out) := by
  induction bs with
  | nil => exact hs
  | cons b bs ih =>
    obtain ⟨⟨hq, hb, large⟩, rest⟩ := List.forall_mem_cons.1 h
    exact .plain hq hb large (ih rest)

/-- A hexadecimal digit is written as one byte, which is read as the digit. -/
lemma hexValue?_digitChar : ∀ d < 16, Utf8.encode (Nat.digitChar d) =
    [(Nat.digitChar d).toNat.toUInt8] ∧ hexValue? (Nat.digitChar d).toNat.toUInt8 = some d := by
  decide

/-- The digits of a control character stand for its number. -/
lemma hex_controlDigits (h : n < 0x20) : Hex (Utf8.encodeAll (controlDigits n)) n := by
  obtain ⟨zero, zeroValue⟩ := hexValue?_digitChar 0 (by decide)
  obtain ⟨high, highValue⟩ := hexValue?_digitChar (n / 16) (by omega)
  obtain ⟨low, lowValue⟩ := hexValue?_digitChar (n % 16) (by omega)
  have hex := Hex.mk zeroValue zeroValue highValue lowValue
  have value : ((0 * 16 + 0) * 16 + n / 16) * 16 + n % 16 = n := by omega
  have bytes : Utf8.encodeAll (controlDigits n) = Utf8.encode (Nat.digitChar 0) ++
      (Utf8.encode (Nat.digitChar 0) ++ (Utf8.encode (Nat.digitChar (n / 16)) ++
        (Utf8.encode (Nat.digitChar (n % 16)) ++ []))) := rfl
  rw [value] at hex
  rw [bytes, zero, high, low]
  exact hex

/-- A control character without a letter of its own is written by its number. -/
lemma escape_controlDigits (h : c.toNat < 0x20) :
    Escape (hexMark :: Utf8.encodeAll (controlDigits c.toNat)) c := by
  have unit : HexEscape (Utf8.encodeAll (controlDigits c.toNat)) (Char.ofNat c.toNat) := by
    refine .unit (hex_controlDigits h) ?_ ?_
    · simp only [isLeading, Bool.and_eq_false_iff, decide_eq_false_iff_not]
      omega
    · simp only [isTrailing, Bool.and_eq_false_iff, decide_eq_false_iff_not]
      omega
  rw [Char.ofNat_toNat] at unit
  exact .hex unit

/-- A character that has a letter of its own is written by this letter. -/
lemma escape_letter {x : Char} (letter : Utf8.encode x = [b]) (h : shortEscape? b = some c) :
    ∃ e, Utf8.encodeAll ['\\', x] = backslash :: e ∧ Escape e c := by
  refine ⟨[b], ?_, .short h⟩
  rw [Utf8.encodeAll_cons, Utf8.encodeAll_cons, letter]
  rfl

/-- The bytes of a character that needs no escape stand for themselves. -/
lemma unescaped_of_mem_encode (special : ¬ (c = '\x22' ∨ c = '\\'))
    (printable : ¬ c.toNat < 0x20) (hb : b ∈ Utf8.encode c) : Unescaped b := by
  rw [not_or] at special
  by_cases ascii : c.toNat < 0x80
  · rw [Utf8.encode_one ascii, List.mem_singleton] at hb
    have value : b.toNat = c.toNat := by rw [hb, Utf8.toNat_toUInt8 (by omega)]
    refine ⟨?_, ?_, UInt8.le_iff_toNat_le.2 (value ▸ Nat.not_lt.1 printable)⟩
    · rintro rfl
      exact special.1 (Char.toNat_inj.1 value.symm)
    · rintro rfl
      exact special.2 (Char.toNat_inj.1 value.symm)
  · have high := Utf8.le_of_mem_encode (Nat.not_lt.1 ascii) hb
    refine ⟨?_, ?_, UInt8.le_iff_toNat_le.2 (Nat.le_trans (by decide) high)⟩
    · rintro rfl
      exact absurd high (by decide)
    · rintro rfl
      exact absurd high (by decide)

/-- A character stands in a text by its own bytes, or by an escape. -/
lemma renderChar_plain_or_escape (c : Char) :
    (renderChar c = [c] ∧ ∀ b ∈ Utf8.encode c, Unescaped b) ∨
      ∃ e, Utf8.encodeAll (renderChar c) = backslash :: e ∧ Escape e c := by
  unfold renderChar
  split
  case isTrue h =>
    obtain rfl | rfl := h
    · exact .inr (escape_letter rfl rfl)
    · exact .inr (escape_letter rfl rfl)
  case isFalse special =>
    -- the five control characters that have a letter
    split
    case isTrue h => exact .inr (escape_letter rfl (h ▸ rfl))
    split
    case isTrue h => exact .inr (escape_letter rfl (h ▸ rfl))
    split
    case isTrue h => exact .inr (escape_letter rfl (h ▸ rfl))
    split
    case isTrue h => exact .inr (escape_letter rfl (h ▸ rfl))
    split
    case isTrue h => exact .inr (escape_letter rfl (h ▸ rfl))
    split
    case isTrue control => exact .inr ⟨_, rfl, escape_controlDigits control⟩
    case isFalse printable =>
      exact .inl ⟨rfl, fun b hb => unescaped_of_mem_encode special printable hb⟩

/-- What is written for characters stands for their bytes. -/
lemma textBody_render (cs : List Char) :
    TextBody (Utf8.encodeAll (cs.flatMap renderChar)) (Utf8.encodeAll cs) := by
  induction cs with
  | nil => exact .nil
  | cons c cs ih =>
    rw [List.flatMap_cons, Utf8.encodeAll_append, Utf8.encodeAll_cons]
    obtain ⟨own, plain⟩ | ⟨e, written, escape⟩ := renderChar_plain_or_escape c
    · have bytes : Utf8.encodeAll [c] = Utf8.encode c := List.append_nil _
      rw [own, bytes]
      exact .plain_append plain ih
    · rw [written]
      exact .escape escape ih

/-- A text is written as a literal of it. -/
lemma textLiteral_render (x : String) : TextLiteral (Utf8.encodeAll (renderText x)) x := by
  refine ⟨Utf8.encodeAll (x.toList.flatMap renderChar), ?_, textBody_render x.toList⟩
  rw [renderText, List.cons_append, Utf8.encodeAll_cons, Utf8.encodeAll_append]
  rfl

end Texts

section Numbers

variable {ds : Bytes} {b : UInt8}

/-- A further digit at the end. -/
lemma numeral_append_digit : numeral (ds ++ [b]) = numeral ds * 10 + digitValue b := by
  simp [numeral, numeralFrom]

/-- A digit behind a whole number makes it longer, unless the number is zero. -/
lemma Whole.append_digit (h : Whole ds) (pos : 0 < numeral ds) (hb : isDigit b = true) :
    Whole (ds ++ [b]) := by
  cases h with
  | zero => cases pos
  | digits first nonzero rest =>
    exact .digits first nonzero (List.forall_mem_append.2 ⟨rest, List.forall_mem_singleton.2 hb⟩)

/-- A decimal digit is written as one byte. -/
lemma encode_digitChar : ∀ d < 10, Utf8.encode (Nat.digitChar d) = [(0x30 + d).toUInt8] ∧
    isDigit (0x30 + d).toUInt8 = true ∧ digitValue (0x30 + d).toUInt8 = d := by
  decide

/-- The decimal digits of a number are a whole number and stand for it. -/
lemma whole_toDigits (n : Nat) : Whole (Utf8.encodeAll (Nat.toDigits 10 n)) ∧
    numeral (Utf8.encodeAll (Nat.toDigits 10 n)) = n := by
  -- What stands before the last digit is the number divided by ten, and no zero if there is any.
  induction n using Nat.strong_induction_on with
  | _ n ih =>
    by_cases small : n < 10
    · obtain ⟨bytes, digit, value⟩ := encode_digitChar n small
      rw [Nat.toDigits_of_lt_base small, Utf8.encodeAll_cons, bytes]
      refine ⟨?_, by simpa [numeral, numeralFrom, Utf8.encodeAll] using value⟩
      by_cases zero : n = 0
      · rw [zero]
        exact .zero
      · have nonzero : (0x30 + n).toUInt8 ≠ zeroDigit := by
          intro e
          rw [e] at value
          exact zero value.symm
        exact .digits digit nonzero nofun
    · obtain ⟨whole, before⟩ := ih (n / 10) (by omega)
      obtain ⟨bytes, digit, value⟩ := encode_digitChar (n % 10) (by omega)
      rw [Nat.toDigits_of_base_le (by decide) (Nat.not_lt.1 small), Utf8.encodeAll_append,
        Utf8.encodeAll_cons, bytes]
      refine ⟨whole.append_digit ?_ digit, ?_⟩
      · rw [before]
        omega
      · show numeral (_ ++ [_]) = n
        rw [numeral_append_digit, before, value]
        omega

end Numbers

section Brackets

variable {α : Type} {P : Bytes → α → Prop} {ps : List (List Char)} {as : List α}

lemma separated_cons (p : List Char) (ps : List (List Char)) :
    separated (p :: ps) = p ++ ps.flatMap (',' :: ·) := by
  induction ps generalizing p with
  | nil => simp [separated]
  | cons q ps ih => rw [separated, ih, List.flatMap_cons, List.cons_append]

/-- Parts with a comma in front of each are what may follow an element. -/
lemma following_of_parts (h : List.Forall₂ (fun p a => P (Utf8.encodeAll p) a) ps as) :
    Following P (Utf8.encodeAll (ps.flatMap (',' :: ·))) as := by
  induction h with
  | nil => exact .nil blanks_nil
  | @cons p a ps as hp _ ih =>
    rw [List.flatMap_cons, List.cons_append, Utf8.encodeAll_cons, Utf8.encodeAll_append]
    exact .cons blanks_nil blanks_nil hp ih

/-- Parts with commas between them are what may stand between brackets. -/
lemma enclosed_separated (h : List.Forall₂ (fun p a => P (Utf8.encodeAll p) a) ps as) :
    Enclosed P (Utf8.encodeAll (separated ps)) as := by
  cases h with
  | nil => exact .nil blanks_nil
  | cons hp hs =>
    rw [separated_cons, Utf8.encodeAll_append]
    exact .cons blanks_nil hp (following_of_parts hs)

lemma renderItems_eq_map (items : List Value) : renderItems items = items.map renderChars := by
  induction items with
  | nil => rfl
  | cons v items ih => rw [renderItems, ih, List.map_cons]

lemma renderMembers_eq_map (members : List (String × Value)) :
    renderMembers members = members.map fun m => renderText m.1 ++ ':' :: renderChars m.2 := by
  induction members with
  | nil => rfl
  | cons m members ih => rw [renderMembers, ih, List.map_cons]

end Brackets

/-- A value without elements that is read back as it was written. A signed number is, if it is
negative. -/
def Value.IsPlain : Value → Prop
  | .null | .boolean _ | .unsigned _ | .text _ => True
  | .signed n => n < 0
  | .float _ | .list _ | .object _ => False

/-- A value that is read back as it was written, with at most so many brackets open at a time. -/
def ReadsBack : Nat → Value → Prop
  | 0, v => v.IsPlain
  | depth + 1, v => v.IsPlain ∨ (∃ items, v = .list items ∧ ∀ i ∈ items, ReadsBack depth i) ∨
      ∃ members, v = .object members ∧ ∀ m ∈ members, ReadsBack depth m.2

section Values

variable {v : Value} {depth : Nat}

/-- A plain value is read back at every depth. -/
lemma ReadsBack.of_plain (h : v.IsPlain) : ReadsBack depth v := by
  cases depth with
  | zero => exact h
  | succ depth => exact .inl h

/-- What is written for a value without elements is a literal of it. -/
lemma scalar_render (h : v.IsPlain) : Scalar (Utf8.encodeAll (renderChars v)) v := by
  cases v with
  | null => exact .nullWord
  | boolean b =>
    cases b with
    | true => exact .trueWord
    | false => exact .falseWord
  | unsigned n =>
    obtain ⟨whole, value⟩ := whole_toDigits n.toNat
    have literal := IntegerLiteral.natural whole
    rw [value] at literal
    exact .number (.unsigned literal)
  | signed n =>
    have negative : n.toInt < 0 := Int64.lt_iff_toInt_lt.1 h
    obtain ⟨whole, value⟩ := whole_toDigits n.toInt.natAbs
    have literal := IntegerLiteral.negative whole (by omega)
    have same : -(n.toInt.natAbs : Int) = n.toInt := by omega
    rw [value, same] at literal
    have sign : renderChars (.signed n) = '-' :: Nat.toDigits 10 n.toInt.natAbs := by
      rw [renderChars]
      exact if_pos h
    rw [sign, Utf8.encodeAll_cons]
    exact .number (.signed literal negative)
  | text x => exact .text (textLiteral_render x)
  | float _ => cases h
  | list _ => cases h
  | object _ => cases h

/-- What is written for a value denotes it. -/
theorem denotes_render (h : ReadsBack depth v) :
    Denotes depth (Utf8.encodeAll (renderChars v)) v := by
  induction depth generalizing v with
  | zero => exact scalar_render h
  | succ depth ih =>
    obtain plain | ⟨items, rfl, inner⟩ | ⟨members, rfl, inner⟩ := h
    · exact .inl (scalar_render plain)
    · have parts : Enclosed (Denotes depth) (Utf8.encodeAll (separated (renderItems items)))
          items := by
        apply enclosed_separated
        rw [renderItems_eq_map, List.forall₂_map_left_iff, List.forall₂_same]
        exact fun i hi => ih (inner i hi)
      rw [renderChars, List.cons_append, Utf8.encodeAll_cons, Utf8.encodeAll_append]
      exact .inr (.list parts)
    · have parts : Enclosed (Entry (Denotes depth))
          (Utf8.encodeAll (separated (renderMembers members))) members := by
        apply enclosed_separated
        rw [renderMembers_eq_map, List.forall₂_map_left_iff, List.forall₂_same]
        intro m hm
        rw [Utf8.encodeAll_append, Utf8.encodeAll_cons]
        exact .mk (textLiteral_render m.1) blanks_nil blanks_nil (ih (inner m hm))
      rw [renderChars, List.cons_append, Utf8.encodeAll_cons, Utf8.encodeAll_append]
      exact .inr (.object parts)

/-- What is written for a value is a text of it. -/
theorem isText_render (h : ReadsBack depthLimit v) : IsText (Utf8.ofString (render v)) v := by
  refine ⟨[], _, [], blanks_nil, denotes_render h, blanks_nil, ?_⟩
  rw [Utf8.ofString, render, String.toList_ofList, List.append_nil, List.nil_append]

/-- The parser gives back the value that was written. -/
theorem parse_render (h : ReadsBack depthLimit v) : parse (Utf8.ofString (render v)) = .ok v :=
  parse_eq_ok_iff.2 (isText_render h)

end Values

end ParityDuel.Json
