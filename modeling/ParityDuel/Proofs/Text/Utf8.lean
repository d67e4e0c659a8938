import Mathlib.Tactic.Lemma
import ParityDuel.Text.Utf8

/-!
# Characters and their bytes

`Utf8.next?` takes off exactly the bytes that `Utf8.encode` gives a character, and nothing else
counts as a character. So a byte list is wholly made of characters when it is their written form
(`decode_eq_nil_iff`).
-/

namespace ParityDuel.Utf8

/-- A number that fits a byte is the number of that byte. -/
lemma toNat_toUInt8 {n : Nat} (h : n < 256) : n.toUInt8.toNat = n := by
  simp only [Nat.toUInt8, UInt8.toNat_ofNat']
  omega

/-- A byte is that of its number. -/
lemma eq_toUInt8 {b : UInt8} {n : Nat} (h : b.toNat = n) : b = n.toUInt8 := by
  rw [← UInt8.toNat_inj, toNat_toUInt8 (h ▸ b.toNat_lt), h]

/-- The number of a character is the number of that character. -/
lemma scalar?_toNat {least : Nat} {c : Char} (h : least ≤ c.toNat) :
    scalar? least c.toNat = some c := by
  have valid : c.toNat.isValidChar := c.valid
  have same := Char.ofNat_toNat c
  rw [Char.ofNat, dif_pos valid] at same
  rw [scalar?, dif_pos ⟨h, valid⟩, same]

/-- A character is found by its number only. -/
lemma toNat_of_scalar? {least n : Nat} {c : Char} (h : scalar? least n = some c) :
    least ≤ n ∧ c.toNat = n := by
  by_cases valid : least ≤ n ∧ n.isValidChar
  · rw [scalar?, dif_pos valid] at h
    cases h
    exact ⟨valid.1, rfl⟩
  · rw [scalar?, dif_neg valid] at h
    cases h

/-- The bytes that continue a character are those from 0x80 to 0xBF. -/
lemma isContinuation_iff {b : UInt8} :
    isContinuation b = true ↔ 0x80 ≤ b.toNat ∧ b.toNat < 0xC0 := by
  simp [isContinuation, UInt8.le_iff_toNat_le, UInt8.lt_iff_toNat_lt]

/-- Six bits make a byte that continues a character. -/
lemma continuation_of_six (n : Nat) :
    isContinuation (0x80 + n % 64).toUInt8 = true ∧ payload (0x80 + n % 64).toUInt8 = n % 64 := by
  have value : (0x80 + n % 64).toUInt8.toNat = 0x80 + n % 64 := toNat_toUInt8 (by omega)
  rw [isContinuation_iff]
  unfold payload
  omega

/-- A byte that continues a character carries six bits. -/
lemma eq_of_isContinuation {b : UInt8} (h : isContinuation b = true) :
    payload b < 64 ∧ b = (0x80 + payload b).toUInt8 := by
  rw [isContinuation_iff] at h
  have value : b.toNat = 0x80 + payload b := by
    unfold payload
    omega
  exact ⟨by omega, eq_toUInt8 value⟩

section Lengths

variable {a : UInt8} {s : Bytes}

/-- A character of one byte is its own number. -/
lemma next?_one (h : a.toNat < 0x80) : next? (a :: s) = (scalar? 0 a.toNat).map (·, s) := by
  have h₁ : a < 0x80 := UInt8.lt_iff_toNat_lt.2 h
  rw [next?.eq_def]
  simp only [h₁, if_true]

/-- No character begins with a byte that continues one. -/
lemma next?_continuation (h : 0x80 ≤ a.toNat) (h' : a.toNat < 0xC0) : next? (a :: s) = none := by
  have h₁ : ¬ a < 0x80 := by simp [UInt8.lt_iff_toNat_lt]; omega
  have h₂ : a < 0xC0 := UInt8.lt_iff_toNat_lt.2 h'
  rw [next?.eq_def]
  simp only [h₁, h₂, if_true, if_false]

/-- The first byte of two carries five bits. -/
lemma next?_two (h : 0xC0 ≤ a.toNat) (h' : a.toNat < 0xE0) :
    next? (a :: s) = match s with
      | b :: t => if isContinuation b then
          (scalar? 0x80 ((a.toNat - 0xC0) * 64 + payload b)).map (·, t) else none
      | _ => none := by
  have h₁ : ¬ a < 0x80 := by simp [UInt8.lt_iff_toNat_lt]; omega
  have h₂ : ¬ a < 0xC0 := by simp [UInt8.lt_iff_toNat_lt]; omega
  have h₃ : a < 0xE0 := UInt8.lt_iff_toNat_lt.2 h'
  rw [next?.eq_def]
  simp only [h₁, h₂, h₃, if_true, if_false]
  rfl

/-- The first byte of three carries four bits. -/
lemma next?_three (h : 0xE0 ≤ a.toNat) (h' : a.toNat < 0xF0) :
    next? (a :: s) = match s with
      | b :: c :: t => if isContinuation b && isContinuation c then
          (scalar? 0x800 ((a.toNat - 0xE0) * 4096 + payload b * 64 + payload c)).map (·, t)
        else none
      | _ => none := by
  have h₁ : ¬ a < 0x80 := by simp [UInt8.lt_iff_toNat_lt]; omega
  have h₂ : ¬ a < 0xC0 := by simp [UInt8.lt_iff_toNat_lt]; omega
  have h₃ : ¬ a < 0xE0 := by simp [UInt8.lt_iff_toNat_lt]; omega
  have h₄ : a < 0xF0 := UInt8.lt_iff_toNat_lt.2 h'
  rw [next?.eq_def]
  simp only [h₁, h₂, h₃, h₄, if_true, if_false]
  rfl

/-- The first byte of four carries what is left of it. -/
lemma next?_four (h : 0xF0 ≤ a.toNat) :
    next? (a :: s) = match s with
      | b :: c :: d :: t => if isContinuation b && isContinuation c && isContinuation d then
          (scalar? 0x10000 ((a.toNat - 0xF0) * 262144 + payload b * 4096 + payload c * 64 +
            payload d)).map (·, t)
        else none
      | _ => none := by
  have h₁ : ¬ a < 0x80 := by simp [UInt8.lt_iff_toNat_lt]; omega
  have h₂ : ¬ a < 0xC0 := by simp [UInt8.lt_iff_toNat_lt]; omega
  have h₃ : ¬ a < 0xE0 := by simp [UInt8.lt_iff_toNat_lt]; omega
  have h₄ : ¬ a < 0xF0 := by simp [UInt8.lt_iff_toNat_lt]; omega
  rw [next?.eq_def]
  simp only [h₁, h₂, h₃, h₄, if_false]
  rfl

variable {c : Char}

/-- A character below 0x80 takes one byte. -/
lemma encode_one (h : c.toNat < 0x80) : encode c = [c.toNat.toUInt8] := by
  simp only [encode, h, if_true]

/-- A character below 0x800 takes two bytes. -/
lemma encode_two (h : 0x80 ≤ c.toNat) (h' : c.toNat < 0x800) :
    encode c = [(0xC0 + c.toNat / 64).toUInt8, (0x80 + c.toNat % 64).toUInt8] := by
  simp only [encode, Nat.not_lt_of_le h, h', if_true, if_false]

/-- A character below 0x10000 takes three bytes. -/
lemma encode_three (h : 0x800 ≤ c.toNat) (h' : c.toNat < 0x10000) :
    encode c = [(0xE0 + c.toNat / 4096).toUInt8, (0x80 + c.toNat / 64 % 64).toUInt8,
      (0x80 + c.toNat % 64).toUInt8] := by
  have h₁ : ¬ c.toNat < 0x80 := by omega
  simp only [encode, h₁, Nat.not_lt_of_le h, h', if_true, if_false]

/-- Every other character takes four bytes. -/
lemma encode_four (h : 0x10000 ≤ c.toNat) :
    encode c = [(0xF0 + c.toNat / 262144).toUInt8, (0x80 + c.toNat / 4096 % 64).toUInt8,
      (0x80 + c.toNat / 64 % 64).toUInt8, (0x80 + c.toNat % 64).toUInt8] := by
  have h₁ : ¬ c.toNat < 0x80 := by omega
  have h₂ : ¬ c.toNat < 0x800 := by omega
  simp only [encode, h₁, h₂, Nat.not_lt_of_le h, if_false]

end Lengths

/-- The greatest number of a character takes 21 bits. -/
lemma toNat_lt (c : Char) : c.toNat < 0x110000 := by
  obtain h | h := c.valid
  · exact Nat.lt_trans h (by decide)
  · exact h.2

/-- The bytes of a character are taken off as this character. -/
lemma next?_encode_append (c : Char) (s : Bytes) : next? (encode c ++ s) = some (c, s) := by
  have bound := toNat_lt c
  obtain ⟨is₁, six₁⟩ := continuation_of_six (c.toNat / 4096)
  obtain ⟨is₂, six₂⟩ := continuation_of_six (c.toNat / 64)
  obtain ⟨is₃, six₃⟩ := continuation_of_six c.toNat
  by_cases one : c.toNat < 0x80
  · have lead := toNat_toUInt8 (n := c.toNat) (by omega)
    rw [encode_one one, List.singleton_append, next?_one (by omega), lead,
      scalar?_toNat (Nat.zero_le _)]
    rfl
  by_cases two : c.toNat < 0x800
  · have lead := toNat_toUInt8 (n := 0xC0 + c.toNat / 64) (by omega)
    have value : (0xC0 + c.toNat / 64 - 0xC0) * 64 + c.toNat % 64 = c.toNat := by omega
    rw [encode_two (by omega) two, List.cons_append, next?_two (by omega) (by omega)]
    simp only [List.singleton_append, is₃, if_true, lead, six₃, value]
    rw [scalar?_toNat (by omega)]
    rfl
  by_cases three : c.toNat < 0x10000
  · have lead := toNat_toUInt8 (n := 0xE0 + c.toNat / 4096) (by omega)
    have value : (0xE0 + c.toNat / 4096 - 0xE0) * 4096 + c.toNat / 64 % 64 * 64 +
        c.toNat % 64 = c.toNat := by omega
    rw [encode_three (by omega) three, List.cons_append, next?_three (by omega) (by omega)]
    simp only [List.cons_append, List.nil_append, is₂, is₃, Bool.and_self, if_true, lead, six₂,
      six₃, value]
    rw [scalar?_toNat (by omega)]
    rfl
  · have lead := toNat_toUInt8 (n := 0xF0 + c.toNat / 262144) (by omega)
    have value : (0xF0 + c.toNat / 262144 - 0xF0) * 262144 + c.toNat / 4096 % 64 * 4096 +
        c.toNat / 64 % 64 * 64 + c.toNat % 64 = c.toNat := by omega
    rw [encode_four (by omega), List.cons_append, next?_four (by omega)]
    simp only [List.cons_append, List.nil_append, is₁, is₂, is₃, Bool.and_self, if_true, lead,
      six₁, six₂, six₃, value]
    rw [scalar?_toNat (by omega)]
    rfl

section Taken

variable {a : UInt8} {s t : Bytes} {c : Char}

/-- What is taken off as a character of one byte is the byte of that character. -/
lemma eq_append_of_one (one : a.toNat < 0x80) (h : next? (a :: s) = some (c, t)) :
    a :: s = encode c ++ t := by
  rw [next?_one one] at h
  obtain ⟨c', hc, e⟩ := Option.map_eq_some_iff.1 h
  cases e
  obtain ⟨_, value⟩ := toNat_of_scalar? hc
  rw [encode_one (by omega), ← eq_toUInt8 value.symm, List.singleton_append]

/-- What is taken off as a character of two bytes is the bytes of that character. -/
lemma eq_append_of_two (low : 0xC0 ≤ a.toNat) (two : a.toNat < 0xE0)
    (h : next? (a :: s) = some (c, t)) : a :: s = encode c ++ t := by
  rw [next?_two low two] at h
  split at h
  case h_2 => cases h
  case h_1 b s =>
    split at h
    case isFalse => cases h
    case isTrue isB =>
      obtain ⟨smallB, hb⟩ := eq_of_isContinuation isB
      obtain ⟨c', hc, e⟩ := Option.map_eq_some_iff.1 h
      cases e
      obtain ⟨least, value⟩ := toNat_of_scalar? hc
      have lead : a = (0xC0 + c.toNat / 64).toUInt8 := eq_toUInt8 (by omega)
      have first : c.toNat % 64 = payload b := by omega
      rw [encode_two (by omega) (by omega), ← lead, first, ← hb]
      rfl

/-- What is taken off as a character of three bytes is the bytes of that character. -/
lemma eq_append_of_three (low : 0xE0 ≤ a.toNat) (three : a.toNat < 0xF0)
    (h : next? (a :: s) = some (c, t)) : a :: s = encode c ++ t := by
  rw [next?_three low three] at h
  split at h
  case h_2 => cases h
  case h_1 b d s =>
    split at h
    case isFalse => cases h
    case isTrue both =>
      rw [Bool.and_eq_true] at both
      obtain ⟨smallB, hb⟩ := eq_of_isContinuation both.1
      obtain ⟨smallD, hd⟩ := eq_of_isContinuation both.2
      obtain ⟨c', hc, e⟩ := Option.map_eq_some_iff.1 h
      cases e
      obtain ⟨least, value⟩ := toNat_of_scalar? hc
      have lead : a = (0xE0 + c.toNat / 4096).toUInt8 := eq_toUInt8 (by omega)
      have first : c.toNat / 64 % 64 = payload b := by omega
      have second : c.toNat % 64 = payload d := by omega
      rw [encode_three (by omega) (by omega), ← lead, first, ← hb, second, ← hd]
      rfl

/-- What is taken off as a character of four bytes is the bytes of that character. -/
lemma eq_append_of_four (low : 0xF0 ≤ a.toNat) (h : next? (a :: s) = some (c, t)) :
    a :: s = encode c ++ t := by
  rw [next?_four low] at h
  split at h
  case h_2 => cases h
  case h_1 b d f s =>
    split at h
    case isFalse => cases h
    case isTrue all =>
      rw [Bool.and_eq_true, Bool.and_eq_true] at all
      obtain ⟨smallB, hb⟩ := eq_of_isContinuation all.1.1
      obtain ⟨smallD, hd⟩ := eq_of_isContinuation all.1.2
      obtain ⟨smallF, hf⟩ := eq_of_isContinuation all.2
      obtain ⟨c', hc, e⟩ := Option.map_eq_some_iff.1 h
      cases e
      obtain ⟨least, value⟩ := toNat_of_scalar? hc
      have lead : a = (0xF0 + c.toNat / 262144).toUInt8 := eq_toUInt8 (by omega)
      have first : c.toNat / 4096 % 64 = payload b := by omega
      have second : c.toNat / 64 % 64 = payload d := by omega
      have third : c.toNat % 64 = payload f := by omega
      rw [encode_four (by omega), ← lead, first, ← hb, second, ← hd, third, ← hf]
      rfl

/-- What is taken off as a character is the bytes of that character. -/
lemma eq_append_of_next? (h : next? s = some (c, t)) : s = encode c ++ t := by
  cases s with
  | nil => cases h
  | cons a s =>
    by_cases one : a.toNat < 0x80
    · exact eq_append_of_one one h
    by_cases noLead : a.toNat < 0xC0
    · rw [next?_continuation (Nat.not_lt.1 one) noLead] at h
      cases h
    by_cases two : a.toNat < 0xE0
    · exact eq_append_of_two (Nat.not_lt.1 noLead) two h
    by_cases three : a.toNat < 0xF0
    · exact eq_append_of_three (Nat.not_lt.1 two) three h
    · exact eq_append_of_four (Nat.not_lt.1 three) h

end Taken

/-- Bytes are read character by character. -/
lemma decode_cons {s t : Bytes} {c : Char} (h : next? s = some (c, t)) :
    decode s = (c :: (decode t).1, (decode t).2) := by
  rw [decode.eq_def]
  split
  case h_1 h' =>
    rw [h] at h'
    cases h'
    rfl
  case h_2 h' =>
    rw [h] at h'
    cases h'

/-- Bytes are read no further than to the first one that begins no character. -/
lemma decode_broken {s : Bytes} (h : next? s = none) : decode s = ([], s) := by
  rw [decode.eq_def]
  split
  case h_1 h' =>
    rw [h] at h'
    cases h'
  case h_2 => rfl

/-- Bytes are characters to the end exactly when they are the bytes of these characters. -/
lemma decode_eq_nil_iff {s : Bytes} {cs : List Char} :
    decode s = (cs, []) ↔ s = encodeAll cs := by
  constructor
  · intro h
    induction cs generalizing s with
    | nil =>
      cases hn : next? s with
      | none =>
        rw [decode_broken hn] at h
        cases h
        rfl
      | some p =>
        rw [decode_cons hn] at h
        cases h
    | cons c cs ih =>
      cases hn : next? s with
      | none =>
        rw [decode_broken hn] at h
        cases h
      | some p =>
        obtain ⟨c', t⟩ := p
        rw [decode_cons hn, Prod.mk.injEq, List.cons.injEq] at h
        obtain ⟨⟨rfl, hcs⟩, hrest⟩ := h
        rw [eq_append_of_next? hn, ih (Prod.ext hcs hrest)]
        rfl
  · rintro rfl
    induction cs with
    | nil => exact decode_broken rfl
    | cons c cs ih =>
      have hn : next? (encodeAll (c :: cs)) = some (c, encodeAll cs) :=
        next?_encode_append c (encodeAll cs)
      rw [decode_cons hn, ih]

section Bytes

variable {c : Char} {b : UInt8}

/-- No byte of a character beyond ASCII is an ASCII byte. -/
lemma le_of_mem_encode (h : 0x80 ≤ c.toNat) (hb : b ∈ encode c) : 0x80 ≤ b.toNat := by
  have bound := toNat_lt c
  have high {n : Nat} (h : 0x80 ≤ n) (h' : n < 0x100) : 0x80 ≤ n.toUInt8.toNat := by
    rwa [toNat_toUInt8 h']
  by_cases two : c.toNat < 0x800
  · rw [encode_two h two] at hb
    simp only [List.mem_cons, List.not_mem_nil, or_false] at hb
    obtain rfl | rfl := hb <;> exact high (by omega) (by omega)
  by_cases three : c.toNat < 0x10000
  · rw [encode_three (by omega) three] at hb
    simp only [List.mem_cons, List.not_mem_nil, or_false] at hb
    obtain rfl | rfl | rfl := hb <;> exact high (by omega) (by omega)
  · rw [encode_four (by omega)] at hb
    simp only [List.mem_cons, List.not_mem_nil, or_false] at hb
    obtain rfl | rfl | rfl | rfl := hb <;> exact high (by omega) (by omega)

/-- The bytes of a text begin with those of its first character. -/
lemma encodeAll_cons (c : Char) (cs : List Char) : encodeAll (c :: cs) = encode c ++ encodeAll cs :=
  rfl

/-- The bytes of two texts are those of the one behind those of the other. -/
lemma encodeAll_append (cs cs' : List Char) :
    encodeAll (cs ++ cs') = encodeAll cs ++ encodeAll cs' :=
  List.flatMap_append

/-- The bytes of a text are characters, and no others than those of the text. -/
lemma decode?_ofString (x : String) : decode? (ofString x) = some x.toList := by
  have whole : decode (ofString x) = (x.toList, []) := decode_eq_nil_iff.2 rfl
  rw [decode?, whole]

end Bytes

end ParityDuel.Utf8
