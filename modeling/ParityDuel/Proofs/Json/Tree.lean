import ParityDuel.Proofs.Json.Loose
import ParityDuel.Proofs.Json.Number

/-!
# Reading values

`readValue depth` succeeds with a value exactly on the bytes that denote it with at most `depth`
brackets open at a time. So `parse` accepts the JSON texts and nothing else (`parse_eq_ok_iff`).
-/

namespace ParityDuel.Json

variable {s t w rest : Bytes} {v : Value} {depth : Nat}

section Scalars

/-- The first byte of a word, and the others. -/
lemma null_eq : asciiBytes "null" = 0x6E :: asciiBytes "ull" := rfl

lemma true_eq : asciiBytes "true" = 0x74 :: asciiBytes "rue" := rfl

lemma false_eq : asciiBytes "false" = 0x66 :: asciiBytes "alse" := rfl

/-- A number begins with a digit. -/
lemma digit_of_readNumber {negative : Bool} {p : Value × Bytes}
    (h : readNumber negative s = .ok p) : ∃ b u, isDigit b = true ∧ s = b :: u := by
  obtain ⟨ds, r, hds, _, rfl⟩ := exists_whole h
  cases hds with
  | zero => exact ⟨_, _, rfl, rfl⟩
  | digits hb _ _ => exact ⟨_, _, hb, rfl⟩

/-- Only scalars are read as scalars. -/
lemma scalar_of_readScalar (h : readScalar s = .ok (v, rest)) :
    ∃ t, Scalar t v ∧ s = t ++ rest := by
  unfold readScalar at h
  split at h
  case h_1 => cases h
  case h_2 b u =>
    split at h
    case isTrue hb =>
      obtain ⟨_, hw, same⟩ := map_eq_ok_iff.1 h
      cases same
      exact ⟨_, .nullWord, by rw [hb, word_eq_ok_iff.1 hw, null_eq]; rfl⟩
    split at h
    case isTrue hb =>
      obtain ⟨_, hw, same⟩ := map_eq_ok_iff.1 h
      cases same
      exact ⟨_, .trueWord, by rw [hb, word_eq_ok_iff.1 hw, true_eq]; rfl⟩
    split at h
    case isTrue hb =>
      obtain ⟨_, hw, same⟩ := map_eq_ok_iff.1 h
      cases same
      exact ⟨_, .falseWord, by rw [hb, word_eq_ok_iff.1 hw, false_eq]; rfl⟩
    split at h
    case isTrue hb =>
      obtain ⟨t, rfl, ht⟩ := number_of_readNumber h
      exact ⟨minus :: t, .number ht, by rw [hb]; rfl⟩
    split at h
    case isTrue hb =>
      obtain ⟨t, ht, hn⟩ := number_of_readNumber h
      exact ⟨t, .number hn, ht⟩
    split at h
    case isTrue hb =>
      obtain ⟨_, hx, same⟩ := map_eq_ok_iff.1 h
      cases same
      obtain ⟨body, hbody, rfl⟩ := readText_eq_ok_iff.1 hx
      exact ⟨_, .text ⟨body, rfl, hbody⟩, by rw [hb]; simp⟩
    cases h

/-- A scalar is read as its value, if nothing goes on with it. -/
lemma readScalar_of_scalar (h : Scalar t v) (hr : Stops rest) :
    readScalar (t ++ rest) = .ok (v, rest) := by
  have read {w t : Bytes} : word w (w ++ t) = .ok t := word_eq_ok_iff.2 rfl
  cases h with
  | nullWord =>
    rw [null_eq, List.cons_append, readScalar, if_pos rfl, read]
    rfl
  | trueWord =>
    rw [true_eq, List.cons_append, readScalar, if_neg (by decide), if_pos rfl, read]
    rfl
  | falseWord =>
    rw [false_eq, List.cons_append, readScalar, if_neg (by decide), if_neg (by decide), if_pos rfl,
      read]
    rfl
  | number hn =>
    obtain ⟨negative, u, rfl, hu⟩ := readNumber_of_number hn hr
    cases negative with
    | true => exact hu
    | false =>
      obtain ⟨b, r, hb, hs⟩ := digit_of_readNumber hu
      rw [hs] at hu
      change readScalar (u ++ rest) = _
      rw [hs, readScalar, if_neg (ne_of_isDigit hb (by decide)),
        if_neg (ne_of_isDigit hb (by decide)), if_neg (ne_of_isDigit hb (by decide)),
        if_neg (ne_of_isDigit hb (by decide)), if_pos hb, hu]
  | text hx =>
    obtain ⟨body, rfl, hbody⟩ := hx
    have hx : readText (body ++ quote :: rest) = .ok (_, rest) :=
      readText_eq_ok_iff.2 ⟨body, hbody, rfl⟩
    rw [List.cons_append, List.cons_append, readScalar, if_neg (by decide), if_neg (by decide),
      if_neg (by decide), if_neg (by decide), if_neg (by decide), if_pos rfl, List.append_assoc,
      List.singleton_append, hx]
    rfl

/-- A scalar begins with neither a blank nor a closing bracket. -/
lemma Scalar.opens (h : Scalar t v) : Opens t := h.loose.opens

/-- A scalar does not begin with a bracket. -/
lemma Scalar.ne_bracket {b : UInt8} {u : Bytes} (h : Scalar (b :: u) v) :
    b ≠ openList ∧ b ≠ openObject := h.loose.ne_bracket

end Scalars

section Values

/-- What denotes a value begins with neither a blank nor a closing bracket. -/
lemma Denotes.opens (h : Denotes depth t v) : Opens t := h.looseWithin.opens

/-- No more brackets are open at a time than there are bytes. -/
lemma Denotes.of_length {d e : Nat} (h : Denotes d t v) (he : t.length ≤ e) : Denotes e t v := by
  -- By induction on the depth that was allowed; what stands between brackets is shorter than what
  -- stands with them, so that the bound on the length decreases along with it.
  induction d generalizing e t v with
  | zero => exact .of_scalar h
  | succ d ih =>
    obtain h | h := h
    · exact .of_scalar h
    · obtain ⟨b, u, rfl, _⟩ : Opens t := Denotes.opens (show Denotes (d + 1) t v from .inr h)
      cases e with
      | zero => exact absurd he (Nat.not_succ_le_zero _)
      | succ e => exact .inr (h.imp fun _ _ shorter h' => ih h' (by omega))

/-- Puts a thing in front of those before it. -/
def push {β : Type} (bs : List β) (b : β) : Option (List β) := some (b :: bs)

/-- Pushed one by one, elements stand in reverse. -/
lemma foldlM_push {β : Type} (as bs : List β) : as.foldlM push bs = some (as.reverse ++ bs) := by
  induction as generalizing bs with
  | nil => rfl
  | cons a as ih =>
    rw [List.foldlM_cons, List.reverse_cons, List.append_assoc]
    exact ih (a :: bs)

/-- The reader reads every value that the bytes denote, and nothing else; blanks in front do not
matter to it. -/
structure Reads (inner : Reader Value) (P : Bytes → Value → Prop) : Prop where
  blanks {w s : Bytes} : Blanks w → inner (w ++ s) = inner s
  complete {t rest : Bytes} {v : Value} : P t v → Stops rest → inner (t ++ rest) = .ok (v, rest)
  sound {s rest : Bytes} {v : Value} : inner s = .ok (v, rest) →
    ∃ w t, Blanks w ∧ P t v ∧ s = w ++ (t ++ rest)
  opens (t : Bytes) (v : Value) : P t v → Opens t

variable {inner : Reader Value} {P : Bytes → Value → Prop}

/-- A reader of values, pushing them, takes elements of lists. -/
lemma Reads.element (h : Reads inner P) :
    Accepts (fun st s p => pushElement inner st s = .ok p) P push := by
  intro st st' t rest v hv step hr
  cases step
  show pushElement inner st (t ++ rest) = _
  rw [pushElement, h.complete hv hr]
  rfl

/-- It takes no other elements. -/
lemma Reads.element_only (h : Reads inner P) :
    AcceptsOnly (fun st s p => pushElement inner st s = .ok p) P push := by
  intro st st' s rest hs
  obtain ⟨⟨v, _⟩, hv, same⟩ := map_eq_ok_iff.1 hs
  cases same
  obtain ⟨w, t, hw, ht, rfl⟩ := h.sound hv
  exact ⟨w, t, v, hw, ht, rfl, rfl⟩

/-- A reader of values, pushing them behind their names, takes members of objects. -/
lemma Reads.member (h : Reads inner P) : AcceptsMember (pushMember inner) P push := by
  intro st st' name w w' t rest v hw hw' hv step hr
  cases step
  rw [pushMember, readColon_eq_ok_iff.2 ⟨w, hw, rfl⟩]
  simp only [h.blanks hw', h.complete hv hr]
  rfl

/-- It takes no other members. -/
lemma Reads.member_only (h : Reads inner P) : AcceptsOnlyMember (pushMember inner) P push := by
  intro st st' name s rest hs
  unfold pushMember at hs
  split at hs
  case h_1 => cases hs
  case h_2 u hu =>
    obtain ⟨w, hw, rfl⟩ := readColon_eq_ok_iff.1 hu
    obtain ⟨⟨v, _⟩, hv, same⟩ := map_eq_ok_iff.1 hs
    cases same
    obtain ⟨w', t, hw', ht, rfl⟩ := h.sound hv
    exact ⟨w, w', t, v, hw, hw', ht, rfl, rfl⟩

/-- Blanks in front of a value are passed over. -/
lemma readLevel_blanks {inner : Option (Reader Value)} (hw : Blanks w) :
    readLevel inner (w ++ s) = readLevel inner s := by
  rw [readLevel, readLevel, skipBlanks_append hw]

/-- A scalar is read at every level. -/
lemma readLevel_scalar {inner : Option (Reader Value)} (h : Scalar t v) (hr : Stops rest) :
    readLevel inner (t ++ rest) = .ok (v, rest) := by
  obtain ⟨b, u, rfl, hb, _, _⟩ := h.opens
  obtain ⟨hl, ho⟩ := h.ne_bracket
  rw [List.cons_append, readLevel, skipBlanks_cons hb]
  simp only [hl, ho, if_false]
  exact readScalar_of_scalar h hr

/-- Brackets and what they hold are read. -/
lemma Reads.level (h : Reads inner P) {t rest : Bytes} {v : Value} (hv : Bracketed P t v) :
    readLevel (some inner) (t ++ rest) = .ok (v, rest) := by
  cases hv with
  | @list s items hs =>
    have hall : readElements (pushElement inner) [] (s ++ closeList :: rest) = _ :=
      (readElements_loop _).complete h.element h.opens hs (foldlM_push items [])
    rw [List.append_nil] at hall
    rw [List.append_assoc, List.cons_append, readLevel, skipBlanks_cons (by decide)]
    simp only [if_true, List.singleton_append, hall, Except.map, List.reverse_reverse]
  | @object s members hs =>
    have hall : readMembers (pushMember inner) [] (s ++ closeObject :: rest) = _ :=
      (readMembers_loop _).complete h.member.entry (fun _ _ => Entry.opens) hs
        (foldlM_push members [])
    rw [List.append_nil] at hall
    have distinct : openObject ≠ openList := by decide
    rw [List.append_assoc, List.cons_append, readLevel, skipBlanks_cons (by decide)]
    simp only [distinct, if_true, if_false, List.singleton_append, hall, Except.map,
      List.reverse_reverse]

/-- At a level only brackets and what they hold, and values without elements, are read. -/
lemma Reads.of_level (h : Reads inner P) {s rest : Bytes} {v : Value}
    (hv : readLevel (some inner) s = .ok (v, rest)) :
    ∃ w t, Blanks w ∧ (Scalar t v ∨ Bracketed P t v) ∧ s = w ++ (t ++ rest) := by
  unfold readLevel at hv
  split at hv
  case h_1 => cases hv
  case h_2 b u hs =>
    obtain ⟨_, w, hw, rfl⟩ := exists_of_skipBlanks_eq_cons hs
    split at hv
    case isTrue hb =>
      obtain ⟨⟨items, _⟩, hall, same⟩ := map_eq_ok_iff.1 hv
      cases same
      obtain ⟨t, as, ht, hg, rfl⟩ := (readElements_loopOnly _).sound h.element_only hall
      rw [foldlM_push, List.append_nil, Option.some.injEq] at hg
      subst hg
      rw [List.reverse_reverse]
      exact ⟨w, _, hw, .inr (.list ht), by simp [hb]⟩
    split at hv
    case isTrue hb =>
      obtain ⟨⟨members, _⟩, hall, same⟩ := map_eq_ok_iff.1 hv
      cases same
      obtain ⟨t, as, ht, hg, rfl⟩ := (readMembers_loopOnly _).sound h.member_only.entry hall
      rw [foldlM_push, List.append_nil, Option.some.injEq] at hg
      subst hg
      rw [List.reverse_reverse]
      exact ⟨w, _, hw, .inr (.object ht), by simp [hb]⟩
    obtain ⟨t, ht, hs⟩ := scalar_of_readScalar hv
    exact ⟨w, t, hw, .inl ht, by rw [hs]⟩

/-- With nothing to read within brackets only values without elements are read. -/
lemma scalar_of_level {s rest : Bytes} {v : Value} (hv : readLevel none s = .ok (v, rest)) :
    ∃ w t, Blanks w ∧ Scalar t v ∧ s = w ++ (t ++ rest) := by
  unfold readLevel at hv
  split at hv
  case h_1 => cases hv
  case h_2 b u hs =>
    obtain ⟨_, w, hw, rfl⟩ := exists_of_skipBlanks_eq_cons hs
    split at hv
    case isTrue => cases hv
    split at hv
    case isTrue => cases hv
    obtain ⟨t, ht, hs⟩ := scalar_of_readScalar hv
    exact ⟨w, t, hw, ht, by rw [hs]⟩

/-- A value is read off the bytes that denote it, and off nothing else. -/
lemma readValue_reads (depth : Nat) : Reads (readValue depth) (Denotes depth) := by
  induction depth with
  | zero =>
    exact {
      blanks := readLevel_blanks
      complete := readLevel_scalar
      sound := scalar_of_level
      opens := fun _ _ => Scalar.opens }
  | succ depth ih =>
    refine {
      blanks := readLevel_blanks
      complete := ?_
      sound := ih.of_level
      opens := fun _ _ => Denotes.opens }
    intro t rest v hv hr
    obtain hv | hv := hv
    · exact readLevel_scalar hv hr
    · exact ih.level hv

/-- Bytes denote at most one value. -/
lemma Denotes.unique {v' : Value} (h : Denotes depth t v) (h' : Denotes depth t v') : v = v' := by
  have hv : readValue depth (t ++ []) = .ok (v, []) := (readValue_reads depth).complete h trivial
  have hv' : readValue depth (t ++ []) = .ok (v', []) :=
    (readValue_reads depth).complete h' trivial
  rw [hv, Except.ok.injEq, Prod.mk.injEq] at hv'
  exact hv'.1

/-- A value without elements opens no bracket. -/
lemma Denotes.scalar (h : Denotes depth t v) (hl : ∀ items, v ≠ .list items)
    (ho : ∀ members, v ≠ .object members) : Scalar t v := by
  cases depth with
  | zero => exact h
  | succ depth =>
    obtain h | h := h
    · exact h
    · cases h with
      | list => exact absurd rfl (hl _)
      | object => exact absurd rfl (ho _)

/-- The bytes of a word are an integer literal. -/
lemma Denotes.integer {n : UInt64} (h : Denotes depth t (.unsigned n)) :
    IntegerLiteral t n.toNat := by
  cases h.scalar nofun nofun with
  | number hn =>
    cases hn with
    | unsigned ht => exact ht

/-- The bytes of a negative number are an integer literal. -/
lemma Denotes.negative {n : Int64} (h : Denotes depth t (.signed n)) :
    IntegerLiteral t n.toInt := by
  cases h.scalar nofun nofun with
  | number hn =>
    cases hn with
    | signed ht _ => exact ht

/-- The bytes of a text are a literal of this text. -/
lemma Denotes.text {x : String} (h : Denotes depth t (.text x)) : TextLiteral t x := by
  cases h.scalar nofun nofun with
  | number hn => cases hn
  | text hx => exact hx

/-- The parser accepts the texts of the grammar and nothing else. -/
theorem parse_eq_ok_iff {s : Bytes} {v : Value} : parse s = .ok v ↔ IsText s v := by
  unfold parse
  constructor
  · intro h
    obtain ⟨⟨v', rest⟩, hv, h⟩ := bind_eq_ok_iff.1 h
    obtain ⟨_, hend, h⟩ := bind_eq_ok_iff.1 h
    cases h
    obtain ⟨w, t, hw, ht, rfl⟩ := (readValue_reads depthLimit).sound hv
    exact ⟨w, t, rest, hw, ht, endOfText_eq_ok_iff.1 hend, rfl⟩
  · rintro ⟨w, t, w', hw, ht, hw', rfl⟩
    have hr := readValue_reads depthLimit
    rw [hr.blanks hw, hr.complete ht hw'.stops]
    exact bind_eq_ok_iff.2 ⟨_, rfl, bind_eq_ok_iff.2 ⟨(), endOfText_eq_ok_iff.2 hw', rfl⟩⟩

end Values

end ParityDuel.Json
