import ParityDuel.Proofs.Json.SkipLiteral

/-!
# Passing over values

`skipValue` passes over the loose values (`skipValue_of_loose`) and over nothing else
(`loose_of_skipValue`). Its bound, the number of bytes, is never the obstacle: brackets cannot be
nested deeper than there are bytes (`LooseWithin.of_length`). Whatever the full reader takes as a
value is passed over to the same place (`skipValue_of_readValue`), although passing over looks at
less.
-/

namespace ParityDuel.Json

variable {s t w rest : Bytes} {b : UInt8} {v : Value}

section Loops

variable {close : UInt8} {item : Bytes → Except Fault Bytes}
  {more : Nat → Bytes → Except Fault Bytes} {all : Bytes → Except Fault Bytes}

/-- What the loops over elements and over members have in common: both close at their bracket, go
on at a comma, and fail otherwise. -/
structure PassesOver (close : UInt8) (item : Bytes → Except Fault Bytes)
    (more : Nat → Bytes → Except Fault Bytes) (all : Bytes → Except Fault Bytes) : Prop where
  closes : close = closeList ∨ close = closeObject
  bound (s : Bytes) : ∃ f, more 0 s = .error f
  round (n : Nat) (s : Bytes) : ∃ (f : Fault) (g : Bytes → Fault), more (n + 1) s =
    match skipBlanks s with
    | [] => .error f
    | b :: t =>
      if b = close then .ok t
      else if b = comma then
        match item t with
        | .error f => .error f
        | .ok rest => more n rest
      else .error (g (b :: t))
  start (s : Bytes) : ∃ f : Fault, all s =
    match skipBlanks s with
    | [] => .error f
    | b :: t =>
      if b = close then .ok t
      else
        match item (b :: t) with
        | .error f => .error f
        | .ok rest => more (rest.length + 1) rest

/-- Lists are passed over by such a loop. -/
lemma skipElements_passesOver (inner : Bytes → Except Fault Bytes) :
    PassesOver closeList inner (skipMoreElements inner) (skipElements inner) where
  closes := .inl rfl
  bound _ := ⟨_, rfl⟩
  round _ _ := ⟨_, .peeking .expectedListEnd, rfl⟩
  start _ := ⟨_, rfl⟩

/-- Objects are passed over by such a loop. -/
lemma skipMembers_passesOver (inner : Bytes → Except Fault Bytes) :
    PassesOver closeObject (skipMember inner) (skipMoreMembers inner) (skipMembers inner) where
  closes := .inr rfl
  bound _ := ⟨_, rfl⟩
  round _ _ := ⟨_, .peeking .expectedObjectEnd, rfl⟩
  start _ := ⟨_, rfl⟩

/-- The closing bracket is neither a blank nor a comma. -/
lemma PassesOver.closing (L : PassesOver close item more all) :
    isBlank close = false ∧ comma ≠ close := by
  obtain rfl | rfl := L.closes
  · exact ⟨by decide, by decide⟩
  · exact ⟨by decide, by decide⟩

/-- No number goes on over the closing bracket. -/
lemma PassesOver.stops (L : PassesOver close item more all) : Stops (close :: rest) := by
  obtain rfl | rfl := L.closes
  · exact ⟨by decide, by decide, by decide⟩
  · exact ⟨by decide, by decide, by decide⟩

/-- As a loop with nothing to remember, it takes what follows an element. -/
lemma PassesOver.loop (L : PassesOver close item more all)
    (blanks : ∀ {w s}, Blanks w → item (w ++ s) = item s) :
    Loop close (fun _ s p => item s = .ok p.2) (fun n _ s p => more n s = .ok p.2)
      (fun (_ : Unit) s p => all s = .ok p.2) where
  stops := L.stops
  ends {n _ w rest} hw := by
    obtain ⟨f, g, eq⟩ := L.round n (w ++ close :: rest)
    rw [eq, skipBlanks_append hw, skipBlanks_cons L.closing.1]
    simp only [if_true]
  goes {n _ _ w w' t s _ p} hw hw' _ hi hm := by
    obtain ⟨f, g, eq⟩ := L.round n (w ++ comma :: (w' ++ (t ++ s)))
    rw [eq, skipBlanks_append hw, skipBlanks_cons (by decide)]
    simp only [L.closing.2, if_true, if_false, blanks hw', hi, hm]
  empty {_ w rest} hw := by
    obtain ⟨f, eq⟩ := L.start (w ++ close :: rest)
    rw [eq, skipBlanks_append hw, skipBlanks_cons L.closing.1]
    simp only [if_true]
  first {_ _ w t s _ p} hw ht hi hm := by
    obtain ⟨b, u, rfl, hb, hl, ho⟩ := ht
    have hc : b ≠ close := by
      obtain rfl | rfl := L.closes
      · exact hl
      · exact ho
    obtain ⟨f, eq⟩ := L.start (w ++ (b :: u ++ s))
    rw [List.cons_append] at hi eq ⊢
    rw [eq, skipBlanks_append hw, skipBlanks_cons hb]
    simp only [hc, if_false, hi, hm]

/-- It takes nothing else. -/
lemma PassesOver.loopOnly (L : PassesOver close item more all) :
    LoopOnly close (fun _ s p => item s = .ok p.2) (fun n _ s p => more n s = .ok p.2)
      (fun (_ : Unit) s p => all s = .ok p.2) where
  round {n _ _ s rest} h := by
    cases n with
    | zero =>
      obtain ⟨f, eq⟩ := L.bound s
      rw [eq] at h
      cases h
    | succ n =>
      obtain ⟨f, g, eq⟩ := L.round n s
      rw [eq] at h
      obtain ⟨w, _, hw, rfl, rfl⟩ | ⟨w, t, hw, rfl, hnext⟩ := closes_or_goes h
      · exact .inl ⟨rfl, w, hw, rfl⟩
      split at hnext
      case h_1 => cases hnext
      case h_2 s₁ hi => exact .inr ⟨n, w, [], t, (), s₁, rfl, hw, nofun, rfl, hi, hnext⟩
  start {_ _ s rest} h := by
    obtain ⟨f, eq⟩ := L.start s
    rw [eq] at h
    split at h
    case h_1 => cases h
    case h_2 b t hs =>
      obtain ⟨_, w, hw, rfl⟩ := exists_of_skipBlanks_eq_cons hs
      split at h
      case isTrue hb =>
        cases h
        exact .inl ⟨rfl, w, hw, by rw [hb]⟩
      case isFalse =>
        split at h
        case h_1 => cases h
        case h_2 s₁ hi => exact .inr ⟨_, w, b :: t, (), s₁, hw, rfl, hi, h⟩

/-- Passing over leaves no state behind. -/
def pass {α : Type} (_ : Unit) (_ : α) : Option Unit := some ()

/-- Passing over elements remembers nothing of them. -/
lemma foldlM_pass {α : Type} (as : List α) : as.foldlM pass () = some () := by
  induction as with
  | nil => rfl
  | cons a as ih => exact ih

end Loops

section Brackets

variable {inner : Bytes → Except Fault Bytes} {P : Bytes → Prop}

/-- Everything that has the form is passed over, and nothing else; blanks in front do not matter. -/
structure Skips (inner : Bytes → Except Fault Bytes) (P : Bytes → Prop) : Prop where
  blanks {w s : Bytes} : Blanks w → inner (w ++ s) = inner s
  complete {t rest : Bytes} : P t → Stops rest → inner (t ++ rest) = .ok rest
  sound {s rest : Bytes} : inner s = .ok rest → ∃ w t, Blanks w ∧ P t ∧ s = w ++ (t ++ rest)
  opens (t : Bytes) : P t → Opens t

/-- What is passed over between brackets is made of what is passed over alone. -/
lemma Skips.enclosed (h : Skips inner P) {close : UInt8} {more : Nat → Bytes → Except Fault Bytes}
    {all : Bytes → Except Fault Bytes} (L : PassesOver close inner more all) :
    all s = .ok rest ↔ ∃ t, LooseEnclosed P t ∧ s = t ++ close :: rest := by
  constructor
  · intro hs
    have only : AcceptsOnly (fun _ s p => inner s = .ok p.2) (fun t (_ : Unit) => P t) pass := by
      intro _ _ s rest hs
      obtain ⟨w, t, hw, ht, rfl⟩ := h.sound hs
      exact ⟨w, t, (), hw, ht, rfl, rfl⟩
    have found : ∃ t units, Enclosed (fun t (_ : Unit) => P t) t units ∧
        units.foldlM pass () = some () ∧ s = t ++ close :: rest :=
      L.loopOnly.sound only hs
    obtain ⟨t, units, ht, _, rfl⟩ := found
    exact ⟨t, ⟨units, ht⟩, rfl⟩
  · rintro ⟨t, ⟨units, ht⟩, rfl⟩
    have take : Accepts (fun _ s p => inner s = .ok p.2) (fun t (_ : Unit) => P t) pass :=
      fun _ _ _ _ _ hv _ hr => h.complete hv hr
    exact (L.loop h.blanks).complete take (fun t _ => h.opens t) ht (foldlM_pass units)

/-- A member is passed over if its content is. -/
lemma Skips.member (h : Skips inner P) : Skips (skipMember inner) (LooseEntry P) where
  blanks hw := by rw [skipMember, skipMember, skipBlanks_append hw]
  complete {t rest} hm hr := by
    cases hm with
    | @mk body w w' t hbody hw hw' ht =>
      have shape : quote :: body ++ [quote] ++ (w ++ colon :: (w' ++ t)) ++ rest =
          quote :: (body ++ quote :: (w ++ colon :: (w' ++ (t ++ rest)))) := by simp
      rw [shape, skipMember, skipBlanks_cons (by decide)]
      simp only [if_true, skipText_eq_ok_iff.2 ⟨body, hbody, rfl⟩,
        readColon_eq_ok_iff.2 ⟨w, hw, rfl⟩, bind, Except.bind, h.blanks hw', h.complete ht hr]
  sound {s rest} hs := by
    unfold skipMember at hs
    split at hs
    case h_1 => cases hs
    case h_2 b u hu =>
      obtain ⟨_, w₀, hw₀, rfl⟩ := exists_of_skipBlanks_eq_cons hu
      split at hs
      case isFalse => cases hs
      case isTrue hb =>
        obtain ⟨_, hx, hnext⟩ := bind_eq_ok_iff.1 hs
        obtain ⟨_, hc, hcontent⟩ := bind_eq_ok_iff.1 hnext
        obtain ⟨body, hbody, rfl⟩ := skipText_eq_ok_iff.1 hx
        obtain ⟨w, hw, rfl⟩ := readColon_eq_ok_iff.1 hc
        obtain ⟨w', t, hw', ht, rfl⟩ := h.sound hcontent
        exact ⟨w₀, _, hw₀, .mk hbody hw hw' ht, by simp [hb]⟩
  opens _ := LooseEntry.opens

/-- Lists of what is passed over are passed over, and nothing else. -/
lemma Skips.elements_iff (h : Skips inner P) : skipElements inner s = .ok rest ↔
    ∃ t, LooseEnclosed P t ∧ s = t ++ closeList :: rest :=
  h.enclosed (skipElements_passesOver inner)

/-- Objects of what is passed over are passed over, and nothing else. -/
lemma Skips.members_iff (h : Skips inner P) : skipMembers inner s = .ok rest ↔
    ∃ t, LooseEnclosed (LooseEntry P) t ∧ s = t ++ closeObject :: rest :=
  h.member.enclosed (skipMembers_passesOver inner)

end Brackets

section Values

variable {depth : Nat}

/-- Blanks in front are passed over as well. -/
lemma skipWithin_blanks (hw : Blanks w) : skipWithin depth (w ++ s) = skipWithin depth s := by
  cases depth <;> rw [skipWithin, skipWithin, skipBlanks_append hw]

/-- What begins with no bracket is passed over as a scalar. -/
lemma skipWithin_of_scalar (hb : isBlank b = false) (hl : b ≠ openList) (ho : b ≠ openObject) :
    skipWithin depth (b :: s) = skipScalar (b :: s) := by
  cases depth with
  | zero => rw [skipWithin, skipBlanks_cons hb]
  | succ depth =>
    rw [skipWithin, skipBlanks_cons hb]
    simp only [hl, ho, if_false]

/-- A scalar is passed over at every depth, if nothing goes on with it. -/
lemma skipWithin_of_looseScalar (h : LooseScalar t) (hr : Stops rest) :
    skipWithin depth (t ++ rest) = .ok rest := by
  have hskip := skipScalar_of_loose h hr
  obtain ⟨b, u, rfl, hb, _, _⟩ := h.opens
  obtain ⟨hl, ho⟩ := h.ne_bracket
  exact (skipWithin_of_scalar hb hl ho).trans hskip

/-- Brackets and what they hold are passed over. -/
lemma Skips.level (h : Skips (skipWithin depth) P) (hb : LooseBrackets P t) :
    skipWithin (depth + 1) (t ++ rest) = .ok rest := by
  cases hb with
  | list hs =>
    rw [List.append_assoc, List.cons_append, skipWithin, skipBlanks_cons (by decide)]
    exact h.elements_iff.2 ⟨_, hs, rfl⟩
  | object hs =>
    rw [List.append_assoc, List.cons_append, skipWithin, skipBlanks_cons (by decide)]
    exact h.members_iff.2 ⟨_, hs, rfl⟩

/-- At a level only brackets and what they hold, and values without elements, are passed over. -/
lemma Skips.of_level (h : Skips (skipWithin depth) P) (hs : skipWithin (depth + 1) s = .ok rest) :
    ∃ w t, Blanks w ∧ (LooseScalar t ∨ LooseBrackets P t) ∧ s = w ++ (t ++ rest) := by
  unfold skipWithin at hs
  split at hs
  case h_1 => cases hs
  case h_2 b u hu =>
    obtain ⟨_, w, hw, rfl⟩ := exists_of_skipBlanks_eq_cons hu
    split at hs
    case isTrue hb =>
      obtain ⟨t, ht, rfl⟩ := h.elements_iff.1 hs
      exact ⟨w, _, hw, .inr (.list ht), by simp [hb]⟩
    split at hs
    case isTrue hb =>
      obtain ⟨t, ht, rfl⟩ := h.members_iff.1 hs
      exact ⟨w, _, hw, .inr (.object ht), by simp [hb]⟩
    obtain ⟨t, ht, hs⟩ := loose_of_skipScalar hs
    exact ⟨w, t, hw, .inl ht, by rw [hs]⟩

/-- Passing over to a depth takes the loose values of this depth, and nothing else. -/
lemma skipWithin_skips (depth : Nat) : Skips (skipWithin depth) (LooseWithin depth) := by
  induction depth with
  | zero =>
    refine {
      blanks := skipWithin_blanks
      complete := skipWithin_of_looseScalar
      sound := ?_
      opens := fun _ => LooseScalar.opens }
    intro s rest hs
    unfold skipWithin at hs
    split at hs
    case h_1 => cases hs
    case h_2 b u hu =>
      obtain ⟨_, w, hw, rfl⟩ := exists_of_skipBlanks_eq_cons hu
      obtain ⟨t, ht, hs⟩ := loose_of_skipScalar hs
      exact ⟨w, t, hw, ht, by rw [hs]⟩
  | succ depth ih =>
    refine {
      blanks := skipWithin_blanks
      complete := ?_
      sound := ih.of_level
      opens := fun _ => LooseWithin.opens }
    intro t rest ht hr
    obtain ht | ht := ht
    · exact skipWithin_of_looseScalar ht hr
    · exact ih.level ht

/-- A loose value is passed over to its end. -/
lemma skipValue_of_loose (hw : Blanks w) (h : Loose t) (hr : Stops rest) :
    skipValue (w ++ (t ++ rest)) = .ok rest := by
  obtain ⟨_, h⟩ := h
  have deep : t.length ≤ (w ++ (t ++ rest)).length := by
    simp only [List.length_append]
    omega
  rw [skipValue, skipWithin_blanks hw]
  exact (skipWithin_skips _).complete (h.of_length deep) hr

/-- Only loose values are passed over. -/
lemma loose_of_skipValue (h : skipValue s = .ok rest) :
    ∃ w t, Blanks w ∧ Loose t ∧ s = w ++ (t ++ rest) := by
  obtain ⟨w, t, hw, ht, rfl⟩ := (skipWithin_skips _).sound h
  exact ⟨w, t, hw, ⟨_, ht⟩, rfl⟩

/-- Brackets are passed over whatever stands behind them. -/
lemma skipValue_of_brackets (rest : Bytes) (hw : Blanks w)
    (h : LooseBrackets (LooseWithin depth) t) : skipValue (w ++ (t ++ rest)) = .ok rest := by
  have deep : t.length ≤ (w ++ (t ++ rest)).length := by
    simp only [List.length_append]
    omega
  rw [skipValue, skipWithin_blanks hw]
  generalize (w ++ (t ++ rest)).length = bytes at deep
  cases bytes with
  | zero =>
    have within : LooseWithin (depth + 1) t := .inr h
    obtain ⟨b, u, rfl, _⟩ := within.opens
    exact absurd deep (Nat.not_succ_le_zero _)
  | succ bytes =>
    exact (skipWithin_skips bytes).level (h.imp fun s shorter hs => hs.of_length (by omega))

/-- Whatever one level reads is passed over, up to the same byte. -/
lemma skipValue_of_readLevel {inner : Option (Reader Value)} (depth : Nat)
    (reads : ∀ r ∈ inner, Reads r (Denotes depth)) (h : readLevel inner s = .ok (v, rest)) :
    skipValue s = .ok rest := by
  unfold readLevel at h
  split at h
  case h_1 => cases h
  case h_2 b u hs =>
    obtain ⟨hb, w, hw, rfl⟩ := exists_of_skipBlanks_eq_cons hs
    split at h
    case isTrue hl =>
      split at h
      case h_1 => cases h
      case h_2 r =>
        obtain ⟨⟨items, _⟩, hall, same⟩ := map_eq_ok_iff.1 h
        cases same
        obtain ⟨t, as, ht, _, rfl⟩ :=
          (readElements_loopOnly _).sound (reads r rfl).element_only hall
        have brackets := (Bracketed.list ht).loose fun _ _ => Denotes.looseWithin
        simpa [hl] using skipValue_of_brackets rest hw brackets
    split at h
    case isTrue ho =>
      split at h
      case h_1 => cases h
      case h_2 r =>
        obtain ⟨⟨members, _⟩, hall, same⟩ := map_eq_ok_iff.1 h
        cases same
        obtain ⟨t, as, ht, _, rfl⟩ :=
          (readMembers_loopOnly _).sound (reads r rfl).member_only.entry hall
        have brackets := (Bracketed.object ht).loose fun _ _ => Denotes.looseWithin
        simpa [ho] using skipValue_of_brackets rest hw brackets
    case isFalse hl ho =>
      rw [skipValue, skipWithin_blanks hw, skipWithin_of_scalar hb hl ho]
      exact skipScalar_of_readScalar h

/-- What is read as a value is passed over to the same place. -/
lemma skipValue_of_readValue (h : readValue depth s = .ok (v, rest)) : skipValue s = .ok rest := by
  cases depth with
  | zero => exact skipValue_of_readLevel 0 (fun r none => absurd none (Option.not_mem_none r)) h
  | succ depth =>
    refine skipValue_of_readLevel depth ?_ h
    intro r hr
    obtain rfl := Option.mem_some.1 hr
    exact readValue_reads depth

end Values

end ParityDuel.Json
