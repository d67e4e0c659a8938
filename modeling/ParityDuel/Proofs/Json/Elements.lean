import ParityDuel.Proofs.Json.Literal

/-!
# Reading between brackets

The loops over elements and over members are alike in what they succeed with: `Loop` says that they
take what `Enclosed` describes, `LoopOnly` that they take nothing else. Both are about a loop with a
state, which each element steps: `Loop.complete` and `LoopOnly.sound` lift what is known about one
element to all of them. Reading and passing over are seen as relations here, so that both fit.
-/

namespace ParityDuel.Json

variable {σ α : Type}

/-- What a reader with a state succeeds with: the state before, the text, and what both become. -/
abbrev Takes (σ : Type) := σ → Bytes → σ × Bytes → Prop

/-- Something begins here, and no bracket closes. -/
def Opens (t : Bytes) : Prop :=
  ∃ b u, t = b :: u ∧ isBlank b = false ∧ b ≠ closeList ∧ b ≠ closeObject

/-- The reader takes every element and steps its state by it. -/
def Accepts (item : Takes σ) (P : Bytes → α → Prop) (g : σ → α → Option σ) : Prop :=
  ∀ ⦃st st' : σ⦄ ⦃t rest : Bytes⦄ ⦃a : α⦄, P t a → g st a = some st' → Stops rest →
    item st (t ++ rest) (st', rest)

/-- The reader takes nothing but elements, behind blanks. -/
def AcceptsOnly (item : Takes σ) (P : Bytes → α → Prop) (g : σ → α → Option σ) : Prop :=
  ∀ ⦃st st' : σ⦄ ⦃s rest : Bytes⦄, item st s (st', rest) →
    ∃ w t a, Blanks w ∧ P t a ∧ g st a = some st' ∧ s = w ++ (t ++ rest)

section Loops

variable {close : UInt8} {item : Takes σ} {more : Nat → Takes σ} {all : Takes σ}
  {P : Bytes → α → Prop} {g : σ → α → Option σ} {st st' : σ} {s rest : Bytes} {as : List α}

/-- A loop that ends at a bracket and goes on at a comma. -/
structure Loop (close : UInt8) (item : Takes σ) (more : Nat → Takes σ) (all : Takes σ) : Prop where
  stops {rest : Bytes} : Stops (close :: rest)
  ends {n : Nat} {st : σ} {w rest : Bytes} :
    Blanks w → more (n + 1) st (w ++ close :: rest) (st, rest)
  goes {n : Nat} {st st₁ : σ} {w w' t s s₁ : Bytes} {p : σ × Bytes} :
    Blanks w → Blanks w' → Opens t → item st (t ++ s) (st₁, s₁) → more n st₁ s₁ p →
    more (n + 1) st (w ++ comma :: (w' ++ (t ++ s))) p
  empty {st : σ} {w rest : Bytes} :
    Blanks w → all st (w ++ close :: rest) (st, rest)
  first {st st₁ : σ} {w t s s₁ : Bytes} {p : σ × Bytes} :
    Blanks w → Opens t → item st (t ++ s) (st₁, s₁) → more (s₁.length + 1) st₁ s₁ p →
    all st (w ++ (t ++ s)) p

/-- A loop that does nothing else. -/
structure LoopOnly (close : UInt8) (item : Takes σ) (more : Nat → Takes σ) (all : Takes σ) :
    Prop where
  round {n : Nat} {st st' : σ} {s rest : Bytes} : more n st s (st', rest) →
    (st = st' ∧ ∃ w, Blanks w ∧ s = w ++ close :: rest) ∨
      ∃ m w w' u st₁ s₁, n = m + 1 ∧ Blanks w ∧ Blanks w' ∧ s = w ++ comma :: (w' ++ u) ∧
        item st u (st₁, s₁) ∧ more m st₁ s₁ (st', rest)
  start {st st' : σ} {s rest : Bytes} : all st s (st', rest) →
    (st = st' ∧ ∃ w, Blanks w ∧ s = w ++ close :: rest) ∨
      ∃ n w u st₁ s₁, Blanks w ∧ s = w ++ u ∧ item st u (st₁, s₁) ∧ more n st₁ s₁ (st', rest)

/-- What stands behind an element does not belong to a number. -/
lemma Following.stops (h : Following P s as) (hc : Stops (close :: rest)) :
    Stops (s ++ close :: rest) := by
  cases h with
  | nil hw => exact hc.blanks_append hw
  | cons hw _ _ _ =>
    rw [List.append_assoc]
    exact Stops.blanks_append ⟨by decide, by decide, by decide⟩ hw

/-- What follows an element is taken as a whole, up to behind the closing bracket. -/
lemma Loop.following (L : Loop close item more all) (take : Accepts item P g)
    (opens : ∀ t a, P t a → Opens t) (h : Following P s as) {n : Nat}
    (hn : (s ++ close :: rest).length < n) (hg : as.foldlM g st = some st') :
    more n st (s ++ close :: rest) (st', rest) := by
  -- Each element takes at least a comma off the text, so the bound is never what ends the loop.
  induction h generalizing st n with
  | nil hw =>
    obtain _ | n := n
    · omega
    · cases hg
      exact L.ends hw
  | @cons w w' t s a as hw hw' ha hs ih =>
    obtain _ | n := n
    · omega
    · rw [List.foldlM_cons] at hg
      obtain ⟨st₁, step, hg⟩ := Option.bind_eq_some_iff.1 hg
      have shorter : (s ++ close :: rest).length < n := by
        simp only [List.length_append, List.length_cons] at hn ⊢
        omega
      have rest_eq : w ++ comma :: (w' ++ (t ++ s)) ++ close :: rest =
          w ++ comma :: (w' ++ (t ++ (s ++ close :: rest))) := by simp
      rw [rest_eq]
      exact L.goes hw hw' (opens t a ha) (take ha step (hs.stops L.stops)) (ih shorter hg)

/-- All that may stand between brackets is taken. -/
lemma Loop.complete (L : Loop close item more all) (take : Accepts item P g)
    (opens : ∀ t a, P t a → Opens t) (h : Enclosed P s as) (hg : as.foldlM g st = some st') :
    all st (s ++ close :: rest) (st', rest) := by
  cases h with
  | nil hw =>
    cases hg
    exact L.empty hw
  | @cons w t s a as hw ha hs =>
    rw [List.foldlM_cons] at hg
    obtain ⟨st₁, step, hg⟩ := Option.bind_eq_some_iff.1 hg
    rw [List.append_assoc, List.append_assoc]
    exact L.first hw (opens t a ha) (take ha step (hs.stops L.stops))
      (L.following take opens hs (Nat.lt_succ_self _) hg)

/-- Behind an element nothing else is taken. -/
lemma LoopOnly.following (L : LoopOnly close item more all) (only : AcceptsOnly item P g) {n : Nat}
    (h : more n st s (st', rest)) :
    ∃ t as, Following P t as ∧ as.foldlM g st = some st' ∧ s = t ++ close :: rest := by
  induction n generalizing st s with
  | zero =>
    obtain ⟨rfl, w, hw, rfl⟩ | ⟨m, _, _, _, _, _, hm, _⟩ := L.round h
    · exact ⟨w, [], .nil hw, rfl, rfl⟩
    · cases hm
  | succ n ih =>
    obtain ⟨rfl, w, hw, rfl⟩ | ⟨m, w, w', u, st₁, s₁, hm, hw, hw', rfl, hi, h'⟩ := L.round h
    · exact ⟨w, [], .nil hw, rfl, rfl⟩
    · cases hm
      obtain ⟨w'', t, a, hw'', ha, step, rfl⟩ := only hi
      obtain ⟨s, as, hs, hg, rfl⟩ := ih h'
      refine ⟨w ++ comma :: ((w' ++ w'') ++ (t ++ s)), a :: as, .cons hw (hw'.append hw'') ha hs,
        ?_, by simp⟩
      rw [List.foldlM_cons, step]
      exact hg

/-- Nothing is taken but what may stand between brackets. -/
lemma LoopOnly.sound (L : LoopOnly close item more all) (only : AcceptsOnly item P g)
    (h : all st s (st', rest)) :
    ∃ t as, Enclosed P t as ∧ as.foldlM g st = some st' ∧ s = t ++ close :: rest := by
  obtain ⟨rfl, w, hw, rfl⟩ | ⟨n, w, u, st₁, s₁, hw, rfl, hi, h'⟩ := L.start h
  · exact ⟨w, [], .nil hw, rfl, rfl⟩
  · obtain ⟨w', t, a, hw', ha, step, rfl⟩ := only hi
    obtain ⟨s, as, hs, hg, rfl⟩ := L.following only h'
    refine ⟨(w ++ w') ++ (t ++ s), a :: as, .cons (hw.append hw') ha hs, ?_, by simp⟩
    rw [List.foldlM_cons, step]
    exact hg

end Loops

/-- Where a loop stands it may only end or go on. -/
lemma closes_or_goes {β : Type} {close : UInt8} {ends : Bytes → β} {next : Bytes → Except Fault β}
    {s : Bytes} {out : β} {f : Fault} {g : Bytes → Fault}
    (h : (match skipBlanks s with
      | [] => .error f
      | b :: t =>
        if b = close then .ok (ends t)
        else if b = comma then next t
        else .error (g (b :: t))) = Except.ok out) :
    (∃ w rest, Blanks w ∧ s = w ++ close :: rest ∧ ends rest = out) ∨
      ∃ w t, Blanks w ∧ s = w ++ comma :: t ∧ next t = .ok out := by
  split at h
  case h_1 => cases h
  case h_2 b t hs =>
    obtain ⟨_, w, hw, rfl⟩ := exists_of_skipBlanks_eq_cons hs
    split at h
    case isTrue hb =>
      cases h
      exact .inl ⟨w, t, hw, by rw [hb], rfl⟩
    split at h
    case isTrue hb => exact .inr ⟨w, t, hw, by rw [hb], h⟩
    case isFalse => cases h

section Elements

variable (element : σ → Bytes → Except Fault (σ × Bytes))

/-- The reader of lists is such a loop. -/
lemma readElements_loop : Loop closeList (fun st s p => element st s = .ok p)
    (fun n st s p => moreElements element n st s = .ok p)
    (fun st s p => readElements element st s = .ok p) where
  stops := ⟨by decide, by decide, by decide⟩
  ends hw := by
    rw [moreElements, skipBlanks_append hw, skipBlanks_cons (by decide)]
    rfl
  goes hw hw' ht hi hm := by
    obtain ⟨b, u, rfl, hb, hl, _⟩ := ht
    have distinct : comma ≠ closeList := by decide
    rw [List.cons_append] at hi ⊢
    rw [moreElements, skipBlanks_append hw, skipBlanks_cons (by decide)]
    simp only [distinct, if_true, if_false, skipBlanks_append hw', skipBlanks_cons hb, hl, hi, hm]
  empty hw := by
    rw [readElements, skipBlanks_append hw, skipBlanks_cons (by decide)]
    rfl
  first hw ht hi hm := by
    obtain ⟨b, u, rfl, hb, hl, _⟩ := ht
    rw [List.cons_append] at hi ⊢
    rw [readElements, skipBlanks_append hw, skipBlanks_cons hb]
    simp only [hl, if_false, hi, hm]

/-- The reader of lists takes nothing but rounds of this loop. -/
lemma readElements_loopOnly : LoopOnly closeList (fun st s p => element st s = .ok p)
    (fun n st s p => moreElements element n st s = .ok p)
    (fun st s p => readElements element st s = .ok p) where
  round {n st st' s rest} h := by
    cases n with
    | zero => cases h
    | succ n =>
      obtain ⟨w, _, hw, rfl, same⟩ | ⟨w, t, hw, rfl, hnext⟩ := closes_or_goes h
      · cases same
        exact .inl ⟨rfl, w, hw, rfl⟩
      split at hnext
      case h_1 => cases hnext
      case h_2 c u ht =>
        obtain ⟨_, w', hw', rfl⟩ := exists_of_skipBlanks_eq_cons ht
        split at hnext
        case isTrue => cases hnext
        split at hnext
        case h_1 => cases hnext
        case h_2 st₁ s₁ hi => exact .inr ⟨n, w, w', c :: u, st₁, s₁, rfl, hw, hw', rfl, hi, hnext⟩
  start {st st' s rest} h := by
    rw [readElements] at h
    split at h
    case h_1 => cases h
    case h_2 b t hs =>
      obtain ⟨_, w, hw, rfl⟩ := exists_of_skipBlanks_eq_cons hs
      split at h
      case isTrue hb =>
        cases h
        exact .inl ⟨rfl, w, hw, by rw [hb]⟩
      case isFalse =>
        split at h
        case h_1 => cases h
        case h_2 st₁ s₁ hi => exact .inr ⟨_, w, b :: t, st₁, s₁, hw, rfl, hi, h⟩

end Elements

section Members

/-- Takes one member, its name included. -/
def takesEntry (member : σ → String → Bytes → Except Fault (σ × Bytes)) : Takes σ :=
  fun st s p => ∃ u, s = quote :: u ∧ readMember member st u = .ok p

variable (member : σ → String → Bytes → Except Fault (σ × Bytes))

/-- The reader of objects is such a loop. -/
lemma readMembers_loop : Loop closeObject (takesEntry member)
    (fun n st s p => moreMembers member n st s = .ok p)
    (fun st s p => readMembers member st s = .ok p) where
  stops := ⟨by decide, by decide, by decide⟩
  ends hw := by
    rw [moreMembers, skipBlanks_append hw, skipBlanks_cons (by decide)]
    rfl
  goes hw hw' ht hi hm := by
    obtain ⟨u, hu, hi⟩ := hi
    have distinct : comma ≠ closeObject := by decide
    rw [hu, moreMembers, skipBlanks_append hw, skipBlanks_cons (by decide)]
    simp only [distinct, if_true, if_false, skipBlanks_append hw',
      skipBlanks_cons (show isBlank quote = false by decide), hi, hm]
  empty hw := by
    rw [readMembers, skipBlanks_append hw, skipBlanks_cons (by decide)]
    rfl
  first hw ht hi hm := by
    obtain ⟨u, hu, hi⟩ := hi
    have distinct : quote ≠ closeObject := by decide
    rw [hu, readMembers, skipBlanks_append hw, skipBlanks_cons (by decide)]
    simp only [distinct, if_true, if_false, hi, hm]

/-- The reader of objects takes nothing but rounds of this loop. -/
lemma readMembers_loopOnly : LoopOnly closeObject (takesEntry member)
    (fun n st s p => moreMembers member n st s = .ok p)
    (fun st s p => readMembers member st s = .ok p) where
  round {n st st' s rest} h := by
    cases n with
    | zero => cases h
    | succ n =>
      obtain ⟨w, _, hw, rfl, same⟩ | ⟨w, t, hw, rfl, hnext⟩ := closes_or_goes h
      · cases same
        exact .inl ⟨rfl, w, hw, rfl⟩
      split at hnext
      case h_1 => cases hnext
      case h_2 c u ht =>
        obtain ⟨_, w', hw', rfl⟩ := exists_of_skipBlanks_eq_cons ht
        split at hnext
        case isTrue hc =>
          split at hnext
          case h_1 => cases hnext
          case h_2 st₁ s₁ hi =>
            exact .inr ⟨n, w, w', c :: u, st₁, s₁, rfl, hw, hw', rfl, ⟨u, by rw [hc], hi⟩, hnext⟩
        case isFalse =>
          split at hnext
          case isTrue => cases hnext
          case isFalse => cases hnext
  start {st st' s rest} h := by
    rw [readMembers] at h
    split at h
    case h_1 => cases h
    case h_2 b t hs =>
      obtain ⟨_, w, hw, rfl⟩ := exists_of_skipBlanks_eq_cons hs
      split at h
      case isTrue hb =>
        cases h
        exact .inl ⟨rfl, w, hw, by rw [hb]⟩
      case isFalse =>
        split at h
        case isFalse => cases h
        case isTrue hb =>
          split at h
          case h_1 => cases h
          case h_2 st₁ s₁ hi => exact .inr ⟨_, w, b :: t, st₁, s₁, hw, rfl, ⟨t, by rw [hb], hi⟩, h⟩

variable {member} {P : Bytes → α → Prop} {g : σ → String × α → Option σ}

/-- A member begins with the quote of its name. -/
lemma Entry.opens {t : Bytes} {m : String × α} (h : Entry P t m) : Opens t := by
  obtain ⟨⟨body, rfl, _⟩, _, _, _⟩ := h
  exact ⟨quote, _, rfl, by decide, by decide, by decide⟩

/-- The reader of what follows a name takes every content behind a colon, and steps its state by
the member. -/
def AcceptsMember (member : σ → String → Bytes → Except Fault (σ × Bytes)) (P : Bytes → α → Prop)
    (g : σ → String × α → Option σ) : Prop :=
  ∀ ⦃st st' : σ⦄ ⦃name : String⦄ ⦃w w' t rest : Bytes⦄ ⦃a : α⦄, Blanks w → Blanks w' → P t a →
    g st (name, a) = some st' → Stops rest →
    member st name (w ++ colon :: (w' ++ (t ++ rest))) = .ok (st', rest)

/-- The reader of what follows a name takes nothing else. -/
def AcceptsOnlyMember (member : σ → String → Bytes → Except Fault (σ × Bytes))
    (P : Bytes → α → Prop) (g : σ → String × α → Option σ) : Prop :=
  ∀ ⦃st st' : σ⦄ ⦃name : String⦄ ⦃s rest : Bytes⦄, member st name s = .ok (st', rest) →
    ∃ w w' t a, Blanks w ∧ Blanks w' ∧ P t a ∧ g st (name, a) = some st' ∧
      s = w ++ colon :: (w' ++ (t ++ rest))

/-- A reader that takes what stands behind the colon takes the member. -/
lemma AcceptsMember.entry (h : AcceptsMember member P g) :
    Accepts (takesEntry member) (Entry P) g := by
  intro st st' t rest m hm step hr
  cases hm with
  | @mk _ w w' t name a key hw hw' ha =>
    obtain ⟨body, rfl, hbody⟩ := key
    have hname : readText (body ++ quote :: (w ++ colon :: (w' ++ (t ++ rest)))) =
        .ok (name, w ++ colon :: (w' ++ (t ++ rest))) := readText_eq_ok_iff.2 ⟨body, hbody, rfl⟩
    refine ⟨body ++ quote :: (w ++ colon :: (w' ++ (t ++ rest))), by simp, ?_⟩
    rw [readMember, hname]
    exact h hw hw' ha step hr

/-- It takes no other member if it takes nothing else behind the colon. -/
lemma AcceptsOnlyMember.entry (h : AcceptsOnlyMember member P g) :
    AcceptsOnly (takesEntry member) (Entry P) g := by
  intro st st' s rest hs
  obtain ⟨u, rfl, hu⟩ := hs
  unfold readMember at hu
  split at hu
  case h_1 => cases hu
  case h_2 name s hr =>
    obtain ⟨body, hbody, rfl⟩ := readText_eq_ok_iff.1 hr
    obtain ⟨w, w', t, a, hw, hw', ha, step, rfl⟩ := h hu
    exact ⟨[], _, (name, a), nofun, .mk ⟨body, rfl, hbody⟩ hw hw' ha, step, by simp⟩

end Members

end ParityDuel.Json
