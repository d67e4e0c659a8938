import ParityDuel.Proofs.Json.Skip
import ParityDuel.Proofs.Wire.Fields
import ParityDuel.Wire.Tagged

/-!
# Looking for the kind

`decodeKind` looks for the kind of a message and passes over everything else. `Names` says in which
frames it finds which kind (`decodeKind_iff_names`): what the other members hold only has to be
loose. The kind is taken from the only member of its name (`kindStep`).
-/

namespace ParityDuel.Wire

open Json

section Steps

variable {α β : Type} {read : α → Option β} {ms : List (String × α)}

/-- Takes the kind, of which there must be no other, and lets other members pass. -/
def kindStep (read : α → Option β) (kind : Option β) (m : String × α) : Option (Option β) :=
  if m.1 = kindMember then
    match kind with
    | some _ => none
    | none => (read m.2).map some
  else some kind

/-- Once a kind has been found, no further member may name one. -/
lemma foldlM_kindStep_some {b : β} {kind : Option β} :
    ms.foldlM (kindStep read) (some b) = some kind ↔ Lacks kindMember ms ∧ kind = some b := by
  induction ms with
  | nil => simp [eq_comm]
  | cons m ms ih =>
    obtain ⟨name, a⟩ := m
    by_cases hn : name = kindMember
    · subst hn
      simp [kindStep]
    · rw [List.foldlM_cons, lacks_cons_of_ne hn, ← ih]
      simp [kindStep, hn]

/-- The kind is taken from the only member of its name. -/
lemma foldlM_kindStep {b : β} : ms.foldlM (kindStep read) none = some (some b) ↔
    ∃ a, Sole kindMember ms a ∧ read a = some b := by
  induction ms with
  | nil => simp
  | cons m ms ih =>
    obtain ⟨name, a⟩ := m
    by_cases hn : name = kindMember
    · subst hn
      have step : kindStep read none (kindMember, a) = (read a).map some := by simp [kindStep]
      rw [List.foldlM_cons, step]
      simp only [sole_cons_self]
      constructor
      · intro h
        obtain ⟨o, ho, h⟩ := Option.bind_eq_some_iff.1 h
        obtain ⟨b', hb, rfl⟩ := Option.map_eq_some_iff.1 ho
        obtain ⟨none, same⟩ := foldlM_kindStep_some.1 h
        cases same
        exact ⟨a, ⟨rfl, none⟩, hb⟩
      · rintro ⟨_, ⟨rfl, none⟩, hb⟩
        rw [hb]
        exact foldlM_kindStep_some.2 ⟨none, rfl⟩
    · simp only [List.foldlM_cons, sole_cons_of_ne hn, ← ih]
      simp [kindStep, hn]

/-- No kind is taken where no member has its name. -/
lemma foldlM_kindStep_none : ms.foldlM (kindStep read) none = some none ↔ Lacks kindMember ms := by
  induction ms with
  | nil => simp
  | cons m ms ih =>
    obtain ⟨name, a⟩ := m
    by_cases hn : name = kindMember
    · subst hn
      have step : kindStep read none (kindMember, a) = (read a).map some := by simp [kindStep]
      rw [List.foldlM_cons, step]
      simp only [not_lacks_cons_self, iff_false]
      intro h
      obtain ⟨o, ho, h⟩ := Option.bind_eq_some_iff.1 h
      obtain ⟨b, _, rfl⟩ := Option.map_eq_some_iff.1 ho
      cases (foldlM_kindStep_some.1 h).2
    · simp only [List.foldlM_cons, lacks_cons_of_ne hn, ← ih]
      simp [kindStep, hn]

end Steps

/-- How the kind is written: as a text, or as a null that names none. -/
inductive KindLiteral : Bytes → Option String → Prop where
  | null :
    KindLiteral (asciiBytes "null") none
  | text {t : Bytes} {x : String} :
    TextLiteral t x →
    KindLiteral t (some x)

/-- The loose bytes of a content, as they stand. -/
def LooseToken (t c : Bytes) : Prop := t = c ∧ Loose t

/-- A frame that is one object, with these names and contents of its members, and blanks around it.
Names are texts; contents only have to be loose. -/
def IsLooseObject (s : Bytes) (ms : List (String × Bytes)) : Prop :=
  ∃ w body w', Blanks w ∧ Enclosed (Entry LooseToken) body ms ∧ Blanks w' ∧
    s = w ++ openObject :: (body ++ closeObject :: w')

/-- Which kind a frame names. In an object the kind stands once, or there is none; a list has one
element, and this is the kind. -/
inductive Names (s : Bytes) : Option String → Prop where
  | member {ms : List (String × Bytes)} {t : Bytes} {kind : Option String} :
    IsLooseObject s ms → Sole "type" ms t → KindLiteral t kind →
    Names s kind
  | absent {ms : List (String × Bytes)} :
    IsLooseObject s ms → Lacks "type" ms →
    Names s none
  | element {w w₁ t w₂ w₃ : Bytes} {kind : Option String} :
    Blanks w → Blanks w₁ → KindLiteral t kind → Blanks w₂ → Blanks w₃ →
    s = w ++ openList :: (w₁ ++ (t ++ (w₂ ++ closeList :: w₃))) →
    Names s kind

section Literals

variable {s t rest : Bytes} {kind : Option String}

/-- A literal of a kind can be passed over. -/
lemma KindLiteral.loose (h : KindLiteral t kind) : Loose t := by
  cases h with
  | null => exact ⟨0, .nullWord⟩
  | text ht => exact ⟨0, ht.loose⟩

/-- The kind is read off a literal of it, behind blanks, and off nothing else. -/
lemma readOptionalText_eq_ok_iff : readOptionalText s = .ok (kind, rest) ↔
    ∃ w t, Blanks w ∧ KindLiteral t kind ∧ s = w ++ (t ++ rest) := by
  constructor
  · intro h
    unfold readOptionalText at h
    split at h
    case h_1 => cases h
    case h_2 b u hs =>
      obtain ⟨_, w, hw, rfl⟩ := exists_of_skipBlanks_eq_cons hs
      split at h
      case isTrue hb =>
        obtain ⟨_, hnull, same⟩ := map_eq_ok_iff.1 h
        cases same
        exact ⟨w, _, hw, .null, by rw [hb, word_eq_ok_iff.1 hnull, null_eq]; rfl⟩
      split at h
      case isFalse => cases h
      case isTrue hb =>
        obtain ⟨⟨x, _⟩, hx, same⟩ := map_eq_ok_iff.1 h
        cases same
        obtain ⟨body, hbody, rfl⟩ := readText_eq_ok_iff.1 hx
        exact ⟨w, _, hw, .text ⟨body, rfl, hbody⟩, by simp [hb]⟩
  · rintro ⟨w, t, hw, ht, rfl⟩
    rw [readOptionalText, skipBlanks_append hw]
    cases ht with
    | null =>
      rw [null_eq, List.cons_append, skipBlanks_cons (by decide)]
      simp only [if_true, word_eq_ok_iff.2 rfl]
      rfl
    | @text _ x ht =>
      obtain ⟨body, rfl, hbody⟩ := ht
      have hx : readText (body ++ quote :: rest) = .ok (x, rest) :=
        readText_eq_ok_iff.2 ⟨body, hbody, rfl⟩
      have distinct : quote ≠ 0x6E := by decide
      rw [List.cons_append, List.cons_append, List.append_assoc, List.singleton_append,
        skipBlanks_cons (by decide)]
      simp only [distinct, if_true, if_false, hx]
      rfl

/-- The kind that bytes are a literal of. -/
def kindIn? (t : Bytes) : Option (Option String) :=
  match readOptionalText t with
  | .ok (kind, []) => some kind
  | _ => none

/-- A kind is found in a content when the content is read to its end. -/
lemma kindIn?_eq_some_iff : kindIn? t = some kind ↔ readOptionalText t = .ok (kind, []) := by
  unfold kindIn?
  split
  case h_1 h => simp [h]
  case h_2 other =>
    constructor
    · nofun
    · exact fun h => absurd h (other kind)

lemma kindIn?_of_literal (h : KindLiteral t kind) : kindIn? t = some kind :=
  kindIn?_eq_some_iff.2 (readOptionalText_eq_ok_iff.2 ⟨[], t, nofun, h, by simp⟩)

/-- A content that can be passed over and in which a kind is found is a literal of it. -/
lemma literal_of_kindIn? (h : kindIn? t = some kind) (loose : Loose t) : KindLiteral t kind := by
  obtain ⟨w, u, hw, hu, hs⟩ := readOptionalText_eq_ok_iff.1 (kindIn?_eq_some_iff.1 h)
  obtain ⟨b, v, rfl, hb, _⟩ := loose.opens
  cases w with
  | nil =>
    rw [List.nil_append, List.append_nil] at hs
    rwa [hs]
  | cons c w =>
    have blank := hw c List.mem_cons_self
    rw [List.cons_append, List.cons.injEq] at hs
    rw [← hs.1, hb] at blank
    cases blank

/-- A list ends here when its bracket stands behind blanks. -/
lemma closeListHere_eq_ok_iff :
    closeListHere s = .ok rest ↔ ∃ w, Blanks w ∧ s = w ++ closeList :: rest := by
  constructor
  · intro h
    unfold closeListHere at h
    split at h
    case h_1 => cases h
    case h_2 b u hs =>
      obtain ⟨_, w, hw, rfl⟩ := exists_of_skipBlanks_eq_cons hs
      split at h
      case isTrue hb =>
        cases h
        exact ⟨w, hw, by rw [hb]⟩
      split at h
      case isFalse => cases h
      split at h
      case h_1 => cases h
      split at h
      case isTrue => cases h
      case isFalse => cases h
  · rintro ⟨w, hw, rfl⟩
    rw [closeListHere, skipBlanks_append hw, skipBlanks_cons (by decide)]
    rfl

end Literals

section Members

/-- One member: the kind, or one that is passed over. -/
lemma kindMemberOnly_accepts : AcceptsMember kindMemberOnly LooseToken (kindStep kindIn?) := by
  intro st st' name w w' t rest c hw hw' hc step hr
  obtain ⟨rfl, loose⟩ := hc
  have content : readColon (w ++ colon :: (w' ++ (t ++ rest))) = .ok (w' ++ (t ++ rest)) :=
    readColon_eq_ok_iff.2 ⟨w, hw, rfl⟩
  unfold kindMemberOnly
  by_cases hn : name = kindMember
  · subst hn
    cases st with
    | some k => simp [kindStep] at step
    | none =>
      simp only [kindStep, if_true] at step
      obtain ⟨kind, hkind, rfl⟩ := Option.map_eq_some_iff.1 step
      have hread : readOptionalText (w' ++ (t ++ rest)) = .ok (kind, rest) :=
        readOptionalText_eq_ok_iff.2 ⟨w', t, hw', literal_of_kindIn? hkind loose, rfl⟩
      simp only [if_true, content, hread, Except.map]
  · simp only [kindStep, hn, if_false, Option.some.injEq] at step
    subst step
    simp only [hn, if_false, content, skipValue_of_loose hw' loose hr, Except.map]

/-- Only members whose contents can be passed over are looked at for the kind. -/
lemma kindMemberOnly_only : AcceptsOnlyMember kindMemberOnly LooseToken (kindStep kindIn?) := by
  intro st st' name s rest h
  unfold kindMemberOnly at h
  by_cases hn : name = kindMember
  · subst hn
    cases st with
    | some k =>
      simp only [if_true] at h
      cases h
    | none =>
      simp only [if_true] at h
      split at h
      case h_1 => cases h
      case h_2 u hu =>
        obtain ⟨w, hw, rfl⟩ := readColon_eq_ok_iff.1 hu
        obtain ⟨⟨kind, _⟩, hkind, same⟩ := map_eq_ok_iff.1 h
        cases same
        obtain ⟨w', t, hw', ht, rfl⟩ := readOptionalText_eq_ok_iff.1 hkind
        refine ⟨w, w', t, t, hw, hw', ⟨rfl, ht.loose⟩, ?_, rfl⟩
        simp [kindStep, kindIn?_of_literal ht]
  · simp only [hn, if_false] at h
    split at h
    case h_1 => cases h
    case h_2 u hu =>
      obtain ⟨w, hw, rfl⟩ := readColon_eq_ok_iff.1 hu
      obtain ⟨_, hskip, same⟩ := map_eq_ok_iff.1 h
      cases same
      obtain ⟨w', t, hw', loose, rfl⟩ := loose_of_skipValue hskip
      exact ⟨w, w', t, t, hw, hw', ⟨rfl, loose⟩, by simp [kindStep, hn], rfl⟩

end Members

section Frames

variable {s : Bytes} {kind : Option String} {ms : List (String × Bytes)}

/-- A kind is read from a frame when only blanks follow what is read. -/
lemma decodeKind_eq_ok_iff :
    decodeKind s = .ok kind ↔ ∃ rest, readKindOnly s = .ok (kind, rest) ∧ Blanks rest := by
  rw [decodeKind]
  constructor
  · intro h
    obtain ⟨⟨_, rest⟩, hk, h⟩ := bind_eq_ok_iff.1 h
    obtain ⟨_, hend, h⟩ := bind_eq_ok_iff.1 h
    cases h
    exact ⟨rest, hk, endOfText_eq_ok_iff.1 hend⟩
  · rintro ⟨rest, hk, hend⟩
    exact bind_eq_ok_iff.2 ⟨_, hk, bind_eq_ok_iff.2 ⟨(), endOfText_eq_ok_iff.2 hend, rfl⟩⟩

/-- What a member of a loose object holds can be passed over. -/
lemma loose_of_sole {name : String} {t : Bytes} (h : IsLooseObject s ms) (hp : Sole name ms t) :
    Loose t := by
  obtain ⟨_, _, _, _, hbody, _, _⟩ := h
  obtain ⟨_, hm⟩ := hbody.exists_of_mem hp.mem
  cases hm with
  | mk _ _ _ token =>
    obtain ⟨rfl, loose⟩ := token
    exact loose

/-- The kind that a frame names is read from it. -/
lemma decodeKind_of_names (h : Names s kind) : decodeKind s = .ok kind := by
  have object {ms : List (String × Bytes)} {st : Option (Option String)} (h : IsLooseObject s ms)
      (hst : ms.foldlM (kindStep kindIn?) none = some st) (join : st.join = kind) :
      decodeKind s = .ok kind := by
    obtain ⟨w, body, w', hw, hbody, hw', rfl⟩ := h
    have hall : readMembers kindMemberOnly none (body ++ closeObject :: w') = .ok (st, w') :=
      (readMembers_loop _).complete kindMemberOnly_accepts.entry (fun _ _ => Entry.opens) hbody hst
    refine decodeKind_eq_ok_iff.2 ⟨w', ?_, hw'⟩
    rw [readKindOnly, skipBlanks_append hw, skipBlanks_cons (by decide)]
    simp only [if_true, hall, Except.map, join]
  cases h with
  | member h hp literal =>
    exact object h (foldlM_kindStep.2 ⟨_, hp, kindIn?_of_literal literal⟩) rfl
  | absent h none => exact object h (foldlM_kindStep_none.2 none) rfl
  | @element w w₁ t w₂ w₃ _ hw hw₁ literal hw₂ hw₃ hs =>
    subst hs
    refine decodeKind_eq_ok_iff.2 ⟨w₃, ?_, hw₃⟩
    have hread : readOptionalText (t ++ (w₂ ++ closeList :: w₃)) =
        .ok (kind, w₂ ++ closeList :: w₃) :=
      readOptionalText_eq_ok_iff.2 ⟨[], t, nofun, literal, rfl⟩
    have hclose : closeListHere (w₂ ++ closeList :: w₃) = .ok w₃ :=
      closeListHere_eq_ok_iff.2 ⟨w₂, hw₂, rfl⟩
    have distinct : openList ≠ openObject := by decide
    obtain ⟨b, u, rfl, hb, hl, _⟩ := literal.loose.opens
    rw [List.cons_append] at hread ⊢
    rw [readKindOnly, skipBlanks_append hw, skipBlanks_cons (by decide)]
    simp only [distinct, if_true, if_false]
    rw [readKindOfList, skipBlanks_append hw₁, skipBlanks_cons hb]
    simp only [hl, if_false, hread, hclose, Except.map]

/-- The kind that is read from a frame is the one that the frame names. -/
lemma names_of_decodeKind (found : decodeKind s = .ok kind) : Names s kind := by
  obtain ⟨rest, h, hrest⟩ := decodeKind_eq_ok_iff.1 found
  unfold readKindOnly at h
  split at h
  case h_1 => cases h
  case h_2 b u hs =>
    obtain ⟨_, w, hw, rfl⟩ := exists_of_skipBlanks_eq_cons hs
    split at h
    case isTrue hb =>
      obtain ⟨⟨st, _⟩, hall, same⟩ := map_eq_ok_iff.1 h
      cases same
      obtain ⟨body, ms, hbody, hst, rfl⟩ :=
        (readMembers_loopOnly _).sound kindMemberOnly_only.entry hall
      have object : IsLooseObject (w ++ b :: (body ++ closeObject :: rest)) ms :=
        ⟨w, body, rest, hw, hbody, hrest, by rw [hb]⟩
      cases st with
      | none => exact .absent object (foldlM_kindStep_none.1 hst)
      | some kind =>
        obtain ⟨t, hp, hkind⟩ := foldlM_kindStep.1 hst
        exact .member object hp (literal_of_kindIn? hkind (loose_of_sole object hp))
    split at h
    case isFalse => cases h
    case isTrue hb =>
      unfold readKindOfList at h
      split at h
      case h_1 => cases h
      case h_2 c v hs =>
        obtain ⟨_, w₁, hw₁, rfl⟩ := exists_of_skipBlanks_eq_cons hs
        split at h
        case isTrue => cases h
        split at h
        case h_1 => cases h
        case h_2 kind' r hkind =>
          obtain ⟨_, hclose, same⟩ := map_eq_ok_iff.1 h
          cases same
          obtain ⟨w₂, hw₂, rfl⟩ := closeListHere_eq_ok_iff.1 hclose
          obtain ⟨w', t, hw', literal, hv⟩ := readOptionalText_eq_ok_iff.1 hkind
          refine .element hw (hw₁.append hw') literal hw₂ hrest ?_
          rw [hv, hb]
          simp

/-- The kind is found in the frames that name it, and in no others. -/
theorem decodeKind_iff_names : decodeKind s = .ok kind ↔ Names s kind :=
  ⟨names_of_decodeKind, decodeKind_of_names⟩

end Frames

section Uniqueness

variable {s : Bytes} {kind : Option String} {ms ms' : List (String × Bytes)}

/-- Takes a member with the bytes of its content. -/
def captureMember (ms : List (String × Bytes)) (name : String) (s : Bytes) :
    Except Fault (List (String × Bytes) × Bytes) :=
  match readColon s with
  | .error f => .error f
  | .ok t => (skipValue t).map fun rest =>
      ((name, (skipBlanks t).take ((skipBlanks t).length - rest.length)) :: ms, rest)

/-- The content of a member is captured if it can be passed over. -/
lemma captureMember_accepts : AcceptsMember captureMember LooseToken push := by
  intro ms ms' name w w' t rest c hw hw' hc step hr
  obtain ⟨rfl, loose⟩ := hc
  cases step
  have front : skipBlanks (w' ++ (t ++ rest)) = t ++ rest := by
    obtain ⟨b, u, rfl, hb, _⟩ := loose.opens
    rw [skipBlanks_append hw', List.cons_append, skipBlanks_cons hb]
  have taken : (t ++ rest).take ((t ++ rest).length - rest.length) = t := by simp
  rw [captureMember, readColon_eq_ok_iff.2 ⟨w, hw, rfl⟩]
  simp only [skipValue_of_loose hw' loose hr, front, taken, Except.map]

/-- There is one way to see a frame as an object. -/
lemma IsLooseObject.unique (h : IsLooseObject s ms) (h' : IsLooseObject s ms') : ms = ms' := by
  obtain ⟨w, body, w₁, hw, hbody, _, rfl⟩ := h
  obtain ⟨w', body', w₁', hw', hbody', _, hs⟩ := h'
  have read {body w₁ : Bytes} {ms : List (String × Bytes)}
      (hbody : Enclosed (Entry LooseToken) body ms) :
      readMembers captureMember [] (body ++ closeObject :: w₁) = .ok (ms.reverse ++ [], w₁) :=
    (readMembers_loop _).complete captureMember_accepts.entry (fun _ _ => Entry.opens) hbody
      (foldlM_push ms [])
  have same : skipBlanks (w ++ openObject :: (body ++ closeObject :: w₁)) =
      skipBlanks (w' ++ openObject :: (body' ++ closeObject :: w₁')) := by rw [hs]
  rw [skipBlanks_append hw, skipBlanks_append hw', skipBlanks_cons (by decide),
    skipBlanks_cons (by decide), List.cons.injEq] at same
  have both : readMembers captureMember [] (body' ++ closeObject :: w₁') =
      .ok (ms'.reverse ++ [], w₁') := read hbody'
  rw [← same.2, read hbody, Except.ok.injEq, Prod.mk.injEq, List.append_nil, List.append_nil,
    List.reverse_inj] at both
  exact both.1

/-- A frame that is an object is none that is a list. -/
lemma IsLooseObject.ne_list {w u : Bytes} (h : IsLooseObject (w ++ openList :: u) ms)
    (hw : Blanks w) : False := by
  obtain ⟨w', body, w'', hw', _, _, hs⟩ := h
  have first : skipBlanks (w ++ openList :: u) = openList :: u := by
    rw [skipBlanks_append hw, skipBlanks_cons (by decide)]
  rw [hs, skipBlanks_append hw', skipBlanks_cons (by decide)] at first
  cases first

/-- Which kind an object names is told by the members of that name alone. -/
lemma IsLooseObject.names_iff (h : IsLooseObject s ms) : Names s kind ↔
    (∃ t, Sole kindMember ms t ∧ KindLiteral t kind) ∨ Lacks kindMember ms ∧ kind = none := by
  constructor
  · intro hn
    cases hn with
    | member h' hp literal =>
      obtain rfl := h.unique h'
      exact .inl ⟨_, hp, literal⟩
    | absent h' lacks =>
      obtain rfl := h.unique h'
      exact .inr ⟨lacks, rfl⟩
    | element hw _ _ _ _ hs =>
      subst hs
      exact (h.ne_list hw).elim
  · rintro (⟨t, hp, literal⟩ | ⟨lacks, rfl⟩)
    · exact .member h hp literal
    · exact .absent h lacks

end Uniqueness

section Scanning

variable {s : Bytes} {kind : Option String} {ms : List (String × Bytes)}

/-- A whole frame that is passed over: one loose value, and blanks around it. -/
def IsLooseText (s : Bytes) : Prop :=
  ∃ w t w', Blanks w ∧ Loose t ∧ Blanks w' ∧ s = w ++ (t ++ w')

/-- A frame is passed over as a whole if it is one loose value, and only then. -/
lemma skipValue_blanks_iff : (∃ rest, skipValue s = .ok rest ∧ Blanks rest) ↔ IsLooseText s := by
  constructor
  · rintro ⟨rest, skip, hrest⟩
    obtain ⟨w, t, hw, ht, rfl⟩ := loose_of_skipValue skip
    exact ⟨w, t, rest, hw, ht, hrest, rfl⟩
  · rintro ⟨w, t, w', hw, ht, hw', rfl⟩
    exact ⟨w', skipValue_of_loose hw ht hw'.stops, hw'⟩

/-- A loose object is a loose text. -/
lemma IsLooseObject.isLooseText (h : IsLooseObject s ms) : IsLooseText s := by
  obtain ⟨w, body, w', hw, hbody, hw', rfl⟩ := h
  have members : LooseEnclosed (LooseEntry (LooseWithin body.length)) body := by
    have entries : Enclosed (fun t _ => LooseEntry (LooseWithin body.length) t) body ms := by
      refine hbody.imp fun t m shorter hm => ?_
      cases hm with
      | mk key hb hb' token =>
        obtain ⟨key, rfl, hkey⟩ := key
        obtain ⟨rfl, _, within⟩ := token
        refine .mk hkey.loose hb hb' (within.of_length ?_)
        simp only [List.length_append, List.length_cons] at shorter
        omega
    exact ⟨_, entries.map (f := fun _ => ()) fun _ _ _ hm => hm⟩
  exact ⟨w, openObject :: body ++ [closeObject], w', hw,
    ⟨body.length + 1, .inr (.object members)⟩, hw', by simp⟩

/-- A frame that names a kind, or names none, is passed over as a whole. -/
lemma Names.isLooseText (h : Names s kind) : IsLooseText s := by
  cases h with
  | member h _ _ => exact h.isLooseText
  | absent h _ => exact h.isLooseText
  | @element w w₁ t w₂ w₃ _ hw hw₁ literal hw₂ hw₃ hs =>
    obtain ⟨depth, within⟩ := literal.loose
    have element : LooseEnclosed (LooseWithin depth) (w₁ ++ (t ++ w₂)) :=
      ⟨[()], .cons hw₁ within (.nil hw₂)⟩
    exact ⟨w, openList :: (w₁ ++ (t ++ w₂)) ++ [closeList], w₃, hw,
      ⟨depth + 1, .inr (.list element)⟩, hw₃, by simp [hs]⟩

end Scanning

end ParityDuel.Wire
