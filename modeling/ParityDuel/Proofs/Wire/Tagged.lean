import ParityDuel.Proofs.Wire.Kind

/-!
# Reading messages with a kind

A frame is read twice: `decodeKind` looks for the kind and passes over the rest, `readTagged` reads
everything. Both take the kind from the only member of its name (`kindStep`); here the second
reading is shown to do so on whole objects, and to take a list only if it begins with the kind. What
it takes as an object, or as a list of nothing but the kind, the first one takes too
(`decodeKind_of_object`, `decodeKind_of_list`).
-/

namespace ParityDuel.Wire

open Json

/-- A member as it stands in an object: its name, the bytes of its content and the value that they
denote. -/
abbrev RawMember := String × (Bytes × Value)

/-- The bytes of what may be a member of an object that is a whole text, and what is told of it. -/
def Inside (t : Bytes) (p : Bytes × Value) : Prop := p.1 = t ∧ Denotes (depthLimit - 1) t p.2

/-- A whole text: one object with these members, and blanks around it. -/
def IsObject (s : Bytes) (ms : List RawMember) : Prop :=
  ∃ w body w', Blanks w ∧ Enclosed (Entry Inside) body ms ∧ Blanks w' ∧
    s = w ++ openObject :: (body ++ closeObject :: w')

section Objects

variable {s : Bytes} {ms : List RawMember}

/-- The content of a member denotes its value. -/
lemma denotes_of_sole {name : String} {t : Bytes} {v : Value} (h : IsObject s ms)
    (hp : Sole name ms (t, v)) : Denotes (depthLimit - 1) t v := by
  obtain ⟨w, body, w', _, hbody, _, rfl⟩ := h
  obtain ⟨_, hm⟩ := hbody.exists_of_mem hp.mem
  cases hm with
  | mk _ _ _ hin =>
    obtain ⟨rfl, hv⟩ := hin
    exact hv

/-- The texts that are objects, told with the bytes of the members' contents and without. -/
lemma isText_object_iff {members : List (String × Value)} : IsText s (.object members) ↔
    ∃ ms, IsObject s ms ∧ members = ms.map fun m => (m.1, m.2.2) := by
  have entries (t : Bytes) (m : String × Value) : Entry (Denotes (depthLimit - 1)) t m ↔
      ∃ raw, Entry Inside t raw ∧ m = (raw.1, raw.2.2) := by
    constructor
    · rintro (@⟨_, _, _, t, name, v, key, hw, hw', hv⟩)
      exact ⟨(name, (t, v)), .mk key hw hw' ⟨rfl, hv⟩, rfl⟩
    · rintro ⟨_, ⟨key, hw, hw', _, hv⟩, rfl⟩
      exact .mk key hw hw' hv
  constructor
  · rintro ⟨w, t, w', hw, ht, hw', rfl⟩
    obtain ht | ht := ht
    · cases ht with
      | number hn => cases hn
    · cases ht with
      | object hs =>
        obtain ⟨ms, hms, rfl⟩ := (Enclosed.map_iff entries).1 hs
        exact ⟨ms, ⟨w, _, w', hw, hms, hw', by simp⟩, rfl⟩
  · rintro ⟨ms, ⟨w, body, w', hw, hms, hw', rfl⟩, rfl⟩
    exact ⟨w, openObject :: body ++ [closeObject], w', hw,
      .inr (.object ((Enclosed.map_iff entries).2 ⟨ms, hms, rfl⟩)), hw', by simp⟩

end Objects

/-- The members beside the kind. -/
def others (ms : List RawMember) : List Member :=
  (ms.filter (·.1 != kindMember)).map fun m => (m.1, m.2.2)

/-- Where only the first member holds the kind, the others are those behind it. -/
lemma others_of_first {ms : List RawMember} {p : Bytes × Value} (h : Lacks kindMember ms) :
    others ((kindMember, p) :: ms) = ms.map fun m => (m.1, m.2.2) := by
  have all : ms.filter (·.1 != kindMember) = ms := by
    rw [List.filter_eq_self]
    intro m hm
    have other := List.filter_eq_nil_iff.1 h m hm
    simpa using other
  simp [others, all]

/-- The text of a value that is one. -/
def textOf? : Value → Option String
  | .text x => some x
  | _ => none

section Steps

variable {β : Type} {read : Value → Option β} {ms : List RawMember} {m : RawMember}

/-- Takes the kind and keeps other members. -/
def taggedStep (read : Value → Option β) (st : Option β × List Member) (m : RawMember) :
    Option (Option β × List Member) :=
  (kindStep (fun p => read p.2) st.1 m).map fun kind =>
    (kind, if m.1 = kindMember then st.2 else (m.1, m.2.2) :: st.2)

/-- Keeping other members does not change how the kind is taken. -/
lemma foldlM_taggedStep {kind kind' : Option β} {kept kept' : List Member} :
    ms.foldlM (taggedStep read) (kind, kept) = some (kind', kept') ↔
      ms.foldlM (kindStep fun p => read p.2) kind = some kind' ∧
        kept' = (others ms).reverse ++ kept := by
  induction ms generalizing kind kept with
  | nil => simp [others, eq_comm]
  | cons m ms ih =>
    obtain ⟨name, p⟩ := m
    simp only [List.foldlM_cons]
    by_cases hn : name = kindMember
    · subst hn
      have same : others ((kindMember, p) :: ms) = others ms := by simp [others]
      simp only [taggedStep, if_true, same]
      cases kindStep (fun p => read p.2) kind (kindMember, p) with
      | none => simp
      | some o => exact ih
    · have more : others ((name, p) :: ms) = (name, p.2) :: others ms := by simp [others, hn]
      simp only [taggedStep, hn, if_false, more, List.reverse_cons, List.append_assoc]
      cases kindStep (fun p => read p.2) kind (name, p) with
      | none => simp
      | some o => exact ih

end Steps

section Kinds

variable {s t w w' rest : Bytes} {x : String} {κ : Type} {k : κ} {ofName? : String → Option κ}
  {names : List String}

/-- The name of a kind is read as a text, behind blanks. -/
lemma readVariant_eq_ok_iff : readVariant names ofName? s = .ok (k, rest) ↔
    ∃ w t x, Blanks w ∧ TextLiteral t x ∧ ofName? x = some k ∧ s = w ++ (t ++ rest) := by
  constructor
  · intro h
    unfold readVariant at h
    split at h
    case h_1 => cases h
    case h_2 b u hs =>
      obtain ⟨_, w, hw, rfl⟩ := exists_of_skipBlanks_eq_cons hs
      split at h
      case isFalse => cases h
      case isTrue hb =>
        split at h
        case h_1 => cases h
        case h_2 x r hx =>
          obtain ⟨body, hbody, rfl⟩ := readText_eq_ok_iff.1 hx
          split at h
          case h_2 => cases h
          case h_1 k' hk =>
            rw [Except.ok.injEq, Prod.mk.injEq] at h
            obtain ⟨rfl, rfl⟩ := h
            exact ⟨w, _, x, hw, ⟨body, rfl, hbody⟩, hk, by simp [hb]⟩
  · rintro ⟨w, t, x, hw, ⟨body, rfl, hbody⟩, hk, rfl⟩
    have hx : readText (body ++ quote :: rest) = .ok (x, rest) :=
      readText_eq_ok_iff.2 ⟨body, hbody, rfl⟩
    rw [readVariant, skipBlanks_append hw, List.cons_append, List.cons_append, List.append_assoc,
      List.singleton_append, skipBlanks_cons (by decide)]
    simp only [if_true, hx, hk]

end Kinds

section Members

variable {κ : Type} (family : Family κ)

/-- The kind that a value names. -/
def variantOf? (v : Value) : Option κ := (textOf? v).bind family.ofName?

lemma textOf?_eq_some_iff {v : Value} {x : String} : textOf? v = some x ↔ v = .text x := by
  cases v <;> simp [textOf?]

/-- One member in the full reading: the kind, or one that is kept. -/
lemma taggedMember_accepts :
    AcceptsMember (taggedMember family) Inside (taggedStep (variantOf? family)) := by
  intro st st' name w w' t rest p hw hw' hp step hr
  obtain ⟨rfl, hv⟩ := hp
  obtain ⟨kind, kept⟩ := st
  have content : readColon (w ++ colon :: (w' ++ (p.1 ++ rest))) = .ok (w' ++ (p.1 ++ rest)) :=
    readColon_eq_ok_iff.2 ⟨w, hw, rfl⟩
  unfold taggedMember
  by_cases hn : name = kindMember
  · subst hn
    cases kind with
    | some k => simp [taggedStep, kindStep] at step
    | none =>
      simp only [taggedStep, kindStep, if_true] at step
      obtain ⟨o, ho, rfl⟩ := Option.map_eq_some_iff.1 step
      obtain ⟨k, hk, rfl⟩ := Option.map_eq_some_iff.1 ho
      obtain ⟨x, hx, hk⟩ := Option.bind_eq_some_iff.1 hk
      rw [textOf?_eq_some_iff.1 hx] at hv
      have hread : readVariant family.kinds family.ofName? (w' ++ (p.1 ++ rest)) = .ok (k, rest) :=
        readVariant_eq_ok_iff.2 ⟨w', p.1, x, hw', hv.text, hk, rfl⟩
      simp only [if_true, content, hread, Except.map]
  · simp only [taggedStep, kindStep, hn, if_false, Option.map_some, Option.some.injEq] at step
    subst step
    have hread : pushMember (readValue (depthLimit - 1)) kept name
        (w ++ colon :: (w' ++ (p.1 ++ rest))) = .ok ((name, p.2) :: kept, rest) :=
      (readValue_reads (depthLimit - 1)).member hw hw' hv rfl hr
    simp only [hn, if_false, hread, Except.map]

/-- Nothing but members is taken, each stepping what has been found so far. -/
lemma taggedMember_only :
    AcceptsOnlyMember (taggedMember family) Inside (taggedStep (variantOf? family)) := by
  intro st st' name s rest h
  obtain ⟨kind, kept⟩ := st
  unfold taggedMember at h
  by_cases hn : name = kindMember
  · subst hn
    cases kind with
    | some k =>
      simp only [if_true] at h
      cases h
    | none =>
      simp only [if_true] at h
      split at h
      case h_1 => cases h
      case h_2 u hu =>
        obtain ⟨w, hw, rfl⟩ := readColon_eq_ok_iff.1 hu
        obtain ⟨⟨k, _⟩, hk, same⟩ := map_eq_ok_iff.1 h
        cases same
        obtain ⟨w', t, x, hw', ht, named, rfl⟩ := readVariant_eq_ok_iff.1 hk
        refine ⟨w, w', t, (t, .text x), hw, hw', ⟨rfl, .of_scalar (.text ht)⟩, ?_, rfl⟩
        simp [taggedStep, kindStep, variantOf?, textOf?, named]
  · rw [if_neg hn] at h
    obtain ⟨⟨kept', _⟩, hread, same⟩ := map_eq_ok_iff.1 h
    cases same
    obtain ⟨w, w', t, v, hw, hw', hv, step, rfl⟩ :=
      (readValue_reads (depthLimit - 1)).member_only hread
    cases step
    refine ⟨w, w', t, (t, v), hw, hw', ⟨rfl, hv⟩, ?_, rfl⟩
    simp [taggedStep, kindStep, hn]

end Members

section Frames

variable {s t w rest : Bytes} {x : String} {ms : List RawMember}

/-- A frame is decoded when it is read, what is read is interpreted, and only blanks follow. -/
lemma decodeTagged_eq_ok_iff {κ α : Type} {family : Family κ}
    {interpret : Tagged κ → Except Fault α} {a : α} : decodeTagged family interpret s = .ok a ↔
      ∃ tagged rest, readTagged family s = .ok (tagged, rest) ∧ interpret tagged = .ok a ∧
        Blanks rest := by
  rw [decodeTagged]
  constructor
  · intro h
    obtain ⟨⟨tagged, rest⟩, ht, h⟩ := bind_eq_ok_iff.1 h
    obtain ⟨_, ha, h⟩ := bind_eq_ok_iff.1 h
    obtain ⟨_, hend, h⟩ := bind_eq_ok_iff.1 h
    cases h
    exact ⟨tagged, rest, ht, ha, endOfText_eq_ok_iff.1 hend⟩
  · rintro ⟨tagged, rest, ht, ha, hend⟩
    exact bind_eq_ok_iff.2 ⟨_, ht, bind_eq_ok_iff.2 ⟨_, ha,
      bind_eq_ok_iff.2 ⟨(), endOfText_eq_ok_iff.2 hend, rfl⟩⟩⟩

/-- What denotes an object of values is an object of loose contents. -/
lemma IsObject.loose (h : IsObject s ms) : IsLooseObject s (ms.map fun m => (m.1, m.2.1)) := by
  obtain ⟨w, body, w', hw, hbody, hw', rfl⟩ := h
  refine ⟨w, body, w', hw, hbody.map fun t m _ hm => ?_, hw', rfl⟩
  cases hm with
  | mk key hb hb' hp =>
    obtain ⟨rfl, hv⟩ := hp
    exact .mk key hb hb' ⟨rfl, hv.loose⟩

/-- The first reading finds the kind of an object. -/
lemma decodeKind_of_object {p : Bytes × Value} (h : IsObject s ms) (hp : Sole kindMember ms p)
    (hx : p.2 = .text x) : decodeKind s = .ok (some x) := by
  obtain ⟨t, v⟩ := p
  subst hx
  have sole : Sole kindMember (ms.map fun m => (m.1, m.2.1)) t := by
    have same : (ms.map fun m => (m.1, m.2.1)).filter (·.1 == kindMember) =
        (ms.filter (·.1 == kindMember)).map fun m => (m.1, m.2.1) := List.filter_map
    rw [Sole, same, hp]
    rfl
  exact decodeKind_of_names (.member h.loose sole (.text (denotes_of_sole h hp).text))

/-- The second reading finds the kind of an object and the members beside it. -/
lemma readTagged_of_object {κ : Type} {family : Family κ} {k : κ} {p : Bytes × Value}
    {body : Bytes} (hw : Blanks w) (hbody : Enclosed (Entry Inside) body ms)
    (hp : Sole kindMember ms p) (hk : variantOf? family p.2 = some k) :
    readTagged family (w ++ openObject :: (body ++ closeObject :: rest)) =
      .ok (⟨k, .members (others ms)⟩, rest) := by
  have hall : readMembers (taggedMember family) (none, []) (body ++ closeObject :: rest) =
      .ok ((some k, (others ms).reverse), rest) :=
    (readMembers_loop _).complete (taggedMember_accepts family).entry (fun _ _ => Entry.opens) hbody
      (foldlM_taggedStep.2 ⟨foldlM_kindStep.2 ⟨p, hp, hk⟩, (List.append_nil _).symm⟩)
  rw [readTagged, skipBlanks_append hw, skipBlanks_cons (by decide)]
  simp only [if_true, hall, List.reverse_reverse]

/-- Where the kind stands first, and in no other member, the second reading finds it and keeps the
members behind it. -/
lemma readTagged_of_first {κ : Type} (family : Family κ) {k : κ} {members : List Member}
    (h : IsText s (.object ((kindMember, .text x) :: members))) (alone : Lacks kindMember members)
    (hk : family.ofName? x = some k) :
    ∃ rest, Blanks rest ∧ readTagged family s = .ok (⟨k, .members members⟩, rest) := by
  obtain ⟨ms, ⟨w, body, rest, hw, hbody, hrest, rfl⟩, same⟩ := isText_object_iff.1 h
  obtain ⟨⟨name, t, v⟩, ms, rfl, first, rfl⟩ := List.map_eq_cons_iff.1 same.symm
  rw [Prod.mk.injEq] at first
  obtain ⟨rfl, rfl⟩ := first
  have lacks : Lacks kindMember ms := by
    rw [Lacks, List.filter_map, List.map_eq_nil_iff] at alone
    exact alone
  have variant : variantOf? family (.text x) = some k := hk
  refine ⟨rest, hrest, ?_⟩
  rw [readTagged_of_object hw hbody (sole_cons_self.2 ⟨rfl, lacks⟩) variant, others_of_first lacks]

/-- The second reading takes objects of which one member holds the kind, and otherwise only
lists. -/
lemma readTagged_inv {κ : Type} {family : Family κ} {tagged : Tagged κ}
    (h : readTagged family s = .ok (tagged, rest)) :
    (∃ w body ms p, Blanks w ∧ Enclosed (Entry Inside) body ms ∧ Sole kindMember ms p ∧
      variantOf? family p.2 = some tagged.kind ∧ tagged.content = .members (others ms) ∧
      s = w ++ openObject :: (body ++ closeObject :: rest)) ∨
    ∃ w u, Blanks w ∧ s = w ++ openList :: u := by
  unfold readTagged at h
  split at h
  case h_1 => cases h
  case h_2 b u hs =>
    obtain ⟨_, w, hw, rfl⟩ := exists_of_skipBlanks_eq_cons hs
    split at h
    case isTrue hb =>
      split at h
      case h_1 => cases h
      case h_3 => cases h
      case h_2 k kept _ hall =>
        cases h
        obtain ⟨body, ms, hbody, hg, rfl⟩ :=
          (readMembers_loopOnly _).sound (taggedMember_only family).entry hall
        obtain ⟨hkind, rfl⟩ := foldlM_taggedStep.1 hg
        obtain ⟨p, hp, hk⟩ := foldlM_kindStep.1 hkind
        exact .inl ⟨w, body, ms, p, hw, hbody, hp, hk, by simp, by rw [hb]⟩
    split at h
    case isTrue hb => exact .inr ⟨w, u, hw, by rw [hb]⟩
    case isFalse => cases h

/-- A list that begins with a text, with all its blanks. -/
lemma isText_list_iff {vs : List Value} : IsText s (.list (.text x :: vs)) ↔
    ∃ w w₁ t u w₃, Blanks w ∧ Blanks w₁ ∧ TextLiteral t x ∧
      Following (Denotes (depthLimit - 1)) u vs ∧ Blanks w₃ ∧
      s = w ++ openList :: (w₁ ++ (t ++ (u ++ closeList :: w₃))) := by
  constructor
  · rintro ⟨w, t, w₃, hw, ht, hw₃, rfl⟩
    obtain ht | ht := ht
    · cases ht with
      | number hn => cases hn
    · cases ht with
      | list hs =>
        cases hs with
        | @cons w₁ t u _ _ hw₁ ht hu => exact ⟨w, w₁, t, u, w₃, hw, hw₁, ht.text, hu, hw₃, by simp⟩
  · rintro ⟨w, w₁, t, u, w₃, hw, hw₁, ht, hu, hw₃, rfl⟩
    refine ⟨w, openList :: (w₁ ++ (t ++ u)) ++ [closeList], w₃, hw, .inr (.list ?_), hw₃, by simp⟩
    exact .cons hw₁ (.of_scalar (.text ht)) hu

/-- A list of one text, with all its blanks. -/
lemma isText_list_text_iff : IsText s (.list [.text x]) ↔
    ∃ w w₁ t w₂ w₃, Blanks w ∧ Blanks w₁ ∧ TextLiteral t x ∧ Blanks w₂ ∧ Blanks w₃ ∧
      s = w ++ openList :: (w₁ ++ (t ++ (w₂ ++ closeList :: w₃))) := by
  have last (u : Bytes) : Following (Denotes (depthLimit - 1)) u [] ↔ Blanks u :=
    ⟨fun h => by cases h; assumption, .nil⟩
  rw [isText_list_iff]
  simp only [last]

/-- The first reading takes a list only if it has one element, which is the kind. -/
lemma isText_of_decodeKind {u : Bytes} (hw : Blanks w)
    (h : decodeKind (w ++ openList :: u) = .ok (some x)) :
    IsText (w ++ openList :: u) (.list [.text x]) := by
  cases names_of_decodeKind h with
  | member h _ _ => exact (h.ne_list hw).elim
  | element hw hw₁ literal hw₂ hw₃ hs =>
    cases literal with
    | text ht => exact isText_list_text_iff.2 ⟨_, _, _, _, _, hw, hw₁, ht, hw₂, hw₃, hs⟩

/-- A text begins with a quote. -/
lemma quote_of_textLiteral (ht : TextLiteral t x) (rest : Bytes) : ∃ u, t ++ rest = quote :: u := by
  obtain ⟨body, rfl, _⟩ := ht
  exact ⟨_, rfl⟩

/-- The first reading finds the kind in a list of one text. -/
lemma decodeKind_of_list (h : IsText s (.list [.text x])) : decodeKind s = .ok (some x) := by
  obtain ⟨w, w₁, t, w₂, w₃, hw, hw₁, ht, hw₂, hw₃, hs⟩ := isText_list_text_iff.1 h
  exact decodeKind_of_names (.element hw hw₁ (.text ht) hw₂ hw₃ hs)

/-- The second reading of a list that begins with a text finds the kind and the elements behind
it. -/
lemma readTagged_of_list {κ : Type} (family : Family κ) {k : κ} {vs : List Value}
    (h : IsText s (.list (.text x :: vs))) (hk : family.ofName? x = some k) :
    ∃ rest, Blanks rest ∧ readTagged family s = .ok (⟨k, .items vs⟩, rest) := by
  obtain ⟨w, w₁, t, u, w₃, hw, hw₁, ht, hu, hw₃, rfl⟩ := isText_list_iff.1 h
  refine ⟨w₃, hw₃, ?_⟩
  have hx : readVariant family.kinds family.ofName? (t ++ (u ++ closeList :: w₃)) =
      .ok (k, u ++ closeList :: w₃) := readVariant_eq_ok_iff.2 ⟨[], t, x, nofun, ht, hk, rfl⟩
  have reads := readValue_reads (depthLimit - 1)
  have hall : moreElements (pushElement (readValue (depthLimit - 1)))
      ((u ++ closeList :: w₃).length + 1) [] (u ++ closeList :: w₃) = .ok (vs.reverse ++ [], w₃) :=
    (readElements_loop _).following reads.element reads.opens hu (Nat.lt_succ_self _)
      (foldlM_push vs [])
  have distinct : openList ≠ openObject := by decide
  have distinct' : quote ≠ closeList := by decide
  obtain ⟨body, hbody⟩ := quote_of_textLiteral ht (u ++ closeList :: w₃)
  rw [hbody] at hx ⊢
  rw [readTagged, skipBlanks_append hw, skipBlanks_cons (by decide)]
  simp only [distinct, if_true, if_false]
  rw [readTaggedList, skipBlanks_append hw₁, skipBlanks_cons (by decide)]
  simp only [distinct', if_false, hx, hall, Except.map, List.append_nil, List.reverse_reverse]

/-- The second reading takes only lists that begin with the kind. -/
lemma isText_of_readTagged {κ : Type} {family : Family κ} {tagged : Tagged κ} {u : Bytes}
    (hw : Blanks w) (h : readTagged family (w ++ openList :: u) = .ok (tagged, rest))
    (hrest : Blanks rest) :
    ∃ x vs, family.ofName? x = some tagged.kind ∧ tagged.content = .items vs ∧
      IsText (w ++ openList :: u) (.list (.text x :: vs)) := by
  have distinct : openList ≠ openObject := by decide
  rw [readTagged, skipBlanks_append hw, skipBlanks_cons (by decide)] at h
  simp only [distinct, if_true, if_false] at h
  unfold readTaggedList at h
  split at h
  case h_1 => cases h
  case h_2 b t hs =>
    obtain ⟨_, w₁, hw₁, rfl⟩ := exists_of_skipBlanks_eq_cons hs
    split at h
    case isTrue => cases h
    split at h
    case h_1 => cases h
    case h_2 k r hk =>
      obtain ⟨⟨items, _⟩, hall, same⟩ := map_eq_ok_iff.1 h
      cases same
      obtain ⟨u, vs, hu, hg, rfl⟩ := (readElements_loopOnly _).following
        (readValue_reads (depthLimit - 1)).element_only hall
      rw [foldlM_push, List.append_nil, Option.some.injEq] at hg
      subst hg
      obtain ⟨w', t', x, hw', ht, name, hs⟩ := readVariant_eq_ok_iff.1 hk
      rw [hs, List.reverse_reverse]
      exact ⟨x, vs, name, rfl, isText_list_iff.2 ⟨w, w₁ ++ w', t', u, _, hw, hw₁.append hw', ht, hu,
        hrest, by simp⟩⟩

end Frames

end ParityDuel.Wire
