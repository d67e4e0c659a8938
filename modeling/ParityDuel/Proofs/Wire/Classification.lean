import Mathlib.Tactic.Lemma
import ParityDuel.Proofs.Json.Faults
import ParityDuel.Proofs.Wire.Request

/-!
# Which frames are refused, and how

A frame that is not a request is refused as one of an unknown kind, as one without a kind, or as
malformed. Which of these it is depends on the kind that it names, and not on what else it holds
(`frames_are_classified_by_name`). Where the first reading has found a known kind, the second one
arrives at the member that holds it and takes it: up to there it gets to the same places, or fails
on the way (`Passes`).
-/

namespace ParityDuel

open Json

namespace Json

/-- Whether a cause is a name that is none of those that are known. -/
@[grind] def Cause.isUnknownVariant : Cause → Bool
  | unknownVariant .. => true
  | _ => false

/-- A fault of the text itself is not about a kind. -/
lemma Cause.isUnknownVariant_of_isSyntactic {c : Cause} (h : c.isSyntactic = true) :
    c.isUnknownVariant = false := by
  cases c <;> first | rfl | cases h

end Json

namespace Wire

/-- A reading that ends at the given place, or fails for another reason than an unknown name. -/
inductive Passes {σ : Type} : Except Fault (σ × Bytes) → Bytes → Prop where
  | ok {st : σ} {rest : Bytes} :
    Passes (.ok (st, rest)) rest
  | fails {f : Fault} {rest : Bytes} :
    f.cause.isUnknownVariant = false →
    Passes (.error f) rest

section Members

variable {σ τ κ : Type} {s t w w' rest : Bytes} {family : Family κ}
  {ms : List (String × Bytes)} {m : String × Bytes}
  {member : σ → String → Bytes → Except Fault (σ × Bytes)}

/-- What is made of a result does not matter to the place that is reached. -/
lemma Passes.map {result : Except Fault (σ × Bytes)} {g : σ × Bytes → τ × Bytes}
    (h : Passes result rest) (hg : ∀ p, (g p).2 = p.2) : Passes (result.map g) rest := by
  cases h with
  | @ok st =>
    show Passes (.ok (g (st, rest))) rest
    have same := hg (st, rest)
    generalize g (st, rest) = p at same
    obtain ⟨st', r⟩ := p
    cases same
    exact .ok
  | fails hf => exact .fails hf

/-- What can be passed over is read to the same place, if it is read at all. -/
lemma readValue_passes {depth : Nat} (hw : Blanks w) (ht : Loose t) (hr : Stops rest) :
    Passes (readValue depth (w ++ (t ++ rest))) rest := by
  cases h : readValue depth (w ++ (t ++ rest)) with
  | error f => exact .fails (Cause.isUnknownVariant_of_isSyntactic (syntactic_of_readValue h))
  | ok p =>
    have skipped := skipValue_of_readValue h
    rw [skipValue_of_loose hw ht hr] at skipped
    cases skipped
    exact .ok

/-- The content of a member that holds the kind is the name of a known one. -/
def KnowsKind (family : Family κ) (m : String × Bytes) : Prop :=
  m.1 = kindMember → ∃ x k, TextLiteral m.2 x ∧ family.ofName? x = some k

/-- The reader of what follows a name passes such members. -/
def PassesMember (member : σ → String → Bytes → Except Fault (σ × Bytes)) (m : String × Bytes) :
    Prop :=
  ∀ ⦃st : σ⦄ ⦃w w' rest : Bytes⦄, Blanks w → Blanks w' → Loose m.2 → Stops rest →
    Passes (member st m.1 (w ++ colon :: (w' ++ (m.2 ++ rest)))) rest

/-- A member is passed if the kind that it holds, should it hold one, is known. -/
lemma taggedMember_passes (known : KnowsKind family m) : PassesMember (taggedMember family) m := by
  intro st w w' rest hw hw' loose hr
  obtain ⟨name, t⟩ := m
  have content : readColon (w ++ colon :: (w' ++ (t ++ rest))) = .ok (w' ++ (t ++ rest)) :=
    readColon_eq_ok_iff.2 ⟨w, hw, rfl⟩
  unfold taggedMember
  by_cases hn : name = kindMember
  · subst hn
    obtain ⟨x, k, hx, hk⟩ := known rfl
    have read : readVariant family.kinds family.ofName? (w' ++ (t ++ rest)) = .ok (k, rest) :=
      readVariant_eq_ok_iff.2 ⟨w', t, x, hw', hx, hk, rfl⟩
    cases st.1 with
    | some _ =>
      simp only [if_true]
      exact .fails rfl
    | none =>
      simp only [if_true, content, read]
      exact .ok
  · simp only [hn, if_false, pushMember, content]
    refine Passes.map (Passes.map (readValue_passes hw' loose hr) ?_) ?_
    · exact fun _ => rfl
    · exact fun _ => rfl

/-- A member with its name is passed if what follows the name is. -/
lemma readMember_passes (h : Entry LooseToken t m) (hm : PassesMember member m) :
    ∃ u, t = quote :: u ∧
      ∀ st rest, Stops rest → Passes (readMember member st (u ++ rest)) rest := by
  cases h with
  | @mk _ w w' c name a key hw hw' token =>
    obtain ⟨rfl, loose⟩ := token
    obtain ⟨body, rfl, hbody⟩ := key
    refine ⟨body ++ quote :: (w ++ colon :: (w' ++ c)), by simp, fun st rest hr => ?_⟩
    have shape : body ++ quote :: (w ++ colon :: (w' ++ c)) ++ rest =
        body ++ quote :: (w ++ colon :: (w' ++ (c ++ rest))) := by simp
    rw [readMember, shape, readText_eq_ok_iff.2 ⟨body, hbody, rfl⟩]
    exact hm hw hw' loose hr

/-- If every member is passed, all of them are, up to the end of the object. -/
lemma moreMembers_passes {n : Nat} {st : σ} (h : Following (Entry LooseToken) s ms)
    (hm : ∀ m ∈ ms, PassesMember member m) :
    Passes (moreMembers member n st (s ++ closeObject :: rest)) rest := by
  induction h generalizing n st with
  | nil hw =>
    cases n with
    | zero => exact .fails rfl
    | succ n =>
      have ends : moreMembers member (n + 1) st (_ ++ closeObject :: rest) = .ok (st, rest) :=
        (readMembers_loop member).ends hw
      rw [ends]
      exact .ok
  | @cons w w' t s m ms hw hw' entry more ih =>
    cases n with
    | zero => exact .fails rfl
    | succ n =>
      obtain ⟨first, others⟩ := List.forall_mem_cons.1 hm
      obtain ⟨u, rfl, passes⟩ := readMember_passes entry first
      have shape : w ++ comma :: (w' ++ (quote :: u ++ s)) ++ closeObject :: rest =
          w ++ comma :: (w' ++ quote :: (u ++ (s ++ closeObject :: rest))) := by simp
      have distinct : comma ≠ closeObject := by decide
      have stops : Stops (s ++ closeObject :: rest) := more.stops (readMembers_loop member).stops
      rw [shape, moreMembers, skipBlanks_append hw, skipBlanks_cons (by decide)]
      simp only [distinct, if_true, if_false, skipBlanks_append hw',
        skipBlanks_cons (show isBlank quote = false by decide)]
      have passed := passes st _ stops
      generalize readMember member st (u ++ (s ++ closeObject :: rest)) = result at passed
      cases passed with
      | ok => exact ih others
      | fails hf => exact .fails hf

/-- The members of an object are passed if each of them is. -/
lemma readMembers_passes {st : σ} (h : Enclosed (Entry LooseToken) s ms)
    (hm : ∀ m ∈ ms, PassesMember member m) :
    Passes (readMembers member st (s ++ closeObject :: rest)) rest := by
  cases h with
  | nil hw =>
    have ends : readMembers member st (s ++ closeObject :: rest) = .ok (st, rest) :=
      (readMembers_loop member).empty hw
    rw [ends]
    exact .ok
  | @cons w t s m ms hw entry more =>
    obtain ⟨first, others⟩ := List.forall_mem_cons.1 hm
    obtain ⟨u, rfl, passes⟩ := readMember_passes entry first
    have shape : w ++ (quote :: u ++ s) ++ closeObject :: rest =
        w ++ quote :: (u ++ (s ++ closeObject :: rest)) := by simp
    have distinct : quote ≠ closeObject := by decide
    have stops : Stops (s ++ closeObject :: rest) := more.stops (readMembers_loop member).stops
    rw [shape, readMembers, skipBlanks_append hw, skipBlanks_cons (by decide)]
    simp only [distinct, if_true, if_false]
    have passed := passes st _ stops
    generalize readMember member st (u ++ (s ++ closeObject :: rest)) = result at passed
    cases passed with
    | ok => exact moreMembers_passes more others
    | fails hf => exact .fails hf

end Members

section Frames

variable {κ α : Type} {s : Bytes} {x : String} {family : Family κ} {k : κ}
  {interpret : Tagged κ → Except Fault α} {f : Fault}

/-- All members of the name of the kind hold the one kind that there is. -/
lemma knowsKind_of_sole {ms : List (String × Bytes)} {t : Bytes} (hp : Sole kindMember ms t)
    (ht : TextLiteral t x) (hk : family.ofName? x = some k) : ∀ m ∈ ms, KnowsKind family m := by
  rintro ⟨name, c⟩ hm hn
  cases hn
  obtain rfl := hp.eq_of_mem hm
  exact ⟨x, k, ht, hk⟩

/-- In a frame that names a known kind, the second reading does not come upon another one. -/
lemma readTagged_of_names (h : Names s (some x)) (hk : family.ofName? x = some k)
    (hf : readTagged family s = .error f) : f.cause.isUnknownVariant = false := by
  cases h with
  | @member ms t _ object hp literal =>
    cases literal with
    | text ht =>
      obtain ⟨w, body, w', hw, hbody, hw', rfl⟩ := object
      have passes : Passes (readMembers (taggedMember family) (none, [])
          (body ++ closeObject :: w')) w' :=
        readMembers_passes hbody fun m hm =>
          taggedMember_passes (knowsKind_of_sole hp ht hk m hm)
      rw [readTagged, skipBlanks_append hw, skipBlanks_cons (by decide)] at hf
      simp only [if_true] at hf
      generalize readMembers (taggedMember family) (none, []) (body ++ closeObject :: w') = result
        at passes hf
      cases passes with
      | @ok st =>
        obtain ⟨_ | _, _⟩ := st
        · cases hf
          rfl
        · cases hf
      | fails plain =>
        cases hf
        exact plain
  | element hw hw₁ literal hw₂ hw₃ hs =>
    cases literal with
    | text ht =>
      have list := isText_list_text_iff.2 ⟨_, _, _, _, _, hw, hw₁, ht, hw₂, hw₃, hs⟩
      obtain ⟨_, _, read⟩ := readTagged_of_list family list hk
      rw [read] at hf
      cases hf

/-- A message of a known kind is not refused for an unknown name, unless by what is made of it. -/
lemma decodeTagged_of_names (h : Names s (some x)) (hk : family.ofName? x = some k)
    (hi : ∀ tagged f, interpret tagged = .error f → f.cause.isUnknownVariant = false)
    (hf : decodeTagged family interpret s = .error f) : f.cause.isUnknownVariant = false := by
  rw [decodeTagged] at hf
  obtain hf | ⟨⟨tagged, rest⟩, _, hf⟩ := bind_eq_error_iff.1 hf
  · exact readTagged_of_names h hk hf
  obtain hf | ⟨a, _, hf⟩ := bind_eq_error_iff.1 hf
  · exact hi tagged f hf
  obtain hf | ⟨_, _, hf⟩ := bind_eq_error_iff.1 hf
  · exact Cause.isUnknownVariant_of_isSyntactic (syntactic_of_endOfText hf)
  · cases hf

end Frames

section Contents

variable {α : Type} {read : Value → Except Fault α} {whole name : String} {content : Content}
  {fields : List Field} {seen : List String} {ms : List Member} {vs : List Value} {n : Nat}
  {f : Fault}

/-- A square that is refused is not refused for its kind. -/
lemma cause_of_signedField {v : Value} (h : signedField v = .error f) :
    f.cause.isUnknownVariant = false := by
  unfold signedField at h
  grind

/-- Nor are members, if no single field is. -/
lemma cause_of_checkMembers
    (hc : ∀ field ∈ fields, ∀ v f, field.check v = .error f → f.cause.isUnknownVariant = false)
    (h : checkMembers fields seen ms = .error f) : f.cause.isUnknownVariant = false := by
  fun_induction checkMembers fields seen ms <;> grind

lemma cause_of_noFurther (h : noFurther n vs = .error f) : f.cause.isUnknownVariant = false := by
  unfold noFurther at h
  grind

/-- A message of one field fails as its field does, or because of how often the field stands
there. -/
lemma cause_of_oneField (hr : ∀ v f, read v = .error f → f.cause.isUnknownVariant = false)
    (h : oneField whole name read content = .error f) : f.cause.isUnknownVariant = false := by
  cases content with
  | members ms =>
    rw [oneField] at h
    obtain h | ⟨_, _, h⟩ := bind_eq_error_iff.1 h
    · refine cause_of_checkMembers (fun field hfield v f hf => ?_) h
      obtain rfl := List.mem_singleton.1 hfield
      exact hr v f (eq_error_of_map hf)
    · unfold named at h
      grind
  | items vs =>
    rw [oneField] at h
    obtain h | ⟨⟨_, rest⟩, _, h⟩ := bind_eq_error_iff.1 h
    · unfold positioned at h
      grind
    obtain h | ⟨_, _, h⟩ := bind_eq_error_iff.1 h
    · exact cause_of_noFurther h
    · cases h

lemma cause_of_noFields (h : noFields content = .error f) : f.cause.isUnknownVariant = false := by
  cases content with
  | members ms => cases h
  | items vs => exact cause_of_noFurther h

end Contents

end Wire

open Wire

namespace Request

variable {s : Bytes} {f : Fault} {x : String} {e : WireError}

/-- Once the kind is known, nothing is refused for its kind. -/
lemma cause_of_ofTagged {tagged : Tagged RequestKind} (h : ofTagged tagged = .error f) :
    f.cause.isUnknownVariant = false := by
  obtain ⟨kind, content⟩ := tagged
  cases kind with
  | increment => exact cause_of_oneField (fun _ _ => cause_of_signedField) (eq_error_of_map h)
  | rematch => exact cause_of_noFields (eq_error_of_map h)

/-- Every way to refuse a frame, by what the first reading finds. -/
lemma ofFrame_eq_error_iff : ofFrame s = .error e ↔
    (∃ f, decodeKind s = .error f ∧ e = .decode (f.locate s)) ∨
    (Names s none ∧ e = .invalidMessage "missing `type` field") ∨
    (∃ x, Names s (some x) ∧ x ∈ kinds ∧ decode s = .error e) ∨
    ∃ x, Names s (some x) ∧ x ∉ kinds ∧ e = .unknownKind x := by
  simp only [← decodeKind_iff_names]
  unfold ofFrame
  cases hk : decodeKind s with
  | error f => simp [eq_comm]
  | ok kind =>
    cases kind with
    | none => simp [eq_comm]
    | some x =>
      simp only [reduceCtorEq, false_and, exists_false, Except.ok.injEq, Option.some.injEq,
        exists_eq_left', false_or, List.contains_iff_mem]
      split
      case isTrue known => simp [known]
      case isFalse unknown => simp [unknown, eq_comm]

/-- A single reading only refuses frames that cannot be read. -/
lemma decode_eq_error_iff : decode s = .error e ↔
    ∃ f, decodeTagged family ofTagged s = .error f ∧ e = .decode (f.locate s) := by
  unfold decode
  cases decodeTagged family ofTagged s <;> simp [eq_comm]

/-- A frame is of an unknown kind when it names one that is none of the two. -/
lemma ofFrame_unknownKind_iff {k : String} : ofFrame s = .error (.unknownKind k) ↔
    Names s (some k) ∧ k ≠ "INCREMENT" ∧ k ≠ "RESTART_GAME" := by
  have unknown : k ∉ kinds ↔ k ≠ "INCREMENT" ∧ k ≠ "RESTART_GAME" := by simp [kinds]
  rw [ofFrame_eq_error_iff, ← unknown]
  simp only [decode_eq_error_iff, reduceCtorEq, and_false, exists_false, false_or,
    WireError.unknownKind.injEq]
  constructor
  · rintro ⟨x, names, hx, rfl⟩
    exact ⟨names, hx⟩
  · rintro ⟨names, hk⟩
    exact ⟨k, names, hk, rfl⟩

/-- A frame is without a kind when it is an object that names none. -/
lemma ofFrame_invalidMessage_iff {detail : String} :
    ofFrame s = .error (.invalidMessage detail) ↔
      Names s none ∧ detail = "missing `type` field" := by
  rw [ofFrame_eq_error_iff]
  simp [decode_eq_error_iff]

/-- What is refused for neither reason is refused as malformed. -/
lemma exists_problem (h : ofFrame s = .error e) :
    (∃ k, e = .unknownKind k) ∨ (∃ detail, e = .invalidMessage detail) ∨ ∃ p, e = .decode p := by
  obtain ⟨f, _, rfl⟩ | ⟨_, rfl⟩ | ⟨x, _, _, hd⟩ | ⟨x, _, _, rfl⟩ := ofFrame_eq_error_iff.1 h
  · exact .inr (.inr ⟨_, rfl⟩)
  · exact .inr (.inl ⟨_, rfl⟩)
  · obtain ⟨f, _, rfl⟩ := decode_eq_error_iff.1 hd
    exact .inr (.inr ⟨_, rfl⟩)
  · exact .inl ⟨_, rfl⟩

/-- Where the first reading finds a known kind, the second one finds no other. -/
lemma cause_of_second_reading {p : Problem} (names : Names s (some x)) (known : x ∈ kinds)
    (h : ofFrame s = .error (.decode p)) : p.cause.isUnknownVariant = false := by
  have found := decodeKind_of_names names
  obtain ⟨f, hf, _⟩ | ⟨_, wrong⟩ | ⟨y, _, _, hd⟩ | ⟨_, _, _, wrong⟩ := ofFrame_eq_error_iff.1 h
  · rw [found] at hf
    cases hf
  · cases wrong
  · obtain ⟨f, hf, same⟩ := decode_eq_error_iff.1 hd
    cases same
    obtain ⟨k, hk⟩ : ∃ k, family.ofName? x = some k := mem_kinds_iff.1 known
    exact decodeTagged_of_names names hk (fun _ _ => cause_of_ofTagged) hf
  · cases wrong

/-- The refusals that are told by the kind are the same for objects that agree in the members that
have its name. -/
lemma refusals_agree {s' : Bytes} {ms ms' : List (String × Bytes)} (h : IsLooseObject s ms)
    (h' : IsLooseObject s' ms')
    (same : ms.filter (·.1 == kindMember) = ms'.filter (·.1 == kindMember))
    (told : ∀ p, e ≠ .decode p) : ofFrame s = .error e ↔ ofFrame s' = .error e := by
  have names (kind : Option String) : Names s kind ↔ Names s' kind := by
    rw [h.names_iff, h'.names_iff]
    simp only [Sole, Lacks, same]
  cases e with
  | decode p => exact absurd rfl (told p)
  | unknownKind k => rw [ofFrame_unknownKind_iff, ofFrame_unknownKind_iff, names]
  | invalidMessage detail => rw [ofFrame_invalidMessage_iff, ofFrame_invalidMessage_iff, names]
  | encode cause =>
    have never {s : Bytes} : ofFrame s ≠ .error (.encode cause) := by
      intro h
      obtain ⟨_, wrong⟩ | ⟨_, wrong⟩ | ⟨_, wrong⟩ := exists_problem h
      · cases wrong
      · cases wrong
      · cases wrong
    exact iff_of_false never never

/-- A frame is refused as one of an unknown kind if it names a kind that is none of the two there
are, and as one without a kind if it names none; every other refusal is of a malformed frame, and
never because of an unknown kind once a known one has been found. Frames that name a kind, or name
none, are those with a certain form, which are passed over as a whole; of two objects of this form,
the members of the name of the kind alone tell how they are refused, unless as malformed. What the
other members hold may be nested at any depth, hold numbers of any size and escapes of any
surrogates, and its texts may be bytes that are no characters. -/
theorem frames_are_classified_by_name (s : Bytes) :
    (∀ k, ofFrame s = .error (.unknownKind k) ↔
      Names s (some k) ∧ k ≠ "INCREMENT" ∧ k ≠ "RESTART_GAME") ∧
    (∀ detail, ofFrame s = .error (.invalidMessage detail) ↔
      Names s none ∧ detail = "missing `type` field") ∧
    (∀ e, ofFrame s = .error e →
      (∃ k, e = .unknownKind k) ∨ (∃ detail, e = .invalidMessage detail) ∨ ∃ p, e = .decode p) ∧
    (∀ x, Names s (some x) → x = "INCREMENT" ∨ x = "RESTART_GAME" →
      ∀ p, ofFrame s = .error (.decode p) → ∀ name known, p.cause ≠ .unknownVariant name known) ∧
    (∀ kind, Names s kind → IsLooseText s) ∧
    ((∃ rest, skipValue s = .ok rest ∧ Blanks rest) ↔ IsLooseText s) ∧
    (∀ s' ms ms', IsLooseObject s ms → IsLooseObject s' ms' →
      ms.filter (·.1 == "type") = ms'.filter (·.1 == "type") →
      ∀ e, (∀ p, e ≠ .decode p) → (ofFrame s = .error e ↔ ofFrame s' = .error e)) ∧
    (∀ n, Loose (List.replicate (n + 1) openList ++ List.replicate (n + 1) closeList)) ∧
    (∀ negative ds f e, Whole ds → Fraction f → Exponent e →
      Loose (signBytes negative ++ (ds ++ (f ++ e)))) ∧
    (∀ h n, Hex h n → Loose (quote :: (backslash :: hexMark :: h) ++ [quote])) ∧
    ∀ bs, (∀ b ∈ bs, b ≠ quote ∧ b ≠ backslash ∧ 0x20 ≤ b) → Loose (quote :: bs ++ [quote]) := by
  refine ⟨fun k => ofFrame_unknownKind_iff, fun detail => ofFrame_invalidMessage_iff,
    fun e => exists_problem, fun x names known p h name all wrong => ?_,
    fun kind => Names.isLooseText, skipValue_blanks_iff,
    fun s' ms ms' h h' same e told => refusals_agree h h' same told, loose_nested,
    fun negative ds f e hds hf he => ⟨0, .number hds hf he⟩, fun h n => loose_escape,
    fun bs => loose_bytes⟩
  have kind : x ∈ kinds := by simpa [kinds] using known
  have plain := cause_of_second_reading names kind h
  rw [wrong] at plain
  cases plain

/-- A frame of an unknown kind. Beside the kind it holds brackets nested too deep, a number out of
range, a surrogate alone and a byte that belongs to no character. -/
def strangeFrame : Bytes :=
  Utf8.ofString "\x7b\"a\":" ++ List.replicate 128 openList ++ List.replicate 128 closeList ++
    Utf8.ofString ",\"b\":-1e999,\"c\":\"\\ud800" ++ [0xFF] ++
    Utf8.ofString "\",\"type\":\"CHAT\"\x7d"

/-- A move to no square. -/
def nowhereFrame : Bytes :=
  Utf8.ofString "\x7b\"type\":\"INCREMENT\",\"square\":null\x7d"

/-- The first frame is no JSON text, and still refused for its kind; the second one is refused as
malformed, and not for its kind. -/
theorem frames_are_classified_by_name_strange :
    (∀ v, parse strangeFrame ≠ .ok v) ∧
    ofFrame strangeFrame = .error (.unknownKind "CHAT") ∧
    ∃ p, ofFrame nowhereFrame = .error (.decode p) ∧
      ∀ name known, p.cause ≠ .unknownVariant name known := by
  have broken : (parse strangeFrame).toBool = false := by decide +kernel
  have found : decodeKind strangeFrame = .ok (some "CHAT") := by decide +kernel
  have move : decodeKind nowhereFrame = .ok (some "INCREMENT") := by decide +kernel
  have refused : ofFrame nowhereFrame = .error (.decode ⟨.wrongType .null "i64", none⟩) := by
    decide +kernel
  obtain ⟨unknown, _⟩ := frames_are_classified_by_name strangeFrame
  obtain ⟨_, _, _, second, _⟩ := frames_are_classified_by_name nowhereFrame
  have chat := (unknown "CHAT").2 ⟨names_of_decodeKind found, by decide, by decide⟩
  refine ⟨fun v accepted => ?_, chat, _, refused,
    second "INCREMENT" (names_of_decodeKind move) (.inl rfl) _ refused⟩
  rw [accepted] at broken
  cases broken

end Request

end ParityDuel
