import ParityDuel.Proofs.Wire.Tagged
import ParityDuel.Wire.Request

/-!
# Which frames are requests

A frame is read twice, by two readers that do not look at the same things, and is a request when
both succeed. `ofFrame_accepts_the_grammar` says which frames these are, in terms of the grammar of
JSON texts only.
-/

namespace ParityDuel

open Json Wire

namespace Request

/-- How requests are written. The kind and the square stand once each; other members do not matter,
nor does the order. A square is written as an integer. Without a square the name of the kind alone,
in a list, does as well. -/
inductive Written (s : Bytes) : Request → Prop where
  | increment {ms : List RawMember} {kind square : Bytes} {v : Value} {n : Int64} :
    IsObject s ms →
    Sole "type" ms (kind, .text "INCREMENT") →
    Sole "square" ms (square, v) → IntegerLiteral square n.toInt →
    Written s (.increment n)
  | rematch {ms : List RawMember} {kind : Bytes} :
    IsObject s ms →
    Sole "type" ms (kind, .text "RESTART_GAME") →
    Written s .rematch
  | rematchList :
    IsText s (.list [.text "RESTART_GAME"]) →
    Written s .rematch

variable {s : Bytes} {r : Request} {x : String} {ms : List RawMember} {k : RequestKind}

/-- There are two names of kinds. -/
lemma kind_of_name : RequestKind.ofName? x = some k ↔ (x = "INCREMENT" ∧ k = .increment) ∨
    (x = "RESTART_GAME" ∧ k = .rematch) := by
  unfold RequestKind.ofName?
  split
  case isTrue h => simp [h, eq_comm]
  case isFalse h =>
    split
    case isTrue h' => simp [h', eq_comm]
    case isFalse h' => simp [h, h']

/-- The kinds that are looked for first are those that are read. -/
lemma mem_kinds_iff : x ∈ kinds ↔ ∃ k, RequestKind.ofName? x = some k := by
  simp only [kind_of_name, kinds, List.mem_cons, List.not_mem_nil, or_false]
  constructor
  · rintro (rfl | rfl)
    · exact ⟨.increment, .inl ⟨rfl, rfl⟩⟩
    · exact ⟨.rematch, .inr ⟨rfl, rfl⟩⟩
  · rintro ⟨k, ⟨h, _⟩ | ⟨h, _⟩⟩
    · exact .inl h
    · exact .inr h

/-- A frame is a request if the first reading finds a known kind and the second reads the rest. -/
lemma ofFrame_eq_ok_iff : ofFrame s = .ok r ↔ ∃ x, decodeKind s = .ok (some x) ∧ x ∈ kinds ∧
    decodeTagged family ofTagged s = .ok r := by
  unfold ofFrame
  split
  case h_1 f hk => simp [hk]
  case h_2 hk => simp [hk]
  case h_3 x hk =>
    simp only [hk, Except.ok.injEq, Option.some.injEq, exists_eq_left', List.contains_iff_mem]
    split
    case isTrue known =>
      unfold decode
      cases decodeTagged family ofTagged s <;> simp [known]
    case isFalse unknown => simp [unknown]

/-- What the members beside the kind must hold. -/
lemma ofTagged_members_iff {as : List Member} : ofTagged ⟨k, .members as⟩ = .ok r ↔
    (k = .rematch ∧ r = .rematch) ∨
      ∃ n v, k = .increment ∧ r = .increment n ∧ Sole "square" as v ∧ signedField v = .ok n := by
  cases k with
  | increment =>
    rw [ofTagged, map_eq_ok_iff]
    simp only [oneField_eq_ok_iff, reduceCtorEq, false_and, false_or, true_and]
    constructor
    · rintro ⟨n, ⟨v, hv, hn⟩, rfl⟩
      exact ⟨n, v, rfl, hv, hn⟩
    · rintro ⟨n, v, rfl, hv, hn⟩
      exact ⟨n, ⟨v, hv, hn⟩, rfl⟩
  | rematch => simp [ofTagged, noFields, Except.map, eq_comm]

/-- Without anything beside the kind only a rematch can be asked for. -/
lemma ofTagged_items_iff : ofTagged ⟨k, .items []⟩ = .ok r ↔ k = .rematch ∧ r = .rematch := by
  cases k with
  | increment => simp [ofTagged, oneField, positioned, Except.map, bind, Except.bind]
  | rematch => simp [ofTagged, noFields, noFurther, Except.map, eq_comm]

/-- A name stands once with a value if it stands once with bytes of this value. -/
lemma sole_values_iff {name : String} {v : Value} :
    Sole name (ms.map fun m => (m.1, m.2.2)) v ↔ ∃ t, Sole name ms (t, v) := by
  have same : (ms.map fun m => (m.1, m.2.2)).filter (·.1 == name) =
      (ms.filter (·.1 == name)).map fun m => (m.1, m.2.2) := List.filter_map
  rw [Sole, same, List.map_eq_singleton_iff]
  constructor
  · rintro ⟨⟨name', t, v'⟩, hm, e⟩
    cases e
    exact ⟨t, hm⟩
  · rintro ⟨t, hm⟩
    exact ⟨_, hm, rfl⟩

/-- Another name than that of the kind stands beside the kind as often as in the whole object. -/
lemma sole_others_iff {name : String} {v : Value} (h : name ≠ kindMember) :
    Sole name (others ms) v ↔ ∃ t, Sole name ms (t, v) := by
  have same : (ms.filter (·.1 != kindMember)).filter (·.1 == name) = ms.filter (·.1 == name) := by
    rw [List.filter_filter]
    apply List.filter_congr
    rintro ⟨name', p⟩ _
    by_cases hn : name' = name
    · simp [hn, h]
    · simp [hn]
  rw [others, sole_values_iff]
  simp only [Sole, same]

lemma variantOf?_eq_some_iff {v : Value} : variantOf? family v = some k ↔
    (v = .text "INCREMENT" ∧ k = .increment) ∨ (v = .text "RESTART_GAME" ∧ k = .rematch) := by
  rw [variantOf?, Option.bind_eq_some_iff]
  simp only [textOf?_eq_some_iff, family, kind_of_name]
  constructor
  · rintro ⟨x, rfl, ⟨rfl, rfl⟩ | ⟨rfl, rfl⟩⟩
    · exact .inl ⟨rfl, rfl⟩
    · exact .inr ⟨rfl, rfl⟩
  · rintro (⟨rfl, rfl⟩ | ⟨rfl, rfl⟩)
    · exact ⟨_, rfl, .inl ⟨rfl, rfl⟩⟩
    · exact ⟨_, rfl, .inr ⟨rfl, rfl⟩⟩

/-- A frame that is read as a request is written as one. -/
lemma written_of_ofFrame (h : ofFrame s = .ok r) : Written s r := by
  obtain ⟨x, hx, known, h⟩ := ofFrame_eq_ok_iff.1 h
  obtain ⟨⟨k, content⟩, rest, ht, hr, hrest⟩ := decodeTagged_eq_ok_iff.1 h
  obtain ⟨w, body, ms, ⟨kind, v⟩, hw, hbody, hp, hk, rfl, rfl⟩ | ⟨w, u, hw, rfl⟩ :=
    readTagged_inv ht
  · have object : IsObject _ ms := ⟨w, body, rest, hw, hbody, hrest, rfl⟩
    obtain ⟨rfl, rfl⟩ | ⟨n, v', rfl, rfl, hsquare, hn⟩ := ofTagged_members_iff.1 hr
    · obtain ⟨_, wrong⟩ | ⟨rfl, _⟩ := variantOf?_eq_some_iff.1 hk
      · cases wrong
      · exact .rematch object hp
    · obtain ⟨rfl, _⟩ | ⟨_, wrong⟩ := variantOf?_eq_some_iff.1 hk
      · obtain ⟨square, hs⟩ := (sole_others_iff (by decide)).1 hsquare
        exact .increment object hp hs ((signedField_eq_ok_iff (denotes_of_sole object hs)).1 hn)
      · cases wrong
  · -- Only a list of one text passes the first reading, and a list leaves no room for a square.
    obtain ⟨k', hk⟩ := mem_kinds_iff.1 known
    have text := isText_of_decodeKind hw hx
    obtain ⟨rest', _, ht'⟩ := readTagged_of_list family text hk
    rw [ht'] at ht
    cases ht
    obtain ⟨rfl, rfl⟩ := ofTagged_items_iff.1 hr
    obtain ⟨_, wrong⟩ | ⟨rfl, _⟩ := kind_of_name.1 hk
    · cases wrong
    · exact .rematchList text

/-- Both readings succeed on an object that holds a kind, and what the second one finds is left to
understand. -/
lemma ofFrame_of_object {kind : Bytes} {v : Value} (h : IsObject s ms)
    (hkind : Sole kindMember ms (kind, v)) (hk : variantOf? family v = some k)
    (hr : ofTagged ⟨k, .members (others ms)⟩ = .ok r) : ofFrame s = .ok r := by
  obtain ⟨x, hx, name⟩ := Option.bind_eq_some_iff.1 hk
  refine ofFrame_eq_ok_iff.2 ⟨x, decodeKind_of_object h hkind (textOf?_eq_some_iff.1 hx),
    mem_kinds_iff.2 ⟨k, name⟩, ?_⟩
  obtain ⟨w, body, w', hw, hbody, hw', rfl⟩ := h
  exact decodeTagged_eq_ok_iff.2 ⟨_, w', readTagged_of_object hw hbody hkind hk, hr, hw'⟩

/-- A frame that is written as a request is read as it. -/
lemma ofFrame_of_written (h : Written s r) : ofFrame s = .ok r := by
  cases h with
  | @increment ms kind square v n object hkind hsquare literal =>
    have field : signedField v = .ok n :=
      (signedField_eq_ok_iff (denotes_of_sole object hsquare)).2 literal
    have beside : Sole "square" (others ms) v :=
      (sole_others_iff (by decide)).2 ⟨square, hsquare⟩
    exact ofFrame_of_object object hkind (variantOf?_eq_some_iff.2 (.inl ⟨rfl, rfl⟩))
      (ofTagged_members_iff.2 (.inr ⟨n, v, rfl, rfl, beside, field⟩))
  | rematch object hkind =>
    exact ofFrame_of_object object hkind (variantOf?_eq_some_iff.2 (.inr ⟨rfl, rfl⟩))
      (ofTagged_members_iff.2 (.inl ⟨rfl, rfl⟩))
  | rematchList text =>
    have name : RequestKind.ofName? "RESTART_GAME" = some .rematch := rfl
    obtain ⟨rest, hrest, ht⟩ := readTagged_of_list family text name
    exact ofFrame_eq_ok_iff.2 ⟨_, decodeKind_of_list text, mem_kinds_iff.2 ⟨_, name⟩,
      decodeTagged_eq_ok_iff.2 ⟨_, rest, ht, ofTagged_items_iff.2 ⟨rfl, rfl⟩, hrest⟩⟩

/-- A frame is read as a request exactly when it is written as one. What an object and a list are is
told by the grammar of texts, which is what the parser accepts. -/
theorem ofFrame_accepts_the_grammar (s : Bytes) :
    (∀ r, ofFrame s = .ok r ↔ Written s r) ∧
    (∀ v, parse s = .ok v ↔ IsText s v) ∧
    ∀ members, IsText s (.object members) ↔
      ∃ ms, IsObject s ms ∧ members = ms.map fun m => (m.1, m.2.2) :=
  ⟨fun _ => ⟨written_of_ofFrame, ofFrame_of_written⟩, fun _ => parse_eq_ok_iff,
    fun _ => isText_object_iff⟩

end Request

end ParityDuel
