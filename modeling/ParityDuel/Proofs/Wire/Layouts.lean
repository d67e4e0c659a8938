import Mathlib.Algebra.Order.BigOperators.Group.List
import Mathlib.Algebra.Order.Group.Nat
import ParityDuel.Proofs.Json.Render
import ParityDuel.Proofs.Wire.Request

/-!
# Layouts of requests

A request is read back from the frame that it is written as, and from every other layout of this
frame: with blanks between any two tokens, with the members in another order, and with further
members of other names (`read_back_from_every_layout`). A layout is told by the tokens of the
members, each a name and the bytes of a content; what the bytes stand for is found by reading them
(`IsLayout.denotes`).
-/

namespace ParityDuel

open Json

namespace Wire

/-- The bytes of a value, as they stand. -/
def IsToken (t c : Bytes) : Prop := t = c ∧ ∃ depth v, Denotes depth t v

/-- A whole text: one object, with these names and contents of its members, and blanks between any
two tokens. -/
def IsLayout (s : Bytes) (tokens : List (String × Bytes)) : Prop :=
  ∃ w body w', Blanks w ∧ Enclosed (Entry IsToken) body tokens ∧ Blanks w' ∧
    s = w ++ openObject :: (body ++ closeObject :: w')

/-- The value that bytes denote, if they do. -/
def contentOf (depth : Nat) (t : Bytes) : Value :=
  match readValue depth t with
  | .ok (v, _) => v
  | .error _ => .null

/-- Members with the values of their contents. -/
def contents (depth : Nat) (tokens : List (String × Bytes)) : List Member :=
  tokens.map fun m => (m.1, contentOf depth m.2)

section Values

variable {s t w w' : Bytes} {v v' : Value} {depth : Nat} {tokens : List (String × Bytes)}

/-- The content of bytes that denote a value is this value. -/
lemma contentOf_of_denotes (h : Denotes depth t v) : contentOf depth t = v := by
  have read : readValue depth (t ++ []) = .ok (v, []) := (readValue_reads depth).complete h trivial
  rw [List.append_nil] at read
  rw [contentOf, read]

/-- No more brackets are open at a time than there are bytes, so one depth does for all members. -/
lemma IsLayout.exists_depth (h : IsLayout s tokens) :
    ∃ depth, ∀ m ∈ tokens, ∃ v, Denotes depth m.2 v := by
  obtain ⟨_, _, _, _, body, _, _⟩ := h
  refine ⟨(tokens.map fun m => m.2.length).sum, fun m hm => ?_⟩
  obtain ⟨_, entry⟩ := body.exists_of_mem hm
  cases entry with
  | mk _ _ _ token =>
    obtain ⟨rfl, _, v, hv⟩ := token
    exact ⟨v, hv.of_length (List.le_sum_of_mem (List.mem_map_of_mem hm))⟩

/-- A layout denotes the object of its members. -/
lemma IsLayout.denotes (h : IsLayout s tokens) (hd : ∀ m ∈ tokens, ∃ v, Denotes depth m.2 v) :
    ∃ w t w', Blanks w ∧ Denotes (depth + 1) t (.object (contents depth tokens)) ∧ Blanks w' ∧
      s = w ++ (t ++ w') := by
  obtain ⟨w, body, w', hw, hbody, hw', rfl⟩ := h
  have members : Enclosed (Entry (Denotes depth)) body (contents depth tokens) := by
    refine hbody.map fun t m hm entry => ?_
    cases entry with
    | mk key hb hb' token =>
      obtain ⟨v, hv⟩ := hd _ hm
      obtain ⟨rfl, _⟩ := token
      rw [contentOf_of_denotes hv]
      exact .mk key hb hb' hv
  exact ⟨w, openObject :: body ++ [closeObject], w', hw, .inr (.object members), hw', by simp⟩

/-- A text has one value, whatever depth it was allowed for. -/
lemma value_unique (hw : Blanks w) (h : Denotes depth t v) (hw' : Blanks w')
    (h' : IsText (w ++ (t ++ w')) v') : v = v' := by
  obtain ⟨w₁, t₁, w₁', hw₁, h₁, hw₁', same⟩ := h'
  have reads := readValue_reads (t.length + t₁.length)
  have read : readValue (t.length + t₁.length) (w ++ (t ++ w')) = .ok (v, w') := by
    rw [reads.blanks hw]
    exact reads.complete (h.of_length (Nat.le_add_right _ _)) hw'.stops
  have read₁ : readValue (t.length + t₁.length) (w₁ ++ (t₁ ++ w₁')) = .ok (v', w₁') := by
    rw [reads.blanks hw₁]
    exact reads.complete (h₁.of_length (Nat.le_add_left _ _)) hw₁'.stops
  rw [same, read₁] at read
  cases read
  rfl

end Values

end Wire

open Wire

namespace Request

/-- The members that a request is written with. -/
def members : Request → List Member
  | increment square => [(kindMember, .text "INCREMENT"),
      ("square", if square < 0 then .signed square else .unsigned square.toInt.toNat.toUInt64)]
  | rematch => [(kindMember, .text "RESTART_GAME")]

/-- The names and the contents of these members, as they stand in the frame. -/
def tokens (r : Request) : List (String × Bytes) :=
  r.members.map fun m => (m.1, Utf8.encodeAll (renderChars m.2))

section Writing

variable {r : Request} {m : Member}

/-- A request stands for the object of its members. -/
lemma toValue_eq_object (r : Request) : r.toValue = .object r.members := by
  cases r <;> rfl

/-- Members hold plain values. -/
lemma isPlain_of_mem_members (hm : m ∈ r.members) : m.2.IsPlain := by
  cases r with
  | increment square =>
    obtain rfl | hm := List.mem_cons.1 hm
    · trivial
    obtain rfl := List.mem_singleton.1 hm
    by_cases negative : square < 0
    · simp only [negative, if_true]
      exact negative
    · simp only [negative, if_false]
      trivial
  | rematch =>
    obtain rfl := List.mem_singleton.1 hm
    trivial

/-- The square is written so that it is read as the same number. -/
lemma signedField_of_written (square : Int64) :
    signedField (if square < 0 then .signed square else .unsigned square.toInt.toNat.toUInt64) =
      .ok square := by
  by_cases negative : square < 0
  · rw [if_pos negative]
    rfl
  · have large : 0 ≤ square.toInt := Int.not_lt.1 fun h => negative (Int64.lt_iff_toInt_lt.2 h)
    rw [if_neg negative]
    exact (signedField_unsigned (Int.toNat_of_nonneg large).symm).2

/-- What a member is written as denotes what it holds. -/
lemma denotes_of_mem_members {depth : Nat} (hm : m ∈ r.members) :
    Denotes depth (Utf8.encodeAll (renderChars m.2)) m.2 :=
  .of_scalar (scalar_render (isPlain_of_mem_members hm))

/-- The frame of a request is a layout of its tokens. -/
lemma isLayout_encode (r : Request) : IsLayout (Utf8.ofString r.encode) r.tokens := by
  have parts : Enclosed (Entry IsToken) (Utf8.encodeAll (separated (renderMembers r.members)))
      r.tokens := by
    apply enclosed_separated
    rw [renderMembers_eq_map, tokens, List.forall₂_map_left_iff, List.forall₂_map_right_iff,
      List.forall₂_same]
    intro m hm
    rw [Utf8.encodeAll_append, Utf8.encodeAll_cons]
    exact .mk (textLiteral_render m.1) blanks_nil blanks_nil
      ⟨rfl, 0, m.2, denotes_of_mem_members hm⟩
  refine ⟨[], _, [], blanks_nil, parts, blanks_nil, ?_⟩
  rw [encode, toValue_eq_object, Utf8.ofString, render, String.toList_ofList, renderChars,
    List.cons_append, Utf8.encodeAll_cons, Utf8.encodeAll_append]
  rfl

/-- What the tokens of a request stand for are its members. -/
lemma contents_tokens (depth : Nat) (r : Request) : contents depth r.tokens = r.members := by
  rw [contents, tokens, List.map_map]
  conv_rhs => rw [← List.map_id r.members]
  apply List.map_congr_left
  intro m hm
  show (m.1, contentOf depth (Utf8.encodeAll (renderChars m.2))) = m
  rw [contentOf_of_denotes (denotes_of_mem_members hm)]

end Writing

/-- The names that a request is written with. -/
def ownNames : List String := [kindMember, "square"]

section Reading

variable {s : Bytes} {r : Request} {ms : List Member} {v : Value}

/-- A name that requests are written with stands among members as often as among those of such
names. -/
lemma sole_of_own (name : String) (hn : name ∈ ownNames) {ms' : List Member}
    (hp : (ms.filter (·.1 ∈ ownNames)).Perm ms') (hs : Sole name ms' v) : Sole name ms v := by
  have same : (ms.filter (·.1 ∈ ownNames)).filter (·.1 == name) = ms.filter (·.1 == name) := by
    rw [List.filter_filter]
    apply List.filter_congr
    rintro ⟨name', p⟩ _
    by_cases h : name' = name
    · simp [h, hn]
    · simp [h]
  have perm := hp.filter (·.1 == name)
  rw [same, hs, List.perm_singleton] at perm
  exact perm

/-- A request is read from every object with its members, in any order, and others of other
names. -/
lemma ofFrame_of_members (h : IsText s (.object ms))
    (hp : (ms.filter (·.1 ∈ ownNames)).Perm r.members) : ofFrame s = .ok r := by
  obtain ⟨raw, object, rfl⟩ := isText_object_iff.1 h
  cases r with
  | increment square =>
    have kind := sole_of_own kindMember (by decide) hp (sole_cons_self.2 ⟨rfl, rfl⟩)
    have field := sole_of_own "square" (by decide) hp
      ((sole_cons_of_ne (by decide)).2 (sole_cons_self.2 ⟨rfl, rfl⟩))
    obtain ⟨_, kind⟩ := sole_values_iff.1 kind
    obtain ⟨_, field⟩ := sole_values_iff.1 field
    have literal := (signedField_eq_ok_iff (denotes_of_sole object field)).1
      (signedField_of_written square)
    exact ofFrame_of_written (.increment object kind field literal)
  | rematch =>
    have kind := sole_of_own kindMember (by decide) hp (sole_cons_self.2 ⟨rfl, rfl⟩)
    obtain ⟨_, kind⟩ := sole_values_iff.1 kind
    exact ofFrame_of_written (.rematch object kind)

/-- The names of the members are the names that a request looks at. -/
lemma mem_ownNames_of_mem_members {m : Member} (hm : m ∈ r.members) : m.1 ∈ ownNames := by
  cases r with
  | increment square =>
    obtain rfl | hm := List.mem_cons.1 hm
    · decide
    obtain rfl := List.mem_singleton.1 hm
    simp [ownNames]
  | rematch =>
    obtain rfl := List.mem_singleton.1 hm
    decide

/-- Among the contents of a layout with the tokens of a request and others of other names, those of
the request are found by their names. -/
lemma own_contents {depth : Nat} {tokens extra : List (String × Bytes)}
    (hp : tokens.Perm (r.tokens ++ extra)) (other : ∀ m ∈ extra, m.1 ∉ ownNames) :
    ((contents depth tokens).filter (·.1 ∈ ownNames)).Perm r.members := by
  have all : (contents depth tokens).Perm (r.members ++ contents depth extra) := by
    have perm := hp.map fun m => (m.1, contentOf depth m.2)
    rwa [List.map_append, ← contents, ← contents, ← contents, contents_tokens] at perm
  have own : r.members.filter (·.1 ∈ ownNames) = r.members :=
    List.filter_eq_self.2 fun m hm => decide_eq_true (mem_ownNames_of_mem_members hm)
  have none : (contents depth extra).filter (·.1 ∈ ownNames) = [] := by
    rw [List.filter_eq_nil_iff]
    intro m hm
    obtain ⟨raw, hraw, rfl⟩ := List.mem_map.1 hm
    simpa using other raw hraw
  have perm := all.filter (·.1 ∈ ownNames)
  rwa [List.filter_append, own, none, List.append_nil] at perm

/-- A layout with the tokens of a request alone is a text. -/
lemma isText_of_tokens {tokens : List (String × Bytes)} (h : IsLayout s tokens)
    (hp : tokens.Perm r.tokens) : IsText s (.object (contents (depthLimit - 1) tokens)) := by
  refine h.denotes fun m hm => ?_
  obtain ⟨own, hown, rfl⟩ := List.mem_map.1 (hp.mem_iff.1 hm)
  exact ⟨own.2, denotes_of_mem_members hown⟩

end Reading

/-- A request is read back from the frame that it is written as. It is read back from every layout
of the tokens of this frame too, with blanks between any two tokens and the members in any order,
and with further members of other names, as long as the parser accepts the frame. So it is read back
from every text that is an object and has the members of the request, in any order, among others of
other names. -/
theorem read_back_from_every_layout (r : Request) :
    ofFrame (Utf8.ofString r.encode) = .ok r ∧
    IsLayout (Utf8.ofString r.encode) r.tokens ∧
    (∀ s tokens extra, IsLayout s tokens → tokens.Perm (r.tokens ++ extra) →
      (∀ m ∈ extra, m.1 ≠ "type" ∧ m.1 ≠ "square") → (extra ≠ [] → ∃ v, parse s = .ok v) →
      ofFrame s = .ok r) ∧
    ∀ s ms, parse s = .ok (.object ms) →
      (ms.filter fun m => m.1 ∈ ["type", "square"]).Perm r.members → ofFrame s = .ok r := by
  have every {s tokens extra} (layout : IsLayout s tokens)
      (perm : tokens.Perm (r.tokens ++ extra)) (other : ∀ m ∈ extra, m.1 ≠ "type" ∧ m.1 ≠ "square")
      (accepted : extra ≠ [] → ∃ v, parse s = .ok v) : ofFrame s = .ok r := by
    have names : ∀ m ∈ extra, m.1 ∉ ownNames := fun m hm => by
      simpa [ownNames, kindMember] using other m hm
    by_cases alone : extra = []
    · subst alone
      rw [List.append_nil] at perm
      exact ofFrame_of_members (isText_of_tokens layout perm)
        (own_contents (by rwa [List.append_nil]) names)
    · obtain ⟨v, hv⟩ := accepted alone
      obtain ⟨depth, deep⟩ := layout.exists_depth
      obtain ⟨w, t, w', hw, ht, hw', rfl⟩ := layout.denotes deep
      have text := parse_eq_ok_iff.1 hv
      rw [← value_unique hw ht hw' text] at text
      exact ofFrame_of_members text (own_contents perm names)
  exact ⟨every (isLayout_encode r) (.of_eq (List.append_nil _).symm) nofun (absurd rfl),
    isLayout_encode r, fun s tokens extra => every,
    fun s ms hs => ofFrame_of_members (parse_eq_ok_iff.1 hs)⟩

/-- A value that holds the name of a field. -/
def noteValue : Value := .list [.unsigned 1, .object [("square", .unsigned 7)]]

/-- The least square there is, behind another member and before the kind, with blanks. -/
def spacedFrame : Bytes := Utf8.ofString
  (" \x7b\"note\" : [1,\x7b\"square\":7\x7d],\n\"square\":-9223372036854775808 ," ++
    "\t\"type\": \"INCREMENT\"\x7d")

/-- The frame is a layout with one further member. -/
theorem read_back_from_every_layout_spaced :
    IsLayout spacedFrame
      [("note", Utf8.encodeAll (renderChars noteValue)),
        ("square", Utf8.encodeAll (renderChars (.signed (-9223372036854775808)))),
        (kindMember, Utf8.encodeAll (renderChars (.text "INCREMENT")))] ∧
    ofFrame spacedFrame = .ok (.increment (-9223372036854775808)) := by
  have token (depth : Nat) {v : Value} (h : ReadsBack depth v) :
      IsToken (Utf8.encodeAll (renderChars v)) (Utf8.encodeAll (renderChars v)) :=
    ⟨rfl, depth, v, denotes_render h⟩
  have note : ReadsBack 2 noteValue := by
    simp [ReadsBack, noteValue, Value.IsPlain]
  have space : Blanks [0x20] := List.forall_mem_singleton.2 rfl
  have line : Blanks [0x0A] := List.forall_mem_singleton.2 rfl
  have tab : Blanks [0x09] := List.forall_mem_singleton.2 rfl
  have layout : IsLayout spacedFrame
      [("note", Utf8.encodeAll (renderChars noteValue)),
        ("square", Utf8.encodeAll (renderChars (.signed (-9223372036854775808)))),
        (kindMember, Utf8.encodeAll (renderChars (.text "INCREMENT")))] := by
    refine ⟨[0x20], _, [], space, .cons blanks_nil
      (.mk (textLiteral_render "note") space space (token 2 note))
      (.cons blanks_nil line
        (.mk (textLiteral_render "square") blanks_nil blanks_nil (token 0 rfl))
        (.cons space tab
          (.mk (textLiteral_render kindMember) blanks_nil space (token 0 trivial))
          (.nil blanks_nil))), blanks_nil, ?_⟩
    decide +kernel
  have accepted : ∃ v, parse spacedFrame = .ok v := by
    have read : (parse spacedFrame).toBool = true := by decide +kernel
    cases h : parse spacedFrame with
    | ok v => exact ⟨v, rfl⟩
    | error f => rw [h] at read; cases read
  obtain ⟨_, _, every, _⟩ := read_back_from_every_layout (.increment (-9223372036854775808))
  refine ⟨layout, every spacedFrame _ [("note", Utf8.encodeAll (renderChars noteValue))] layout
    ?_ ?_ fun _ => accepted⟩
  · exact List.reverse_perm [_, _, _]
  · exact List.forall_mem_singleton.2 (by decide)

end Request

end ParityDuel
