import ParityDuel.Net.Socket
import ParityDuel.Proofs.Json.Render
import ParityDuel.Proofs.Wire.Tagged
import ParityDuel.Wire.Notice

/-!
# Notices survive the wire

A notice is written as an object that begins with the name of its kind. Its value is one of those
that are read back as they were written (`readsBack_toValue`), its kind is found in it, and the
fields of each kind are taken out of the members behind it (`ofTagged_fields`). So every notice is
read back from its bytes, which are a text, and different notices have different frames
(`decode_encode`).
-/

namespace ParityDuel

open Json Wire

namespace Notice

section Reading

/-- The kind whose name a notice is written with. -/
def tag : Notice → NoticeKind
  | assigned .. => .assigned
  | waiting .. => .waiting
  | update .. => .update
  | gameOver .. => .gameOver
  | opponentLeft .. => .opponentLeft
  | rematchVotes .. => .rematchVotes
  | refused .. => .refused

/-- The name of the kind of a notice is read back. -/
lemma ofName?_kind (n : Notice) : NoticeKind.ofName? n.kind = some n.tag := by
  cases n <;> rfl

/-- No field of a notice has the name of the member that holds the kind. -/
lemma lacks_fields (n : Notice) : Lacks kindMember n.fields := by
  cases n <;> rfl

/-- A role is read back. -/
lemma roleField_toValue (r : Role) : roleField r.toValue = .ok r := by
  rw [Role.toValue, roleField, roleNamed, Role.ofName?_name]

/-- A board is read back from its cells. -/
lemma boardField_wordsValue (board : Board) :
    boardField (wordsValue board.cells.toList) = .ok board := by
  rw [boardField, wordsValue, wordsField_words]
  rfl

/-- A line is read back from its squares. -/
lemma lineField_wordsValue (line : Vector UInt64 5) :
    lineField (wordsValue line.toList) = .ok line :=
  wordsField_words line

/-- A text is taken out of the only member. -/
lemma oneField_text {whole : String} (text : String) :
    oneField whole "message" textField (.members [("message", .text text)]) = .ok text :=
  oneField_eq_ok_iff.2 ⟨_, sole_cons_self.2 ⟨rfl, lacks_nil⟩, rfl⟩

/-- What a notice holds beside its kind is understood as this notice. -/
lemma ofTagged_fields (n : Notice) : ofTagged ⟨n.tag, .members n.fields⟩ = .ok n := by
  cases n with
  | assigned player board =>
    rw [tag, fields, ofTagged, twoFields_of_members (by decide) (roleField_toValue player)
      (boardField_wordsValue board)]
    rfl
  | waiting text =>
    rw [tag, fields, ofTagged, oneField_text]
    rfl
  | update square value =>
    rw [tag, fields, ofTagged, twoFields_of_members (a := square) (b := value) (by decide) rfl rfl]
    rfl
  | gameOver winner line =>
    rw [tag, fields, ofTagged, twoFields_of_members (by decide) (roleField_toValue winner)
      (lineField_wordsValue line)]
    rfl
  | opponentLeft text =>
    rw [tag, fields, ofTagged, oneField_text]
    rfl
  | rematchVotes text voted total =>
    rw [tag, fields, ofTagged, threeFields_of_members (a := text) (b := voted) (c := total)
      (by decide) (by decide) (by decide) rfl rfl rfl]
    rfl
  | refused text =>
    rw [tag, fields, ofTagged, oneField_text]
    rfl

end Reading

section Writing

/-- A field of a notice is a text, a word or a list of words. -/
lemma plain_or_words {n : Notice} {m : Member} (h : m ∈ n.fields) :
    m.2.IsPlain ∨ ∃ ns, m.2 = wordsValue ns := by
  cases n with
  | assigned player board =>
    obtain rfl | hm := List.mem_cons.1 h
    · exact .inl trivial
    · exact .inr ⟨_, by rw [List.mem_singleton.1 hm]⟩
  | gameOver winner line =>
    obtain rfl | hm := List.mem_cons.1 h
    · exact .inl trivial
    · exact .inr ⟨_, by rw [List.mem_singleton.1 hm]⟩
  | _ =>
    left
    revert m
    simp [fields, Value.IsPlain]

/-- Words in a list are read back with one bracket open. -/
lemma readsBack_wordsValue {depth : Nat} (ns : List UInt64) :
    ReadsBack (depth + 1) (wordsValue ns) := by
  refine .inr (.inl ⟨_, rfl, fun i hi => ?_⟩)
  obtain ⟨n, _, rfl⟩ := List.mem_map.1 hi
  exact .of_plain trivial

/-- The value that stands for a notice is read back from its text. -/
lemma readsBack_toValue (n : Notice) : ReadsBack depthLimit n.toValue := by
  refine .inr (.inr ⟨_, rfl, fun m hm => ?_⟩)
  obtain rfl | hm := List.mem_cons.1 hm
  · exact .of_plain trivial
  · obtain plain | ⟨ns, words⟩ := plain_or_words hm
    · exact .of_plain plain
    · rw [words]
      exact readsBack_wordsValue ns

end Writing

/-- A notice is read from its bytes by way of its kind. -/
lemma decode_of_encode (n : Notice) : decode (Utf8.ofString n.encode) = .ok n := by
  have text : IsText (Utf8.ofString n.encode) (.object ((kindMember, .text n.kind) :: n.fields)) :=
    isText_render n.readsBack_toValue
  obtain ⟨rest, hrest, read⟩ := readTagged_of_first family text n.lacks_fields n.ofName?_kind
  have found : decodeTagged family ofTagged (Utf8.ofString n.encode) = .ok n :=
    decodeTagged_eq_ok_iff.2 ⟨_, rest, read, n.ofTagged_fields, hrest⟩
  rw [decode, found]

/-- Every notice is read back from its bytes as it was. The bytes are a JSON text of its value, and
they are characters, so a socket that still sends at all sends them as text; and two notices have
the same frame only if they are the same. -/
theorem decode_encode (n : Notice) :
    decode (Utf8.ofString n.encode) = .ok n ∧
    parse (Utf8.ofString n.encode) = .ok n.toValue ∧
    Utf8.decode? (Utf8.ofString n.encode) = some n.encode.toList ∧
    (∀ (socket : Socket) (f : Frame), socket.send (Utf8.ofString n.encode) = .ok f ↔
      socket.isClosing = false ∧ socket.isBroken = false ∧ f = .text n.encode) ∧
    ∀ m : Notice, Frame.ofBytes (Utf8.ofString m.encode) = Frame.ofBytes (Utf8.ofString n.encode) ↔
      m = n := by
  have text (m : Notice) : Frame.ofBytes (Utf8.ofString m.encode) = .text m.encode := by
    rw [Frame.ofBytes, Utf8.decode?_ofString]
    simp only [String.ofList_toList]
  refine ⟨decode_of_encode n, parse_render n.readsBack_toValue, Utf8.decode?_ofString _,
    fun socket f => ?_, fun m => ?_⟩
  · rw [Socket.send, text]
    cases socket.isClosing <;> cases socket.isBroken <;> simp [eq_comm]
  · rw [text, text]
    constructor
    · intro same
      have read := decode_of_encode m
      rw [Frame.text.inj same, decode_of_encode] at read
      exact (Except.ok.inj read).symm
    · rintro rfl
      rfl

/-- In a text a quote, a backslash and control characters are escaped, and nothing else is. -/
example : (refused "a \x22 \\ \n \x01 😀").encode =
    "\x7b\"type\":\"ERROR\",\"message\":\"a \\\" \\\\ \\n \\u0001 😀\"\x7d" := by
  decide +kernel

end Notice

end ParityDuel
