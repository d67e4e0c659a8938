import Mathlib.Tactic.Lemma
import ParityDuel.Proofs.Wire.Request

/-!
# Looking at the kind first

`Request.ofFrame` looks at the kind before it reads a frame, `Request.decode` reads at once. They
take the same frames and read the same requests in them, but for one form: a list of the name of a
move and a square, in which no kind is found (`decode_iff_ofFrame_or_pair`). On objects this rests
on `ofFrame_of_object`: what is read as a member can also be passed over, up to the same byte.
-/

namespace ParityDuel

open Json Wire

namespace Request

variable {s : Bytes} {r : Request} {v : Value}

/-- A frame that is a list: the name of a move and a square. -/
def IsPair (s : Bytes) (v : Value) : Prop := IsText s (.list [.text "INCREMENT", v])

/-- A frame is read at once as what it holds beside the kind. -/
lemma decode_eq_ok_iff : decode s = .ok r ↔ decodeTagged family ofTagged s = .ok r := by
  unfold decode
  cases decodeTagged family ofTagged s <;> simp

/-- What the elements behind the kind must be: nothing, or one square. -/
lemma ofTagged_list_iff {k : RequestKind} {vs : List Value} :
    ofTagged ⟨k, .items vs⟩ = .ok r ↔
      (k = .rematch ∧ vs = [] ∧ r = .rematch) ∨
        ∃ n v, k = .increment ∧ vs = [v] ∧ signedField v = .ok n ∧ r = .increment n := by
  cases k with
  | increment =>
    rw [ofTagged, map_eq_ok_iff]
    simp only [reduceCtorEq, false_and, false_or, true_and]
    constructor
    · rintro ⟨n, hn, rfl⟩
      rw [oneField] at hn
      obtain ⟨⟨n', rest⟩, hfirst, hn⟩ := bind_eq_ok_iff.1 hn
      obtain ⟨_, hend, same⟩ := bind_eq_ok_iff.1 hn
      cases same
      cases vs with
      | nil => cases hfirst
      | cons v vs =>
        obtain ⟨_, hv, same⟩ := map_eq_ok_iff.1 hfirst
        cases same
        cases rest with
        | nil => exact ⟨n, v, rfl, hv, rfl⟩
        | cons => cases hend
    · rintro ⟨n, v, rfl, hn, rfl⟩
      refine ⟨n, ?_, rfl⟩
      rw [oneField, positioned, hn]
      rfl
  | rematch =>
    rw [ofTagged, map_eq_ok_iff]
    cases vs with
    | nil => simp [noFields, noFurther, eq_comm]
    | cons => simp [noFields, noFurther]

/-- A frame that passes the inspection is read in the same way without it. -/
lemma decode_of_ofFrame (h : ofFrame s = .ok r) : decode s = .ok r := by
  obtain ⟨_, _, _, hr⟩ := ofFrame_eq_ok_iff.1 h
  exact decode_eq_ok_iff.2 hr

/-- A pair of a name and a square is read without the inspection. -/
lemma decode_of_isPair {n : Int64} (h : IsPair s v) (hv : signedField v = .ok n) :
    decode s = .ok (.increment n) := by
  obtain ⟨rest, hrest, ht⟩ := readTagged_of_list family (k := .increment) h rfl
  exact decode_eq_ok_iff.2 (decodeTagged_eq_ok_iff.2
    ⟨_, rest, ht, ofTagged_list_iff.2 (.inr ⟨n, v, rfl, rfl, hv, rfl⟩), hrest⟩)

/-- A frame that is read without the inspection passes it, or is a pair. -/
lemma ofFrame_or_isPair (h : decode s = .ok r) :
    ofFrame s = .ok r ∨ ∃ n v, r = .increment n ∧ IsPair s v ∧ signedField v = .ok n := by
  obtain ⟨⟨k, content⟩, rest, ht, hr, hrest⟩ := decodeTagged_eq_ok_iff.1 (decode_eq_ok_iff.1 h)
  obtain ⟨w, body, ms, p, hw, hbody, hp, hk, rfl, rfl⟩ | ⟨w, u, hw, rfl⟩ := readTagged_inv ht
  · exact .inl (ofFrame_of_object ⟨w, body, rest, hw, hbody, hrest, rfl⟩ hp hk hr)
  · obtain ⟨x, vs, name, rfl, text⟩ := isText_of_readTagged hw ht hrest
    obtain ⟨rfl, rfl, rfl⟩ | ⟨n, v, rfl, rfl, hn, rfl⟩ := ofTagged_list_iff.1 hr
    · obtain ⟨_, wrong⟩ | ⟨rfl, _⟩ := kind_of_name.1 name
      · cases wrong
      · exact .inl (ofFrame_of_written (.rematchList text))
    · obtain ⟨rfl, _⟩ | ⟨_, wrong⟩ := kind_of_name.1 name
      · exact .inr ⟨n, v, rfl, text, hn⟩
      · cases wrong

/-- A list begins with its bracket, behind blanks. -/
lemma head?_of_isPair (h : IsPair s v) : (skipBlanks s).head? = some openList := by
  obtain ⟨w, _, _, _, _, hw, _, _, _, _, rfl⟩ := isText_list_iff.1 h
  rw [skipBlanks_append hw, skipBlanks_cons (by decide)]
  rfl

/-- A pair does not pass the inspection: no kind is found in a list of two elements. -/
lemma ofFrame_of_isPair (h : IsPair s v) : ofFrame s ≠ .ok r := by
  intro passes
  obtain ⟨x, hx, _⟩ := ofFrame_eq_ok_iff.1 passes
  obtain ⟨w, w₁, t, u, w₃, hw, hw₁, ht, hu, hw₃, hs⟩ := isText_list_iff.1 h
  have one : IsText s (.list [.text x]) := by
    rw [hs] at hx ⊢
    exact isText_of_decodeKind hw hx
  -- so one text would have two values
  have same : parse s = .ok (.list [.text x]) := parse_eq_ok_iff.2 one
  rw [parse_eq_ok_iff.2 h] at same
  cases same

/-- For every frame: a request that is found by looking at the kind first is found at once; unless
the frame begins with the bracket of a list, behind blanks, a request that is found at once is found
by looking at the kind first; and without that condition, what is found at once is what is found by
looking at the kind first or is the move on a square that stands beside its name in a list, and such
a list is always refused when the kind is looked at first. -/
theorem decode_iff_ofFrame_or_pair (s : Bytes) :
    (∀ r, ofFrame s = .ok r → decode s = .ok r) ∧
    ((skipBlanks s).head? ≠ some openList → ∀ r, decode s = .ok r → ofFrame s = .ok r) ∧
    (∀ r, decode s = .ok r ↔ ofFrame s = .ok r ∨
      ∃ n v, r = .increment n ∧ IsText s (.list [.text "INCREMENT", v]) ∧ signedField v = .ok n) ∧
    ∀ v, IsText s (.list [.text "INCREMENT", v]) → ∀ r, ofFrame s ≠ .ok r := by
  refine ⟨fun r => decode_of_ofFrame, fun object r h => ?_, fun r => ⟨ofFrame_or_isPair, ?_⟩,
    fun v pair r => ofFrame_of_isPair pair⟩
  · obtain passes | ⟨_, _, _, pair, _⟩ := ofFrame_or_isPair h
    · exact passes
    · exact absurd (head?_of_isPair pair) object
  · rintro (passes | ⟨n, v, rfl, pair, hv⟩)
    · exact decode_of_ofFrame passes
    · exact decode_of_isPair pair hv

/-- A list of the name of a move and a square. -/
def pairFrame : Bytes := Utf8.ofString "[\"INCREMENT\", 12]"

/-- The same move in an object, behind a member that is passed over. -/
def memberFrame : Bytes :=
  Utf8.ofString " \x7b\"by\": [0, null], \"square\": 12, \"type\": \"INCREMENT\"\x7d"

/-- The pair is read at once and refused when the kind is looked at; the object is read either way.
-/
theorem decode_iff_ofFrame_or_pair_middle :
    decode pairFrame = .ok (.increment 12) ∧ ofFrame pairFrame ≠ .ok (.increment 12) ∧
    (skipBlanks memberFrame).head? ≠ some openList ∧
    decode memberFrame = .ok (.increment 12) ∧ ofFrame memberFrame = .ok (.increment 12) := by
  have paired : decode pairFrame = .ok (.increment 12) := by decide +kernel
  have object : (skipBlanks memberFrame).head? ≠ some openList := by decide +kernel
  have read : decode memberFrame = .ok (.increment 12) := by decide +kernel
  obtain ⟨_, _, pairs, refused⟩ := decode_iff_ofFrame_or_pair pairFrame
  obtain ⟨_, v, _, pair, _⟩ := ((pairs _).1 paired).resolve_left (by decide +kernel)
  obtain ⟨_, objects, _, _⟩ := decode_iff_ofFrame_or_pair memberFrame
  exact ⟨paired, refused v pair _, object, read, objects object _ read⟩

end Request

end ParityDuel
