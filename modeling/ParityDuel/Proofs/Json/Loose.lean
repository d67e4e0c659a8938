import ParityDuel.Proofs.Json.Elements

/-!
# What can be passed over

A second grammar of values, without meanings: the bytes that are passed over where nobody asks what
they denote. It has the words, the punctuation and the shape of numbers and escapes of the first
one. It asks neither whether a number is in range, nor whether surrogates come in pairs, nor whether
the bytes of a text are characters, and it sets no limit to the nesting of brackets. Whatever
denotes a value is loose (`Denotes.loose`).
-/

namespace ParityDuel.Json

/-- What may follow a backslash. -/
inductive LooseEscape : Bytes → Prop where
  | short {b : UInt8} {c : Char} :
    shortEscape? b = some c →
    LooseEscape [b]
  | hex {h : Bytes} {n : Nat} :
    Hex h n →
    LooseEscape (hexMark :: h)

/-- What may stand between quotes. -/
inductive LooseBody : Bytes → Prop where
  | nil :
    LooseBody []
  | plain {b : UInt8} {s : Bytes} :
    b ≠ quote → b ≠ backslash → 0x20 ≤ b →
    LooseBody s →
    LooseBody (b :: s)
  | escape {e s : Bytes} :
    LooseEscape e →
    LooseBody s →
    LooseBody (backslash :: e ++ s)

/-- A value without elements. -/
inductive LooseScalar : Bytes → Prop where
  | nullWord :
    LooseScalar (asciiBytes "null")
  | trueWord :
    LooseScalar (asciiBytes "true")
  | falseWord :
    LooseScalar (asciiBytes "false")
  | number {negative : Bool} {ds f e : Bytes} :
    Whole ds → Fraction f → Exponent e →
    LooseScalar (signBytes negative ++ (ds ++ (f ++ e)))
  | text {body : Bytes} :
    LooseBody body →
    LooseScalar (quote :: body ++ [quote])

/-- What stands between brackets. -/
def LooseEnclosed (P : Bytes → Prop) (s : Bytes) : Prop :=
  ∃ units : List Unit, Enclosed (fun t _ => P t) s units

/-- A member of an object: a name, a colon and a content. -/
inductive LooseEntry (P : Bytes → Prop) : Bytes → Prop where
  | mk {body w w' t : Bytes} :
    LooseBody body → Blanks w → Blanks w' → P t →
    LooseEntry P (quote :: body ++ [quote] ++ (w ++ colon :: (w' ++ t)))

/-- A list or an object. -/
inductive LooseBrackets (P : Bytes → Prop) : Bytes → Prop where
  | list {s : Bytes} :
    LooseEnclosed P s →
    LooseBrackets P (openList :: s ++ [closeList])
  | object {s : Bytes} :
    LooseEnclosed (LooseEntry P) s →
    LooseBrackets P (openObject :: s ++ [closeObject])

/-- The bytes of a value that is passed over, with at most so many brackets open at a time. -/
def LooseWithin : Nat → Bytes → Prop
  | 0, t => LooseScalar t
  | depth + 1, t => LooseScalar t ∨ LooseBrackets (LooseWithin depth) t

/-- The bytes of a value that is passed over. -/
def Loose (t : Bytes) : Prop := ∃ depth, LooseWithin depth t

variable {s t e out : Bytes} {c : Char} {v : Value} {depth : Nat} {P Q : Bytes → Prop}

section Scalars

/-- Two surrogates are two escapes. -/
lemma Escape.loose (he : Escape e c) (hs : LooseBody s) : LooseBody (backslash :: e ++ s) := by
  cases he with
  | short hb => exact .escape (.short hb) hs
  | hex he =>
    cases he with
    | unit hh _ _ => exact .escape (.hex hh) hs
    | @pair h h' _ _ hh hh' _ _ =>
      have pair := LooseBody.escape (.hex hh) (.escape (.hex hh') hs)
      simpa only [List.cons_append, List.append_assoc] using pair

/-- Characters and escapes that make up a text can be passed over. -/
lemma TextBody.loose (h : TextBody s out) : LooseBody s := by
  induction h with
  | nil => exact .nil
  | plain hq hb large _ ih => exact .plain hq hb large ih
  | escape he _ ih => exact he.loose ih

/-- A text can be passed over. -/
lemma TextLiteral.loose {x : String} (h : TextLiteral t x) : LooseScalar t := by
  obtain ⟨body, rfl, hbody⟩ := h
  exact .text hbody.loose

/-- A whole number of any size can be passed over, with or without a sign. -/
lemma Whole.loose (negative : Bool) (h : Whole t) : LooseScalar (signBytes negative ++ t) := by
  have number : LooseScalar (signBytes negative ++ (t ++ ([] ++ []))) := .number h .none .none
  rwa [List.append_nil, List.append_nil] at number

/-- A literal of an integer can be passed over. -/
lemma IntegerLiteral.loose {n : Int} (h : IntegerLiteral t n) : LooseScalar t := by
  cases h with
  | natural whole => exact whole.loose false
  | negative whole _ => exact whole.loose true

/-- A number can be passed over. -/
lemma Number.loose (h : Number t v) : LooseScalar t := by
  cases h with
  | unsigned literal => exact literal.loose
  | signed literal _ => exact literal.loose
  | float whole fraction exponent _ => exact .number whole fraction exponent

/-- A scalar can be passed over. -/
lemma Scalar.loose (h : Scalar t v) : LooseScalar t := by
  cases h with
  | nullWord => exact .nullWord
  | trueWord => exact .trueWord
  | falseWord => exact .falseWord
  | number hn => exact hn.loose
  | text hx => exact hx.loose

end Scalars

section Brackets

/-- One notion of an element may replace another for pieces no longer than the whole. -/
lemma LooseEnclosed.imp (h : LooseEnclosed P s) (hPQ : ∀ t, t.length ≤ s.length → P t → Q t) :
    LooseEnclosed Q s := by
  obtain ⟨units, hs⟩ := h
  exact ⟨units, hs.imp fun t _ => hPQ t⟩

/-- What is true of all that fits between the brackets. -/
lemma LooseBrackets.imp (h : LooseBrackets P t) (hPQ : ∀ s, s.length < t.length → P s → Q s) :
    LooseBrackets Q t := by
  cases h with
  | list hs =>
    refine .list (hs.imp fun s shorter => hPQ s ?_)
    simp only [List.length_append, List.length_cons]
    omega
  | object hs =>
    refine .object (hs.imp fun s shorter hm => ?_)
    cases hm with
    | mk key hw hw' ht =>
      refine .mk key hw hw' (hPQ _ ?_ ht)
      simp only [List.length_append, List.length_cons] at shorter ⊢
      omega

/-- A list or an object of what can be passed over can be passed over. -/
lemma Bracketed.loose {R : Bytes → Value → Prop} (h : Bracketed R t v)
    (hRP : ∀ s v, R s v → P s) : LooseBrackets P t := by
  cases h with
  | @list s items hs => exact .list ⟨_, hs.map (f := fun _ => ()) fun t v _ => hRP t v⟩
  | object hs =>
    refine .object ⟨_, hs.map (f := fun _ => ()) fun t m _ hm => ?_⟩
    cases hm with
    | mk key hw hw' hv =>
      obtain ⟨body, rfl, hbody⟩ := key
      exact .mk hbody.loose hw hw' (hRP _ _ hv)

end Brackets

section Values

/-- A scalar can be passed over at every depth. -/
lemma LooseWithin.of_scalar (h : LooseScalar t) : LooseWithin depth t := by
  cases depth with
  | zero => exact h
  | succ depth => exact .inl h

/-- What denotes a value can be passed over, at the same depth. -/
lemma Denotes.looseWithin (h : Denotes depth t v) : LooseWithin depth t := by
  induction depth generalizing t v with
  | zero => exact Scalar.loose h
  | succ depth ih =>
    obtain h | h := h
    · exact .inl h.loose
    · exact .inr (h.loose fun _ _ => ih)

/-- What denotes a value can be passed over. -/
lemma Denotes.loose (h : Denotes depth t v) : Loose t := ⟨depth, h.looseWithin⟩

end Values

section Openings

/-- A digit, a sign, a quote or the first letter of a word begins a value without elements. -/
lemma LooseScalar.begins (h : LooseScalar t) : ∃ b u, t = b :: u ∧ isBlank b = false ∧
    b ∉ [openList, closeList, openObject, closeObject] := by
  have digit {b : UInt8} (hb : isDigit b = true) :
      isBlank b = false ∧ b ∉ [openList, closeList, openObject, closeObject] := by
    refine ⟨isBlank_of_isDigit hb, fun bracket => ?_⟩
    have other : ∀ c ∈ [openList, closeList, openObject, closeObject], isDigit c = false := by
      simp only [List.forall_mem_cons]
      exact ⟨rfl, rfl, rfl, rfl, nofun⟩
    exact ne_of_isDigit hb (other b bracket) rfl
  cases h with
  | nullWord => exact ⟨0x6E, _, rfl, by decide⟩
  | trueWord => exact ⟨0x74, _, rfl, by decide⟩
  | falseWord => exact ⟨0x66, _, rfl, by decide⟩
  | @number negative _ _ _ whole _ _ =>
    cases negative with
    | true => exact ⟨minus, _, rfl, by decide⟩
    | false =>
      cases whole with
      | zero => exact ⟨zeroDigit, _, rfl, by decide⟩
      | digits hb _ _ => exact ⟨_, _, rfl, digit hb⟩
  | text _ => exact ⟨quote, _, rfl, by decide⟩

/-- A scalar begins with neither a blank nor a closing bracket. -/
lemma LooseScalar.opens (h : LooseScalar t) : Opens t := by
  obtain ⟨b, u, rfl, hb, bracket⟩ := h.begins
  simp only [List.mem_cons, not_or] at bracket
  exact ⟨b, u, rfl, hb, bracket.2.1, bracket.2.2.2.1⟩

/-- A value without elements opens no bracket. -/
lemma LooseScalar.ne_bracket {b : UInt8} {u : Bytes} (h : LooseScalar (b :: u)) :
    b ≠ openList ∧ b ≠ openObject := by
  obtain ⟨b, u, same, _, bracket⟩ := h.begins
  cases same
  simp only [List.mem_cons, not_or] at bracket
  exact ⟨bracket.1, bracket.2.2.1⟩

/-- Nor does a member, which begins with a quote. -/
lemma LooseEntry.opens (h : LooseEntry P t) : Opens t := by
  cases h with
  | mk _ _ _ _ => exact ⟨quote, _, rfl, by decide, by decide, by decide⟩

/-- Nor does anything else that can be passed over. -/
lemma LooseWithin.opens (h : LooseWithin depth t) : Opens t := by
  cases depth with
  | zero => exact LooseScalar.opens h
  | succ depth =>
    obtain h | ⟨_⟩ | ⟨_⟩ := h
    · exact h.opens
    · exact ⟨openList, _, rfl, by decide, by decide, by decide⟩
    · exact ⟨openObject, _, rfl, by decide, by decide, by decide⟩

/-- Loose bytes begin with no blank, and with no bracket that closes. -/
lemma Loose.opens (h : Loose t) : Opens t := by
  obtain ⟨_, h⟩ := h
  exact h.opens

/-- No more brackets are open at a time than there are bytes. -/
lemma LooseWithin.of_length {d e : Nat} (h : LooseWithin d t) (he : t.length ≤ e) :
    LooseWithin e t := by
  -- By induction on the depth that was allowed; what stands between brackets is shorter than what
  -- stands with them, so that the bound on the length decreases along with it.
  induction d generalizing e t with
  | zero => exact .of_scalar h
  | succ d ih =>
    obtain h | h := h
    · exact .of_scalar h
    · obtain ⟨b, u, rfl, _⟩ : Opens t := LooseWithin.opens (show LooseWithin (d + 1) t from .inr h)
      cases e with
      | zero => exact absurd he (Nat.not_succ_le_zero _)
      | succ e => exact .inr (h.imp fun _ shorter h' => ih h' (by omega))

end Openings

section Contents

/-- Brackets are passed over however deep they are nested. -/
lemma loose_nested (n : Nat) :
    Loose (List.replicate (n + 1) openList ++ List.replicate (n + 1) closeList) := by
  induction n with
  | zero =>
    have none : LooseEnclosed (LooseWithin 0) [] := ⟨[], .nil nofun⟩
    exact ⟨1, .inr (.list none)⟩
  | succ n ih =>
    obtain ⟨depth, inner⟩ := ih
    have one : LooseEnclosed (LooseWithin depth)
        (List.replicate (n + 1) openList ++ List.replicate (n + 1) closeList) := by
      refine ⟨[()], ?_⟩
      have alone := Enclosed.cons (P := fun t (_ : Unit) => LooseWithin depth t) (a := ())
        (w := []) nofun inner (.nil (w := []) nofun)
      rwa [List.append_nil, List.nil_append] at alone
    refine ⟨depth + 1, .inr ?_⟩
    rw [List.replicate_succ (n := n + 1), List.replicate_succ' (n := n + 1) (a := closeList),
      List.cons_append, ← List.append_assoc]
    exact .list one

/-- A hexadecimal escape is passed over even if its number is a surrogate. -/
lemma loose_escape {h : Bytes} {n : Nat} (hh : Hex h n) :
    Loose (quote :: (backslash :: hexMark :: h) ++ [quote]) := by
  have body := LooseBody.escape (.hex hh) .nil
  rw [List.append_nil] at body
  exact ⟨0, .text body⟩

/-- A text is passed over even if its bytes are no characters. -/
lemma loose_bytes {bs : Bytes} (h : ∀ b ∈ bs, b ≠ quote ∧ b ≠ backslash ∧ 0x20 ≤ b) :
    Loose (quote :: bs ++ [quote]) := by
  refine ⟨0, .text ?_⟩
  induction bs with
  | nil => exact .nil
  | cons b bs ih =>
    obtain ⟨⟨hq, hb, large⟩, others⟩ := List.forall_mem_cons.1 h
    exact .plain hq hb large (ih others)

end Contents

end ParityDuel.Json
