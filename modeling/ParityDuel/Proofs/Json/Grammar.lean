import Mathlib.Tactic.Lemma
import ParityDuel.Json.Tree

/-!
# The grammar of JSON texts

Which bytes are a JSON text, and of which value. `TextLiteral` and `Number` are the literals with
something to say about their bytes, `Scalar` the values without elements. `Enclosed` is what may
stand between brackets, whatever its elements are; `Denotes depth` are the values with at most
`depth` brackets open at a time, and `IsText` is a whole text. No reader has a part in it, but for
numbers of double precision, where the reader's way of rounding tells the value.
-/

namespace ParityDuel.Json

/-- Bytes that may stand between tokens. -/
def Blanks (w : Bytes) : Prop := ∀ b ∈ w, isBlank b = true

section Texts

/-- Four digits and the number they stand for. -/
inductive Hex : Bytes → Nat → Prop where
  | mk {a b c d : UInt8} {w x y z : Nat} :
    hexValue? a = some w → hexValue? b = some x → hexValue? c = some y → hexValue? d = some z →
    Hex [a, b, c, d] (((w * 16 + x) * 16 + y) * 16 + z)

/-- What may follow the mark of a hexadecimal escape, and the character it stands for. A surrogate
is no character; a leading and a trailing one together are. -/
inductive HexEscape : Bytes → Char → Prop where
  | unit {h : Bytes} {n : Nat} :
    Hex h n → isLeading n = false → isTrailing n = false →
    HexEscape h (Char.ofNat n)
  | pair {h h' : Bytes} {m n : Nat} :
    Hex h m → Hex h' n → isLeading m = true → isTrailing n = true →
    HexEscape (h ++ backslash :: hexMark :: h') (joined m n)

/-- What may follow a backslash, and the character it stands for. -/
inductive Escape : Bytes → Char → Prop where
  | short {b : UInt8} {c : Char} :
    shortEscape? b = some c →
    Escape [b] c
  | hex {e : Bytes} {c : Char} :
    HexEscape e c →
    Escape (hexMark :: e) c

/-- What may stand between quotes, and the bytes it stands for. -/
inductive TextBody : Bytes → Bytes → Prop where
  | nil :
    TextBody [] []
  | plain {b : UInt8} {s out : Bytes} :
    b ≠ quote → b ≠ backslash → 0x20 ≤ b →
    TextBody s out →
    TextBody (b :: s) (b :: out)
  | escape {e s out : Bytes} {c : Char} :
    Escape e c →
    TextBody s out →
    TextBody (backslash :: e ++ s) (Utf8.encode c ++ out)

/-- A text in quotes. The bytes between the quotes stand for the bytes of its characters. -/
def TextLiteral (t : Bytes) (x : String) : Prop :=
  ∃ body, t = quote :: body ++ [quote] ∧ TextBody body (Utf8.ofString x)

end Texts

section Numbers

/-- A byte list of digits only. -/
def AllDigits (ds : Bytes) : Prop := ∀ b ∈ ds, isDigit b = true

/-- The digits of a whole number, of which the first is zero only if it is the only one. -/
inductive Whole : Bytes → Prop where
  | zero :
    Whole [zeroDigit]
  | digits {b : UInt8} {ds : Bytes} :
    isDigit b = true → b ≠ zeroDigit → AllDigits ds →
    Whole (b :: ds)

/-- The number that digits stand for behind others that stand for `n`. -/
def numeralFrom (n : Nat) (ds : Bytes) : Nat := ds.foldl (fun n b => n * 10 + digitValue b) n

/-- The number that digits stand for. -/
def numeral (ds : Bytes) : Nat := numeralFrom 0 ds

/-- A point and at least one digit, or nothing. -/
inductive Fraction : Bytes → Prop where
  | none :
    Fraction []
  | some {b : UInt8} {ds : Bytes} :
    isDigit b = true → AllDigits ds →
    Fraction (point :: b :: ds)

/-- Nothing, or the sign of an exponent. -/
inductive ExponentSign : Bytes → Prop where
  | none :
    ExponentSign []
  | plus :
    ExponentSign [plus]
  | minus :
    ExponentSign [minus]

/-- An exponent mark, a sign or none and at least one digit, or nothing at all. -/
inductive Exponent : Bytes → Prop where
  | none :
    Exponent []
  | some {m b : UInt8} {sign ds : Bytes} :
    isExponentMark m = true → ExponentSign sign → isDigit b = true → AllDigits ds →
    Exponent (m :: (sign ++ b :: ds))

/-- A number with neither fraction nor exponent. The literal `-0` is not one. -/
inductive IntegerLiteral : Bytes → Int → Prop where
  | natural {ds : Bytes} :
    Whole ds →
    IntegerLiteral ds (numeral ds)
  | negative {ds : Bytes} :
    Whole ds → 0 < numeral ds →
    IntegerLiteral (minus :: ds) (-(numeral ds : Int))

/-- The sign of a number. -/
def signBytes (negative : Bool) : Bytes := if negative then [minus] else []

/-- A number and its value. One that is not an integer literal, or not in the range of words and
negative 64-bit numbers, is of double precision; how far its literal is rounded, and whether it is
in range at all, is what its digits are read as where nothing follows them. -/
inductive Number : Bytes → Value → Prop where
  | unsigned {t : Bytes} {n : UInt64} :
    IntegerLiteral t n.toNat →
    Number t (.unsigned n)
  | signed {t : Bytes} {n : Int64} :
    IntegerLiteral t n.toInt → n.toInt < 0 →
    Number t (.signed n)
  | float {negative : Bool} {ds f e : Bytes} {x : Binary64} :
    Whole ds → Fraction f → Exponent e →
    readNumber negative (ds ++ (f ++ e)) = .ok (.float x, []) →
    Number (signBytes negative ++ (ds ++ (f ++ e))) (.float x)

end Numbers

/-- A value without elements. -/
inductive Scalar : Bytes → Value → Prop where
  | nullWord :
    Scalar (asciiBytes "null") .null
  | trueWord :
    Scalar (asciiBytes "true") (.boolean true)
  | falseWord :
    Scalar (asciiBytes "false") (.boolean false)
  | number {t : Bytes} {v : Value} :
    Number t v →
    Scalar t v
  | text {t : Bytes} {x : String} :
    TextLiteral t x →
    Scalar t (.text x)

section Brackets

variable {α : Type}

/-- What stands behind an element and before the closing bracket: blanks, or a comma and further
elements. -/
inductive Following (P : Bytes → α → Prop) : Bytes → List α → Prop where
  | nil {w : Bytes} :
    Blanks w →
    Following P w []
  | cons {w w' t s : Bytes} {a : α} {as : List α} :
    Blanks w → Blanks w' → P t a →
    Following P s as →
    Following P (w ++ comma :: (w' ++ (t ++ s))) (a :: as)

/-- What stands between brackets. -/
inductive Enclosed (P : Bytes → α → Prop) : Bytes → List α → Prop where
  | nil {w : Bytes} :
    Blanks w →
    Enclosed P w []
  | cons {w t s : Bytes} {a : α} {as : List α} :
    Blanks w → P t a →
    Following P s as →
    Enclosed P (w ++ (t ++ s)) (a :: as)

/-- A member of an object: its name, a colon and its content. -/
inductive Entry (P : Bytes → α → Prop) : Bytes → String × α → Prop where
  | mk {key w w' t : Bytes} {name : String} {a : α} :
    TextLiteral key name → Blanks w → Blanks w' → P t a →
    Entry P (key ++ (w ++ colon :: (w' ++ t))) (name, a)

/-- A list or an object. -/
inductive Bracketed (P : Bytes → Value → Prop) : Bytes → Value → Prop where
  | list {s : Bytes} {items : List Value} :
    Enclosed P s items →
    Bracketed P (openList :: s ++ [closeList]) (.list items)
  | object {s : Bytes} {members : List (String × Value)} :
    Enclosed (Entry P) s members →
    Bracketed P (openObject :: s ++ [closeObject]) (.object members)

end Brackets

/-- The bytes of a value with at most so many brackets open at a time. -/
def Denotes : Nat → Bytes → Value → Prop
  | 0, t, v => Scalar t v
  | depth + 1, t, v => Scalar t v ∨ Bracketed (Denotes depth) t v

/-- A whole text: one value, and blanks around it. -/
def IsText (s : Bytes) (v : Value) : Prop :=
  ∃ w t w', Blanks w ∧ Denotes depthLimit t v ∧ Blanks w' ∧ s = w ++ (t ++ w')

section Elements

variable {α β : Type} {s t : Bytes} {v : Value}

/-- The elements between brackets stand there one by one. -/
lemma Following.exists_of_mem {P : Bytes → α → Prop} {as : List α} (h : Following P s as) {a : α}
    (ha : a ∈ as) : ∃ t, P t a := by
  induction h with
  | nil => cases ha
  | cons _ _ hp _ ih =>
    obtain rfl | ha := List.mem_cons.1 ha
    · exact ⟨_, hp⟩
    · exact ih ha

/-- The same from the first element on. -/
lemma Enclosed.exists_of_mem {P : Bytes → α → Prop} {as : List α} (h : Enclosed P s as) {a : α}
    (ha : a ∈ as) : ∃ t, P t a := by
  cases h with
  | nil => cases ha
  | cons _ hp hs =>
    obtain rfl | ha := List.mem_cons.1 ha
    · exact ⟨_, hp⟩
    · exact Following.exists_of_mem hs ha

/-- Which bytes stand for an element may be told in more or less detail. -/
lemma Following.map_iff {P : Bytes → α → Prop} {Q : Bytes → β → Prop} {f : β → α}
    (hPQ : ∀ t a, P t a ↔ ∃ b, Q t b ∧ a = f b) {as : List α} :
    Following P s as ↔ ∃ bs, Following Q s bs ∧ as = bs.map f := by
  constructor
  · intro h
    induction h with
    | nil hw => exact ⟨[], .nil hw, rfl⟩
    | cons hw hw' ha _ ih =>
      obtain ⟨b, hb, rfl⟩ := (hPQ _ _).1 ha
      obtain ⟨bs, hs, rfl⟩ := ih
      exact ⟨b :: bs, .cons hw hw' hb hs, rfl⟩
  · rintro ⟨bs, h, rfl⟩
    induction h with
    | nil hw => exact .nil hw
    | cons hw hw' hb _ ih => exact .cons hw hw' ((hPQ _ _).2 ⟨_, hb, rfl⟩) ih

/-- The same between brackets. -/
lemma Enclosed.map_iff {P : Bytes → α → Prop} {Q : Bytes → β → Prop} {f : β → α}
    (hPQ : ∀ t a, P t a ↔ ∃ b, Q t b ∧ a = f b) {as : List α} :
    Enclosed P s as ↔ ∃ bs, Enclosed Q s bs ∧ as = bs.map f := by
  constructor
  · intro h
    cases h with
    | nil hw => exact ⟨[], .nil hw, rfl⟩
    | cons hw ha hs =>
      obtain ⟨b, hb, rfl⟩ := (hPQ _ _).1 ha
      obtain ⟨bs, hbs, rfl⟩ := (Following.map_iff hPQ).1 hs
      exact ⟨b :: bs, .cons hw hb hbs, rfl⟩
  · rintro ⟨bs, h, rfl⟩
    cases h with
    | nil hw => exact .nil hw
    | cons hw hb hs =>
      exact .cons hw ((hPQ _ _).2 ⟨_, hb, rfl⟩) ((Following.map_iff hPQ).2 ⟨_, hs, rfl⟩)

/-- Elements may be mapped to others that the same bytes stand for. -/
lemma Following.map {P : Bytes → α → Prop} {Q : Bytes → β → Prop} {f : α → β} {as : List α}
    (h : Following P s as) (hPQ : ∀ t, ∀ a ∈ as, P t a → Q t (f a)) : Following Q s (as.map f) := by
  induction h with
  | nil hw => exact .nil hw
  | @cons w w' t s a as hw hw' ha _ ih =>
    obtain ⟨first, others⟩ := List.forall_mem_cons.1 (fun a ha t => hPQ t a ha)
    exact .cons hw hw' (first t ha) (ih fun t a ha => others a ha t)

/-- More may be told of the elements that stand between brackets. -/
lemma Enclosed.map {P : Bytes → α → Prop} {Q : Bytes → β → Prop} {f : α → β} {as : List α}
    (h : Enclosed P s as) (hPQ : ∀ t, ∀ a ∈ as, P t a → Q t (f a)) : Enclosed Q s (as.map f) := by
  cases h with
  | nil hw => exact .nil hw
  | @cons w t s a as hw ha hs =>
    obtain ⟨first, others⟩ := List.forall_mem_cons.1 (fun a ha t => hPQ t a ha)
    exact .cons hw (first t ha) (hs.map fun t a ha => others a ha t)

/-- One notion of an element may replace another for pieces no longer than the whole. -/
lemma Following.imp {P Q : Bytes → α → Prop} {as : List α} (h : Following P s as)
    (hPQ : ∀ t a, t.length ≤ s.length → P t a → Q t a) : Following Q s as := by
  induction h with
  | nil hw => exact .nil hw
  | @cons w w' t s a as hw hw' ha _ ih =>
    refine .cons hw hw' (hPQ t a ?_ ha) (ih fun t' a' shorter => hPQ t' a' ?_)
    · simp only [List.length_append, List.length_cons]
      omega
    · simp only [List.length_append, List.length_cons]
      omega

/-- What is true of all elements that fit between the brackets. -/
lemma Enclosed.imp {P Q : Bytes → α → Prop} {as : List α} (h : Enclosed P s as)
    (hPQ : ∀ t a, t.length ≤ s.length → P t a → Q t a) : Enclosed Q s as := by
  cases h with
  | nil hw => exact .nil hw
  | @cons w t s a as hw ha hs =>
    refine .cons hw (hPQ t a ?_ ha) (hs.imp fun t' a' shorter => hPQ t' a' ?_)
    · simp only [List.length_append]
      omega
    · simp only [List.length_append]
      omega

/-- The same for the content of a member. -/
lemma Entry.imp {P Q : Bytes → α → Prop} {m : String × α} (h : Entry P s m)
    (hPQ : ∀ t a, t.length ≤ s.length → P t a → Q t a) : Entry Q s m := by
  cases h with
  | mk key hw hw' ha =>
    refine .mk key hw hw' (hPQ _ _ ?_ ha)
    simp only [List.length_append, List.length_cons]
    omega

/-- Within brackets this holds for shorter pieces. -/
lemma Bracketed.imp {P Q : Bytes → Value → Prop} (h : Bracketed P t v)
    (hPQ : ∀ t' v', t'.length < t.length → P t' v' → Q t' v') : Bracketed Q t v := by
  cases h with
  | list hs =>
    refine .list (hs.imp fun t' v' shorter => hPQ t' v' ?_)
    simp only [List.length_append, List.length_cons]
    omega
  | object hs =>
    refine .object (hs.imp fun t' m shorter hm => hm.imp fun t'' v' shorter' => hPQ t'' v' ?_)
    simp only [List.length_append, List.length_cons]
    omega

/-- A scalar denotes its value at every depth. -/
lemma Denotes.of_scalar (h : Scalar t v) : Denotes depth t v := by
  cases depth with
  | zero => exact h
  | succ depth => exact .inl h

end Elements

end ParityDuel.Json
