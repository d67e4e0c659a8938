import ParityDuel.Proofs.Json.Scan

/-!
# Faults of readers

Whatever goes wrong while a value is read is a matter of syntax: the readers of this format know
nothing of what a message should hold (`syntactic_of_readValue`). There is one lemma for each of the
readers, in the order in which they are made of each other.
-/

namespace ParityDuel.Json

/-- Whether a cause is about the form of a text. The others are about what a message should hold. -/
@[grind] def Cause.isSyntactic : Cause → Bool
  | wrongType .. | wrongValue .. | wrongLength .. | unknownVariant .. | missingField ..
  | duplicateField .. => false
  | _ => true

/-- The cause of a fault does not depend on where it was noticed. -/
@[simp, grind =] lemma cause_before (c : Cause) (rest : Bytes) : (Fault.before c rest).cause = c :=
  rfl

/-- The cause of a fault does not depend on what was peeked at. -/
@[simp, grind =] lemma cause_peeking (c : Cause) (rest : Bytes) :
    (Fault.peeking c rest).cause = c := rfl

/-- The cause of a fault without a place is the one it was given. -/
@[simp, grind =] lemma cause_within (c : Cause) : (Fault.within c).cause = c := rfl

/-- A change of what is read is no source of faults. -/
@[grind →] lemma eq_error_of_map {ε α β : Type} {g : α → β} {x : Except ε α} {f : ε}
    (h : x.map g = .error f) : x = .error f := by
  cases x with
  | error =>
    cases h
    rfl
  | ok => cases h

variable {s t w : Bytes} {f : Fault} {negative : Bool} {k d n : Nat} {x : Int}

section Tokens

/-- A word fails on its letters. -/
@[grind →] lemma syntactic_of_word (h : word w s = .error f) : f.cause.isSyntactic = true := by
  fun_induction word w s <;> grind

/-- A colon fails only by not being there. -/
@[grind →] lemma syntactic_of_readColon (h : readColon s = .error f) :
    f.cause.isSyntactic = true := by
  unfold readColon at h
  grind

/-- Something that is left over is a matter of syntax. -/
@[grind →] lemma syntactic_of_endOfText (h : endOfText s = .error f) :
    f.cause.isSyntactic = true := by
  unfold endOfText at h
  grind

end Tokens

section Texts

/-- Four digits fail on one that is none. -/
@[grind →] lemma syntactic_of_readHex (h : readHex s = .error f) : f.cause.isSyntactic = true := by
  unfold readHex at h
  grind

/-- A second surrogate fails on its form. -/
@[grind →] lemma syntactic_of_readTrailing (h : readTrailing n s = .error f) :
    f.cause.isSyntactic = true := by
  unfold readTrailing at h
  grind

/-- A hexadecimal escape fails on its digits or on a lone surrogate. -/
@[grind →] lemma syntactic_of_readHexEscape (h : readHexEscape s = .error f) :
    f.cause.isSyntactic = true := by
  unfold readHexEscape at h
  grind

/-- An escape fails on its mark or on what follows it. -/
@[grind →] lemma syntactic_of_readEscape (h : readEscape s = .error f) :
    f.cause.isSyntactic = true := by
  unfold readEscape at h
  grind

/-- The bytes of a text fail on an escape, a control character or the end. -/
@[grind →] lemma syntactic_of_readTextBytes (h : readTextBytes s = .error f) :
    f.cause.isSyntactic = true := by
  fun_induction readTextBytes s <;> grind

/-- A text fails on its bytes, or on what they are if not characters. -/
@[grind →] lemma syntactic_of_readText (h : readText s = .error f) :
    f.cause.isSyntactic = true := by
  unfold readText at h
  grind

end Texts

section Numbers

/-- A number of double precision fails only by being too large. -/
@[grind →] lemma syntactic_of_floatLiteral (h : floatLiteral negative k x s = .error f) :
    f.cause.isSyntactic = true := by
  unfold floatLiteral at h
  grind

/-- An exponent fails on its digits or on the number that comes of it. -/
@[grind →] lemma syntactic_of_readExponent (h : readExponent negative k x s = .error f) :
    f.cause.isSyntactic = true := by
  unfold readExponent at h
  grind

/-- A fraction fails on its digits or on its exponent. -/
@[grind →] lemma syntactic_of_readFraction (h : readFraction negative k d s = .error f) :
    f.cause.isSyntactic = true := by
  unfold readFraction at h
  grind

/-- A whole number fails only by being too large. -/
@[grind →] lemma syntactic_of_wholeLiteral (h : wholeLiteral negative k s = .error f) :
    f.cause.isSyntactic = true := by
  unfold wholeLiteral at h
  grind

/-- What follows a whole part fails as a fraction, as an exponent or as nothing. -/
@[grind →] lemma syntactic_of_readTail (h : readTail negative k d s = .error f) :
    f.cause.isSyntactic = true := by
  unfold readTail at h
  grind

/-- A number fails on its first digit or on what follows its whole part. -/
@[grind →] lemma syntactic_of_readNumber (h : readNumber negative s = .error f) :
    f.cause.isSyntactic = true := by
  unfold readNumber at h
  grind

/-- A value without elements fails as a word, a text or a number. -/
@[grind →] lemma syntactic_of_readScalar (h : readScalar s = .error f) :
    f.cause.isSyntactic = true := by
  unfold readScalar at h
  grind

end Numbers

section Brackets

variable {σ : Type} {element : σ → Bytes → Except Fault (σ × Bytes)}
  {member : σ → String → Bytes → Except Fault (σ × Bytes)} {st : σ}

/-- Further elements fail on a comma, on the end or on an element. -/
lemma syntactic_of_moreElements
    (he : ∀ st s f, element st s = .error f → f.cause.isSyntactic = true)
    (h : moreElements element n st s = .error f) : f.cause.isSyntactic = true := by
  fun_induction moreElements element n st s <;> grind

/-- A list fails on a bracket or on an element. -/
lemma syntactic_of_readElements
    (he : ∀ st s f, element st s = .error f → f.cause.isSyntactic = true)
    (h : readElements element st s = .error f) : f.cause.isSyntactic = true := by
  unfold readElements at h
  grind [→ syntactic_of_moreElements]

/-- A member fails on its name, on the colon or on its content. -/
lemma syntactic_of_readMember
    (hm : ∀ st name s f, member st name s = .error f → f.cause.isSyntactic = true)
    (h : readMember member st s = .error f) : f.cause.isSyntactic = true := by
  unfold readMember at h
  grind

/-- Further members fail on a comma, on the end or on a member. -/
lemma syntactic_of_moreMembers
    (hm : ∀ st name s f, member st name s = .error f → f.cause.isSyntactic = true)
    (h : moreMembers member n st s = .error f) : f.cause.isSyntactic = true := by
  fun_induction moreMembers member n st s <;> grind [→ syntactic_of_readMember]

/-- An object fails on a bracket or on a member. -/
lemma syntactic_of_readMembers
    (hm : ∀ st name s f, member st name s = .error f → f.cause.isSyntactic = true)
    (h : readMembers member st s = .error f) : f.cause.isSyntactic = true := by
  unfold readMembers at h
  grind [→ syntactic_of_readMember, → syntactic_of_moreMembers]

end Brackets

section Values

variable {inner : Reader Value} {items : List Value} {members : List (String × Value)}
  {name : String} {depth : Nat}

/-- An element of a list fails as the value that it is. -/
lemma syntactic_of_pushElement (hi : ∀ s f, inner s = .error f → f.cause.isSyntactic = true)
    (h : pushElement inner items s = .error f) : f.cause.isSyntactic = true :=
  hi s f (eq_error_of_map h)

/-- A member of an object fails as the value of its content. -/
lemma syntactic_of_pushMember (hi : ∀ s f, inner s = .error f → f.cause.isSyntactic = true)
    (h : pushMember inner members name s = .error f) : f.cause.isSyntactic = true := by
  unfold pushMember at h
  grind

/-- A value fails as a scalar, by being nested too deep, or on a value within. -/
lemma syntactic_of_readLevel {inner : Option (Reader Value)}
    (hi : ∀ r ∈ inner, ∀ s f, r s = .error f → f.cause.isSyntactic = true)
    (h : readLevel inner s = .error f) : f.cause.isSyntactic = true := by
  unfold readLevel at h
  split at h
  case h_1 => grind
  case h_2 b t _ =>
    split at h
    case isTrue =>
      cases inner with
      | none => grind
      | some r =>
        refine syntactic_of_readElements (fun st s f hf => ?_) (eq_error_of_map h)
        exact syntactic_of_pushElement (hi r rfl) hf
    split at h
    case isTrue =>
      cases inner with
      | none => grind
      | some r =>
        refine syntactic_of_readMembers (fun st name s f hf => ?_) (eq_error_of_map h)
        exact syntactic_of_pushMember (hi r rfl) hf
    case isFalse => exact syntactic_of_readScalar h

/-- A value that cannot be read is not well-formed. -/
theorem syntactic_of_readValue (h : readValue depth s = .error f) :
    f.cause.isSyntactic = true := by
  induction depth generalizing s f with
  | zero => exact syntactic_of_readLevel (fun _ none => absurd none (Option.not_mem_none _)) h
  | succ depth ih =>
    refine syntactic_of_readLevel ?_ h
    rintro r ⟨⟩ s f hf
    exact ih hf

end Values

end ParityDuel.Json
