import ParityDuel.Proofs.Json.Tree
import ParityDuel.Wire.Fields

/-!
# Members by name

`Sole` and `Lacks` tell how often a name stands among members. A message of one field can be taken
out of members exactly where its name stands once (`oneField_eq_ok_iff`), and a signed field out of
a value exactly where its bytes are an integer literal in range (`signedField_eq_ok_iff`). A message
of more fields can be taken out of one member for each (`checkMembers_of_distinct`).
-/

namespace ParityDuel.Wire

open Json

section Names

variable {β : Type} {name name' : String} {ms : List (String × β)} {b b' : β}

/-- No member has the name. -/
def Lacks (name : String) (ms : List (String × β)) : Prop := ms.filter (·.1 == name) = []

/-- Exactly one member has the name, and this is its content. -/
def Sole (name : String) (ms : List (String × β)) (b : β) : Prop :=
  ms.filter (·.1 == name) = [(name, b)]

@[simp] lemma lacks_nil : Lacks name ([] : List (String × β)) := rfl

@[simp] lemma not_sole_nil : ¬ Sole name [] b := nofun

@[simp] lemma not_lacks_cons_self : ¬ Lacks name ((name, b) :: ms) := by
  simp [Lacks]

@[simp] lemma sole_cons_self : Sole name ((name, b) :: ms) b' ↔ b = b' ∧ Lacks name ms := by
  simp [Lacks, Sole]

lemma lacks_cons_of_ne (h : name' ≠ name) : Lacks name ((name', b) :: ms) ↔ Lacks name ms := by
  simp [Lacks, h]

lemma sole_cons_of_ne (h : name' ≠ name) :
    Sole name ((name', b) :: ms) b' ↔ Sole name ms b' := by
  simp [Sole, h]

/-- The only member of a name is a member. -/
lemma Sole.mem (h : Sole name ms b) : (name, b) ∈ ms := by
  have named : (name, b) ∈ ms.filter (·.1 == name) := by
    rw [h]
    exact List.mem_singleton_self _
  exact (List.mem_filter.1 named).1

/-- Every member of this name holds the same. -/
lemma Sole.eq_of_mem (h : Sole name ms b) (hm : (name, b') ∈ ms) : b' = b := by
  have named : (name, b') ∈ ms.filter (·.1 == name) := List.mem_filter.2 ⟨hm, beq_self_eq_true name⟩
  rw [h, List.mem_singleton, Prod.mk.injEq] at named
  exact named.2

/-- A name that no member has is not found. -/
lemma lookup_of_lacks (h : Lacks name ms) : ms.lookup name = none := by
  induction ms with
  | nil => rfl
  | cons m ms ih =>
    obtain ⟨name', b⟩ := m
    by_cases hn : name' = name
    · subst hn
      exact absurd h not_lacks_cons_self
    · have distinct : (name == name') = false := beq_eq_false_iff_ne.2 (Ne.symm hn)
      rw [List.lookup_cons, distinct]
      exact ih ((lacks_cons_of_ne hn).1 h)

/-- The only member of a name is found under it. -/
lemma lookup_of_sole (h : Sole name ms b) : ms.lookup name = some b := by
  induction ms with
  | nil => exact absurd h not_sole_nil
  | cons m ms ih =>
    obtain ⟨name', b'⟩ := m
    by_cases hn : name' = name
    · subst hn
      rw [List.lookup_cons, beq_self_eq_true, (sole_cons_self.1 h).1]
    · have distinct : (name == name') = false := beq_eq_false_iff_ne.2 (Ne.symm hn)
      rw [List.lookup_cons, distinct]
      exact ih ((sole_cons_of_ne hn).1 h)

end Names

section Fields

variable {field : Field} {name : String} {ms : List Member}

/-- A check by reading succeeds where the reading does. -/
lemma reads_eq_ok {α : Type} {read : Value → Except Fault α} {v : Value} {a : α}
    (h : read v = .ok a) : reads read v = .ok () := by
  rw [reads, h]
  rfl

/-- A member of another name is not checked. -/
lemma checkMembers_cons_of_ne {seen : List String} {v : Value} (h : name ≠ field.name) :
    checkMembers [field] seen ((name, v) :: ms) = checkMembers [field] seen ms := by
  have other : [field].find? (·.name == name) = none := by simp [Ne.symm h]
  rw [checkMembers, other]

/-- Behind a member of the name there must be no other. -/
lemma checkMembers_seen {seen : List String} (h : seen.contains field.name = true) :
    checkMembers [field] seen ms = .ok () ↔ Lacks field.name ms := by
  induction ms with
  | nil => simp [checkMembers]
  | cons m ms ih =>
    obtain ⟨name, v⟩ := m
    by_cases hn : name = field.name
    · subst hn
      have this : [field].find? (·.name == field.name) = some field := by simp
      simp only [checkMembers, this, h, if_true, not_lacks_cons_self, reduceCtorEq]
    · rw [lacks_cons_of_ne hn, ← ih, checkMembers_cons_of_ne hn]

/-- A member of the name of the field is checked, and must be the only one. -/
lemma checkMembers_cons_self {v : Value} :
    checkMembers [field] [] ((field.name, v) :: ms) = .ok () ↔
      field.check v = .ok () ∧ Lacks field.name ms := by
  have this : [field].find? (·.name == field.name) = some field := by simp
  have behind : checkMembers [field] [field.name] ms = .ok () ↔ Lacks field.name ms :=
    checkMembers_seen (by simp)
  rw [checkMembers, this]
  cases hc : field.check v with
  | error f => simp [hc]
  | ok u => simp [hc, behind]

/-- The members pass when the name stands at most once, with a content that passes. -/
lemma checkMembers_eq_ok_iff : checkMembers [field] [] ms = .ok () ↔
    Lacks field.name ms ∨ ∃ v, Sole field.name ms v ∧ field.check v = .ok () := by
  induction ms with
  | nil => simp [checkMembers]
  | cons m ms ih =>
    obtain ⟨name, v⟩ := m
    by_cases hn : name = field.name
    · subst hn
      rw [checkMembers_cons_self]
      constructor
      · rintro ⟨hc, none⟩
        exact .inr ⟨v, sole_cons_self.2 ⟨rfl, none⟩, hc⟩
      · rintro (none | ⟨v', hv, hc⟩)
        · exact absurd none not_lacks_cons_self
        · obtain ⟨rfl, none⟩ := sole_cons_self.1 hv
          exact ⟨hc, none⟩
    · rw [checkMembers_cons_of_ne hn, lacks_cons_of_ne hn]
      simp only [sole_cons_of_ne hn]
      exact ih

/-- A message of one field is taken from members where its name stands once. -/
lemma oneField_eq_ok_iff {α : Type} {whole : String} {read : Value → Except Fault α} {a : α} :
    oneField whole name read (.members ms) = .ok a ↔ ∃ v, Sole name ms v ∧ read v = .ok a := by
  rw [oneField]
  constructor
  · intro h
    obtain ⟨_, hc, h⟩ := bind_eq_ok_iff.1 h
    obtain none | ⟨v, hv, _⟩ := checkMembers_eq_ok_iff.1 hc
    · rw [named, lookup_of_lacks none] at h
      cases h
    · rw [named, lookup_of_sole hv] at h
      exact ⟨v, hv, h⟩
  · rintro ⟨v, hv, h⟩
    refine bind_eq_ok_iff.2 ⟨(), checkMembers_eq_ok_iff.2 (.inr ⟨v, hv, reads_eq_ok h⟩), ?_⟩
    rw [named, lookup_of_sole hv]
    exact h

end Fields

section Several

variable {α β γ : Type} {whole name name' name₁ name₂ name₃ : String}
  {read : Value → Except Fault α} {read₁ : Value → Except Fault α} {read₂ : Value → Except Fault β}
  {read₃ : Value → Except Fault γ} {v v₁ v₂ v₃ : Value} {a : α} {b : β} {c : γ} {ms : List Member}

lemma named_cons_self : named name read ((name, v) :: ms) = read v := by
  rw [named, List.lookup_cons, beq_self_eq_true]

lemma named_cons_of_ne (h : name' ≠ name) :
    named name read ((name', v) :: ms) = named name read ms := by
  have distinct : (name == name') = false := beq_eq_false_iff_ne.2 h.symm
  rw [named, named, List.lookup_cons, distinct]

/-- Members pass if each has its own name, and there is a field of that name which passes. -/
lemma checkMembers_of_distinct {fields : List Field} {seen : List String}
    (known : ∀ m ∈ ms, ∃ field, fields.find? (·.name == m.1) = some field ∧
      field.check m.2 = .ok ())
    (distinct : (ms.map Prod.fst).Nodup) (new : ∀ m ∈ ms, m.1 ∉ seen) :
    checkMembers fields seen ms = .ok () := by
  induction ms generalizing seen with
  | nil => rfl
  | cons m ms ih =>
    obtain ⟨name, v⟩ := m
    obtain ⟨⟨field, found, pass⟩, others⟩ := List.forall_mem_cons.1 known
    obtain ⟨unseen, later⟩ := List.forall_mem_cons.1 new
    obtain ⟨alone, rest⟩ := List.nodup_cons.1 distinct
    have first : seen.contains name = false := by simpa using unseen
    have behind : ∀ m ∈ ms, m.1 ∉ name :: seen := by
      intro m hm
      rw [List.mem_cons, not_or]
      refine ⟨fun same => alone ?_, later m hm⟩
      have again : m.1 ∈ ms.map Prod.fst := List.mem_map_of_mem hm
      rwa [same] at again
    rw [checkMembers, found]
    simp only [first, pass, Bool.false_eq_true, if_false]
    exact ih others rest behind

/-- A message of two fields is taken from two members. -/
lemma twoFields_of_members (ne : name₁ ≠ name₂) (h₁ : read₁ v₁ = .ok a) (h₂ : read₂ v₂ = .ok b) :
    twoFields whole name₁ read₁ name₂ read₂ (.members [(name₁, v₁), (name₂, v₂)]) = .ok (a, b) := by
  have check : checkMembers [⟨name₁, reads read₁⟩, ⟨name₂, reads read₂⟩] []
      [(name₁, v₁), (name₂, v₂)] = .ok () :=
    checkMembers_of_distinct (by simp [ne, reads_eq_ok h₁, reads_eq_ok h₂]) (by simp [ne]) (by simp)
  rw [twoFields, check, named_cons_self, named_cons_of_ne ne, named_cons_self, h₁, h₂]
  rfl

/-- A message of three fields is taken from three members. -/
lemma threeFields_of_members (ne : name₁ ≠ name₂) (ne' : name₁ ≠ name₃) (ne'' : name₂ ≠ name₃)
    (h₁ : read₁ v₁ = .ok a) (h₂ : read₂ v₂ = .ok b) (h₃ : read₃ v₃ = .ok c) :
    threeFields whole name₁ read₁ name₂ read₂ name₃ read₃
      (.members [(name₁, v₁), (name₂, v₂), (name₃, v₃)]) = .ok (a, b, c) := by
  have check : checkMembers [⟨name₁, reads read₁⟩, ⟨name₂, reads read₂⟩, ⟨name₃, reads read₃⟩] []
      [(name₁, v₁), (name₂, v₂), (name₃, v₃)] = .ok () :=
    checkMembers_of_distinct
      (by simp [ne, ne', ne'', reads_eq_ok h₁, reads_eq_ok h₂, reads_eq_ok h₃])
      (by simp [ne, ne', ne'']) (by simp)
  rw [threeFields, check, named_cons_self, named_cons_of_ne ne, named_cons_self,
    named_cons_of_ne ne', named_cons_of_ne ne'', named_cons_self, h₁, h₂, h₃]
  rfl

end Several
section Numbers

variable {depth : Nat} {t : Bytes} {v : Value} {n : Int64}

/-- A signed field is taken from a word that is small enough. -/
lemma signedField_unsigned {k : Nat} (hk : n.toInt = k) :
    k.toUInt64.toNat = k ∧ signedField (.unsigned k.toUInt64) = .ok n := by
  have small : k < 1 <<< 63 := by
    have := n.toInt_lt
    omega
  have value : k.toUInt64.toNat = k := by
    simp
    omega
  have same : Int64.ofNat k = n := by
    rw [← Int64.toInt_inj, hk]
    exact Int64.toInt_ofNat_of_lt small
  exact ⟨value, by rw [signedField, value, if_pos small, same]⟩

/-- A signed field is taken from the integer literals in range, and from nothing else. -/
lemma signedField_eq_ok_iff (h : Denotes depth t v) :
    signedField v = .ok n ↔ IntegerLiteral t n.toInt := by
  constructor
  · intro hn
    unfold signedField at hn
    split at hn
    case h_1 k =>
      split at hn
      case isFalse => cases hn
      case isTrue small =>
        cases hn
        have back : (Int64.ofNat k.toNat).toInt = k.toNat := Int64.toInt_ofNat_of_lt small
        rw [back]
        exact h.integer
    case h_2 m =>
      cases hn
      exact h.negative
    case h_3 => cases hn
  · intro ht
    by_cases neg : n.toInt < 0
    · rw [h.unique (.of_scalar (.number (.signed ht neg)))]
      rfl
    · obtain ⟨k, hk⟩ := Int.eq_ofNat_of_zero_le (Int.not_lt.1 neg)
      obtain ⟨value, field⟩ := signedField_unsigned hk
      rw [hk, ← value] at ht
      rw [h.unique (.of_scalar (.number (.unsigned ht))), field]

/-- Words are read back as they stand in a list. -/
lemma wordsFrom_words {name : String} {total done : Nat} (ns : List UInt64) :
    wordsFrom name total done ns.length (ns.map Value.unsigned) = .ok (ns, []) := by
  induction ns generalizing done with
  | nil => rfl
  | cons n ns ih =>
    rw [List.length_cons, List.map_cons, wordsFrom, wordField, ih]
    rfl

/-- A list of as many words as are wanted is read as these words. -/
lemma wordsField_words {name : String} {count : Nat} (ns : Vector UInt64 count) :
    wordsField name count (.list (ns.toList.map Value.unsigned)) = .ok ns := by
  have size : ns.toList.length = count := Vector.length_toList
  have read : wordsFrom name count 0 ns.toList.length (ns.toList.map Value.unsigned) =
      .ok (ns.toList, []) := wordsFrom_words ns.toList
  rw [size] at read
  rw [wordsField, read]
  simp [Vector.toList]

end Numbers

end ParityDuel.Wire
