import Mathlib.Data.List.Basic
import Mathlib.Tactic.Lemma
import ParityDuel.Settings.Variables

/-!
# What variables hold

A variable is known by its key, which is its name in lower case. A key without points and brackets
that begins with the marker names a setting as a whole (`entry?_of_plain`). A setting is looked up
as what the variables about it hold, if they agree (`lookup_of_only`). What is read depends on what
is found for the names of settings, and on the address that stands in for a missing one
(`read_of_address`, `read_of_no_address`).
-/

namespace ParityDuel.Settings

section Keys

variable {c : Char} {cs key : List Char} {v : Variable} {name : String}

/-- A name in lower case. -/
def keyOf (name : String) : List Char := name.toList.map lowerCase

/-- The key of a variable that holds a setting. -/
def settingKey (name : String) : List Char := marker ++ name.toList

/-- A text has neither points nor brackets in it. -/
def IsPlain (cs : List Char) : Prop := ∀ c ∈ cs, c ≠ '.' ∧ c ≠ '['

instance (cs : List Char) : Decidable (IsPlain cs) :=
  List.decidableBAll (fun c => c ≠ '.' ∧ c ≠ '[') cs

/-- A character stays as it is or becomes a small letter. -/
lemma lowerCase_eq_or_le (c : Char) : lowerCase c = c ∨ 'a' ≤ lowerCase c := by
  unfold lowerCase
  split
  case isTrue => exact .inr (by decide)
  case isFalse =>
    unfold Char.toLower
    split
    case isTrue upper =>
      have low := UInt32.le_iff_toNat_le.1 upper.1
      have high : c.val.toNat ≤ 90 := UInt32.le_iff_toNat_le.1 upper.2
      have sum : (c.val + 32).toNat = c.val.toNat + 32 := by
        rw [UInt32.toNat_add]
        exact Nat.mod_eq_of_lt (Nat.lt_of_le_of_lt (Nat.add_le_add_right high 32) (by decide))
      refine .inr (UInt32.le_iff_toNat_le.2 ?_)
      show 97 ≤ (c.val + 32).toNat
      rw [sum]
      exact Nat.add_le_add_right low 32
    case isFalse => exact .inl rfl

/-- No letter turns into a point or a bracket in lower case. -/
lemma lowerCase_plain (h : c ≠ '.' ∧ c ≠ '[') : lowerCase c ≠ '.' ∧ lowerCase c ≠ '[' := by
  obtain e | small := lowerCase_eq_or_le c
  · rwa [e]
  · constructor
    · intro e
      rw [e] at small
      exact absurd small (by decide)
    · intro e
      rw [e] at small
      exact absurd small (by decide)

/-- A plain name has a plain key. -/
lemma IsPlain.keyOf (h : IsPlain name.toList) : IsPlain (keyOf name) := by
  intro c hc
  obtain ⟨d, hd, rfl⟩ := List.mem_map.1 hc
  exact lowerCase_plain (h d hd)

/-- Nothing but points and brackets leads into a setting. -/
lemma steps?_of_plain (bound : Nat) (h : c ≠ '.' ∧ c ≠ '[') : steps? bound (c :: cs) = none := by
  cases bound with
  | zero => simp [steps?]
  | succ bound => simp [steps?, h.1, h.2]

/-- A plain key names a setting as a whole. -/
lemma target_of_plain (h : IsPlain key) : target key = (String.ofList key, []) := by
  unfold target
  cases rest : key.dropWhile isNameChar with
  | nil =>
    have whole : key.takeWhile isNameChar = key := by
      have split := List.takeWhile_append_dropWhile (p := isNameChar) (l := key)
      rwa [rest, List.append_nil] at split
    simp [steps?, whole]
  | cons c cs =>
    have hc : c ∈ key := List.dropWhile_suffix isNameChar |>.subset (by simp [rest])
    simp [steps?_of_plain _ (h c hc)]

/-- A plain key leads to the setting that it names, with no steps into it. -/
lemma target?_of_plain {steps : List Step} (h : IsPlain (keyOf v.1)) :
    target? v = some (name, steps) ↔ keyOf v.1 = settingKey name ∧ steps = [] := by
  unfold target? settingKey
  change (if marker.isPrefixOf (keyOf v.1) = true then
    some (target ((keyOf v.1).drop marker.length)) else none) = _ ↔ _
  split
  case isTrue begins =>
    obtain ⟨rest, hrest⟩ := List.isPrefixOf_iff_prefix.1 begins
    have plain : IsPlain rest := by
      intro c hc
      exact h c (hrest ▸ List.mem_append_right _ hc)
    rw [← hrest, List.drop_left, target_of_plain plain, List.append_cancel_left_eq]
    constructor
    · intro e
      cases e
      simp
    · rintro ⟨rfl, rfl⟩
      simp
  case isFalse other =>
    refine iff_of_false nofun ?_
    rintro ⟨e, _⟩
    apply other
    exact List.isPrefixOf_iff_prefix.2 ⟨_, e.symm⟩

/-- A variable without the marker is about no setting. -/
lemma target?_of_foreign (h : ¬ marker <+: keyOf v.1) : target? v = none := by
  unfold target?
  rw [if_neg]
  intro begins
  apply h
  exact List.isPrefixOf_iff_prefix.1 begins

/-- The port has not got the marker. -/
lemma not_marker_portName : ¬ marker <+: keyOf portName := by decide

end Keys

section Entries

variable {v : Variable} {vars : List Variable} {name : String} {e : Entry}

/-- A variable with a plain key holds its value for the setting of the key. -/
lemma entry?_of_plain (h : IsPlain (keyOf v.1)) :
    entry? v = some (name, e) ↔ keyOf v.1 = settingKey name ∧ e = .leaf (Guess.of v.2) := by
  unfold entry?
  rw [Option.map_eq_some_iff]
  constructor
  · rintro ⟨⟨_, steps⟩, ht, e⟩
    obtain ⟨hk, rfl⟩ := (target?_of_plain h).1 ht
    cases e
    exact ⟨hk, rfl⟩
  · rintro ⟨hk, rfl⟩
    exact ⟨(name, []), (target?_of_plain h).2 ⟨hk, rfl⟩, rfl⟩

/-- What a setting as a whole is given is the value of the variable. -/
lemma eq_of_leaf {g : Guess} (h : entry? v = some (name, .leaf g)) : g = Guess.of v.2 := by
  obtain ⟨⟨_, steps⟩, _, e⟩ := Option.map_eq_some_iff.1 h
  rw [Prod.mk.injEq] at e
  cases steps with
  | nil =>
    cases e.2
    rfl
  | cons step _ => cases step <;> cases e.2

/-- A key without the prefix of the settings is no entry. -/
lemma entry?_of_foreign (h : ¬ marker <+: keyOf v.1) : entry? v = none := by
  unfold entry?
  rw [target?_of_foreign h, Option.map_none]

lemma isPossible_of_plain (h : IsPlain (keyOf v.1)) : isPossible v = true := by
  unfold isPossible
  split
  case h_1 ht => rw [((target?_of_plain h).1 ht).2, List.all_nil]
  case h_2 => rfl

lemma isPossible_of_foreign (h : ¬ marker <+: keyOf v.1) : isPossible v = true := by
  rw [isPossible, target?_of_foreign h]

/-- What is found for a name, where all that stands for it is the same. -/
lemma lookup_eq_some_of_only {α β : Type} [BEq α] [LawfulBEq α] {l : List (α × β)} {a : α} {b : β}
    (mem : (a, b) ∈ l) (only : ∀ b', (a, b') ∈ l → b' = b) : l.lookup a = some b := by
  cases found : l.lookup a with
  | none =>
    have other := List.lookup_eq_none_iff.1 found _ mem
    simp at other
  | some b' =>
    obtain ⟨before, after, split, _⟩ := List.lookup_eq_some_iff.1 found
    rw [only b' (by simp [split])]

/-- A setting is what the variables about it hold, if they agree. -/
lemma lookup_of_only (hv : v ∈ vars) (he : entry? v = some (name, e))
    (only : ∀ w ∈ vars, ∀ e', entry? w = some (name, e') → e' = e) :
    lookup vars name = some e := by
  refine lookup_eq_some_of_only (List.mem_filterMap.2 ⟨v, List.mem_reverse.2 hv, he⟩) ?_
  intro e' he'
  obtain ⟨w, hw, hw'⟩ := List.mem_filterMap.1 he'
  exact only w (List.mem_reverse.1 hw) e' hw'

/-- A setting is unset when no variable is about it. -/
lemma lookup_eq_none_iff :
    lookup vars name = none ↔ ∀ v ∈ vars, ∀ e, entry? v ≠ some (name, e) := by
  unfold lookup
  rw [List.lookup_eq_none_iff]
  constructor
  · intro none v hv e he
    have other := none _ (List.mem_filterMap.2 ⟨v, List.mem_reverse.2 hv, he⟩)
    simp at other
  · rintro none ⟨name', e⟩ he
    obtain ⟨v, hv, he⟩ := List.mem_filterMap.1 he
    rw [bne_iff_ne]
    rintro rfl
    exact none v (List.mem_reverse.1 hv) e he

/-- Whatever is found for a setting, a variable holds it. -/
lemma exists_of_lookup (h : lookup vars name = some e) :
    ∃ v ∈ vars, entry? v = some (name, e) := by
  obtain ⟨before, after, split, _⟩ := List.lookup_eq_some_iff.1 h
  have mem : (name, e) ∈ vars.reverse.filterMap entry? := by simp [split]
  obtain ⟨v, hv, he⟩ := List.mem_filterMap.1 mem
  exact ⟨v, List.mem_reverse.1 hv, he⟩

end Entries

section Reading

variable {α : Type} {reading : String → Entry → Except LoadError α} {standard : α}
variable {vars others : List Variable} {name : String} {e : Entry}

/-- A setting that is a length of time, in seconds. -/
def spanSetting (key : String) (e : Entry) : Except LoadError (Option Span) :=
  (countSetting key e).map fun n => some (Span.ofSeconds n)

/-- A setting that is set is read. -/
lemma settingOr_of_set (h : lookup vars name = some e) :
    settingOr reading standard vars name = reading name e := by
  rw [settingOr, h]

/-- A setting that is not set has its standard value. -/
lemma settingOr_of_unset (h : lookup vars name = none) :
    settingOr reading standard vars name = .ok standard := by
  rw [settingOr, h]

/-- The settings are read one after the other. -/
lemma read_eq (vars : List Variable) (a : String) : read vars a = (do
    let address ← settingOr textSetting a vars "addr"
    let queue ← settingOr countSetting ServerSettings.standard.queue vars "command_buffer"
    let idle ← settingOr spanSetting none vars "idle_timeout_secs"
    return ⟨address, queue, idle⟩) := rfl

/-- Settings are read one by one. -/
lemma read_eq_ok_iff {a : String} {s : ServerSettings} : read vars a = .ok s ↔
    settingOr textSetting a vars "addr" = .ok s.address ∧
    settingOr countSetting ServerSettings.standard.queue vars "command_buffer" = .ok s.queue ∧
    settingOr spanSetting none vars "idle_timeout_secs" = .ok s.idle := by
  obtain ⟨address, queue, idle⟩ := s
  rw [read_eq]
  cases settingOr textSetting a vars "addr" with
  | error e => exact iff_of_false nofun nofun
  | ok address' =>
    cases settingOr countSetting ServerSettings.standard.queue vars "command_buffer" with
    | error e => exact iff_of_false nofun nofun
    | ok queue' =>
      cases settingOr spanSetting none vars "idle_timeout_secs" with
      | error e => exact iff_of_false nofun nofun
      | ok idle' => simp [bind, Except.bind, pure, Except.pure]

/-- What is read is settled by what is found for the names. -/
lemma read_congr (h : ∀ name, lookup vars name = lookup others name) (a : String) :
    read vars a = read others a := by
  simp only [read, settingOr, h]

/-- Nothing stands in for an address that is set. -/
lemma read_of_address (h : lookup vars "addr" = some e) (a b : String) :
    read vars a = read vars b := by
  rw [read, read, settingOr_of_set h, settingOr_of_set h]

/-- An address that is not set is the one that stands in for it. -/
lemma read_of_no_address (h : lookup vars "addr" = none) (a b : String) :
    read vars a = (read vars b).map ({ · with address := a }) := by
  rw [read_eq, read_eq, settingOr_of_unset h, settingOr_of_unset h]
  cases settingOr countSetting ServerSettings.standard.queue vars "command_buffer" with
  | error => rfl
  | ok queue =>
    cases settingOr spanSetting none vars "idle_timeout_secs" with
    | error => rfl
    | ok idle => rfl

end Reading

end ParityDuel.Settings
