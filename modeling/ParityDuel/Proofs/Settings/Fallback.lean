import Mathlib.Data.List.Nodup
import ParityDuel.Proofs.Settings.Checking

/-!
# The port as a fallback

Settings that are loaded have passed the check, and a port decides about nothing but the address
that is used where none is set. `Fallback` says which address this is. Two environments that are the
same but for the port hold the same settings otherwise (`lookup_eq_of_sameButPort`); so they load
alike if an address is set (`checked_alike_of_address`), and with the one and the other address if
none is (`checked_alike_of_no_address`).
-/

namespace ParityDuel.Settings

/-- The variables of an environment: no name has a point or a bracket in it, and no two names are
the same but for the case of their letters. -/
structure IsEnvironment (vars : List Variable) : Prop where
  plain_name : ∀ v ∈ vars, IsPlain v.1.toList
  distinct : (vars.map fun v => keyOf v.1).Nodup

/-- The variables are the same, in any order, but for the port. -/
def SameButPort (vars others : List Variable) : Prop :=
  (vars.filter (·.1 ≠ portName)).Perm (others.filter (·.1 ≠ portName))

instance (vars others : List Variable) : Decidable (SameButPort vars others) :=
  inferInstanceAs (Decidable (List.Perm _ _))

/-- The address where none is set: that of all interfaces and the port, if there is one. -/
inductive Fallback (vars : List Variable) : String → Prop where
  | unset :
    (∀ v ∈ vars, v.1 ≠ portName) →
    Fallback vars "0.0.0.0:8080"
  | port {text p} :
    (portName, text) ∈ vars →
    port? text = some p →
    Fallback vars ("0.0.0.0:" ++ toString p)

/-- Two loads are alike: both give settings, and these are related, or both fail in the same way,
by reading or by checking. -/
inductive Alike (related : ServerSettings → ServerSettings → Prop) :
    Except Error ServerSettings → Except Error ServerSettings → Prop where
  | loaded {s t} :
    related s t →
    Alike related (.ok s) (.ok t)
  | unread {e e'} :
    Alike related (.error (.load e)) (.error (.load e'))
  | unfit {f f'} :
    Alike related (.error (.fault f)) (.error (.fault f'))

/-- The settings are the same but for the address, which is `a` in the one case and `b` in the
other. -/
def DifferInAddress (a b : String) (s t : ServerSettings) : Prop :=
  s.address = a ∧ t.address = b ∧ s.queue = t.queue ∧ s.idle = t.idle

section Environments

variable {vars others : List Variable} {v w : Variable} {name text a : String} {e : Entry}

lemma IsEnvironment.plain (env : IsEnvironment vars) (hv : v ∈ vars) : IsPlain (keyOf v.1) :=
  (env.plain_name v hv).keyOf

/-- No two variables of an environment have the same key. -/
lemma IsEnvironment.eq_of_key (env : IsEnvironment vars) (hv : v ∈ vars) (hw : w ∈ vars)
    (h : keyOf v.1 = keyOf w.1) : v = w :=
  List.inj_on_of_nodup_map env.distinct hv hw h

lemma IsEnvironment.possible (env : IsEnvironment vars) : ∀ v ∈ vars, isPossible v = true :=
  fun _ hv => isPossible_of_plain (env.plain hv)

/-- What is found for a setting in an environment is what the one variable about it holds. -/
lemma IsEnvironment.lookup_eq_some_iff (env : IsEnvironment vars) :
    lookup vars name = some e ↔ ∃ v ∈ vars, entry? v = some (name, e) := by
  refine ⟨exists_of_lookup, ?_⟩
  rintro ⟨v, hv, he⟩
  refine lookup_of_only hv he ?_
  intro w hw e' he'
  obtain ⟨hk, rfl⟩ := (entry?_of_plain (env.plain hv)).1 he
  obtain ⟨hk', rfl⟩ := (entry?_of_plain (env.plain hw)).1 he'
  rw [env.eq_of_key hv hw (hk.trans hk'.symm)]

/-- The port is no setting. -/
lemma ne_portName_of_setting (h : entry? v = some (name, e)) : v.1 ≠ portName := by
  intro port
  rw [entry?_of_foreign (port ▸ not_marker_portName)] at h
  cases h

/-- Variables other than the port are in both environments or in none. -/
lemma mem_iff_of_sameButPort (same : SameButPort vars others) (h : v.1 ≠ portName) :
    v ∈ vars ↔ v ∈ others := by
  have kept := same.mem_iff (a := v)
  simpa [List.mem_filter, h] using kept

/-- Environments that are the same but for the port hold the same settings. -/
lemma lookup_eq_of_sameButPort (env : IsEnvironment vars) (env' : IsEnvironment others)
    (same : SameButPort vars others) (name : String) : lookup vars name = lookup others name := by
  refine Option.ext fun e => ?_
  rw [env.lookup_eq_some_iff, env'.lookup_eq_some_iff]
  constructor
  · rintro ⟨v, hv, he⟩
    exact ⟨v, (mem_iff_of_sameButPort same (ne_portName_of_setting he)).1 hv, he⟩
  · rintro ⟨v, hv, he⟩
    exact ⟨v, (mem_iff_of_sameButPort same (ne_portName_of_setting he)).2 hv, he⟩

/-- An environment has one text for the port. -/
lemma IsEnvironment.lookup_port (env : IsEnvironment vars) (h : (portName, text) ∈ vars) :
    vars.reverse.lookup portName = some text := by
  refine lookup_eq_some_of_only (List.mem_reverse.2 h) ?_
  intro text' h'
  have same := env.eq_of_key h (List.mem_reverse.1 h') rfl
  exact (Prod.mk.inj same).2.symm

/-- What is no port is refused, whatever the other variables are. -/
lemma IsEnvironment.badPort (env : IsEnvironment vars) (h : (portName, text) ∈ vars)
    (bad : port? text = none) : ofVariables vars = .error (.fault (.badPort text)) := by
  rw [ofVariables, standardAddress, env.lookup_port h]
  simp only [bad]

/-- The address to fall back on is the standard one. -/
lemma IsEnvironment.standardAddress_eq (env : IsEnvironment vars) (h : Fallback vars a) :
    standardAddress vars = .ok a := by
  cases h with
  | unset none => exact standardAddress_of_unset none
  | port set hp =>
    rw [standardAddress, env.lookup_port set]
    simp only [hp]
    rfl

/-- The address to fall back on is not blank. -/
lemma Fallback.trim_ne_nil (h : Fallback vars a) : Blank.trim a.toList ≠ [] := by
  cases h with
  | unset _ => exact ServerSettings.trim_addressOfPort 8080
  | @port _ p _ _ => exact ServerSettings.trim_addressOfPort p

/-- Whether an address is set can be seen by the keys. -/
lemma IsEnvironment.isSome_address_iff (env : IsEnvironment vars) :
    (lookup vars "addr").isSome = true ↔ ∃ v ∈ vars, keyOf v.1 = keyOf "ODDEVEN_ADDR" := by
  have key : settingKey "addr" = keyOf "ODDEVEN_ADDR" := by decide
  rw [Option.isSome_iff_exists, ← key]
  constructor
  · rintro ⟨e, he⟩
    obtain ⟨v, hv, he⟩ := env.lookup_eq_some_iff.1 he
    exact ⟨v, hv, ((entry?_of_plain (env.plain hv)).1 he).1⟩
  · rintro ⟨v, hv, hk⟩
    exact ⟨_, env.lookup_eq_some_iff.2
      ⟨v, hv, (entry?_of_plain (env.plain hv)).2 ⟨hk, rfl⟩⟩⟩

end Environments

section Loads

variable {a b : String}

lemma Alike.refl_checked (r : Except LoadError ServerSettings) :
    Alike (· = ·) (checked r) (checked r) := by
  cases r with
  | error e => exact .unread
  | ok s =>
    rw [checked]
    cases s.validate with
    | error f => exact .unfit
    | ok _ => exact .loaded rfl

/-- Settings pass the check with the one address if they pass with the other. -/
lemma Alike.checked_map (ha : Blank.trim a.toList ≠ []) (hb : Blank.trim b.toList ≠ [])
    (r : Except LoadError ServerSettings) :
    Alike (DifferInAddress a b) (checked (r.map ({ · with address := a })))
      (checked (r.map ({ · with address := b }))) := by
  cases r with
  | error e => exact .unread
  | ok s =>
    simp only [Except.map, checked]
    rw [ServerSettings.validate_address ha hb]
    cases { s with address := b }.validate with
    | error f => exact .unfit
    | ok _ => exact .loaded ⟨rfl, rfl, rfl, rfl⟩

end Loads

/-- Settings that are loaded are valid, and the port is only a fallback. A text that is no port is
refused whatever else is set. Between environments that are the same but for the port, the port
makes no difference if an address is set, and otherwise it makes a difference to the address
alone. -/
theorem port_is_only_a_fallback {vars : List Variable} (env : IsEnvironment vars) :
    (∀ s, ofVariables vars = .ok s → s.validate = .ok ()) ∧
    (∀ text, (portName, text) ∈ vars → port? text = none →
      ofVariables vars = .error (.fault (.badPort text))) ∧
    ∀ others a b, IsEnvironment others → SameButPort vars others →
      Fallback vars a → Fallback others b →
      ((∃ v ∈ vars, keyOf v.1 = keyOf "ODDEVEN_ADDR") →
        Alike (· = ·) (ofVariables vars) (ofVariables others)) ∧
      ((¬ ∃ v ∈ vars, keyOf v.1 = keyOf "ODDEVEN_ADDR") →
        Alike (DifferInAddress a b) (ofVariables vars) (ofVariables others)) := by
  refine ⟨?_, fun text h bad => env.badPort h bad, ?_⟩
  · intro s h
    obtain ⟨_, _, _, fit⟩ := ofVariables_inv h
    exact fit
  · intro others a b env' same ha hb
    have found := lookup_eq_of_sameButPort env env' same
    rw [ofVariables_eq_checked (env.standardAddress_eq ha) env.possible,
      ofVariables_eq_checked (env'.standardAddress_eq hb) env'.possible, ← read_congr found,
      ← env.isSome_address_iff]
    constructor
    · intro set
      obtain ⟨e, he⟩ := Option.isSome_iff_exists.1 set
      rw [read_of_address he b a]
      exact .refl_checked _
    · intro unset
      have none : lookup vars "addr" = Option.none := by simpa using unset
      rw [read_of_no_address none a "", read_of_no_address none b ""]
      exact .checked_map ha.trim_ne_nil hb.trim_ne_nil _

/-- An environment with a port and no address. -/
def portOnly : List Variable := [("PORT", "3001"), ("ODDEVEN_COMMAND_BUFFER", "128")]

/-- The same environment without the port. -/
def portless : List Variable := [("ODDEVEN_COMMAND_BUFFER", "128")]

/-- Both load, and only the address tells them apart: the port makes it where none is set. -/
theorem port_is_only_a_fallback_unsetAddress :
    ofVariables portless = .ok ⟨"0.0.0.0:8080", 128, none⟩ ∧
      ofVariables portOnly = .ok ⟨"0.0.0.0:3001", 128, none⟩ := by
  have env : IsEnvironment portOnly := ⟨by decide, by decide⟩
  have env' : IsEnvironment portless := ⟨by decide, by decide⟩
  have same : SameButPort portOnly portless := by decide
  have named : port? "3001" = some 3001 := by decide
  have port : Fallback portOnly "0.0.0.0:3001" := .port (by decide) named
  have none : Fallback portless "0.0.0.0:8080" := .unset (by decide)
  have loaded : ofVariables portless = .ok ⟨"0.0.0.0:8080", 128, Option.none⟩ := by
    decide +kernel
  obtain ⟨_, _, fallback⟩ := port_is_only_a_fallback env
  have alike := (fallback portless _ _ env' same port none).2 (by decide)
  rw [loaded] at alike
  refine ⟨loaded, ?_⟩
  generalize ofVariables portOnly = r at alike
  cases alike with
  | @loaded s t related =>
    obtain ⟨address, _, queue, idle⟩ := related
    obtain ⟨_, _, _⟩ := s
    simp_all

end ParityDuel.Settings
