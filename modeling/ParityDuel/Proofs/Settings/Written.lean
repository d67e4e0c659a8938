import Mathlib.Data.List.Nodup
import ParityDuel.Proofs.Settings.Checking
import ParityDuel.Proofs.Settings.Guess

/-!
# Settings written out

Settings that are written out as variables load back unchanged, although the values of variables are
guessed. `Written` are settings to be written out, some of which may be left to the standard, and
`Written.IsIn` says that variables hold them. Each setting is then found as it is written
(`Written.IsIn.lookup_eq`), and read as it is meant (`Written.IsIn.read_eq`).
-/

namespace ParityDuel.Settings

/-- A count that is written out: it is not zero, and fits a 64-bit number with a sign. -/
abbrev Count := { n : Nat // 1 ≤ n ∧ n < 1 <<< 63 }

/-- Settings that are to be written out, with a port behind the colon of the address. What is left
out has its standard. -/
structure Written where
  address : Option { a : String // ':' ∈ a.toList }
  queue : Option Count
  idle : Option Count

/-- A variable is not about settings: it is no port, and has not got the marker. -/
def IsForeign (v : Variable) : Prop := v.1 ≠ portName ∧ ¬ marker <+: keyOf v.1

instance (v : Variable) : Decidable (IsForeign v) := inferInstanceAs (Decidable (_ ∧ _))

namespace Written

/-- What is written for each setting, if anything. -/
def texts (w : Written) : List (String × Option String) :=
  [("ODDEVEN_ADDR", w.address.map Subtype.val),
    ("ODDEVEN_COMMAND_BUFFER", w.queue.map fun n => toString n.1),
    ("ODDEVEN_IDLE_TIMEOUT_SECS", w.idle.map fun n => toString n.1)]

/-- The settings that are meant. -/
def settings (w : Written) : ServerSettings where
  address := (w.address.map Subtype.val).getD "0.0.0.0:8080"
  queue := (w.queue.map fun n => n.1.toUInt64).getD 64
  idle := w.idle.map fun n => Span.ofSeconds n.1.toUInt64

/-- A variable holds what is written for a setting, with the letters of its name in any case. -/
def Holds (v : Variable) (t : String × Option String) : Prop :=
  keyOf v.1 = keyOf t.1 ∧ t.2 = some v.2

instance (v : Variable) (t : String × Option String) : Decidable (Holds v t) :=
  inferInstanceAs (Decidable (_ ∧ _))

/-- The variables are those that are written and foreign ones, in any order. -/
structure IsIn (w : Written) (vars : List Variable) : Prop where
  only : ∀ v ∈ vars, IsForeign v ∨ ∃ t ∈ w.texts, Holds v t
  all : ∀ t ∈ w.texts, t.2.isSome → ∃ v ∈ vars, Holds v t

variable {w : Written} {vars : List Variable} {t t' : String × Option String} {v : Variable}
variable {name : String} {e : Entry}

/-- The keys of the settings are plain, begin with the marker and differ. -/
lemma keys_texts (w : Written) : (∀ t ∈ w.texts, IsPlain (keyOf t.1) ∧ marker <+: keyOf t.1) ∧
    (w.texts.map fun t => keyOf t.1).Nodup := by
  have names : w.texts.map Prod.fst =
      ["ODDEVEN_ADDR", "ODDEVEN_COMMAND_BUFFER", "ODDEVEN_IDLE_TIMEOUT_SECS"] := rfl
  have keys : w.texts.map (fun t => keyOf t.1) = (w.texts.map Prod.fst).map keyOf := by simp
  constructor
  · intro t ht
    have mem := List.mem_map_of_mem (f := Prod.fst) ht
    rw [names] at mem
    have every : ∀ name ∈ ["ODDEVEN_ADDR", "ODDEVEN_COMMAND_BUFFER", "ODDEVEN_IDLE_TIMEOUT_SECS"],
        IsPlain (keyOf name) ∧ marker <+: keyOf name := by decide
    exact every t.1 mem
  · rw [keys, names]
    decide

/-- No two settings that are written have the same key. -/
lemma eq_of_key (ht : t ∈ w.texts) (ht' : t' ∈ w.texts) (h : keyOf t.1 = keyOf t'.1) : t = t' :=
  List.inj_on_of_nodup_map (keys_texts w).2 ht ht' h

/-- A variable that holds a written setting has a plain key. -/
lemma plain_of_holds (ht : t ∈ w.texts) (h : Holds v t) : IsPlain (keyOf v.1) :=
  h.1 ▸ ((keys_texts w).1 t ht).1

/-- A setting is found as it is written. -/
lemma IsIn.lookup_eq {n : String} {written : Option String} (h : w.IsIn vars)
    (ht : (n, written) ∈ w.texts) (hk : keyOf n = settingKey name) :
    lookup vars name = written.map fun text => .leaf (Guess.of text) := by
  -- whatever is about the setting holds what is written for it
  have only (v) (hv : v ∈ vars) (e) (he : entry? v = some (name, e)) : Holds v (n, written) ∧
      e = .leaf (Guess.of v.2) := by
    obtain foreign | ⟨t', ht', holds⟩ := h.only v hv
    · rw [entry?_of_foreign foreign.2] at he
      cases he
    · obtain ⟨key, rfl⟩ := (entry?_of_plain (plain_of_holds ht' holds)).1 he
      obtain rfl := eq_of_key ht ht' (hk.trans (key.symm.trans holds.1))
      exact ⟨holds, rfl⟩
  cases written with
  | none =>
    refine lookup_eq_none_iff.2 ?_
    intro v hv e he
    cases (only v hv e he).1.2
  | some text =>
    obtain ⟨v, hv, holds⟩ := h.all _ ht rfl
    have he : entry? v = some (name, .leaf (Guess.of v.2)) :=
      (entry?_of_plain (plain_of_holds ht holds)).2 ⟨holds.1.trans hk, rfl⟩
    rw [Option.map_some, Option.some.inj holds.2]
    refine lookup_of_only hv he ?_
    intro v' hv' e' he'
    obtain ⟨holds', rfl⟩ := only v' hv' e' he'
    rw [← Option.some.inj holds.2, ← Option.some.inj holds'.2]

/-- No variable is the port. -/
lemma IsIn.ne_portName (h : w.IsIn vars) (hv : v ∈ vars) : v.1 ≠ portName := by
  obtain foreign | ⟨t, ht, holds⟩ := h.only v hv
  · exact foreign.1
  · intro port
    have marked := ((keys_texts w).1 t ht).2
    rw [← holds.1, port] at marked
    exact not_marker_portName marked

/-- Every variable can be loaded. -/
lemma IsIn.possible (h : w.IsIn vars) (hv : v ∈ vars) : isPossible v = true := by
  obtain foreign | ⟨t, ht, holds⟩ := h.only v hv
  · exact isPossible_of_foreign foreign.2
  · exact isPossible_of_plain (plain_of_holds ht holds)

/-- A count is read as it is written. -/
lemma toCount_toString (key : String) (n : Count) :
    (Guess.of (toString n.1)).toCount key = .ok n.1.toUInt64 := by
  obtain ⟨n, _, small⟩ := n
  have value : (Int64.ofInt n).toInt = n := Int64.toInt_ofInt_of_le (by omega) (by omega)
  have positive : 0 ≤ Int64.ofInt n := by
    rw [Int64.le_iff_toInt_le, value]
    exact Int.natCast_nonneg n
  rw [of_toString small, Guess.toCount, if_pos positive, value]
  rfl

/-- The settings are read as they are written. -/
lemma IsIn.read_eq (h : w.IsIn vars) : read vars "0.0.0.0:8080" = .ok w.settings := by
  have addr : lookup vars "addr" = _ := h.lookup_eq (List.mem_cons_self ..) (by decide)
  have queue : lookup vars "command_buffer" = _ :=
    h.lookup_eq (List.mem_cons_of_mem _ (List.mem_cons_self ..)) (by decide)
  have idle : lookup vars "idle_timeout_secs" = _ :=
    h.lookup_eq (List.mem_cons_of_mem _ (List.mem_cons_of_mem _ (List.mem_cons_self ..)))
      (by decide)
  obtain ⟨address?, queue?, idle?⟩ := w
  have addressRead : settingOr textSetting "0.0.0.0:8080" vars "addr" =
      .ok ((address?.map Subtype.val).getD "0.0.0.0:8080") := by
    cases address? with
    | none => exact settingOr_of_unset addr
    | some a =>
      rw [settingOr_of_set addr, textSetting, of_colon a.2]
      rfl
  have queueRead : settingOr countSetting ServerSettings.standard.queue vars "command_buffer" =
      .ok ((queue?.map fun n => n.1.toUInt64).getD 64) := by
    cases queue? with
    | none => exact settingOr_of_unset queue
    | some n => exact (settingOr_of_set queue).trans (toCount_toString _ n)
  have idleRead : settingOr spanSetting none vars "idle_timeout_secs" =
      .ok (idle?.map fun n => Span.ofSeconds n.1.toUInt64) := by
    cases idle? with
    | none => exact settingOr_of_unset idle
    | some n =>
      rw [settingOr_of_set idle, spanSetting, countSetting, toCount_toString]
      rfl
  exact read_eq_ok_iff.2 ⟨addressRead, queueRead, idleRead⟩

lemma toUInt64_ne_zero (n : Count) : n.1.toUInt64 ≠ 0 := by
  obtain ⟨n, pos, small⟩ := n
  intro zero
  have value := congrArg UInt64.toNat zero
  rw [show n.toUInt64 = UInt64.ofNat n from rfl,
    UInt64.toNat_ofNat_of_lt' (Nat.lt_trans small (by decide))] at value
  simp at value
  omega

/-- Settings that are written out pass the check. -/
lemma validate_settings (w : Written) : w.settings.validate = .ok () := by
  obtain ⟨address?, queue?, idle?⟩ := w
  refine ServerSettings.validate_eq_ok_iff.2 ⟨?_, ?_, ?_⟩
  · cases address? with
    | none => exact ServerSettings.trim_addressOfPort 8080
    | some a => exact Blank.trim_ne_nil a.2 (by decide)
  · cases queue? with
    | none => exact (show (64 : UInt64) ≠ 0 by decide)
    | some n => exact toUInt64_ne_zero n
  · cases idle? with
    | none => rfl
    | some n => simp [settings, Span.isZero, Span.ofSeconds, toUInt64_ne_zero n]

end Written

/-- Settings that are written out load back unchanged, whichever of them are written, in any order,
with the names in any case and among any foreign variables. -/
theorem written_settings_load_back {w : Written} {vars : List Variable} (h : w.IsIn vars) :
    ofVariables vars = .ok w.settings := by
  have standard : standardAddress vars = .ok "0.0.0.0:8080" :=
    standardAddress_of_unset fun _ hv => h.ne_portName hv
  rw [ofVariables_eq_checked standard fun _ hv => h.possible hv, h.read_eq, checked,
    w.validate_settings]

/-- An address and a queue load back from between two foreign variables, of which one is called
`port`. -/
theorem written_settings_load_back_mixed :
    ofVariables [("HOME", "/root"), ("Oddeven_Command_Buffer", "128"), ("port", "none"),
      ("oddeven_addr", "[::1]:9000")] = .ok ⟨"[::1]:9000", 128, none⟩ := by
  let w : Written := ⟨some ⟨"[::1]:9000", by decide⟩, some ⟨128, by decide⟩, none⟩
  have settings : w.settings = ⟨"[::1]:9000", 128, none⟩ := rfl
  rw [← settings]
  exact written_settings_load_back ⟨by decide, by decide⟩

end ParityDuel.Settings
