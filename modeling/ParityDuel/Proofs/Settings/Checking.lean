import Mathlib.Data.List.DropRight
import ParityDuel.Proofs.Settings.Lookup

/-!
# Settings that pass the check

Settings pass the check when there is something to their address, room in their queue and some time
to their patience (`validate_eq_ok_iff`). Variables are read, and then what has been read is checked
(`ofVariables_eq_checked`), so that settings that come out of variables have passed
(`ofVariables_inv`).
-/

namespace ParityDuel

namespace Blank

/-- A text is not all blank when there is a character in it that is not. -/
lemma trim_ne_nil {cs : List Char} {c : Char} (hc : c ∈ cs) (h : isBlank c = false) :
    trim cs ≠ [] := by
  intro empty
  have blank : ∀ d ∈ trimLeft cs, isBlank d = true := List.rdropWhile_eq_nil_iff.1 empty
  -- the text behind the leading blanks begins with none, so there is none
  have none : trimLeft cs = [] := by
    by_contra some
    have first : isBlank ((trimLeft cs).head some) = false := List.head_dropWhile_not isBlank some
    rw [blank _ (List.head_mem some)] at first
    cases first
  have all := List.dropWhile_eq_nil_iff.1 none c hc
  rw [h] at all
  cases all

end Blank

namespace ServerSettings

variable {s : ServerSettings}

/-- Settings are valid when the address is not blank, the queue holds something, and the idle span
is not zero. -/
lemma validate_eq_ok_iff : s.validate = .ok () ↔
    Blank.trim s.address.toList ≠ [] ∧ s.queue ≠ 0 ∧ s.idle.any Span.isZero = false := by
  unfold validate
  split
  case isTrue h => simp [h]
  case isFalse h =>
    split
    case isTrue h' => simp [h']
    case isFalse h' =>
      split
      case isTrue h'' => simp [h'']
      case isFalse h'' => simpa [h, h'] using h''

/-- The check does not look further at an address that there is something to. -/
lemma validate_address {a b : String} (ha : Blank.trim a.toList ≠ [])
    (hb : Blank.trim b.toList ≠ []) :
    { s with address := a }.validate = { s with address := b }.validate := by
  simp only [validate, ha, hb, if_false]

/-- There is something to the address of all interfaces and a port. -/
lemma trim_addressOfPort (p : Nat) : Blank.trim (addressOfPort p).toList ≠ [] := by
  refine Blank.trim_ne_nil (c := ':') ?_ (by decide)
  rw [addressOfPort, String.toList_append]
  exact List.mem_append_left _ (by decide)

end ServerSettings

namespace Settings

variable {vars : List Variable} {a : String} {s : ServerSettings}

/-- What comes of settings that have been read, once they are checked. -/
def checked : Except LoadError ServerSettings → Except Error ServerSettings
  | .error e => .error (.load e)
  | .ok s =>
    match s.validate with
    | .error f => .error (.fault f)
    | .ok () => .ok s

/-- Without a port, the address where none is set is the standard one. -/
lemma standardAddress_of_unset (none : ∀ v ∈ vars, v.1 ≠ portName) :
    standardAddress vars = .ok "0.0.0.0:8080" := by
  have unset : vars.reverse.lookup portName = Option.none := by
    refine List.lookup_eq_none_iff.2 ?_
    intro v hv
    exact bne_iff_ne.2 (none v (List.mem_reverse.1 hv)).symm
  rw [standardAddress, unset]
  rfl

/-- Where the address to fall back on is known and every variable can be loaded, loading is reading
and checking. -/
lemma ofVariables_eq_checked (standard : standardAddress vars = .ok a)
    (possible : ∀ v ∈ vars, isPossible v = true) : ofVariables vars = checked (read vars a) := by
  rw [ofVariables, standard]
  simp only [List.all_eq_true.2 possible, if_true]
  rfl

/-- Inversion for `ofVariables`. -/
lemma ofVariables_inv (h : ofVariables vars = .ok s) :
    ∃ a, standardAddress vars = .ok a ∧ read vars a = .ok s ∧ s.validate = .ok () := by
  unfold ofVariables at h
  split at h
  case h_1 => cases h
  case h_2 a ha =>
    split at h
    case isFalse => cases h
    case isTrue =>
      split at h
      case h_1 => cases h
      case h_2 t ht =>
        split at h
        case h_1 => cases h
        case h_2 fit =>
          cases h
          exact ⟨a, ha, ht, fit⟩

end Settings

end ParityDuel
