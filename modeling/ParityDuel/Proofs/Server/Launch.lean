import ParityDuel.Proofs.Settings.Checking
import ParityDuel.Proofs.Settings.Guess
import ParityDuel.Server

/-!
# Launching a server

The check of settings keeps empty queues away, but a queue of `2 ^ 61` places or more passes it, and
then a server that could listen does not launch (`Server.launch_eq_queueTooLarge_iff`). In variables
such a queue is asked for by a number, and by nothing else (`Settings.huge_queue_iff`).
-/

namespace ParityDuel

/-- A queue must hold something and must not be too large. -/
lemma Room.acceptsQueue_iff {n : Nat} : acceptsQueue n = true ↔ 0 < n ∧ n < 1 <<< 61 := by
  rw [acceptsQueue, Bool.and_eq_true, decide_eq_true_eq, decide_eq_true_eq]
  exact and_congr_right fun _ => Nat.le_sub_one_iff_lt (by decide)

/-- A server has no queue exactly when it is given valid settings and an address to listen on, but
`2 ^ 61` places or more to reserve. -/
lemma Server.launch_eq_queueTooLarge_iff {net : Network} {s : ServerSettings} :
    launch net s = .error .queueTooLarge ↔
      s.validate = .ok () ∧ (∃ a, net.listen s.address = .ok a) ∧ 1 <<< 61 ≤ s.queue.toNat := by
  unfold launch
  split
  case h_1 f invalid => simp [invalid]
  case h_2 valid =>
    split
    case h_1 e refused => simp [refused]
    case h_2 a listening =>
      have some : 0 < s.queue.toNat := by
        obtain ⟨_, nonzero, _⟩ := ServerSettings.validate_eq_ok_iff.1 valid
        exact Nat.pos_of_ne_zero fun zero => nonzero (UInt64.toNat_inj.1 zero)
      split
      case isTrue fits =>
        have small := (Room.acceptsQueue_iff.1 fits).2
        refine iff_of_false nofun ?_
        rintro ⟨_, _, huge⟩
        exact Nat.not_lt_of_le huge small
      case isFalse full =>
        rw [Room.acceptsQueue_iff, not_and, Nat.not_lt] at full
        exact iff_of_true rfl ⟨valid, ⟨a, listening⟩, full some⟩

namespace Settings

variable {vars : List Variable} {s : ServerSettings}

/-- A queue of `2 ^ 61` places or more is asked for by a number. -/
lemma huge_queue_iff (h : ofVariables vars = .ok s) : 1 <<< 61 ≤ s.queue.toNat ↔
    ∃ g, lookup vars "command_buffer" = some (.leaf g) ∧ g.IsHuge := by
  obtain ⟨_, _, read, _⟩ := ofVariables_inv h
  have queue := (read_eq_ok_iff.1 read).2.1
  cases found : lookup vars "command_buffer" with
  | none =>
    rw [settingOr_of_unset found, Except.ok.injEq] at queue
    rw [← queue]
    exact iff_of_false (by decide) nofun
  | some e =>
    rw [settingOr_of_set found] at queue
    cases e with
    | leaf g =>
      obtain ⟨v, _, hv⟩ := exists_of_lookup found
      obtain rfl := eq_of_leaf hv
      simpa using huge_iff queue
    | map => cases queue
    | sequence => cases queue

end Settings

/-- Valid settings keep a server from launching in one case only: the address can be listened on,
but the queue is to have `2 ^ 61` places or more. Settings that are loaded are valid, and have such
a queue exactly if a number is found for it that is as great. -/
theorem only_huge_queues_stop_a_launch (net : Network) :
    (∀ s : ServerSettings, s.validate = .ok () →
      (Server.launch net s = .error .queueTooLarge ↔
        (∃ a, net.listen s.address = .ok a) ∧ 1 <<< 61 ≤ s.queue.toNat)) ∧
    ∀ vars s, Settings.ofVariables vars = .ok s → s.validate = .ok () ∧
      (1 <<< 61 ≤ s.queue.toNat ↔
        ∃ g, Settings.lookup vars "command_buffer" = some (.leaf g) ∧ g.IsHuge) := by
  constructor
  · intro s valid
    rw [Server.launch_eq_queueTooLarge_iff, and_iff_right valid]
  · intro vars s h
    obtain ⟨_, _, _, valid⟩ := Settings.ofVariables_inv h
    exact ⟨valid, Settings.huge_queue_iff h⟩

/-- A server with the settings that nobody has changed has a queue. -/
theorem only_huge_queues_stop_a_launch_standard :
    Server.launch .isolated .standard ≠ .error .queueTooLarge := by
  have loaded : Settings.ofVariables [] = .ok .standard := by decide +kernel
  have valid := ((only_huge_queues_stop_a_launch .isolated).2 [] .standard loaded).1
  intro stopped
  have huge := (((only_huge_queues_stop_a_launch .isolated).1 .standard valid).1 stopped).2
  exact absurd huge (by decide)

/-- Settings that are loaded can stop the launch. -/
theorem loaded_settings_stop_a_launch :
    Settings.ofVariables [("ODDEVEN_COMMAND_BUFFER", "2305843009213693952")] =
        .ok ⟨"0.0.0.0:8080", 2305843009213693952, none⟩ ∧
      Server.launch .isolated ⟨"0.0.0.0:8080", 2305843009213693952, none⟩ =
        .error .queueTooLarge := by
  decide +kernel

end ParityDuel
