import ParityDuel.Hall
import ParityDuel.Proofs.Room.Delivery

/-!
# Inboxes of a hall

Why what is proved of orderly commands is true of halls. A hall numbers the inboxes that it opens,
so the commands that its events put to the room never bring an inbox twice (`orderly_commands`); and
what is put into an inbox whose reader stays is what the room delivers on these commands (`run_eq`).
-/

namespace ParityDuel

namespace Hall

/-- A hall after events, with everything that is seen. -/
def run (h : Hall) : List Event → Hall × List Delivery
  | [] => (h, [])
  | e :: es =>
    let (h', _, ds) := h.step e
    let (last, rest) := h'.run es
    (last, ds ++ rest)

/-- The commands that events put to the room of a hall with so many inboxes opened. -/
def commands (opened : Nat) : List Event → List Command
  | [] => []
  | .connect c :: es => .connect c opened :: commands (opened + 1) es
  | .frame c data :: es => .frame c data :: commands opened es
  | .disconnect c :: es => .disconnect c :: commands opened es
  | .shutdown :: es => .shutdown :: commands opened es
  | .hangUp _ :: es => commands opened es

/-- Inboxes that are still to be opened have later numbers. -/
lemma le_of_mem_inboxesOf {opened : Nat} {es : List Event} {inbox : Inbox}
    (hm : inbox ∈ inboxesOf (commands opened es)) : opened ≤ inbox := by
  induction es generalizing opened with
  | nil => cases hm
  | cons e es ih =>
    cases e with
    | connect c =>
      obtain rfl | hm := List.mem_cons.1 hm
      · exact Nat.le_refl _
      · exact Nat.le_of_succ_le (ih hm)
    | _ => exact ih hm

/-- No inbox is opened twice. -/
lemma nodup_inboxesOf (opened : Nat) (es : List Event) :
    (inboxesOf (commands opened es)).Nodup := by
  induction es generalizing opened with
  | nil => exact .nil
  | cons e es ih =>
    cases e with
    | connect c =>
      refine List.nodup_cons.2 ⟨fun hm => ?_, ih (opened + 1)⟩
      exact Nat.not_succ_le_self opened (le_of_mem_inboxesOf hm)
    | _ => exact ih opened

/-- Events that do not shut a hall down put no shutdown to its room. -/
lemma shutdown_not_mem {opened : Nat} {es : List Event} (h : .shutdown ∉ es) :
    .shutdown ∉ commands opened es := by
  induction es generalizing opened with
  | nil => exact List.not_mem_nil
  | cons e es ih =>
    rw [List.mem_cons, not_or] at h
    cases e with
    | shutdown => exact absurd rfl h.1
    | hangUp inbox => exact ih h.2
    | _ =>
      rw [commands, List.mem_cons, not_or]
      exact ⟨nofun, ih h.2⟩

/-- The events of a hall that is not shut down put orderly commands to its room. -/
theorem orderly_commands {es : List Event} (h : .shutdown ∉ es) (opened : Nat) :
    Orderly (commands opened es) :=
  ⟨shutdown_not_mem h, nodup_inboxesOf opened es⟩

/-- A reader that is there sees all that is put into its inbox. -/
lemma itemsFor_seen {h : Hall} {inbox : Inbox} (there : inbox ∉ h.abandoned) (ds : List Delivery) :
    Room.itemsFor inbox (h.seen ds) = Room.itemsFor inbox ds := by
  unfold Room.itemsFor seen
  rw [List.filter_filter]
  congr 1
  apply List.filter_congr
  intro d _
  by_cases e : d.inbox = inbox
  · simp [e, there]
  · simp [e]

/-- The room of a hall is where the commands of its events lead, and a reader that does not hang up
sees what the room delivers to its inbox. -/
theorem run_eq (h : Hall) (es : List Event) :
    (h.run es).1.room = (h.room.run (commands h.opened es)).1 ∧
    ∀ inbox, inbox ∉ h.abandoned → .hangUp inbox ∉ es →
      Room.itemsFor inbox (h.run es).2 =
        Room.itemsFor inbox (h.room.run (commands h.opened es)).2 := by
  induction es generalizing h with
  | nil => exact ⟨rfl, fun _ _ _ => rfl⟩
  | cons e es ih =>
    obtain ⟨room, seen⟩ := ih (h.step e).1
    refine ⟨?_, fun inbox there stays => ?_⟩
    · cases e <;> exact room
    · rw [List.mem_cons, not_or] at stays
      cases e with
      | hangUp other =>
        have stillThere : inbox ∉ other :: h.abandoned := by
          rw [List.mem_cons, not_or]
          exact ⟨fun e => stays.1 (congrArg _ e), there⟩
        exact seen inbox stillThere stays.2
      | _ =>
        rw [run, commands, Room.run_cons, Room.itemsFor_append, Room.itemsFor_append]
        exact congrArg₂ _ (itemsFor_seen there _) (seen inbox there stays.2)

end Hall

end ParityDuel
