import ParityDuel.Proofs.Room.Delivery

/-!
# Shutdown

A shutdown closes and ends the inbox of everyone who is registered, and nothing else closes a room
(`isClosed_run_iff`). A closed room stays as it is: whatever it is asked for is refused, and the
inboxes that are brought to it end (`run_of_closed`).
-/

namespace ParityDuel

namespace Room

variable {r r' : Room} {cmd : Command} {cs : List Command}

/-- Everyone who is registered is closed and ends, and nobody is registered any more. -/
lemma step_shutdown (isOpen : r.isClosed = false) :
    r.step .shutdown = (⟨r.session, [], true⟩, .done, r.toAll .close ++ r.toAll .ended) := by
  simp [step, isOpen, shutdown]

/-- A closed room refuses a command, and the inbox that it brings ends. -/
lemma step_of_closed (closed : r.isClosed = true) (cmd : Command) :
    r.step cmd =
      (r, .refused .unavailable, (inboxesOf [cmd]).map fun inbox => ⟨inbox, .ended⟩) := by
  cases cmd <;> simp [step, closed, refuseAll, inboxesOf, Command.inbox?]

/-- A closed room stays as it is, and all that is delivered is the end of the inboxes that are
brought. -/
lemma run_of_closed (closed : r.isClosed = true) (cs : List Command) :
    r.run cs = (r, (inboxesOf cs).map fun inbox => ⟨inbox, .ended⟩) := by
  induction cs with
  | nil => rfl
  | cons cmd cs ih =>
    have brought : inboxesOf (cmd :: cs) = inboxesOf [cmd] ++ inboxesOf cs :=
      List.filterMap_append (l := [cmd])
    rw [run_cons, step_of_closed closed, ih, brought, List.map_append]

/-- An inbox that is not among those that end gets no end. -/
lemma itemsFor_ended_of_not_mem {inbox : Inbox} {is : List Inbox} (old : inbox ∉ is) :
    itemsFor inbox (is.map fun i => ⟨i, .ended⟩) = [] := by
  induction is with
  | nil => rfl
  | cons i is ih =>
    rw [List.mem_cons, not_or] at old
    rw [List.map_cons, itemsFor_cons_of_ne (Ne.symm old.1), ih old.2]

/-- No command but a shutdown closes a room. -/
lemma Step.isClosed_eq {ls : List Letter} {ds : List Delivery} (st : r.Step cmd r' ls ds) :
    r'.isClosed = r.isClosed := by
  cases st <;> rfl

/-- An open room is closed by the first shutdown. -/
lemma isClosed_run_iff (isOpen : r.isClosed = false) :
    (r.run cs).1.isClosed = true ↔ .shutdown ∈ cs := by
  induction cs generalizing r with
  | nil => simp [isOpen]
  | cons cmd cs ih =>
    rw [run_cons]
    by_cases e : cmd = .shutdown
    · subst e
      rw [step_shutdown isOpen, run_of_closed rfl]
      exact iff_of_true rfl List.mem_cons_self
    · obtain ⟨ls, st⟩ := step_inv isOpen e
      rw [ih (st.isClosed_eq.trans isOpen), List.mem_cons]
      exact (or_iff_right (Ne.symm e)).symm

/-- Connections that are still to come bring inboxes of their own. -/
lemma OwnInboxes.after {cs' : List Command} (own : r.OwnInboxes (cs ++ cs')) :
    (r.run cs).1.OwnInboxes cs' := by
  induction cs generalizing r with
  | nil => exact own
  | cons cmd cs ih =>
    cases closed : r.isClosed with
    | true =>
      rw [run_of_closed closed]
      exact own.sublist (List.sublist_append_right _ _)
    | false =>
      by_cases e : cmd = .shutdown
      · subst e
        have rest : (inboxesOf (cs ++ cs')).Nodup := (List.nodup_append.1 own).2.1
        rw [run_cons, step_shutdown closed]
        exact ih rest
      · obtain ⟨ls, st⟩ := step_inv closed e
        exact ih (own.of_step st)

/-- A room is sound until it is closed. -/
lemma isClosed_or_sound (cs : List Command) :
    (initial.run cs).1.isClosed = true ∨ (initial.run cs).1.Sound := by
  by_cases down : .shutdown ∈ cs
  · exact .inl ((isClosed_run_iff rfl).2 down)
  · exact .inr (sound_initial.run down)

end Room

end ParityDuel
