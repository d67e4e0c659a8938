import ParityDuel.Desk
import ParityDuel.Proofs.Room.Shutdown

/-!
# The order of calls

Whatever waits at a desk, the room is told everything in the order in which it was called. What
comes of a command is the same whether the room takes it, drops it with the desk or turns it away
later: `run_eq` says that a desk delivers and answers what its room does on the commands alone, one
after the other.
-/

namespace ParityDuel

/-- The commands that are called, in their order. -/
def calledBy (es : List DeskEvent) : List Command :=
  es.filterMap fun e => match e with
    | .call cmd => some cmd
    | .take => none

namespace Room

/-- The answers that a room gives to those who wait, one command after the other. -/
def answers (r : Room) : List Command → List Answer
  | [] => []
  | cmd :: cs => Desk.answer cmd (r.step cmd).2.1 ++ (r.step cmd).1.answers cs

lemma answers_append (r : Room) (cs cs' : List Command) :
    r.answers (cs ++ cs') = r.answers cs ++ (r.run cs).1.answers cs' := by
  induction cs generalizing r with
  | nil => rfl
  | cons cmd cs ih => rw [List.cons_append, answers, answers, ih, List.append_assoc, run_cons]

/-- A closed room has one answer. -/
lemma answers_of_closed {r : Room} (closed : r.isClosed = true) (cs : List Command) :
    r.answers cs = (cs.filter Command.isAwaited).map fun cmd => ⟨cmd, .refused .unavailable⟩ := by
  induction cs with
  | nil => rfl
  | cons cmd cs ih =>
    rw [answers, step_of_closed closed, ih, List.filter_cons]
    cases awaited : cmd.isAwaited <;> simp [Desk.answer, awaited]

end Room

namespace Desk

variable {d : Desk} {es : List DeskEvent}

/-- A closed room turns a command down as it does when it takes it. -/
lemma turnDown_eq {r : Room} (closed : r.isClosed = true) (cmd : Command) :
    turnDown r cmd = (r.answers [cmd], (r.run [cmd]).2) := by
  simp [turnDown, Room.answers, Room.step, closed]

/-- Commands that are turned down before a closed room are those that the closed room takes. -/
lemma flatMap_turnDown {r : Room} (closed : r.isClosed = true) (cs : List Command) :
    (cs.flatMap fun c => (turnDown r c).1) = r.answers cs ∧
      (cs.flatMap fun c => (turnDown r c).2) = (r.run cs).2 := by
  induction cs with
  | nil => exact ⟨rfl, rfl⟩
  | cons cmd cs ih =>
    have answers := Room.answers_append r [cmd] cs
    have deliveries := congrArg Prod.snd (Room.run_append r [cmd] cs)
    have same : (r.run [cmd]).1 = r := by
      rw [Room.run_of_closed closed]
    rw [same] at answers deliveries
    rw [List.flatMap_cons, List.flatMap_cons, ih.1, ih.2, turnDown_eq closed]
    exact ⟨answers.symm, deliveries.symm⟩

/-- A call behind the end is answered at once. -/
lemma step_call_of_closed (closed : d.room.isClosed = true) (cmd : Command) :
    d.step (.call cmd) = (d, d.room.answers [cmd], (d.room.run [cmd]).2) := by
  rw [step, call, if_pos closed, turnDown_eq closed]

/-- A call waits as long as the room is open. -/
lemma step_call_of_open (isOpen : d.room.isClosed = false) (cmd : Command) :
    d.step (.call cmd) = (⟨d.room, d.waiting ++ [cmd]⟩, [], []) := by
  simp [step, call, isOpen]

/-- Nothing is taken where nothing waits. -/
lemma step_take_nil (none : d.waiting = []) : d.step .take = (d, [], []) := by
  rw [step, take, none]

/-- The first command that waits is taken and answered. -/
lemma step_take_of_open {cmd : Command} {rest : List Command} (first : d.waiting = cmd :: rest)
    (isOpen : (d.room.step cmd).1.isClosed = false) :
    d.step .take =
      (⟨(d.room.step cmd).1, rest⟩, d.room.answers [cmd], (d.room.step cmd).2.2) := by
  simp [step, take, first, isOpen, Room.answers]

/-- A room that is closed by a command has done with everything that waits. -/
lemma step_take_of_closing {cmd : Command} {rest : List Command} (first : d.waiting = cmd :: rest)
    (closed : (d.room.step cmd).1.isClosed = true) :
    d.step .take = (⟨(d.room.step cmd).1, []⟩, d.room.answers (cmd :: rest),
      (d.room.run (cmd :: rest)).2) := by
  obtain ⟨answers, deliveries⟩ := flatMap_turnDown closed rest
  simp [step, take, first, closed, answers, deliveries, Room.answers]

/-- Nothing waits before a closed room. -/
def IsOrderly (d : Desk) : Prop := d.room.isClosed = true → d.waiting = []

/-- What an event does is what the room does on the commands that leave the desk by it. -/
lemma step_eq (od : d.IsOrderly) (e : DeskEvent) :
    (d.step e).1.IsOrderly ∧
    ∃ cs, d.waiting ++ calledBy [e] = cs ++ (d.step e).1.waiting ∧
      d.room.run cs = ((d.step e).1.room, (d.step e).2.2) ∧
      (d.step e).2.1 = d.room.answers cs := by
  cases e with
  | call cmd =>
    cases closed : d.room.isClosed with
    | true =>
      -- the call leaves the desk at once
      rw [step_call_of_closed closed]
      refine ⟨od, [cmd], ?_, ?_, rfl⟩
      · rw [od closed]
        rfl
      · rw [Room.run_of_closed closed]
    | false =>
      rw [step_call_of_open closed]
      refine ⟨fun h => ?_, [], rfl, rfl, rfl⟩
      exact absurd (closed.symm.trans h) Bool.false_ne_true
  | take =>
    cases waiting : d.waiting with
    | nil =>
      rw [step_take_nil waiting]
      exact ⟨od, [], waiting.symm, rfl, rfl⟩
    | cons cmd rest =>
      cases closed : (d.room.step cmd).1.isClosed with
      | true =>
        rw [step_take_of_closing waiting closed]
        refine ⟨fun _ => rfl, cmd :: rest, rfl, ?_, rfl⟩
        rw [Room.run_cons, Room.run_of_closed closed]
      | false =>
        rw [step_take_of_open waiting closed]
        refine ⟨fun h => ?_, [cmd], List.append_nil _, ?_, rfl⟩
        · exact absurd (closed.symm.trans h) Bool.false_ne_true
        · rw [Room.run_cons, Room.run_nil, List.append_nil]

/-- A desk delivers and answers what its room does on the commands that have left the desk, which
are those that have been called but for those that still wait. -/
lemma run_eq (od : d.IsOrderly) (es : List DeskEvent) :
    (d.run es).1.IsOrderly ∧
    ∃ cs, d.waiting ++ calledBy es = cs ++ (d.run es).1.waiting ∧
      d.room.run cs = ((d.run es).1.room, (d.run es).2.2) ∧
      (d.run es).2.1 = d.room.answers cs := by
  induction es generalizing d with
  | nil => exact ⟨od, [], List.append_nil _, rfl, rfl⟩
  | cons e es ih =>
    obtain ⟨od', cs, left, room, answers⟩ := step_eq od e
    obtain ⟨od'', cs', left', room', answers'⟩ := ih od'
    refine ⟨od'', cs ++ cs', ?_, ?_, ?_⟩
    · have called : calledBy (e :: es) = calledBy [e] ++ calledBy es :=
        List.filterMap_append (l := [e])
      rw [called, ← List.append_assoc, left, List.append_assoc, left', List.append_assoc]
      rfl
    · rw [Room.run_append, room, room']
      rfl
    · rw [Room.answers_append, room, ← answers, ← answers']
      rfl

end Desk

end ParityDuel
