import ParityDuel.Proofs.Desk.Order
import ParityDuel.Proofs.Room.Lifetimes

/-!
# The life of an inbox at a desk

What `Room.Course` says of commands that a room takes one after the other holds of calls that wait
at a desk (`inbox_life_cycle`): an inbox that is brought by a call gets nothing while the call
waits, then it takes its course. Calls that still wait when the room is shut down, and all calls
after that, end the inboxes that they bring and do nothing else; whoever waits for an answer hears
that there is none.
-/

namespace ParityDuel

namespace Desk

variable {d : Desk} {applied : List Command}

/-- Who asks for a seat is answered as the room stands then. -/
lemma mem_answers {c : Conn} {inbox : Inbox} {before later : List Command} :
    ⟨.connect c inbox, ((Room.initial.run before).1.step (.connect c inbox)).2.1⟩ ∈
      Room.initial.answers (before ++ .connect c inbox :: later) := by
  rw [Room.answers_append]
  exact List.mem_append_right _ List.mem_cons_self

/-- Once nobody can call any more and nothing waits, what has not ended ends. -/
lemma itemsFor_abandon {inbox : Inbox} (own : d.room.OwnInboxes []) (idle : d.waiting = []) :
    Room.itemsFor inbox d.abandon =
      if inbox ∈ d.room.members.map Member.inbox then [.ended] else [] := by
  have all : d.abandon = d.room.toAll .ended := by
    rw [abandon, idle]
  rw [all, Room.itemsFor_toAll]
  split
  · next kept => rw [List.count_eq_one_of_mem (List.nodup_append.1 own).1 kept]; rfl
  · next gone => rw [List.count_eq_zero_of_not_mem gone]; rfl

/-- What waits behind a shutdown or is called after it. -/
lemma run_shutdown (before later : List Command) :
    (Room.initial.run (before ++ [.shutdown])).1.isClosed = true ∧
    Room.initial.run (before ++ .shutdown :: later) =
      ((Room.initial.run (before ++ [.shutdown])).1,
        (Room.initial.run (before ++ [.shutdown])).2 ++
          (inboxesOf later).map fun inbox => ⟨inbox, .ended⟩) ∧
    Room.initial.answers (before ++ .shutdown :: later) = Room.initial.answers before ++
      (later.filter Command.isAwaited).map fun cmd => ⟨cmd, .refused .unavailable⟩ := by
  have closed : (Room.initial.run (before ++ [.shutdown])).1.isClosed = true := by
    rw [Room.isClosed_run_iff rfl]
    exact List.mem_append_right _ List.mem_cons_self
  have split : before ++ .shutdown :: later = (before ++ [.shutdown]) ++ later := by
    rw [List.append_assoc]
    rfl
  have asked : Room.initial.answers (before ++ [.shutdown]) = Room.initial.answers before := by
    rw [Room.answers_append]
    exact List.append_nil _
  refine ⟨closed, ?_, ?_⟩
  · rw [split, Room.run_append, Room.run_of_closed closed]
  · rw [split, Room.answers_append, asked, Room.answers_of_closed closed]

/-- After any calls, none of which brings an inbox that another one has brought, and whenever the
room has taken any of them: the commands that the room has done with, in the order of their calls,
and those that still wait are all that have been called, and nothing waits before a closed room. An
inbox that is brought by a command that still waits has got nothing. Every other one has taken its
course: the attempt is answered, and nothing but one of the five things of `Room.Course` is in the
inbox, where only the end comes behind a closing and nothing behind the end. An inbox that has been
accepted is closed only by a shutdown, and it ends when its connection leaves or the room is shut
down, or else when nobody can call any more and nothing waits. Whatever comes behind a shutdown ends
the inbox it brings and has no other effect, and all that is waited for there is refused. -/
theorem inbox_life_cycle {es : List DeskEvent} {d : Desk} {as : List Answer} {ds : List Delivery}
    (fresh : (inboxesOf (calledBy es)).Nodup) (reached : initial.run es = (d, as, ds)) :
    (d.room.isClosed = true → d.waiting = []) ∧
    ∃ applied, calledBy es = applied ++ d.waiting ∧
      (∀ inbox ∈ inboxesOf d.waiting, Room.itemsFor inbox ds = []) ∧
      (∀ before c inbox later, applied = before ++ .connect c inbox :: later →
        (∃ reply, ⟨.connect c inbox, reply⟩ ∈ as ∧
          (Room.initial.run before).1.Course c later reply (Room.itemsFor inbox ds) ∧
          ∀ role, reply = .seated role →
            (.close ∈ Room.itemsFor inbox ds → .shutdown ∈ later) ∧
            (.ended ∈ Room.itemsFor inbox ds ↔ .disconnect c ∈ later ∨ .shutdown ∈ later)) ∧
        (Room.itemsFor inbox ds).Pairwise Item.Before ∧
        (d.waiting = [] → Room.itemsFor inbox d.abandon =
          if .ended ∈ Room.itemsFor inbox ds then [] else [.ended])) ∧
      ∀ before later, applied = before ++ .shutdown :: later →
        d.room.isClosed = true ∧
        d.room = (Room.initial.run (before ++ [.shutdown])).1 ∧
        ds = (Room.initial.run (before ++ [.shutdown])).2 ++
          (inboxesOf later).map (fun inbox => ⟨inbox, .ended⟩) ∧
        as = Room.initial.answers before ++
          (later.filter Command.isAwaited).map fun cmd => ⟨cmd, .refused .unavailable⟩ := by
  obtain ⟨orderly, applied, called, rooms, answers⟩ : d.IsOrderly ∧ ∃ applied,
      calledBy es = applied ++ d.waiting ∧ Room.initial.run applied = (d.room, ds) ∧
        as = Room.initial.answers applied := by
    have whole := run_eq (d := initial) nofun es
    rw [reached] at whole
    exact whole
  rw [called, inboxesOf, List.filterMap_append] at fresh
  obtain ⟨taken, _, apart⟩ := List.nodup_append.1 fresh
  refine ⟨orderly, applied, called, ?_, ?_, ?_⟩
  · intro inbox waits
    -- no command that has left the desk has brought the inbox
    have old : inbox ∉ inboxesOf applied := fun hm => apart _ hm _ waits rfl
    obtain ⟨_, silent⟩ := Room.run_of_absent (r := .initial) List.not_mem_nil old
    rw [rooms] at silent
    exact silent
  · rintro before c inbox later rfl
    obtain ⟨course, kept⟩ := Room.course_of_mem taken
    rw [rooms] at course kept
    refine ⟨⟨_, answers ▸ mem_answers, course, ?_⟩, course.pairwise, ?_⟩
    · intro role seated
      rw [seated] at course
      exact ⟨course.shutdown_mem, course.ended_mem_iff⟩
    · intro idle
      have own : ((Room.initial.run (before ++ .connect c inbox :: later)).1).OwnInboxes [] := by
        apply Room.OwnInboxes.after
        rw [List.append_nil]
        exact taken
      rw [rooms] at own
      rw [itemsFor_abandon own idle]
      simp only [kept, ite_not]
  · rintro before later rfl
    obtain ⟨closed, all, refused⟩ := run_shutdown before later
    rw [rooms, Prod.mk.injEq] at all
    exact ⟨all.1 ▸ closed, all.1, all.2, answers.trans refused⟩

/-- Two players, a connection that finds the room full and one that is there already; one player
leaves and comes back; the room is shut down with four calls waiting behind, and two more come
later. -/
def closingTime : List DeskEvent :=
  [.call (.connect ⟨1⟩ 0), .call (.connect ⟨2⟩ 1), .take, .take, .call (.connect ⟨3⟩ 2),
    .call (.connect ⟨1⟩ 3), .call (.disconnect ⟨2⟩), .take, .take, .take, .call (.connect ⟨2⟩ 4),
    .call .shutdown, .call (.frame ⟨1⟩ []), .call (.connect ⟨4⟩ 5), .call .snapshot,
    .call (.disconnect ⟨1⟩), .take, .take, .call (.connect ⟨1⟩ 6), .call .shutdown]

/-- What is called before the room is shut down. -/
def beforeClosing : List Command :=
  [.connect ⟨1⟩ 0, .connect ⟨2⟩ 1, .connect ⟨3⟩ 2, .connect ⟨1⟩ 3, .disconnect ⟨2⟩, .connect ⟨2⟩ 4]

/-- What is called after that. -/
def afterClosing : List Command :=
  [.frame ⟨1⟩ [], .connect ⟨4⟩ 5, .snapshot, .disconnect ⟨1⟩, .connect ⟨1⟩ 6, .shutdown]

/-- The player who stays is closed, the one who leaves is not, and the three who come to a full
room, come twice or come too late get no seat. -/
theorem inbox_life_cycle_closingTime :
    (inboxesOf (calledBy closingTime)).Nodup ∧
    Room.itemsFor 0 (initial.run closingTime).2.2 =
      [.notice (.assigned .odd .empty), .notice (.waiting "Waiting for opponent..."),
        .notice (.assigned .odd .empty),
        .notice (.opponentLeft "Opponent disconnected. Game over."), .close, .ended] ∧
    (Room.itemsFor 0 (initial.run closingTime).2.2).Pairwise Item.Before ∧
    Room.itemsFor 1 (initial.run closingTime).2.2 =
      [.notice (.assigned .even .empty), .notice (.assigned .even .empty), .ended] ∧
    Room.itemsFor 2 (initial.run closingTime).2.2 =
      [.notice (.refused "game is full"), .close, .ended] ∧
    Room.itemsFor 3 (initial.run closingTime).2.2 = [.ended] ∧
    (initial.run closingTime).2.2 =
      (Room.initial.run (beforeClosing ++ [.shutdown])).2 ++ [⟨5, .ended⟩, ⟨6, .ended⟩] ∧
    (initial.run closingTime).2.1 = Room.initial.answers beforeClosing ++
      [⟨.connect ⟨4⟩ 5, .refused .unavailable⟩, ⟨.snapshot, .refused .unavailable⟩,
        ⟨.connect ⟨1⟩ 6, .refused .unavailable⟩] := by
  have fresh : (inboxesOf (calledBy closingTime)).Nodup := by decide
  have idle : (initial.run closingTime).1.waiting = [] := by decide +kernel
  have odd : Room.itemsFor 0 (initial.run closingTime).2.2 =
      [.notice (.assigned .odd .empty), .notice (.waiting "Waiting for opponent..."),
        .notice (.assigned .odd .empty),
        .notice (.opponentLeft "Opponent disconnected. Game over."), .close, .ended] := by
    decide +kernel
  have even : Room.itemsFor 1 (initial.run closingTime).2.2 =
      [.notice (.assigned .even .empty), .notice (.assigned .even .empty), .ended] := by
    decide +kernel
  have full : Room.itemsFor 2 (initial.run closingTime).2.2 =
      [.notice (.refused "game is full"), .close, .ended] := by
    decide +kernel
  have known : Room.itemsFor 3 (initial.run closingTime).2.2 = [.ended] := by
    decide +kernel
  rcases reached : initial.run closingTime with ⟨d, as, ds⟩
  rw [reached] at idle odd even full known
  obtain ⟨_, applied, called, _, lives, after⟩ := inbox_life_cycle fresh reached
  have all : applied = beforeClosing ++ .shutdown :: afterClosing := by
    rw [show d.waiting = [] from idle, List.append_nil] at called
    exact called.symm
  obtain ⟨_, _, deliveries, answers⟩ := after beforeClosing afterClosing all
  obtain ⟨_, orderly, _⟩ := lives [] ⟨1⟩ 0 _ all
  exact ⟨fresh, odd, orderly, even, full, known, deliveries, answers⟩

end Desk

end ParityDuel
