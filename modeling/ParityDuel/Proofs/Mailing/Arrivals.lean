import ParityDuel.Mailing
import ParityDuel.Proofs.Hall.Inboxes

/-!
# What arrives

Whoever has not gone away gets from a mailing what the room delivers, item by item, and nothing else
depends on what lies outside. `Mailing.Comes` says so of anything that a mailing does: what the room
has become, and what has arrived since. It composes (`Comes.trans`), it does not see the order of
items that are all the same (`Comes.of_itemsFor_eq`), and it holds of every command (`comes_step`)
and so of every run (`comes_run`).
-/

namespace ParityDuel

/-- The replies of a room to commands, one after the other. -/
def Room.replies (r : Room) : List Command → List Reply
  | [] => []
  | cmd :: cs => (r.step cmd).2.1 :: (r.step cmd).1.replies cs

/-- Whoever is still there at some moment has been there before. -/
lemma Outside.isGone_of_le {o : Outside} {t t' : Nat} {inbox : Inbox} (le : t ≤ t')
    (there : o.isGone t' inbox = false) : o.isGone t inbox = false := by
  induction le with
  | refl => exact there
  | @step t' _ ih =>
    apply ih
    rw [← Bool.not_eq_true] at there ⊢
    intro gone
    exact there (o.isGone_succ t' inbox gone)

/-- What is the same for everyone comes to an inbox in any order. -/
lemma Room.itemsFor_map_perm {ms ms' : List Member} (perm : ms.Perm ms') (inbox : Inbox)
    (i : Item) :
    itemsFor inbox (ms.map fun m => ⟨m.inbox, i⟩) =
      itemsFor inbox (ms'.map fun m => ⟨m.inbox, i⟩) := by
  have all := itemsFor_toAll ⟨.initial, ms, false⟩ inbox i
  have all' := itemsFor_toAll ⟨.initial, ms', false⟩ inbox i
  rw [toAll] at all all'
  rw [all, all', (perm.map _).count_eq]

namespace Mailing

open Room (itemsFor)

/-- From a mailing comes another one: the room it has then, and the deliveries of which everyone who
is still there has got the own part. -/
structure Comes (o : Outside) (x : Mailing) (r : Room) (ds : List Delivery) (x' : Mailing) :
    Prop where
  room : x'.room = r
  later : x.now ≤ x'.now
  arrived : ∀ inbox, o.isGone x'.now inbox = false →
    itemsFor inbox x'.arrived = itemsFor inbox x.arrived ++ itemsFor inbox ds

variable {o : Outside} {x x' x'' : Mailing} {r r' : Room} {ds ds' : List Delivery}

/-- Where nothing is sent, nothing comes. -/
lemma Comes.refl (o : Outside) (x : Mailing) : Comes o x x.room [] x where
  room := rfl
  later := Nat.le_refl _
  arrived _ _ := (List.append_nil _).symm

/-- What comes of two things, one after the other. -/
lemma Comes.trans (cm : Comes o x r ds x') (cm' : Comes o x' r' ds' x'') :
    Comes o x r' (ds ++ ds') x'' where
  room := cm'.room
  later := Nat.le_trans cm.later cm'.later
  arrived := by
    intro inbox there
    have before := Outside.isGone_of_le cm'.later there
    rw [cm'.arrived inbox there, cm.arrived inbox before, Room.itemsFor_append, List.append_assoc]

/-- It does not matter how deliveries to different inboxes are mixed. -/
lemma Comes.of_itemsFor_eq (cm : Comes o x r ds x')
    (same : ∀ inbox, itemsFor inbox ds = itemsFor inbox ds') : Comes o x r ds' x' where
  room := cm.room
  later := cm.later
  arrived := by
    intro inbox there
    rw [cm.arrived inbox there, same]

/-- The room may be given its new state before anything is sent. -/
lemma Comes.of_room (cm : Comes o { x with room := r } r' ds x') : Comes o x r' ds x' :=
  ⟨cm.room, cm.later, cm.arrived⟩

/-- The room may be given its new state after everything is sent. -/
lemma Comes.with_room (cm : Comes o x r ds x') (r' : Room) :
    Comes o x r' ds { x' with room := r' } :=
  ⟨rfl, cm.later, cm.arrived⟩

/-- An item comes to its inbox, if anybody is there to get it. -/
lemma comes_send (o : Outside) (x : Mailing) (inbox : Inbox) (i : Item) :
    Comes o x x.room [⟨inbox, i⟩] (x.send o inbox i) := by
  unfold send put
  cases gone : o.isGone x.now inbox with
  | false =>
    refine ⟨rfl, Nat.le_succ _, ?_⟩
    intro j _
    exact Room.itemsFor_append ..
  | true =>
    refine ⟨rfl, Nat.le_succ _, ?_⟩
    intro j there
    -- it is somebody else who is still there
    have other : inbox ≠ j := by
      rintro rfl
      have before := Outside.isGone_of_le (Nat.le_succ _) there
      exact absurd (before.symm.trans gone) Bool.false_ne_true
    rw [Room.itemsFor_cons_of_ne other]
    exact (List.append_nil _).symm

/-- What is sent to each of some members. -/
lemma comes_sendEach (o : Outside) (x : Mailing) (ms : List Member) (i : Item) :
    Comes o x x.room (ms.map fun m => ⟨m.inbox, i⟩)
      (ms.foldl (fun x m => x.send o m.inbox i) x) := by
  induction ms generalizing x with
  | nil => exact .refl o x
  | cons m ms ih =>
    have first := comes_send o x m.inbox i
    have rest := ih (x.send o m.inbox i)
    rw [first.room] at rest
    exact first.trans rest

/-- The order in which members are come upon does not matter to any of them. -/
lemma comes_toAll (o : Outside) (x : Mailing) (i : Item) :
    Comes o x x.room (x.room.toAll i) (x.toAll o i) := by
  apply (comes_sendEach o x (o.order x.now x.room.members) i).of_itemsFor_eq
  intro inbox
  exact Room.itemsFor_map_perm (o.order_perm _ _) inbox i

/-- What is sent to one connection. -/
lemma comes_toOne (o : Outside) (x : Mailing) (c : Conn) (i : Item) :
    Comes o x x.room (x.room.toOne c i) (x.toOne o c i) := by
  unfold toOne Room.toOne
  cases x.room.inboxOf? c with
  | none => exact .refl o x
  | some inbox => exact comes_send o x inbox i

/-- What one letter sends. -/
lemma comes_deliver (o : Outside) (x : Mailing) (l : Letter) :
    Comes o x x.room (x.room.deliver l) (x.deliver o l) := by
  obtain ⟨recipient, n⟩ := l
  cases recipient with
  | all => exact comes_toAll o x _
  | one c => exact comes_toOne o x c _

/-- What letters send, one after the other. -/
lemma comes_dispatch (o : Outside) (x : Mailing) (ls : List Letter) :
    Comes o x x.room (x.room.dispatch ls) (x.dispatch o ls) := by
  induction ls generalizing x with
  | nil => exact .refl o x
  | cons l ls ih =>
    have first := comes_deliver o x l
    have rest := ih (x.deliver o l)
    rw [first.room] at rest
    exact first.trans rest

/-- A connection that asks for a seat. -/
lemma comes_connect (o : Outside) (x : Mailing) (c : Conn) (inbox : Inbox) :
    Comes o x (x.room.connect c inbox).1 (x.room.connect c inbox).2.2 (x.connect o c inbox).1 ∧
      (x.connect o c inbox).2 = (x.room.connect c inbox).2.1 := by
  unfold connect Room.connect
  cases x.room.isRegistered c with
  | true => exact ⟨comes_send o x inbox .ended, rfl⟩
  | false =>
    cases x.room.session.connect c with
    | error e =>
      refine ⟨?_, rfl⟩
      have told := comes_send o x inbox (.notice (.refused e.message))
      have closed := comes_send o (x.send o inbox (.notice (.refused e.message))) inbox .close
      have ended := comes_send o
        ((x.send o inbox (.notice (.refused e.message))).send o inbox .close) inbox .ended
      rw [closed.room] at ended
      rw [told.room] at closed ended
      exact told.trans (closed.trans ended)
    | ok t =>
      obtain ⟨role, session, letters⟩ := t
      exact ⟨(comes_dispatch o { x with room := _ } letters).of_room, rfl⟩

/-- A frame. -/
lemma comes_frame (o : Outside) (x : Mailing) (c : Conn) (data : Bytes) :
    Comes o x (x.room.frame c data).1 (x.room.frame c data).2 (x.frame o c data) := by
  unfold frame Room.frame
  cases x.room.isRegistered c with
  | false => exact .refl o x
  | true =>
    cases Request.ofFrame data with
    | error e => exact comes_toOne o x c _
    | ok request =>
      simp only [if_true]
      cases x.room.session.serve c request with
      | error e => exact comes_toOne o x c _
      | ok t =>
        obtain ⟨session, letters⟩ := t
        exact (comes_dispatch o { x with room := _ } letters).of_room

/-- The end of a connection. -/
lemma comes_disconnect (o : Outside) (x : Mailing) (c : Conn) :
    Comes o x (x.room.disconnect c).1 (x.room.disconnect c).2 (x.disconnect o c) := by
  unfold disconnect Room.disconnect
  cases x.room.inboxOf? c with
  | none => exact .refl o x
  | some inbox =>
    have ended := comes_send o x inbox .ended
    have told := comes_dispatch o { x.send o inbox .ended with
      room := { x.room with
        session := (x.room.session.leave c).1
        members := x.room.members.filter (·.conn ≠ c) } } (x.room.session.leave c).2
    exact ended.trans told.of_room

/-- A shutdown. -/
lemma comes_shutdown (o : Outside) (x : Mailing) :
    Comes o x x.room.shutdown.1 x.room.shutdown.2 (x.shutdown o) := by
  have closed := comes_toAll o x .close
  have ended := comes_toAll o (x.toAll o .close) .ended
  have same := ended.room.trans closed.room
  rw [closed.room] at ended
  unfold shutdown
  dsimp only
  rw [same]
  exact (closed.trans ended).with_room _

/-- A command to a closed room. -/
lemma comes_refuseAll (o : Outside) (x : Mailing) (cmd : Command) :
    Comes o x (x.room.refuseAll cmd).1 (x.room.refuseAll cmd).2.2 (x.refuseAll o cmd).1 ∧
      (x.refuseAll o cmd).2 = (x.room.refuseAll cmd).2.1 := by
  cases cmd with
  | connect c inbox => exact ⟨comes_send o x inbox .ended, rfl⟩
  | _ => exact ⟨.refl o x, rfl⟩

/-- What comes of a command is what the room makes of it, and so is the reply. -/
lemma comes_step (o : Outside) (x : Mailing) (cmd : Command) :
    Comes o x (x.room.step cmd).1 (x.room.step cmd).2.2 (x.step o cmd).1 ∧
      (x.step o cmd).2 = (x.room.step cmd).2.1 := by
  unfold step Room.step
  cases x.room.isClosed with
  | true => exact comes_refuseAll o x cmd
  | false =>
    cases cmd with
    | connect c inbox => exact comes_connect o x c inbox
    | frame c data => exact ⟨comes_frame o x c data, rfl⟩
    | disconnect c => exact ⟨comes_disconnect o x c, rfl⟩
    | snapshot => exact ⟨.refl o x, rfl⟩
    | shutdown => exact ⟨comes_shutdown o x, rfl⟩

/-- What comes of commands is what the room makes of them, and so are the replies. -/
lemma comes_run (o : Outside) (x : Mailing) (cs : List Command) :
    Comes o x (x.room.run cs).1 (x.room.run cs).2 (x.run o cs).1 ∧
      (x.run o cs).2 = x.room.replies cs := by
  induction cs generalizing x with
  | nil => exact ⟨.refl o x, rfl⟩
  | cons cmd cs ih =>
    obtain ⟨first, reply⟩ := comes_step o x cmd
    obtain ⟨rest, replies⟩ := ih (x.step o cmd).1
    rw [first.room] at rest replies
    exact ⟨first.trans rest, congrArg₂ _ reply replies⟩

/-- Whatever commands come, whoever goes away when, and in whatever order members are come upon each
time: the room ends up as it does by itself, so that it looks the same, it replies the same, and
every inbox whose reader is still there in the end has got, in order, the items that the room
delivers to it. So two mailings that differ in what lies outside, one of which may be the one where
nobody goes away and the order is always the same, differ in nothing but what those have got who
have gone away. In particular the readers who stay in a hall, where others hang up, see what comes
of any mailing. -/
theorem readers_and_order_are_invisible {o o' : Outside} {cs : List Command} {x x' : Mailing}
    {replies replies' : List Reply} (ran : initial.run o cs = (x, replies))
    (ran' : initial.run o' cs = (x', replies')) :
    (x.room = (Room.initial.run cs).1 ∧ replies = Room.initial.replies cs ∧
      ∀ inbox, o.isGone x.now inbox = false →
        itemsFor inbox x.arrived = itemsFor inbox (Room.initial.run cs).2) ∧
    (x.room = x'.room ∧ x.room.look = x'.room.look ∧ replies = replies' ∧
      ∀ inbox, o.isGone x.now inbox = false → o'.isGone x'.now inbox = false →
        itemsFor inbox x.arrived = itemsFor inbox x'.arrived) ∧
    ∀ es, Hall.commands 0 es = cs →
      (Hall.initial.run es).1.room = x.room ∧
      ∀ inbox, .hangUp inbox ∉ es → o.isGone x.now inbox = false →
        itemsFor inbox (Hall.initial.run es).2 = itemsFor inbox x.arrived := by
  obtain ⟨comes, told⟩ := comes_run o initial cs
  obtain ⟨comes', told'⟩ := comes_run o' initial cs
  rw [ran] at comes told
  rw [ran'] at comes' told'
  have own : ∀ inbox, o.isGone x.now inbox = false →
      itemsFor inbox x.arrived = itemsFor inbox (Room.initial.run cs).2 := comes.arrived
  have own' : ∀ inbox, o'.isGone x'.now inbox = false →
      itemsFor inbox x'.arrived = itemsFor inbox (Room.initial.run cs).2 := comes'.arrived
  have room : x.room = x'.room := comes.room.trans comes'.room.symm
  refine ⟨⟨comes.room, told, own⟩, ⟨room, congrArg Room.look room, told.trans told'.symm, ?_⟩, ?_⟩
  · intro inbox there there'
    rw [own inbox there, own' inbox there']
  · rintro es rfl
    obtain ⟨halls, seen⟩ := Hall.run_eq Hall.initial es
    refine ⟨halls.trans comes.room.symm, ?_⟩
    intro inbox stays there
    rw [own inbox there]
    exact seen inbox List.not_mem_nil stays

/-- Nobody goes away, and members are come upon in the order in which they have come. -/
def undisturbed : Outside where
  isGone _ _ := false
  isGone_succ _ _ gone := gone
  order _ ms := ms
  order_perm _ ms := .refl ms

/-- The reader of one inbox goes away after six items, and now and then members are come upon in the
opposite order. -/
def restless : Outside where
  isGone t inbox := inbox = 1 && 6 ≤ t
  isGone_succ t inbox gone := by
    simp only [Bool.and_eq_true, decide_eq_true_eq] at gone ⊢
    exact ⟨gone.1, Nat.le_succ_of_le gone.2⟩
  order t ms := if t % 3 = 0 then ms.reverse else ms
  order_perm t ms := by
    split
    · exact ms.reverse_perm
    · exact .refl ms

/-- Two players, a move, one who is turned away, a glance, and the end. -/
def shortGame : List Command :=
  [.connect ⟨1⟩ 0, .connect ⟨2⟩ 1, .frame ⟨1⟩ (Request.frame (.increment 12)), .connect ⟨3⟩ 2,
    .snapshot, .shutdown]

/-- The second player goes away while both are told of the move, and nobody else sees a difference.
-/
theorem readers_and_order_are_invisible_shortGame :
    restless.isGone (initial.run restless shortGame).1.now 0 = false ∧
    (initial.run restless shortGame).2 = (initial.run undisturbed shortGame).2 ∧
    itemsFor 0 (initial.run restless shortGame).1.arrived =
      itemsFor 0 (initial.run undisturbed shortGame).1.arrived ∧
    itemsFor 1 (initial.run restless shortGame).1.arrived ≠
      itemsFor 1 (initial.run undisturbed shortGame).1.arrived := by
  obtain ⟨-, ⟨-, -, replies, own⟩, -⟩ :=
    @readers_and_order_are_invisible restless undisturbed shortGame _ _ _ _ rfl rfl
  exact ⟨rfl, replies, own 0 rfl rfl, by decide +kernel⟩

end Mailing

end ParityDuel
