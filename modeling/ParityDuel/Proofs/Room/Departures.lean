import Mathlib.Tactic.FinCases
import ParityDuel.Proofs.Room.Shutdown

/-!
# Departures

When a player leaves, the game is taken down: the session starts over, everyone else hears of it
once, and the inbox of the player ends (`step_disconnect_of_seated`). When anyone else leaves,
nobody hears of it. An inbox that has ended gets nothing any more (`run_of_absent`). As long as
players stay, newcomers take the free seats in their order (`seatings_eq_zip`), so the first two
newcomers after a departure play the next game, whoever is still there from the last one.
-/

namespace ParityDuel

namespace Seats

/-- The roles whose seats are free, in the order in which they are filled. -/
def free (s : Seats) : List Role := [Role.odd, .even].filter fun r => (s.holder r).isNone

/-- A connection without a seat gets the first free one, and is refused if there is none. -/
lemma assign_of_unseated {s : Seats} {c : Conn} (h : s.isSeated c = false) :
    s.assign c = match s.free with
      | [] => .error .full
      | role :: _ => .ok (role, s.put c role) := by
  rw [isSeated_eq_false_iff] at h
  obtain ⟨odd, even⟩ := s
  rw [assign, h]
  cases odd <;> cases even <;> rfl

/-- Filling the first free seat leaves the others free, and seats nobody else. -/
lemma put_of_free {s : Seats} {role : Role} {roles : List Role} (h : s.free = role :: roles)
    (c : Conn) : (s.put c role).free = roles ∧
      ∀ d, (s.put c role).isSeated d = true ↔ d = c ∨ s.isSeated d = true := by
  obtain ⟨odd, even⟩ := s
  cases odd with
  | none =>
    obtain ⟨rfl, rfl⟩ := List.cons.inj h
    refine ⟨by cases even <;> rfl, fun d => ?_⟩
    simp [put, set, isSeated_iff, eq_comm (a := d)]
  | some a =>
    cases even with
    | none =>
      obtain ⟨rfl, rfl⟩ := List.cons.inj h
      refine ⟨rfl, fun d => ?_⟩
      simp [put, set, isSeated_iff, eq_comm (a := d), or_comm]
    | some b => cases h

end Seats

namespace Room

section Silence

variable {r r' : Room} {inbox : Inbox}

/-- An inbox that no member has gets no letter. -/
lemma itemsFor_dispatch_of_absent (gone : inbox ∉ r.members.map Member.inbox) (ls : List Letter) :
    itemsFor inbox (r.dispatch ls) = [] := by
  unfold dispatch
  induction ls with
  | nil => rfl
  | cons l ls ih =>
    rw [List.flatMap_cons, itemsFor_append, ih, List.append_nil]
    obtain ⟨recipient, n⟩ := l
    cases recipient with
    | all => simp only [deliver, itemsFor_toAll, List.count_eq_zero_of_not_mem gone,
        List.replicate_zero]
    | one d =>
      simp only [deliver, toOne]
      cases hd : r.inboxOf? d with
      | none => rfl
      | some j =>
        have ne : j ≠ inbox := by
          rintro rfl
          exact gone (List.mem_map_of_mem (mem_of_inboxOf? hd))
        exact itemsFor_cons_of_ne ne _ _

/-- A command puts nothing into an inbox that no member has and that it does not bring. -/
lemma Step.itemsFor_of_absent {cmd : Command} {ls : List Letter} {ds : List Delivery}
    (st : r.Step cmd r' ls ds) (gone : inbox ∉ r.members.map Member.inbox)
    (old : cmd.inbox? ≠ some inbox) :
    inbox ∉ r'.members.map Member.inbox ∧ itemsFor inbox ds = [] := by
  cases st with
  | @known c j _ =>
    have ne : j ≠ inbox := fun e => old (congrArg some e)
    exact ⟨gone, itemsFor_cons_of_ne ne _ _⟩
  | @turnedAway c j e _ _ =>
    have ne : j ≠ inbox := fun e => old (congrArg some e)
    refine ⟨gone, ?_⟩
    rw [itemsFor_cons_of_ne ne, itemsFor_cons_of_ne ne, itemsFor_cons_of_ne ne, itemsFor_nil]
  | @joined c j role s ls _ _ =>
    have ne : inbox ≠ j := fun e => old (congrArg some e.symm)
    have gone' : inbox ∉ (r.members ++ [(⟨c, j⟩ : Member)]).map Member.inbox := by
      rw [List.map_append, List.mem_append, not_or]
      exact ⟨gone, mt List.mem_singleton.1 ne⟩
    exact ⟨gone', itemsFor_dispatch_of_absent gone' ls⟩
  | passedOver _ => exact ⟨gone, rfl⟩
  | unread _ _ =>
    rw [refuse_eq_dispatch]
    exact ⟨gone, itemsFor_dispatch_of_absent gone _⟩
  | refused _ _ _ =>
    rw [refuse_eq_dispatch]
    exact ⟨gone, itemsFor_dispatch_of_absent gone _⟩
  | granted _ _ _ => exact ⟨gone, itemsFor_dispatch_of_absent gone _⟩
  | absent _ => exact ⟨gone, rfl⟩
  | @left c j s ls hi _ =>
    have gone' : inbox ∉ (r.members.filter (·.conn ≠ c)).map Member.inbox :=
      fun hm => gone ((List.filter_sublist.map _).subset hm)
    have ne : j ≠ inbox := by
      rintro rfl
      exact gone (List.mem_map_of_mem (mem_of_inboxOf? hi))
    refine ⟨gone', ?_⟩
    rw [itemsFor_cons_of_ne ne]
    exact itemsFor_dispatch_of_absent gone' ls
  | looked => exact ⟨gone, rfl⟩

/-- Commands put nothing into an inbox that no member has and that they do not bring, and nobody
gets it by them. -/
lemma run_of_absent {cs : List Command} (gone : inbox ∉ r.members.map Member.inbox)
    (old : inbox ∉ inboxesOf cs) :
    inbox ∉ (r.run cs).1.members.map Member.inbox ∧ itemsFor inbox (r.run cs).2 = [] := by
  induction cs generalizing r with
  | nil => exact ⟨gone, rfl⟩
  | cons cmd cs ih =>
    cases closed : r.isClosed with
    | true =>
      rw [run_of_closed closed]
      exact ⟨gone, itemsFor_ended_of_not_mem old⟩
    | false =>
      have first : cmd.inbox? ≠ some inbox := by
        intro e
        exact old (List.mem_filterMap.2 ⟨cmd, List.mem_cons_self, e⟩)
      have rest : inbox ∉ inboxesOf cs := by
        intro hm
        exact old ((List.Sublist.filterMap _ (List.sublist_cons_self cmd cs)).subset hm)
      have silent : inbox ∉ (r.step cmd).1.members.map Member.inbox ∧
          itemsFor inbox (r.step cmd).2.2 = [] := by
        by_cases e : cmd = .shutdown
        · subst e
          rw [step_shutdown closed]
          refine ⟨List.not_mem_nil, ?_⟩
          rw [itemsFor_append, itemsFor_toAll, itemsFor_toAll, List.count_eq_zero_of_not_mem gone]
          rfl
        · obtain ⟨ls, st⟩ := step_inv closed e
          exact st.itemsFor_of_absent gone first
      obtain ⟨still, later⟩ := ih silent.1 rest
      refine ⟨still, ?_⟩
      rw [run_cons, itemsFor_append, silent.2, later]
      rfl

end Silence

section Leaving

variable {r : Room} {c : Conn} {inbox : Inbox}

/-- The room without a connection; its session has not changed. -/
def without (r : Room) (c : Conn) : Room := ⟨r.session, r.members.filter (·.conn ≠ c), r.isClosed⟩

/-- Nothing is taken out of a room with somebody who is not there. -/
lemma without_of_unregistered (h : r.isRegistered c = false) : r.without c = r := by
  have all : r.members.filter (·.conn ≠ c) = r.members := by
    rw [List.filter_eq_self]
    intro m hm
    simpa using List.any_eq_false.1 h m hm
  rw [without, all]

/-- The room without a player; the session has started over. -/
def vacated (r : Room) (c : Conn) : Room := ⟨.initial, r.members.filter (·.conn ≠ c), r.isClosed⟩

/-- Whoever else is registered stays so. -/
lemma isRegistered_vacated {d : Conn} :
    (r.vacated c).isRegistered d = true ↔ d ≠ c ∧ r.isRegistered d = true := by
  rw [isRegistered_iff, isRegistered_iff]
  simp [vacated, List.mem_filter, and_comm]

/-- The departure of somebody who is not there changes nothing. -/
lemma step_disconnect_of_unregistered (sd : r.Sound) (h : r.isRegistered c = false) :
    r.step (.disconnect c) = (r, .done, []) := by
  simp [step, sd.isOpen, disconnect, inboxOf?_eq_none_iff.2 h]

/-- Whoever is there is taken out before the others hear of it. -/
lemma step_disconnect_of_registered (sd : r.Sound) (hi : r.inboxOf? c = some inbox) :
    r.step (.disconnect c) =
      (⟨(r.session.leave c).1, r.members.filter (·.conn ≠ c), r.isClosed⟩, .done,
        ⟨inbox, .ended⟩ :: dispatch ⟨(r.session.leave c).1, r.members.filter (·.conn ≠ c),
          r.isClosed⟩ (r.session.leave c).2) := by
  simp [step, sd.isOpen, disconnect, hi]

/-- The departure of somebody who does not play ends one inbox and changes nothing else. -/
lemma step_disconnect_of_unseated (sd : r.Sound) (hi : r.inboxOf? c = some inbox)
    (unseated : r.session.seats.isSeated c = false) :
    r.step (.disconnect c) = (r.without c, .done, [⟨inbox, .ended⟩]) := by
  rw [step_disconnect_of_registered sd hi, sd.session.leave_unseated unseated]
  rfl

/-- The departure of somebody who does not play, registered or not, changes no game and is told to
nobody. -/
lemma step_disconnect_of_outsider (sd : r.Sound) (unseated : r.session.seats.isSeated c = false) :
    r.step (.disconnect c) = (r.without c, .done, r.toOne c .ended) := by
  cases hi : r.inboxOf? c with
  | none =>
    have unregistered := inboxOf?_eq_none_iff.1 hi
    rw [step_disconnect_of_unregistered sd unregistered, without_of_unregistered unregistered]
    simp [toOne, hi]
  | some inbox =>
    rw [step_disconnect_of_unseated sd hi unseated]
    simp [toOne, hi]

/-- The departure of a player takes the game down. -/
lemma step_disconnect_of_seated (sd : r.Sound) (hi : r.inboxOf? c = some inbox)
    (seated : r.session.seats.isSeated c = true) :
    r.step (.disconnect c) = (r.vacated c, .done, ⟨inbox, .ended⟩ ::
      (r.vacated c).dispatch [⟨.all, .opponentLeft "Opponent disconnected. Game over."⟩]) := by
  rw [step_disconnect_of_registered sd hi, Session.leave_seated seated]
  rfl

/-- Everyone else hears once that a player has left. -/
lemma itemsFor_disconnect_of_seated {cs : List Command} {m : Member} (sd : r.Sound)
    (own : r.OwnInboxes (.disconnect c :: cs)) (hi : r.inboxOf? c = some inbox)
    (seated : r.session.seats.isSeated c = true) (hm : m ∈ r.members) (other : m.conn ≠ c) :
    itemsFor m.inbox (r.step (.disconnect c)).2.2 =
      [.notice (.opponentLeft "Opponent disconnected. Game over.")] := by
  have st := Step.left hi (Session.leave_seated seated)
  have stays : m ∈ r.members.filter (·.conn ≠ c) :=
    List.mem_filter.2 ⟨hm, decide_eq_true other⟩
  rw [step_disconnect_of_seated sd hi seated]
  exact st.itemsFor_eq sd own stays

/-- The inbox of whoever leaves ends and gets nothing more, and nobody gets it again. -/
lemma run_disconnect {cs : List Command} (sd : r.Sound)
    (own : r.OwnInboxes (.disconnect c :: cs)) (hi : r.inboxOf? c = some inbox) :
    inbox ∉ (r.run (.disconnect c :: cs)).1.members.map Member.inbox ∧
      itemsFor inbox (r.run (.disconnect c :: cs)).2 = [.ended] := by
  have gone : inbox ∉ (r.members.filter (·.conn ≠ c)).map Member.inbox := by
    intro hm
    obtain ⟨⟨d, j⟩, mem, rfl⟩ := List.mem_map.1 hm
    obtain ⟨old, ne⟩ := List.mem_filter.1 mem
    simp [own.conn_eq old (mem_of_inboxOf? hi)] at ne
  -- nor does anybody bring it again
  have old : inbox ∉ inboxesOf cs := fun hm =>
    (List.nodup_append.1 own).2.2 _ (List.mem_map_of_mem (mem_of_inboxOf? hi)) _ hm rfl
  have told := itemsFor_dispatch_of_absent gone (r.session.leave c).2
    (r := ⟨(r.session.leave c).1, r.members.filter (·.conn ≠ c), r.isClosed⟩)
  obtain ⟨still, later⟩ := run_of_absent gone old
    (r := ⟨(r.session.leave c).1, r.members.filter (·.conn ≠ c), r.isClosed⟩)
  rw [run_cons, step_disconnect_of_registered sd hi, itemsFor_append, itemsFor_cons_self, told,
    later]
  exact ⟨still, rfl⟩

end Leaving

section Newcomers

variable {r : Room} {cmd : Command} {cs : List Command}

/-- The connection that asks for a seat by a command, if it is new. -/
def newcomer? (r : Room) : Command → Option Conn
  | .connect c _ => if r.isRegistered c then none else some c
  | _ => none

/-- The connection that a command seats, and its role. -/
def seating? (r : Room) : Command → Option (Conn × Role)
  | .connect c inbox =>
    match (r.step (.connect c inbox)).2.1 with
    | .seated role => some (c, role)
    | _ => none
  | _ => none

/-- The connections that ask for a seat and are new then, in their order. -/
def newcomers (r : Room) : List Command → List Conn
  | [] => []
  | cmd :: cs => (r.newcomer? cmd).toList ++ (r.step cmd).1.newcomers cs

/-- The connections that are seated, in their order, each with its role. -/
def seatings (r : Room) : List Command → List (Conn × Role)
  | [] => []
  | cmd :: cs => (r.seating? cmd).toList ++ (r.step cmd).1.seatings cs

/-- Whether a command takes a player out. -/
def takesPlayer (r : Room) : Command → Bool
  | .disconnect c => r.session.seats.isSeated c
  | _ => false

/-- No command of the list takes a player out. -/
def PlayersStay (r : Room) : List Command → Prop
  | [] => True
  | cmd :: cs => r.takesPlayer cmd = false ∧ (r.step cmd).1.PlayersStay cs

/-- A newcomer gets the first free seat, and nothing if there is none. -/
lemma seating?_of_new {c : Conn} (inbox : Inbox) (sd : r.Sound) (new : r.isRegistered c = false) :
    r.seating? (.connect c inbox) = r.session.seats.free.head?.map (c, ·) ∧
      (r.step (.connect c inbox)).1.session.seats =
        (r.session.seats.free.head?.map (r.session.seats.put c)).getD r.session.seats := by
  have assigned := Seats.assign_of_unseated (sd.isSeated_eq_false new)
  cases free : r.session.seats.free with
  | nil => simp [seating?, step, sd.isOpen, connect, new, Session.connect, assigned, free]
  | cons role roles =>
    simp [seating?, step, sd.isOpen, connect, new, Session.connect, assigned, free]

/-- Unless somebody is new or a player leaves, the seats are held as before, up to the roles. -/
lemma Step.seats_of_no_newcomer {r' : Room} {ls : List Letter} {ds : List Delivery}
    (st : r.Step cmd r' ls ds) (sd : r.Sound) (old : r.newcomer? cmd = none)
    (stay : r.takesPlayer cmd = false) :
    r'.session.seats.free = r.session.seats.free ∧
      ∀ d, r'.session.seats.isSeated d = r.session.seats.isSeated d := by
  cases st with
  | known _ => exact ⟨rfl, fun _ => rfl⟩
  | turnedAway hr _ => simp [newcomer?, hr] at old
  | joined hr _ => simp [newcomer?, hr] at old
  | passedOver _ => exact ⟨rfl, fun _ => rfl⟩
  | unread _ _ => exact ⟨rfl, fun _ => rfl⟩
  | refused _ _ _ => exact ⟨rfl, fun _ => rfl⟩
  | granted _ _ hs =>
    have sv := Session.serve_inv hs
    refine ⟨?_, fun _ => sv.isSeated_eq⟩
    cases sv with
    | moved _ _ _ _ => rfl
    | proposed _ _ _ => rfl
    | agreed seats _ _ =>
      -- the two change places, and no seat is free before or after
      rw [seats]
      rfl
  | absent _ => exact ⟨rfl, fun _ => rfl⟩
  | left _ hl =>
    obtain ⟨seated, _⟩ | ⟨_, rfl, _⟩ := sd.session.leave_inv hl
    · simp [takesPlayer, seated] at stay
    · exact ⟨rfl, fun _ => rfl⟩
  | looked => exact ⟨rfl, fun _ => rfl⟩

/-- Nobody is seated by a command but a newcomer. -/
lemma seating?_of_no_newcomer (sd : r.Sound) (old : r.newcomer? cmd = none) :
    r.seating? cmd = none := by
  cases cmd with
  | connect c inbox =>
    cases hr : r.isRegistered c with
    | true => simp [seating?, step, sd.isOpen, connect, hr]
    | false => simp [newcomer?, hr] at old
  | _ => rfl

/-- A newcomer is a connection that is not registered when it asks for a seat. -/
lemma newcomer?_eq_some {c : Conn} (h : r.newcomer? cmd = some c) :
    r.isRegistered c = false ∧ ∃ inbox, cmd = .connect c inbox := by
  cases cmd with
  | connect d inbox =>
    cases hr : r.isRegistered d with
    | true => simp [newcomer?, hr] at h
    | false =>
      obtain rfl : d = c := by simpa [newcomer?, hr] using h
      exact ⟨hr, inbox, rfl⟩
  | _ => cases h

/-- As long as players stay, newcomers take the free seats in their order, and nobody else is
seated. -/
lemma seatings_eq_zip (sd : r.Sound) (h : .shutdown ∉ cs) (stay : r.PlayersStay cs) :
    r.seatings cs = (r.newcomers cs).zip r.session.seats.free ∧
      ∀ d, (r.run cs).1.session.seats.isSeated d = true ↔
        r.session.seats.isSeated d = true ∨
          d ∈ (r.newcomers cs).take r.session.seats.free.length := by
  induction cs generalizing r with
  | nil => exact ⟨rfl, fun d => by simp [newcomers]⟩
  | cons cmd cs ih =>
    rw [List.mem_cons, not_or] at h
    obtain ⟨ls, st⟩ := step_inv sd.isOpen (Ne.symm h.1)
    obtain ⟨zip, seated⟩ := ih (sd.of_step st) h.2 stay.2
    rw [seatings, newcomers, run_cons]
    cases new : r.newcomer? cmd with
    | none =>
      obtain ⟨free, same⟩ := st.seats_of_no_newcomer sd new stay.1
      rw [seating?_of_no_newcomer sd new]
      simp only [Option.toList_none, List.nil_append]
      exact ⟨by rw [zip, free], fun d => by rw [seated, free, same]⟩
    | some c =>
      obtain ⟨unregistered, inbox, rfl⟩ := newcomer?_eq_some new
      obtain ⟨seating, seats⟩ := seating?_of_new inbox sd unregistered
      rw [seating, zip]
      -- the newcomer takes the first free seat, and whoever comes later takes the others
      cases free : r.session.seats.free with
      | nil =>
        have same : (r.step (.connect c inbox)).1.session.seats = r.session.seats := by
          rw [seats, free]
          rfl
        rw [same] at seated ⊢
        exact ⟨by simp [free], fun d => by simp [seated, free]⟩
      | cons role roles =>
        have put : (r.step (.connect c inbox)).1.session.seats = r.session.seats.put c role := by
          rw [seats, free]
          rfl
        obtain ⟨others, sits⟩ := Seats.put_of_free free c
        rw [put] at seated ⊢
        rw [others] at seated ⊢
        refine ⟨rfl, fun d => ?_⟩
        rw [seated, sits]
        simp [or_assoc, or_left_comm]

/-- As long as players stay in a room whose session has started over, the first two newcomers are
seated as odd and as even, and nobody else plays. -/
lemma next_game (sd : r.Sound) (anew : r.session = .initial) (h : .shutdown ∉ cs)
    (stay : r.PlayersStay cs) :
    r.seatings cs = (r.newcomers cs).zip [.odd, .even] ∧
      ∀ d, (r.run cs).1.session.seats.isSeated d = true ↔ d ∈ (r.newcomers cs).take 2 := by
  obtain ⟨zip, players⟩ := seatings_eq_zip sd h stay
  have free : r.session.seats.free = [.odd, .even] := by
    rw [anew]
    rfl
  rw [free] at zip players
  refine ⟨zip, fun d => ?_⟩
  have nobody : ¬ Session.initial.seats.isSeated d = true := by simp
  rw [players, anew]
  exact or_iff_right nobody

lemma newcomers_append (r : Room) (cs cs' : List Command) :
    r.newcomers (cs ++ cs') = r.newcomers cs ++ (r.run cs).1.newcomers cs' := by
  induction cs generalizing r with
  | nil => rfl
  | cons cmd cs ih => rw [List.cons_append, newcomers, newcomers, ih, List.append_assoc, run_cons]

/-- Nobody is new who brings no inbox. -/
lemma newcomers_of_no_inbox (none : ∀ cmd ∈ cs, cmd.inbox? = Option.none) :
    r.newcomers cs = [] := by
  induction cs generalizing r with
  | nil => rfl
  | cons cmd cs ih =>
    obtain ⟨first, rest⟩ := List.forall_mem_cons.1 none
    rw [newcomers, ih rest]
    cases cmd with
    | connect c inbox => cases first
    | _ => rfl

/-- A connection is registered by a command of its own only. -/
lemma isRegistered_run_eq_false {c : Conn} (sd : r.Sound) (h : .shutdown ∉ cs)
    (none : ∀ inbox, .connect c inbox ∉ cs) (out : r.isRegistered c = false) :
    (r.run cs).1.isRegistered c = false := by
  induction cs generalizing r with
  | nil => exact out
  | cons cmd cs ih =>
    rw [List.mem_cons, not_or] at h
    obtain ⟨ls, st⟩ := step_inv sd.isOpen (Ne.symm h.1)
    refine ih (sd.of_step st) h.2 (fun inbox hm => none inbox (List.mem_cons_of_mem _ hm)) ?_
    rw [← Bool.not_eq_true] at out ⊢
    intro there
    obtain ⟨inbox, hm⟩ := isRegistered_iff.1 there
    obtain old | rfl := st.mem_or_eq hm
    · exact out (isRegistered_iff.2 ⟨inbox, old⟩)
    · exact none inbox List.mem_cons_self

/-- The first two connections that ask for a seat in an empty room are its first two newcomers. -/
lemma newcomers_of_two {a b : Conn} {i j : Inbox} {first second rest : List Command}
    (ne : a ≠ b) (h : .shutdown ∉ first ++ .connect a i :: (second ++ .connect b j :: rest))
    (before : ∀ cmd ∈ first, cmd.inbox? = none) (between : ∀ cmd ∈ second, cmd.inbox? = none) :
    ∃ others, initial.newcomers (first ++ .connect a i :: (second ++ .connect b j :: rest)) =
      a :: b :: others := by
  rw [List.mem_append, not_or, List.mem_cons, not_or, List.mem_append, not_or] at h
  obtain ⟨down, _, down', _⟩ := h
  have silent : ∀ (d : Conn) (inbox : Inbox), .connect d inbox ∉ first := fun d inbox hm =>
    nomatch before _ hm
  have silent' : ∀ (d : Conn) (inbox : Inbox), .connect d inbox ∉ second := fun d inbox hm =>
    nomatch between _ hm
  have sd := sound_initial.run down
  have newA := isRegistered_run_eq_false (c := a) sound_initial down (silent a) rfl
  have newB := isRegistered_run_eq_false (c := b) sound_initial down (silent b) rfl
  -- the second one is new as well, for the first one is somebody else
  have sd' : ((initial.run first).1.step (.connect a i)).1.Sound := sd.step nofun
  have newB' : ((initial.run first).1.step (.connect a i)).1.isRegistered b = false := by
    have other : ∀ inbox, .connect b inbox ∉ [Command.connect a i] := by
      intro inbox hm
      rw [List.mem_singleton, Command.connect.injEq] at hm
      exact ne hm.1.symm
    exact isRegistered_run_eq_false sd (by simp) other newB
  have newB'' := isRegistered_run_eq_false sd' down' (silent' b) newB'
  rw [newcomers_append, newcomers_of_no_inbox before, newcomers, newcomers_append,
    newcomers_of_no_inbox between, newcomers, newcomer?, newcomer?, newA, newB'']
  exact ⟨_, rfl⟩

end Newcomers

/-- In every room that an orderly run leads to: if a connection is not registered, its departure
changes nothing. If it is registered and does not play, it is taken out, its inbox ends, and nothing
else changes. In any case its inbox gets nothing more. If it plays, it is registered; its departure
starts the session over, takes it out and nobody else, and everyone else hears of it once. As long
as players stay after that, the newcomers are seated in their order, the first one as odd and the
second one as even, whoever is still registered; and nobody but these two plays, so that the
departure of anyone else leaves their session as it is and is told to nobody. -/
theorem departure_takes_the_game_down {before : List Command} {r : Room} (h : Orderly before)
    (reached : (initial.run before).1 = r) (c : Conn) :
    (r.isRegistered c = false → r.step (.disconnect c) = (r, .done, [])) ∧
    (∀ inbox, r.inboxOf? c = some inbox → r.session.seats.isSeated c = false →
      r.step (.disconnect c) = (r.without c, .done, [⟨inbox, .ended⟩])) ∧
    (∀ inbox later, r.inboxOf? c = some inbox → Orderly (before ++ .disconnect c :: later) →
      itemsFor inbox (r.run (.disconnect c :: later)).2 = [.ended]) ∧
    (r.session.seats.isSeated c = true →
      r.isRegistered c = true ∧
      (r.step (.disconnect c)).1 = r.vacated c ∧ (r.step (.disconnect c)).2.1 = .done ∧
      (r.vacated c).session = .initial ∧
      (∀ d, (r.vacated c).isRegistered d = true ↔ d ≠ c ∧ r.isRegistered d = true) ∧
      (∀ m ∈ r.members, m.conn ≠ c → itemsFor m.inbox (r.step (.disconnect c)).2.2 =
        [.notice (.opponentLeft "Opponent disconnected. Game over.")]) ∧
      ∀ later q, .shutdown ∉ later → (r.vacated c).PlayersStay later →
        ((r.vacated c).run later).1 = q →
          (r.vacated c).seatings later =
            ((r.vacated c).newcomers later).zip [.odd, .even] ∧
          (∀ d, q.session.seats.isSeated d = true ↔
            d ∈ ((r.vacated c).newcomers later).take 2) ∧
          ∀ d, d ∉ ((r.vacated c).newcomers later).take 2 →
            q.step (.disconnect d) = (q.without d, .done, q.toOne d .ended)) := by
  subst reached
  have sd := sound_initial.run h.noShutdown
  refine ⟨step_disconnect_of_unregistered sd, fun inbox => step_disconnect_of_unseated sd,
    fun inbox later hi orderly => ?_, fun seated => ?_⟩
  · have own := (ownInboxes_of_orderly orderly).run sound_initial orderly.left
    exact (run_disconnect sd own hi).2
  · have registered := sd.seatedRegistered c seated
    obtain ⟨inbox, hm⟩ := isRegistered_iff.1 registered
    have hi := sd.inboxOf?_eq_some_iff.2 hm
    have own : (initial.run before).1.OwnInboxes [.disconnect c] := by
      have all : initial.OwnInboxes (before ++ []) := by
        rw [List.append_nil]
        exact ownInboxes_of_orderly h
      exact all.run sound_initial h.noShutdown
    have down := step_disconnect_of_seated sd hi seated
    refine ⟨registered, by rw [down], by rw [down], rfl, fun d => isRegistered_vacated,
      fun m hm other => itemsFor_disconnect_of_seated sd own hi seated hm other, ?_⟩
    rintro later _ running stay rfl
    have sd' : ((initial.run before).1.vacated c).Sound := by
      have after : ((initial.run before).1.step (.disconnect c)).1.Sound := sd.step nofun
      rwa [down] at after
    obtain ⟨zip, players⟩ := next_game sd' rfl running stay
    refine ⟨zip, players, fun d out => step_disconnect_of_outsider (sd'.run running) ?_⟩
    rw [← Bool.not_eq_true]
    exact mt (players d).1 out

/-- The second game, with a vote pending. -/
def votedRun : List Command := leftoverRun ++ [.frame ⟨4⟩ (Request.frame .rematch)]

/-- The room after that. -/
def votedRoom : Room where
  session := ⟨.empty, ⟨some ⟨4⟩, some ⟨5⟩⟩, ⟨[⟨4⟩]⟩, false⟩
  members := [⟨⟨2⟩, 1⟩, ⟨⟨4⟩, 2⟩, ⟨⟨5⟩, 3⟩]
  isClosed := false

/-- A leftover asks for a move and for a seat, two newcomers come, a third one is turned away, and
the leftover leaves. -/
def thirdGame : List Command :=
  [.frame ⟨2⟩ (Request.frame (.increment 12)), .connect ⟨2⟩ 4, .connect ⟨6⟩ 5, .connect ⟨7⟩ 6,
    .connect ⟨8⟩ 7, .disconnect ⟨2⟩]

/-- A player of the second game leaves; the leftovers of both games hear of it, and two newcomers
play the third one. -/
theorem departure_takes_the_game_down_again :
    Orderly (votedRun ++ .disconnect ⟨5⟩ :: thirdGame) ∧ (initial.run votedRun).1 = votedRoom ∧
    votedRoom.session.seats.isSeated ⟨5⟩ = true ∧
    (votedRoom.vacated ⟨5⟩).PlayersStay thirdGame ∧
    (∀ m ∈ [(⟨⟨2⟩, 1⟩ : Member), ⟨⟨4⟩, 2⟩],
      itemsFor m.inbox (votedRoom.step (.disconnect ⟨5⟩)).2.2 =
        [.notice (.opponentLeft "Opponent disconnected. Game over.")]) ∧
    itemsFor 3 (votedRoom.run (.disconnect ⟨5⟩ :: thirdGame)).2 = [.ended] ∧
    (votedRoom.vacated ⟨5⟩).seatings thirdGame = [(⟨6⟩, .odd), (⟨7⟩, .even)] ∧
    ∀ q, ((votedRoom.vacated ⟨5⟩).run thirdGame).1 = q →
      q.step (.disconnect ⟨4⟩) = (q.without ⟨4⟩, .done, q.toOne ⟨4⟩ .ended) := by
  have orderly : Orderly (votedRun ++ .disconnect ⟨5⟩ :: thirdGame) := ⟨by decide, by decide⟩
  have before : Orderly votedRun := ⟨by decide, by decide⟩
  have reached : (initial.run votedRun).1 = votedRoom := by
    simp only [votedRun, leftoverRun, List.cons_append, List.nil_append, run_cons, run_nil,
      step_frame ofFrame_rematch]
    decide +kernel
  have stay : (votedRoom.vacated ⟨5⟩).PlayersStay thirdGame := by
    simp only [thirdGame, PlayersStay, step_frame ofFrame_middle]
    decide +kernel
  have newcomers : (votedRoom.vacated ⟨5⟩).newcomers thirdGame = [⟨6⟩, ⟨7⟩, ⟨8⟩] := by
    simp only [thirdGame, Room.newcomers, step_frame ofFrame_middle]
    decide +kernel
  obtain ⟨_, _, silent, down⟩ := departure_takes_the_game_down before reached ⟨5⟩
  obtain ⟨_, _, _, _, _, told, next⟩ := down rfl
  obtain ⟨seatings, _, others⟩ := next thirdGame _ (by decide) stay rfl
  rw [newcomers] at seatings others
  refine ⟨orderly, reached, rfl, stay, ?_, silent _ _ rfl orderly, seatings, ?_⟩
  · intro m hm
    have others : m ∈ votedRoom.members ∧ m.conn ≠ ⟨5⟩ := by
      fin_cases hm <;> decide
    exact told m others.1 others.2
  · rintro _ rfl
    exact others ⟨4⟩ (by decide)

end Room

end ParityDuel
