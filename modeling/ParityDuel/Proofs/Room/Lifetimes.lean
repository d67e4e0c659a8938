import ParityDuel.Proofs.Room.Departures
import ParityDuel.Proofs.Session.Refusals

/-!
# The life of an inbox

An inbox lives from the attempt to connect that brings it to the departure of its connection or to
the shutdown of the room. `Room.Course` lists what can be put into it in between. An attempt that is
refused ends its inbox at once. A connection that is accepted is greeted, then it hears notices, and
its inbox ends by what takes the connection out (`ending`). `course_of_connect` says that there is
nothing else, for every attempt in every list of commands, with shutdowns among them or not.
-/

namespace ParityDuel

/-- Which item may come behind which in one inbox. -/
inductive Item.Before : Item → Item → Prop where
  | notice (n : Notice) (i : Item) : Before (.notice n) i
  | close : Before .close .ended

namespace Room

/-- How the inbox of a registered connection ends over a list of commands: not at all while the
connection stays, with the end when it leaves, and with a closing before it when the room is shut
down. -/
def ending (c : Conn) : List Command → List Item
  | [] => []
  | .disconnect d :: cs => if d = c then [.ended] else ending c cs
  | .shutdown :: _ => [.close, .ended]
  | _ :: cs => ending c cs

/-- The course of an inbox that `c` brings to a room: the answer to the attempt, and everything that
is put into the inbox by the attempt and by the commands behind it. -/
inductive Course (r : Room) (c : Conn) (later : List Command) : Reply → List Item → Prop where
  | unavailable :
    r.isClosed = true →
    Course r c later (.refused .unavailable) [.ended]
  | known :
    r.isClosed = false →
    r.isRegistered c = true →
    Course r c later (.refused (.alreadyConnected c)) [.ended]
  | full :
    r.isClosed = false →
    r.isRegistered c = false →
    r.session.seats.areFilled = true →
    Course r c later (.refused .full) [.notice (.refused "game is full"), .close, .ended]
  | first (further : List Notice) :
    r.isClosed = false →
    r.isRegistered c = false →
    r.session.seats = ⟨none, none⟩ →
    Course r c later (.seated .odd)
      (.notice (.assigned .odd r.session.board) :: .notice (.waiting "Waiting for opponent...") ::
        further.map .notice ++ ending c later)
  | second {a : Conn} (further : List Notice) :
    r.isClosed = false →
    r.isRegistered c = false →
    r.session.seats = ⟨some a, none⟩ →
    Course r c later (.seated .even)
      (.notice (.assigned .even r.session.board) :: .notice (.assigned .even r.session.board) ::
        further.map .notice ++ ending c later)

variable {r r' : Room} {cmd : Command} {cs : List Command} {c : Conn} {inbox : Inbox}

/-- An inbox ends with its connection or with the room. -/
lemma ended_mem_ending_iff : Item.ended ∈ ending c cs ↔ .disconnect c ∈ cs ∨ .shutdown ∈ cs := by
  induction cs with
  | nil => simp [ending]
  | cons cmd cs ih =>
    cases cmd with
    | disconnect d =>
      by_cases e : d = c
      · simp [ending, e]
      · simp [ending, e, ih, Ne.symm e]
    | shutdown => simp [ending]
    | _ => simp [ending, ih]

/-- There are three ways for an inbox to end, or not to. -/
lemma ending_cases (c : Conn) (cs : List Command) :
    ending c cs = [] ∨ ending c cs = [.ended] ∨ ending c cs = [.close, .ended] := by
  induction cs with
  | nil => exact .inl rfl
  | cons cmd cs ih =>
    cases cmd with
    | disconnect d =>
      rw [ending]
      split
      · exact .inr (.inl rfl)
      · exact ih
    | shutdown => exact .inr (.inr rfl)
    | _ => exact ih

/-- An inbox that has not ended gets no ending at all. -/
lemma ending_eq_nil_iff : ending c cs = [] ↔ .ended ∉ ending c cs := by
  obtain e | e | e := ending_cases c cs <;> simp [e]

/-- Only a shutdown closes. -/
lemma shutdown_mem_of_close (h : .close ∈ ending c cs) : .shutdown ∈ cs := by
  induction cs with
  | nil => cases h
  | cons cmd cs ih =>
    cases cmd with
    | disconnect d =>
      rw [ending] at h
      split at h
      · simp at h
      · exact List.mem_cons_of_mem _ (ih h)
    | shutdown => exact List.mem_cons_self
    | _ => exact List.mem_cons_of_mem _ (ih h)

/-- A member stays until its connection ends. -/
lemma Step.mem_of_mem {ls : List Letter} {ds : List Delivery} (st : r.Step cmd r' ls ds)
    (hm : (⟨c, inbox⟩ : Member) ∈ r.members) (stays : cmd ≠ .disconnect c) :
    (⟨c, inbox⟩ : Member) ∈ r'.members := by
  cases st with
  | joined _ _ => exact List.mem_append_left _ hm
  | @left d _ _ _ _ _ =>
    refine List.mem_filter.2 ⟨hm, decide_eq_true ?_⟩
    rintro rfl
    exact stays rfl
  | _ => exact hm

/-- The inbox of a member gets notices until it ends, and is kept for as long. -/
lemma run_of_member (sd : r.Sound) (own : r.OwnInboxes cs)
    (hm : (⟨c, inbox⟩ : Member) ∈ r.members) :
    ∃ further : List Notice,
      itemsFor inbox (r.run cs).2 = further.map .notice ++ ending c cs ∧
      (inbox ∈ (r.run cs).1.members.map Member.inbox ↔ ending c cs = []) := by
  induction cs generalizing r with
  | nil => exact ⟨[], rfl, iff_of_true (List.mem_map_of_mem hm) rfl⟩
  | cons cmd cs ih =>
    by_cases down : cmd = .shutdown
    · subst down
      have once : (r.members.map Member.inbox).count inbox = 1 :=
        List.count_eq_one_of_mem (List.nodup_append.1 own).1 (List.mem_map_of_mem hm)
      -- nobody brings the inbox again
      have old : inbox ∉ inboxesOf cs := fun hb =>
        (List.nodup_append.1 own).2.2 _ (List.mem_map_of_mem hm) _ hb rfl
      refine ⟨[], ?_⟩
      rw [run_cons, step_shutdown sd.isOpen, run_of_closed rfl, itemsFor_append,
        itemsFor_append, itemsFor_toAll, itemsFor_toAll, once, itemsFor_ended_of_not_mem old]
      exact ⟨rfl, iff_of_false List.not_mem_nil nofun⟩
    · by_cases gone : cmd = .disconnect c
      · subst gone
        obtain ⟨absent, last⟩ := run_disconnect sd own (sd.inboxOf?_eq_some_iff.2 hm)
        rw [last, ending, if_pos rfl]
        exact ⟨[], rfl, iff_of_false absent nofun⟩
      · obtain ⟨ls, st⟩ := step_inv sd.isOpen down
        have hm' := st.mem_of_mem hm gone
        obtain ⟨further, rest, kept⟩ := ih (sd.of_step st) (own.of_step st) hm'
        have same : ending c (cmd :: cs) = ending c cs := by
          cases cmd with
          | disconnect d => exact if_neg fun e => gone (by rw [e])
          | shutdown => exact absurd rfl down
          | _ => rfl
        rw [same]
        refine ⟨heardBy c ls ++ further, ?_, kept⟩
        rw [run_cons, itemsFor_append, st.itemsFor_eq sd own hm', rest, List.map_append,
          List.append_assoc]

/-- A new connection is seated as odd and told to wait if nobody is seated, and as even and told so
twice if somebody waits. -/
lemma greeting_of_connect {s s' : Session} {role : Role} {ls : List Letter} (sd : s.Sound)
    (new : s.seats.isSeated c = false) (h : s.connect c = .ok (role, s', ls)) :
    s.seats = ⟨none, none⟩ ∧ role = .odd ∧
      heardBy c ls = [.assigned .odd s.board, .waiting "Waiting for opponent..."] ∨
    ∃ a, s.seats = ⟨some a, none⟩ ∧ role = .even ∧
      heardBy c ls = [.assigned .even s.board, .assigned .even s.board] := by
  obtain ⟨seats, assigned, rfl, rfl⟩ := Session.connect_inv h
  cases assigned with
  | kept kept => simp [Seats.isSeated, kept] at new
  | odd _ free =>
    obtain rfl := sd.eq_initial free
    refine .inl ⟨rfl, rfl, ?_⟩
    simp [Session.greeting, Session.initial, Seats.empty, Seats.pair, Session.assignment]
  | @even a _ taken free =>
    have ne : a ≠ c := by
      rintro rfl
      rw [Seats.isSeated_iff.2 (.inl taken)] at new
      cases new
    refine .inr ⟨a, by rw [← taken, ← free], rfl, ?_⟩
    simp [Session.greeting, Seats.pair, taken, Session.assignment, heardBy_of_ne ne]

section Attempts

variable (inbox : Inbox) (isOpen : r.isClosed = false)

include isOpen

/-- Who is registered already is refused without a word. -/
lemma step_connect_of_known (known : r.isRegistered c = true) :
    r.step (.connect c inbox) = (r, .refused (.alreadyConnected c), [⟨inbox, .ended⟩]) := by
  simp [step, isOpen, connect, known]

/-- Who finds no seat is told why, and closed. -/
lemma step_connect_of_error {e : Refusal} (new : r.isRegistered c = false)
    (h : r.session.connect c = .error e) :
    r.step (.connect c inbox) = (r, .refused e,
      [⟨inbox, .notice (.refused e.message)⟩, ⟨inbox, .close⟩, ⟨inbox, .ended⟩]) := by
  simp [step, isOpen, connect, new, h]

/-- A connection that gets a seat is registered before anybody hears of it. -/
lemma step_connect_of_ok {role : Role} {s : Session} {ls : List Letter}
    (new : r.isRegistered c = false) (h : r.session.connect c = .ok (role, s, ls)) :
    r.step (.connect c inbox) = (⟨s, r.members ++ [⟨c, inbox⟩], r.isClosed⟩, .seated role,
      dispatch ⟨s, r.members ++ [⟨c, inbox⟩], r.isClosed⟩ ls) := by
  simp [step, isOpen, connect, new, h]

end Attempts

/-- An attempt that leaves the room as it is puts into a new inbox all that it ever gets. -/
lemma run_connect_of_unchanged {reply : Reply} {ds : List Delivery}
    (own : r.OwnInboxes (.connect c inbox :: cs))
    (h : r.step (.connect c inbox) = (r, reply, ds)) :
    inbox ∉ (r.run (.connect c inbox :: cs)).1.members.map Member.inbox ∧
      itemsFor inbox (r.run (.connect c inbox :: cs)).2 = itemsFor inbox ds := by
  have apart := List.nodup_append.1 own
  have gone : inbox ∉ r.members.map Member.inbox :=
    fun hm => apart.2.2 _ hm _ List.mem_cons_self rfl
  obtain ⟨absent, silent⟩ := run_of_absent gone (List.nodup_cons.1 apart.2.1).1
  rw [run_cons, h, itemsFor_append, silent, List.append_nil]
  exact ⟨absent, rfl⟩

/-- What becomes of an inbox that is new when it is brought: it is kept until it ends. -/
lemma course_of_connect (reached : r.isClosed = true ∨ r.Sound)
    (own : r.OwnInboxes (.connect c inbox :: cs)) :
    r.Course c cs (r.step (.connect c inbox)).2.1
        (itemsFor inbox (r.run (.connect c inbox :: cs)).2) ∧
      (inbox ∈ (r.run (.connect c inbox :: cs)).1.members.map Member.inbox ↔
        .ended ∉ itemsFor inbox (r.run (.connect c inbox :: cs)).2) := by
  obtain closed | sd := reached
  · have away := step_of_closed closed (.connect c inbox)
    obtain ⟨absent, items⟩ := run_connect_of_unchanged own away
    rw [items, away]
    have only := itemsFor_cons_self inbox .ended []
    exact ⟨only ▸ .unavailable closed, iff_of_false absent (not_not_intro (only ▸ by simp))⟩
  · cases known : r.isRegistered c with
    | true =>
      have away := step_connect_of_known inbox sd.isOpen known
      obtain ⟨absent, items⟩ := run_connect_of_unchanged own away
      rw [items, away, itemsFor_cons_self]
      exact ⟨.known sd.isOpen known, iff_of_false absent (by simp)⟩
    | false =>
      have new := sd.isSeated_eq_false known
      cases hc : r.session.connect c with
      | error e =>
        obtain ⟨rfl, _, filled⟩ := Session.connect_eq_error_iff.1 hc
        have away := step_connect_of_error inbox sd.isOpen known hc
        obtain ⟨absent, items⟩ := run_connect_of_unchanged own away
        rw [items, away, itemsFor_cons_self, itemsFor_cons_self, itemsFor_cons_self, itemsFor_nil]
        exact ⟨.full sd.isOpen known filled, iff_of_false absent (by simp)⟩
      | ok t =>
        obtain ⟨role, s, ls⟩ := t
        have joined := @Step.joined r c inbox role s ls known hc
        have hm : (⟨c, inbox⟩ : Member) ∈ r.members ++ [⟨c, inbox⟩] := by simp
        obtain ⟨further, rest, kept⟩ := run_of_member (sd.of_step joined) (own.of_step joined) hm
        rw [run_cons, itemsFor_append, step_connect_of_ok inbox sd.isOpen known hc,
          joined.itemsFor_eq sd own hm, rest]
        refine ⟨?_, kept.trans (ending_eq_nil_iff.trans (by simp))⟩
        obtain ⟨seats, rfl, told⟩ | ⟨a, seats, rfl, told⟩ := greeting_of_connect sd.session new hc
        · rw [told]
          exact .first further sd.isOpen known seats
        · rw [told]
          exact .second further sd.isOpen known seats

/-- Everything may come behind a notice, only the end behind a closing, and nothing behind the end.
-/
lemma Course.pairwise {reply : Reply} {items : List Item} (co : r.Course c cs reply items) :
    items.Pairwise Item.Before := by
  have shape : ∃ ns : List Notice, ∃ last : List Item, items = ns.map .notice ++ last ∧
      (last = [] ∨ last = [.ended] ∨ last = [.close, .ended]) := by
    cases co with
    | unavailable _ => exact ⟨[], _, rfl, .inr (.inl rfl)⟩
    | known _ _ => exact ⟨[], _, rfl, .inr (.inl rfl)⟩
    | full _ _ _ => exact ⟨[_], _, rfl, .inr (.inr rfl)⟩
    | first further _ _ _ => exact ⟨_ :: _ :: further, _, rfl, ending_cases c cs⟩
    | second further _ _ _ => exact ⟨_ :: _ :: further, _, rfl, ending_cases c cs⟩
  obtain ⟨ns, last, rfl, ends⟩ := shape
  refine List.pairwise_append.2 ⟨?_, ?_, ?_⟩
  · exact List.pairwise_map.2 (List.pairwise_of_forall fun n _ => .notice n _)
  · obtain rfl | rfl | rfl := ends
    · exact .nil
    · exact List.pairwise_singleton _ _
    · exact List.pairwise_pair.2 .close
  · intro i hi j _
    obtain ⟨n, _, rfl⟩ := List.mem_map.1 hi
    exact .notice n j

/-- The inbox of a member ends with its connection or with the room. -/
lemma Course.ended_mem_iff {role : Role} {items : List Item}
    (co : r.Course c cs (.seated role) items) :
    .ended ∈ items ↔ .disconnect c ∈ cs ∨ .shutdown ∈ cs := by
  cases co <;> simp [ended_mem_ending_iff]

/-- The inbox of a member is closed by a shutdown only. -/
lemma Course.shutdown_mem {role : Role} {items : List Item}
    (co : r.Course c cs (.seated role) items) (h : .close ∈ items) : .shutdown ∈ cs := by
  have last : .close ∈ ending c cs := by
    cases co <;> simpa using h
  exact shutdown_mem_of_close last

/-- What becomes of an inbox that commands bring to a room that is new. -/
lemma course_of_mem {before later : List Command}
    (fresh : (inboxesOf (before ++ .connect c inbox :: later)).Nodup) :
    (initial.run before).1.Course c later ((initial.run before).1.step (.connect c inbox)).2.1
        (itemsFor inbox (initial.run (before ++ .connect c inbox :: later)).2) ∧
      (inbox ∈ (initial.run (before ++ .connect c inbox :: later)).1.members.map Member.inbox ↔
        .ended ∉ itemsFor inbox (initial.run (before ++ .connect c inbox :: later)).2) := by
  have own : initial.OwnInboxes (before ++ .connect c inbox :: later) := fresh
  -- nobody has brought the inbox before
  have new : inbox ∉ inboxesOf before := by
    intro hm
    rw [inboxesOf, List.filterMap_append] at fresh
    exact (List.nodup_append.1 fresh).2.2 _ hm _ List.mem_cons_self rfl
  obtain ⟨_, silent⟩ := run_of_absent (r := initial) List.not_mem_nil new
  rw [run_append, itemsFor_append, silent]
  exact course_of_connect (isClosed_or_sound before) own.after

end Room

end ParityDuel
