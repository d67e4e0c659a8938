import ParityDuel.Proofs.Room.Soundness

/-!
# Delivery

What ends up in one inbox. While every registered connection has an inbox of its own, the inbox of a
member gets exactly the notices of the letters that are for this member, in their order
(`itemsFor_dispatch`). Inboxes stay apart as long as every attempt to connect brings a new one:
`OwnInboxes` says so of a room and of the commands still to come, and every command keeps it.
-/

namespace ParityDuel

/-- Whether a letter is for a connection. -/
def Letter.isFor (l : Letter) (c : Conn) : Bool :=
  match l.recipient with
  | .all => true
  | .one d => d = c

/-- What a registered connection hears of letters, in their order. -/
def heardBy (c : Conn) (ls : List Letter) : List Notice :=
  (ls.filter (·.isFor c)).map Letter.notice

@[simp] lemma heardBy_nil (c : Conn) : heardBy c [] = [] := rfl

@[simp] lemma heardBy_all (c : Conn) (n : Notice) (ls : List Letter) :
    heardBy c (⟨.all, n⟩ :: ls) = n :: heardBy c ls := rfl

@[simp] lemma heardBy_self (c : Conn) (n : Notice) (ls : List Letter) :
    heardBy c (⟨.one c, n⟩ :: ls) = n :: heardBy c ls := by
  simp [heardBy, Letter.isFor]

/-- A letter to another is not heard. -/
lemma heardBy_of_ne {c d : Conn} (ne : d ≠ c) (n : Notice) (ls : List Letter) :
    heardBy c (⟨.one d, n⟩ :: ls) = heardBy c ls := by
  simp [heardBy, Letter.isFor, ne]

/-- The inbox that a command brings. -/
def Command.inbox? : Command → Option Inbox
  | .connect _ inbox => some inbox
  | _ => none

/-- Whatever brings an inbox asks for a seat. -/
lemma Command.eq_connect_of_inbox? {cmd : Command} {inbox : Inbox}
    (brings : cmd.inbox? = some inbox) : ∃ c, cmd = .connect c inbox := by
  cases cmd with
  | connect c inbox => exact ⟨c, congrArg _ (Option.some.inj brings)⟩
  | _ => cases brings

/-- The inboxes that commands bring. -/
def inboxesOf (cs : List Command) : List Inbox := cs.filterMap Command.inbox?

/-- Commands to a room that is not shut down, where every attempt to connect brings an inbox of its
own, as they come from a hall (`Hall.orderly_commands`). -/
structure Orderly (cs : List Command) : Prop where
  /-- The room is not shut down. -/
  noShutdown : .shutdown ∉ cs
  /-- No inbox is brought twice. -/
  inboxesNodup : (inboxesOf cs).Nodup

/-- What comes first in an orderly run is without a shutdown. -/
lemma Orderly.left {cs cs' : List Command} (h : Orderly (cs ++ cs')) : .shutdown ∉ cs :=
  fun hm => h.noShutdown (List.mem_append_left _ hm)

/-- So is what comes later. -/
lemma Orderly.right {cs cs' : List Command} (h : Orderly (cs ++ cs')) : .shutdown ∉ cs' :=
  fun hm => h.noShutdown (List.mem_append_right _ hm)

namespace Room

/-- Orderly commands that lead to a second game, with a connection of the first one still there. -/
def leftoverRun : List Command :=
  [.connect ⟨1⟩ 0, .connect ⟨2⟩ 1, .disconnect ⟨1⟩, .connect ⟨4⟩ 2, .connect ⟨5⟩ 3]

@[simp] lemma itemsFor_nil (inbox : Inbox) : itemsFor inbox [] = [] := rfl

@[simp] lemma itemsFor_append (inbox : Inbox) (ds ds' : List Delivery) :
    itemsFor inbox (ds ++ ds') = itemsFor inbox ds ++ itemsFor inbox ds' := by
  simp [itemsFor]

@[simp] lemma itemsFor_cons_self (inbox : Inbox) (i : Item) (ds : List Delivery) :
    itemsFor inbox (⟨inbox, i⟩ :: ds) = i :: itemsFor inbox ds := by
  simp [itemsFor]

/-- What is delivered into another inbox is not in this one. -/
lemma itemsFor_cons_of_ne {inbox j : Inbox} (ne : j ≠ inbox) (i : Item) (ds : List Delivery) :
    itemsFor inbox (⟨j, i⟩ :: ds) = itemsFor inbox ds := by
  simp [itemsFor, ne]

/-- Members and the connections still to come have inboxes of their own. -/
def OwnInboxes (r : Room) (cs : List Command) : Prop :=
  (r.members.map Member.inbox ++ inboxesOf cs).Nodup

/-- An inbox that a command brings is nobody's yet. -/
lemma OwnInboxes.not_mem {r : Room} {c d : Conn} {inbox j : Inbox} {cs : List Command}
    (own : r.OwnInboxes (.connect c inbox :: cs)) (hm : (⟨d, j⟩ : Member) ∈ r.members) :
    inbox ≠ j := by
  rintro rfl
  exact (List.nodup_append.1 own).2.2 _ (List.mem_map_of_mem hm) _ List.mem_cons_self rfl

/-- Two members with one inbox are one. -/
lemma OwnInboxes.conn_eq {r : Room} {c d : Conn} {inbox : Inbox} {cs : List Command}
    (own : r.OwnInboxes cs) (hc : (⟨c, inbox⟩ : Member) ∈ r.members)
    (hd : (⟨d, inbox⟩ : Member) ∈ r.members) : c = d := by
  have e := List.inj_on_of_nodup_map (List.nodup_append.1 own).1 hc hd rfl
  rw [Member.mk.injEq] at e
  exact e.1

/-- Fewer commands bring fewer inboxes. -/
lemma OwnInboxes.sublist {r : Room} {cs cs' : List Command} (own : r.OwnInboxes cs)
    (sub : cs'.Sublist cs) : r.OwnInboxes cs' :=
  List.Nodup.sublist ((List.Sublist.refl _).append (sub.filterMap _)) own

/-- What a command does keeps inboxes apart. -/
lemma OwnInboxes.of_step {r r' : Room} {cmd : Command} {cs : List Command} {ls : List Letter}
    {ds : List Delivery} (own : r.OwnInboxes (cmd :: cs)) (st : r.Step cmd r' ls ds) :
    r'.OwnInboxes cs := by
  have rest := own.sublist (List.sublist_cons_self cmd cs)
  cases st with
  | joined _ _ =>
    unfold OwnInboxes
    rw [List.map_append, List.append_assoc]
    exact own
  | left _ _ => exact List.Nodup.sublist ((List.filter_sublist.map _).append (.refl _)) rest
  | _ => exact rest

/-- Every command but a shutdown keeps inboxes apart. -/
lemma OwnInboxes.step {r : Room} {cmd : Command} {cs : List Command}
    (own : r.OwnInboxes (cmd :: cs)) (sd : r.Sound) (h : cmd ≠ .shutdown) :
    (r.step cmd).1.OwnInboxes cs := by
  obtain ⟨_, st⟩ := step_inv sd.isOpen h
  exact own.of_step st

/-- Every run without a shutdown keeps inboxes apart. -/
lemma OwnInboxes.run {r : Room} {cs cs' : List Command} (own : r.OwnInboxes (cs ++ cs'))
    (sd : r.Sound) (h : .shutdown ∉ cs) : (r.run cs).1.OwnInboxes cs' := by
  induction cs generalizing r with
  | nil => exact own
  | cons cmd cs ih =>
    rw [List.mem_cons, not_or] at h
    exact ih (own.step sd (Ne.symm h.1)) (sd.step (Ne.symm h.1)) h.2

/-- Orderly commands find a room where inboxes stay apart. -/
lemma ownInboxes_of_orderly {cs : List Command} (h : Orderly cs) : initial.OwnInboxes cs :=
  h.inboxesNodup

/-- What is for everyone comes to an inbox as often as it is kept for somebody. -/
lemma itemsFor_toAll (r : Room) (inbox : Inbox) (i : Item) :
    itemsFor inbox (r.toAll i) = .replicate ((r.members.map Member.inbox).count inbox) i := by
  unfold toAll
  induction r.members with
  | nil => rfl
  | cons m ms ih =>
    rw [List.map_cons, List.map_cons, List.count_cons]
    by_cases e : m.inbox = inbox
    · subst e
      rw [itemsFor_cons_self, ih, beq_self_eq_true, if_pos rfl, List.replicate_succ]
    · rw [itemsFor_cons_of_ne e, ih, if_neg (by simpa using e), Nat.add_zero]

/-- A refusal is a letter to whoever asked. -/
lemma refuse_eq_dispatch (r : Room) (c : Conn) (words : String) :
    r.refuse c words = r.dispatch [⟨.one c, .refused words⟩] := by
  simp [refuse, dispatch, deliver]

section Members

variable {r : Room} {cs : List Command} {c : Conn} {inbox : Inbox}

/-- The inbox of a member gets a letter that is for the member, and no other. -/
lemma itemsFor_deliver (sd : r.Sound) (own : r.OwnInboxes cs)
    (hm : (⟨c, inbox⟩ : Member) ∈ r.members) (l : Letter) :
    itemsFor inbox (r.deliver l) = if l.isFor c then [.notice l.notice] else [] := by
  obtain ⟨recipient, n⟩ := l
  cases recipient with
  | all =>
    have once : (r.members.map Member.inbox).count inbox = 1 :=
      List.count_eq_one_of_mem (List.nodup_append.1 own).1 (List.mem_map_of_mem hm)
    simp only [deliver, itemsFor_toAll, once]
    rfl
  | one d =>
    simp only [deliver, toOne, Letter.isFor, decide_eq_true_eq]
    by_cases e : d = c
    · subst e
      simp [sd.inboxOf?_eq_some_iff.2 hm]
    · -- somebody else has another inbox
      cases hd : r.inboxOf? d with
      | none => simp [e]
      | some j =>
        have ne : j ≠ inbox := by
          rintro rfl
          exact e (own.conn_eq (mem_of_inboxOf? hd) hm)
        simp [e, itemsFor_cons_of_ne ne]

/-- The inbox of a member gets what the member hears of letters. -/
lemma itemsFor_dispatch (sd : r.Sound) (own : r.OwnInboxes cs)
    (hm : (⟨c, inbox⟩ : Member) ∈ r.members) (ls : List Letter) :
    itemsFor inbox (r.dispatch ls) = (heardBy c ls).map .notice := by
  unfold dispatch
  induction ls with
  | nil => rfl
  | cons l ls ih =>
    rw [List.flatMap_cons, itemsFor_append, ih, itemsFor_deliver sd own hm, heardBy, heardBy,
      List.filter_cons]
    split <;> simp

end Members

/-- Whatever a command does, the inbox of everyone who is a member afterwards gets what the member
hears of its letters. -/
lemma Step.itemsFor_eq {r r' : Room} {cmd : Command} {cs : List Command} {ls : List Letter}
    {ds : List Delivery} {c : Conn} {inbox : Inbox} (st : r.Step cmd r' ls ds) (sd : r.Sound)
    (own : r.OwnInboxes (cmd :: cs)) (hm : (⟨c, inbox⟩ : Member) ∈ r'.members) :
    itemsFor inbox ds = (heardBy c ls).map .notice := by
  have sd' := sd.of_step st
  have own' := own.of_step st
  cases st with
  | known _ => exact itemsFor_cons_of_ne (own.not_mem hm) _ _
  | turnedAway _ _ =>
    have ne := own.not_mem hm
    rw [itemsFor_cons_of_ne ne, itemsFor_cons_of_ne ne, itemsFor_cons_of_ne ne]
    rfl
  | joined _ _ => exact itemsFor_dispatch sd' own' hm _
  | passedOver _ => rfl
  | unread _ _ => exact refuse_eq_dispatch r _ _ ▸ itemsFor_dispatch sd own hm _
  | refused _ _ _ => exact refuse_eq_dispatch r _ _ ▸ itemsFor_dispatch sd own hm _
  | granted _ _ _ => exact itemsFor_dispatch sd' own' hm _
  | absent _ => rfl
  | @left d j s ls hi _ =>
    have apart : j ≠ inbox := by
      rintro rfl
      obtain ⟨old, ne⟩ := List.mem_filter.1 hm
      simp [own.conn_eq old (mem_of_inboxOf? hi)] at ne
    rw [itemsFor_cons_of_ne apart]
    exact itemsFor_dispatch sd' own' hm _
  | looked => rfl

end Room

end ParityDuel
