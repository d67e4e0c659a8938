import ParityDuel.Proofs.Room.Delivery

/-!
# Outsiders

Nobody but the two players has a say in a duel. While both seats are held and their holders stay, a
command of anyone else leaves the session as it is and says nothing to the players
(`Step.of_outsider`), and what a command of a player does depends on the session alone
(`Step.eq_answer`). So two rooms that are alike for the players (`Room.Alike`) stay alike when
the commands of everyone else reach only one of them.
-/

namespace ParityDuel

namespace Session

/-- What a command of a registered connection, other than to leave, makes of a session and the
letters it is answered with. -/
def answer (s : Session) : Command → Session × List Letter
  | .frame c data =>
    match Request.ofFrame data with
    | .error e => (s, [⟨.one c, .refused e.message⟩])
    | .ok request =>
      match s.serve c request with
      | .error e => (s, [⟨.one c, .refused e.message⟩])
      | .ok t => t
  | _ => (s, [])

/-- An answer leaves the seats to the same two connections. -/
lemma answer_areOf {s : Session} {a b : Conn} (cmd : Command) (held : s.seats.AreOf a b) :
    (s.answer cmd).1.seats.AreOf a b := by
  unfold answer
  split
  case h_1 c data =>
    split
    case h_1 => exact held
    case h_2 request _ =>
      split
      case h_1 => exact held
      case h_2 t hs => exact (serve_inv hs).areOf held
  case h_2 => exact held

end Session

/-- The connection that a command is about. -/
def Command.sender? : Command → Option Conn
  | .connect c _ => some c
  | .frame c _ => some c
  | .disconnect c => some c
  | .snapshot => none
  | .shutdown => none

/-- Whether a command is about one of two connections. A snapshot is about nobody. -/
def Command.isOf (a b : Conn) (snapshots : Bool) (cmd : Command) : Bool :=
  match cmd.sender? with
  | some c => c = a || c = b
  | none => snapshots

/-- The commands about two connections, with all of the snapshots or with none. -/
def commandsOf (a b : Conn) (snapshots : Bool) (cs : List Command) : List Command :=
  cs.filter (Command.isOf a b snapshots)

lemma Command.isOf_sender {a b c : Conn} {snapshots : Bool} {cmd : Command}
    (hc : cmd.sender? = some c) : cmd.isOf a b snapshots = true ↔ c = a ∨ c = b := by
  simp [isOf, hc]

namespace Room

/-- A command of a registered connection, other than to leave, does to the session what the session
answers, and nothing else. -/
lemma Step.eq_answer {r r' : Room} {cmd : Command} {ls : List Letter} {ds : List Delivery}
    (st : r.Step cmd r' ls ds) (registered : ∀ c, cmd.sender? = some c → r.isRegistered c = true)
    (stays : ∀ c, cmd ≠ .disconnect c) :
    (r'.session, ls) = r.session.answer cmd ∧ r'.members = r.members := by
  cases st with
  | known _ => exact ⟨rfl, rfl⟩
  | turnedAway hr _ => simp [registered _ rfl] at hr
  | joined hr _ => simp [registered _ rfl] at hr
  | passedOver hr => simp [registered _ rfl] at hr
  | unread _ hf => exact ⟨by simp [Session.answer, hf], rfl⟩
  | refused _ hf hs => exact ⟨by simp [Session.answer, hf, hs], rfl⟩
  | granted _ hf hs => exact ⟨by simp [Session.answer, hf, hs], rfl⟩
  | absent _ => exact absurd rfl (stays _)
  | left _ _ => exact absurd rfl (stays _)
  | looked => exact ⟨rfl, rfl⟩

/-- A command of anyone but the two players changes nothing for them. -/
lemma Step.of_outsider {r r' : Room} {cmd : Command} {ls : List Letter} {ds : List Delivery}
    {a b : Conn} (st : r.Step cmd r' ls ds) (sd : r.Sound) (held : r.session.seats.AreOf a b)
    (other : ∀ c, cmd.sender? = some c → ¬ (c = a ∨ c = b)) :
    r'.session = r.session ∧ ∀ d, d = a ∨ d = b → heardBy d ls = [] ∧
      ∀ inbox, (⟨d, inbox⟩ : Member) ∈ r'.members ↔ (⟨d, inbox⟩ : Member) ∈ r.members := by
  have apart : ∀ c d, cmd.sender? = some c → d = a ∨ d = b → c ≠ d := by
    rintro c d hc hd rfl
    exact other c hc hd
  cases st with
  | known _ => exact ⟨rfl, fun _ _ => ⟨rfl, fun _ => .rfl⟩⟩
  | turnedAway _ _ => exact ⟨rfl, fun _ _ => ⟨rfl, fun _ => .rfl⟩⟩
  | joined _ hc =>
    obtain ⟨seats, assigned, _, _⟩ := Session.connect_inv hc
    exact absurd assigned (held.not_assigned (other _ rfl))
  | passedOver _ => exact ⟨rfl, fun _ _ => ⟨rfl, fun _ => .rfl⟩⟩
  | unread _ _ =>
    refine ⟨rfl, fun d hd => ⟨?_, fun _ => .rfl⟩⟩
    rw [heardBy_of_ne (apart _ d rfl hd), heardBy_nil]
  | refused _ _ _ =>
    refine ⟨rfl, fun d hd => ⟨?_, fun _ => .rfl⟩⟩
    rw [heardBy_of_ne (apart _ d rfl hd), heardBy_nil]
  | granted _ _ hs =>
    have seated := (Session.serve_inv hs).isSeated
    exact absurd (held.isSeated_iff.1 seated) (other _ rfl)
  | absent _ => exact ⟨rfl, fun _ _ => ⟨rfl, fun _ => .rfl⟩⟩
  | @left c j s ls _ hl =>
    obtain ⟨seated, _⟩ | ⟨_, rfl, rfl⟩ := sd.session.leave_inv hl
    · exact absurd (held.isSeated_iff.1 seated) (other c rfl)
    · refine ⟨rfl, fun d hd => ⟨rfl, fun inbox => ?_⟩⟩
      simp [List.mem_filter, (apart c d rfl hd).symm]
  | looked => exact ⟨rfl, fun _ _ => ⟨rfl, fun _ => .rfl⟩⟩

/-- Two rooms with one session that is between the same two players, who have the same inboxes. -/
structure Alike (a b : Conn) (r r' : Room) : Prop where
  session : r'.session = r.session
  held : r.session.seats.AreOf a b
  inboxes : ∀ d, d = a ∨ d = b →
    ∀ inbox, (⟨d, inbox⟩ : Member) ∈ r'.members ↔ (⟨d, inbox⟩ : Member) ∈ r.members

/-- A command of somebody else in one of the rooms leaves them alike, and puts nothing into the
inboxes of the players. -/
lemma Alike.of_outsider {a b : Conn} {r r' s : Room} {cmd : Command} {cs : List Command}
    {ls : List Letter} {ds : List Delivery} (al : Alike a b r r') (sd : r.Sound)
    (own : r.OwnInboxes (cmd :: cs)) (st : r.Step cmd s ls ds)
    (other : ∀ c, cmd.sender? = some c → ¬ (c = a ∨ c = b)) :
    Alike a b s r' ∧ ∀ d inbox, d = a ∨ d = b → (⟨d, inbox⟩ : Member) ∈ r.members →
      (⟨d, inbox⟩ : Member) ∈ s.members ∧ itemsFor inbox ds = [] := by
  obtain ⟨session, quiet⟩ := st.of_outsider sd al.held other
  have al' : Alike a b s r' := {
    session := al.session.trans session.symm
    held := session ▸ al.held
    inboxes := fun d hd inbox => (al.inboxes d hd inbox).trans ((quiet d hd).2 inbox).symm }
  refine ⟨al', fun d inbox hd hm => ?_⟩
  obtain ⟨silent, member⟩ := quiet d hd
  have here := (member inbox).2 hm
  refine ⟨here, ?_⟩
  rw [st.itemsFor_eq sd own here, silent, List.map_nil]

/-- A command of a player in both rooms leaves them alike, and puts the same into the inboxes of the
players. -/
lemma Alike.of_player {a b : Conn} {r r' s s' : Room} {cmd : Command} {cs cs' : List Command}
    {ls ls' : List Letter} {ds ds' : List Delivery} (al : Alike a b r r') (sd : r.Sound)
    (sd' : r'.Sound) (own : r.OwnInboxes (cmd :: cs)) (own' : r'.OwnInboxes (cmd :: cs'))
    (st : r.Step cmd s ls ds) (st' : r'.Step cmd s' ls' ds')
    (player : ∀ c, cmd.sender? = some c → c = a ∨ c = b) (stays : ∀ c, cmd ≠ .disconnect c) :
    Alike a b s s' ∧ ∀ d inbox, d = a ∨ d = b → (⟨d, inbox⟩ : Member) ∈ r.members →
      (⟨d, inbox⟩ : Member) ∈ s.members ∧ itemsFor inbox ds = itemsFor inbox ds' := by
  have seated : ∀ c, cmd.sender? = some c → r.session.seats.isSeated c = true :=
    fun c hc => al.held.isSeated_iff.2 (player c hc)
  -- both rooms know the player, so both give the answer of their common session
  obtain ⟨answer, members⟩ := st.eq_answer
    (fun c hc => sd.seatedRegistered c (seated c hc)) stays
  obtain ⟨answer', members'⟩ := st'.eq_answer
    (fun c hc => sd'.seatedRegistered c (al.session ▸ seated c hc)) stays
  rw [al.session, ← answer, Prod.mk.injEq] at answer'
  obtain ⟨session, letters⟩ := answer'
  have held := Session.answer_areOf cmd al.held
  rw [← answer] at held
  refine ⟨⟨session, held, ?_⟩, fun d inbox hd hm => ?_⟩
  · rw [members, members']
    exact al.inboxes
  · have here : (⟨d, inbox⟩ : Member) ∈ s.members := members ▸ hm
    have there : (⟨d, inbox⟩ : Member) ∈ s'.members := members' ▸ (al.inboxes d hd inbox).2 hm
    refine ⟨here, ?_⟩
    rw [st.itemsFor_eq sd own here, st'.itemsFor_eq sd' own' there, letters]

/-- Rooms that are alike stay alike for the players if commands of others reach only one of them. -/
lemma Alike.run {a b : Conn} {snapshots : Bool} {r r' : Room} {cs : List Command}
    (al : Alike a b r r') (sd : r.Sound) (sd' : r'.Sound) (own : r.OwnInboxes cs)
    (own' : r'.OwnInboxes (commandsOf a b snapshots cs)) (h : .shutdown ∉ cs)
    (stay : ∀ d, d = a ∨ d = b → .disconnect d ∉ cs) :
    (r.run cs).1.session = (r'.run (commandsOf a b snapshots cs)).1.session ∧
      ∀ d inbox, d = a ∨ d = b → (⟨d, inbox⟩ : Member) ∈ r.members →
        itemsFor inbox (r.run cs).2 = itemsFor inbox (r'.run (commandsOf a b snapshots cs)).2 := by
  -- the second room stands still where the first one takes a command of an outsider
  induction cs generalizing r r' with
  | nil => exact ⟨al.session.symm, fun _ _ _ _ => rfl⟩
  | cons cmd cs ih =>
    rw [List.mem_cons, not_or] at h
    have stay' : ∀ d, d = a ∨ d = b → .disconnect d ∉ cs :=
      fun d hd hm => stay d hd (List.mem_cons_of_mem _ hm)
    obtain ⟨ls, st⟩ := step_inv sd.isOpen (Ne.symm h.1)
    cases kept : cmd.isOf a b snapshots with
    | true =>
      obtain ⟨ls', st'⟩ := step_inv sd'.isOpen (Ne.symm h.1)
      have player : ∀ c, cmd.sender? = some c → c = a ∨ c = b :=
        fun c hc => (Command.isOf_sender hc).1 kept
      have stays : ∀ c, cmd ≠ .disconnect c := by
        rintro c rfl
        exact stay c (player c rfl) List.mem_cons_self
      have both : commandsOf a b snapshots (cmd :: cs) = cmd :: commandsOf a b snapshots cs :=
        List.filter_cons_of_pos kept
      rw [both] at own' ⊢
      obtain ⟨al', first⟩ := al.of_player sd sd' own own' st st' player stays
      obtain ⟨session, rest⟩ := ih al' (sd.of_step st) (sd'.of_step st') (own.of_step st)
        (own'.of_step st') h.2 stay'
      refine ⟨session, fun d inbox hd hm => ?_⟩
      obtain ⟨here, same⟩ := first d inbox hd hm
      rw [run_cons, run_cons, itemsFor_append, itemsFor_append, same, rest d inbox hd here]
    | false =>
      have other : ∀ c, cmd.sender? = some c → ¬ (c = a ∨ c = b) := by
        intro c hc
        rw [← Command.isOf_sender hc, kept]
        exact Bool.false_ne_true
      have one : commandsOf a b snapshots (cmd :: cs) = commandsOf a b snapshots cs :=
        List.filter_cons_of_neg (by simp [kept])
      rw [one] at own' ⊢
      obtain ⟨al', first⟩ := al.of_outsider sd own st other
      obtain ⟨session, rest⟩ := ih al' (sd.of_step st) sd' (own.of_step st) own' h.2 stay'
      refine ⟨session, fun d inbox hd hm => ?_⟩
      obtain ⟨here, silent⟩ := first d inbox hd hm
      rw [run_cons, itemsFor_append, silent, List.nil_append, rest d inbox hd here]

/-- From every room that an orderly run leads to with both seats filled, the commands of everyone
but the two players can be left out of what comes, as long as neither player leaves: the session
ends up the same, and both players have the same items put into their inboxes. -/
theorem outsiders_do_not_interfere {before cs : List Command} {r : Room} {a b : Conn}
    (h : Orderly (before ++ cs)) (reached : (initial.run before).1 = r)
    (players : r.session.seats.pair = some (a, b)) (staysOdd : .disconnect a ∉ cs)
    (staysEven : .disconnect b ∉ cs) (snapshots : Bool) :
    (r.run cs).1.session = (r.run (commandsOf a b snapshots cs)).1.session ∧
    ∀ c, c = a ∨ c = b → ∃ inbox, r.inboxOf? c = some inbox ∧
      itemsFor inbox (r.run cs).2 = itemsFor inbox (r.run (commandsOf a b snapshots cs)).2 := by
  subst reached
  have sd := sound_initial.run h.left
  have own := (ownInboxes_of_orderly h).run sound_initial h.left
  have held : (initial.run before).1.session.seats.AreOf a b :=
    .inl (Seats.pair_eq_some_iff.1 players)
  have alike : Alike a b (initial.run before).1 (initial.run before).1 :=
    ⟨rfl, held, fun _ _ _ => .rfl⟩
  obtain ⟨session, items⟩ := alike.run sd sd own (own.sublist List.filter_sublist) h.right
    (by rintro d (rfl | rfl) <;> assumption)
  refine ⟨session, fun c hc => ?_⟩
  obtain ⟨inbox, hm⟩ := isRegistered_iff.1 (sd.seatedRegistered c (held.isSeated_iff.2 hc))
  exact ⟨inbox, sd.inboxOf?_eq_some_iff.2 hm, items c inbox hc hm⟩

/-- A rematch, with the leftover and a newcomer talking in between and a player connecting again. -/
def crowdedStretch : List Command :=
  [.frame ⟨2⟩ (Request.frame (.increment 12)), .frame ⟨4⟩ (Request.frame (.increment 12)),
    .connect ⟨4⟩ 4, .frame ⟨5⟩ (Request.frame .rematch), .disconnect ⟨2⟩, .connect ⟨9⟩ 5,
    .frame ⟨9⟩ [], .snapshot, .frame ⟨4⟩ (Request.frame .rematch),
    .frame ⟨5⟩ (Request.frame (.increment 12))]

/-- The leftover and the newcomer can be left out. -/
theorem outsiders_do_not_interfere_crowded :
    Orderly (leftoverRun ++ crowdedStretch) ∧
    (initial.run leftoverRun).1.session.seats.pair = some (⟨4⟩, ⟨5⟩) ∧
    .disconnect ⟨4⟩ ∉ crowdedStretch ∧ .disconnect ⟨5⟩ ∉ crowdedStretch ∧
    ((initial.run leftoverRun).1.run crowdedStretch).1.session =
      ((initial.run leftoverRun).1.run (commandsOf ⟨4⟩ ⟨5⟩ false crowdedStretch)).1.session ∧
    ∀ c, c = ⟨4⟩ ∨ c = ⟨5⟩ → ∃ inbox, (initial.run leftoverRun).1.inboxOf? c = some inbox ∧
      itemsFor inbox ((initial.run leftoverRun).1.run crowdedStretch).2 = itemsFor inbox
        ((initial.run leftoverRun).1.run (commandsOf ⟨4⟩ ⟨5⟩ false crowdedStretch)).2 := by
  have orderly : Orderly (leftoverRun ++ crowdedStretch) := ⟨by decide, by decide⟩
  have players : (initial.run leftoverRun).1.session.seats.pair = some (⟨4⟩, ⟨5⟩) := by
    decide +kernel
  have odd : .disconnect ⟨4⟩ ∉ crowdedStretch := by decide
  have even : .disconnect ⟨5⟩ ∉ crowdedStretch := by decide
  exact ⟨orderly, players, odd, even,
    outsiders_do_not_interfere orderly rfl players odd even false⟩

end Room

end ParityDuel
