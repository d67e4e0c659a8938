import ParityDuel.Proofs.Room.Delivery

/-!
# What a seated client sees

A client that folds the notices in its inbox (`View.hear`) keeps a picture of the game: its role,
the board, whether the game is over and how many votes there are for a rematch. While a connection
is seated this picture is exact. `Session.viewOf` is what the picture should be; each operation of a
session sends every seated connection the notices that lead from the view before to the view after
(`hearAll_connect`, `hearAll_served`), and the run lemma `Shown.run` carries this over to inboxes.
-/

namespace ParityDuel

/-- The board with the counter of a numbered square set; beyond the board nothing happens. -/
def Board.put (b : Board) (square value : UInt64) : Board :=
  if h : square.toNat < 25 then ⟨b.cells.set square.toNat value⟩ else b

/-- Setting the new counter of a square is a move on it. -/
lemma Board.put_number (b : Board) (q : Square) : b.put q.number (b.get q + 1) = b.bump q := by
  have e : q.number.toNat = q.val := by
    simp only [Square.number, Nat.toUInt64, UInt64.toNat_ofNat']
    omega
  simp [put, bump, get, e]

/-- What a client makes of what it is told. -/
structure View where
  role : Option Role
  board : Board
  isOver : Bool
  votes : Nat
deriving DecidableEq, Repr

namespace View

/-- Nothing has been heard. -/
def blank : View := ⟨none, .empty, false, 0⟩

/-- The view after one more notice. -/
def hear (v : View) : Notice → View
  | .assigned role board => ⟨some role, board, false, 0⟩
  | .update square value => { v with board := v.board.put square value }
  | .gameOver _ _ => { v with isOver := true }
  | .rematchVotes _ voted _ => { v with votes := voted.toNat }
  | .waiting _ | .opponentLeft _ | .refused _ => v

/-- The view after more notices. -/
def hearAll (v : View) (ns : List Notice) : View := ns.foldl hear v

/-- The view after what was put into an inbox; only notices count. -/
def read (v : View) (is : List Item) : View :=
  is.foldl (fun v i => match i with
    | .notice n => v.hear n
    | .close | .ended => v) v

lemma read_append (v : View) (is is' : List Item) : v.read (is ++ is') = (v.read is).read is' :=
  List.foldl_append

/-- Notices are read in the order in which they are heard. -/
lemma read_notices (v : View) (ns : List Notice) : v.read (ns.map .notice) = v.hearAll ns := by
  rw [read, List.foldl_map]
  rfl

/-- A refusal changes nobody's view. -/
lemma hearAll_refused (v : View) (c d : Conn) (words : String) :
    v.hearAll (heardBy d [⟨.one c, .refused words⟩]) = v := by
  by_cases e : c = d
  · subst e
    simp [hearAll, hear]
  · simp [heardBy_of_ne e, hearAll]

end View

namespace Session

/-- What a client should see of a session. -/
def viewOf (s : Session) (c : Conn) : View := ⟨s.seats.roleOf c, s.board, s.isOver, s.ballot.count⟩

/-- Whoever is seated after somebody else has been seated is told what has changed. A new player is
told all of it, whatever it has heard before. -/
lemma hearAll_connect {s s' : Session} {c d : Conn} {role : Role} {ls : List Letter} {v : View}
    (sd : s.Sound) (new : s.seats.isSeated c = false) (h : s.connect c = .ok (role, s', ls))
    (hd : s'.seats.isSeated d = true) (hv : d ≠ c → v = s.viewOf d) :
    v.hearAll (heardBy d ls) = s'.viewOf d := by
  obtain ⟨seats, assigned, rfl, rfl⟩ := connect_inv h
  cases assigned with
  | kept kept => simp [Seats.isSeated, kept] at new
  | odd _ free =>
    obtain rfl := sd.eq_initial free
    obtain e | e := Seats.isSeated_iff.1 hd
    case inr => cases e
    obtain rfl := Option.some.inj e
    simp [greeting, initial, Seats.empty, Seats.pair, assignment, View.hearAll, View.hear, viewOf,
      Seats.roleOf, Ballot.empty, Ballot.count]
  | @even a _ taken free =>
    have unfilled : s.seats.areFilled = false := by
      simp [Seats.areFilled, Seats.pair, taken, free]
    rw [sd.eq_of_unfilled unfilled] at hv ⊢
    have ne : a ≠ c := by
      rintro rfl
      simp [Seats.isSeated_iff.2 (.inl taken)] at new
    have players : d = a ∨ d = c := eq_or_eq_of_isSeated (by rw [taken]) hd
    obtain rfl | rfl := players
    · rw [hv ne]
      simp [greeting, taken, Seats.pair, assignment, heardBy_of_ne ne.symm, View.hearAll, View.hear,
        viewOf, Seats.roleOf, Ballot.empty, Ballot.count]
    · simp [greeting, taken, Seats.pair, assignment, heardBy_of_ne ne, View.hearAll, View.hear,
        viewOf, Seats.roleOf, Ballot.empty, Ballot.count, ne]

/-- Whoever is seated is told what a granted request has changed. -/
lemma hearAll_served {s s' : Session} {c d : Conn} {request : Request} {ls : List Letter}
    (sd : s.Sound) (sv : s.Served c request s' ls) (hd : s.seats.isSeated d = true) :
    (s.viewOf d).hearAll (heardBy d ls) = s'.viewOf d := by
  cases sv with
  | @moved n q _ _ running _ =>
    cases hw : (s.board.bump q).win? with
    | none => simp [moveLetters, hw, View.hearAll, View.hear, viewOf, Board.put_number, running]
    | some w =>
      simp [moveLetters, hw, View.hearAll, View.hear, viewOf, Board.put_number, Notice.ofWin]
  | @proposed a b other seats players _ =>
    have ne := sd.ne seats
    have known := eq_or_eq_of_isSeated seats hd
    have told : heardBy d
        [⟨.one c, voteNotice "Waiting for opponent to accept rematch..." 1⟩,
         ⟨.one other, voteNotice "Opponent wants a rematch. Click Play Again to accept." 1⟩] =
        [voteNotice (if d = c then "Waiting for opponent to accept rematch..."
          else "Opponent wants a rematch. Click Play Again to accept.") 1] := by
      obtain ⟨rfl, rfl⟩ | ⟨rfl, rfl⟩ := players
      all_goals obtain rfl | rfl := known
      · simp [heardBy_of_ne ne.symm]
      · simp [heardBy_of_ne ne, ne.symm]
      · simp [heardBy_of_ne ne.symm, ne]
      · simp [heardBy_of_ne ne]
    rw [told]
    simp [View.hearAll, View.hear, voteNotice, viewOf, Ballot.count]
  | @agreed a b seats _ _ =>
    have ne := sd.ne seats
    obtain rfl | rfl := eq_or_eq_of_isSeated seats hd
    · simp [heardBy_of_ne ne.symm, View.hearAll, View.hear, viewOf, Seats.roleOf, ne.symm,
        Ballot.empty, Ballot.count]
    · simp [heardBy_of_ne ne, View.hearAll, View.hear, viewOf, Seats.roleOf, Ballot.empty,
        Ballot.count]

end Session

namespace Room

/-- The views of the seated members are exact. -/
def Shown (r : Room) (views : Inbox → View) : Prop :=
  ∀ c inbox, (⟨c, inbox⟩ : Member) ∈ r.members → r.session.seats.isSeated c = true →
    views inbox = r.session.viewOf c

/-- What a command delivers keeps the views of the seated members exact. -/
lemma Shown.of_step {r r' : Room} {views : Inbox → View} {cmd : Command} {cs : List Command}
    {ls : List Letter} {ds : List Delivery} (sh : r.Shown views) (sd : r.Sound)
    (own : r.OwnInboxes (cmd :: cs)) (st : r.Step cmd r' ls ds) :
    r'.Shown fun inbox => (views inbox).read (itemsFor inbox ds) := by
  intro d inbox hm hd
  show (views inbox).read (itemsFor inbox ds) = r'.session.viewOf d
  rw [st.itemsFor_eq sd own hm, View.read_notices]
  cases st with
  | known _ => exact sh d inbox hm hd
  | turnedAway _ _ => exact sh d inbox hm hd
  | @joined c j role s ls new hc =>
    apply Session.hearAll_connect sd.session (sd.isSeated_eq_false new) hc hd
    -- only the player that was there before needs an exact view; the new one is told everything
    intro ne
    obtain ⟨seats, assigned, rfl, -⟩ := Session.connect_inv hc
    have before := (assigned.eq_or_isSeated hd).resolve_left ne
    obtain old | new := List.mem_append.1 hm
    · exact sh d inbox old before
    · rw [List.mem_singleton, Member.mk.injEq] at new
      exact absurd new.1 ne
  | passedOver _ => exact sh d inbox hm hd
  | unread _ _ => rw [View.hearAll_refused, sh d inbox hm hd]
  | refused _ _ _ => rw [View.hearAll_refused, sh d inbox hm hd]
  | granted _ _ hs =>
    have sv := Session.serve_inv hs
    have before : r.session.seats.isSeated d = true := sv.isSeated_eq ▸ hd
    rw [sh d inbox hm before]
    exact Session.hearAll_served sd.session sv before
  | absent _ => exact sh d inbox hm hd
  | @left c j s ls _ hl =>
    obtain ⟨_, rfl, _⟩ | ⟨_, rfl, rfl⟩ := sd.session.leave_inv hl
    · simp at hd
    · exact sh d inbox (List.mem_filter.1 hm).1 hd
  | looked => exact sh d inbox hm hd

/-- Whatever an orderly run delivers keeps the views of the seated members exact. -/
lemma Shown.run {r : Room} {views : Inbox → View} {cs : List Command} (sh : r.Shown views)
    (sd : r.Sound) (own : r.OwnInboxes cs) (h : .shutdown ∉ cs) :
    (r.run cs).1.Shown fun inbox => (views inbox).read (itemsFor inbox (r.run cs).2) := by
  induction cs generalizing r views with
  | nil => exact sh
  | cons cmd cs ih =>
    rw [List.mem_cons, not_or] at h
    obtain ⟨ls, st⟩ := step_inv sd.isOpen (Ne.symm h.1)
    have rest := ih (sh.of_step sd own st) (sd.of_step st) (own.of_step st) h.2
    simpa only [run_cons, itemsFor_append, View.read_append] using rest

/-- Members come from attempts to connect. -/
lemma mem_or_connect_mem {r : Room} {cs : List Command} {c : Conn} {inbox : Inbox} (sd : r.Sound)
    (h : .shutdown ∉ cs) (hm : (⟨c, inbox⟩ : Member) ∈ (r.run cs).1.members) :
    (⟨c, inbox⟩ : Member) ∈ r.members ∨ .connect c inbox ∈ cs := by
  induction cs generalizing r with
  | nil => exact .inl hm
  | cons cmd cs ih =>
    rw [List.mem_cons, not_or] at h
    obtain ⟨ls, st⟩ := step_inv sd.isOpen (Ne.symm h.1)
    obtain old | new := ih (sd.of_step st) h.2 hm
    · obtain older | rfl := st.mem_or_eq old
      · exact .inl older
      · exact .inr List.mem_cons_self
    · exact .inr (List.mem_cons_of_mem _ new)

/-- After every orderly run a seated connection has connected with an inbox, and the notices in it
show the connection exactly its role, the board, whether the game is over and the votes. -/
theorem view_of_seated {cs : List Command} {c : Conn} (h : Orderly cs)
    (seated : (initial.run cs).1.session.seats.isSeated c = true) :
    ∃ inbox, .connect c inbox ∈ cs ∧ (initial.run cs).1.inboxOf? c = some inbox ∧
      View.blank.read (itemsFor inbox (initial.run cs).2) =
        { role := (initial.run cs).1.session.seats.roleOf c
          board := (initial.run cs).1.session.board
          isOver := (initial.run cs).1.session.isOver
          votes := (initial.run cs).1.session.ballot.count } := by
  have sd := sound_initial.run h.noShutdown
  obtain ⟨inbox, hm⟩ := isRegistered_iff.1 (sd.seatedRegistered c seated)
  have blank : initial.Shown fun _ => View.blank := by
    intro c inbox hm
    simp [initial] at hm
  have shown := blank.run sound_initial (ownInboxes_of_orderly h) h.noShutdown
  obtain old | new := mem_or_connect_mem sound_initial h.noShutdown hm
  · simp [initial] at old
  · exact ⟨inbox, new, sd.inboxOf?_eq_some_iff.2 hm, shown c inbox hm seated⟩

/-- A game with a move, a rematch with the roles swapped, another move and a new vote; a third
connection is turned away. -/
def rematchRun : List Command :=
  [.connect ⟨1⟩ 0, .connect ⟨2⟩ 1, .frame ⟨1⟩ (Request.frame (.increment 12)),
    .frame ⟨2⟩ (Request.frame .rematch), .connect ⟨3⟩ 2, .frame ⟨1⟩ (Request.frame .rematch),
    .frame ⟨1⟩ (Request.frame (.increment 12)), .snapshot, .frame ⟨2⟩ (Request.frame .rematch)]

/-- The first player sees the second game, in which it plays even. -/
theorem view_of_seated_rematchRun :
    Orderly rematchRun ∧ (initial.run rematchRun).1.session.seats.roleOf ⟨1⟩ = some .even ∧
      ∃ inbox, .connect ⟨1⟩ inbox ∈ rematchRun ∧
        (initial.run rematchRun).1.inboxOf? ⟨1⟩ = some inbox ∧
        View.blank.read (itemsFor inbox (initial.run rematchRun).2) =
          { role := (initial.run rematchRun).1.session.seats.roleOf ⟨1⟩
            board := (initial.run rematchRun).1.session.board
            isOver := (initial.run rematchRun).1.session.isOver
            votes := (initial.run rematchRun).1.session.ballot.count } := by
  have orderly : Orderly rematchRun := ⟨by decide, by decide⟩
  have role : (initial.run rematchRun).1.session.seats.roleOf ⟨1⟩ = some .even := by
    simp only [rematchRun, run_cons, run_nil, step_frame ofFrame_middle,
      step_frame ofFrame_rematch]
    decide +kernel
  exact ⟨orderly, role, view_of_seated orderly (by rw [Seats.isSeated, role]; rfl)⟩

end Room

end ParityDuel
