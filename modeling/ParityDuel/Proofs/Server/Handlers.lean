import ParityDuel.Proofs.Server.Inversion
import ParityDuel.Proofs.Room.Shutdown

/-!
# What handlers tell the room

A handler asks for a seat, passes on what it hears, and reports in the end that the connection is
over. `Handler.Told` lists how far this can have come, with everything that has been heard and told.
What is heard is what the client has sent (`received`), in its order, until it ends the connection
or is given up. The guard of a handler is armed for as long as the handler reads and passes on
(`Handler.IsGuarded`), so that the end is reported once, by the handler or by its guard
(`Handler.Told.count_reports_le`). `Link.Moves` lists what can happen to a link, whoever takes the
commands of its handler; `History` is kept by it (`History.move`) and holds of every link in every
run (`history_run`), and a handler whose turn comes often enough comes to rest (`turns_rest`).
-/

namespace ParityDuel

/-- The bytes that a client sends before it ends the connection. Probes carry none. -/
def received : List Signal → List Bytes
  | [] => []
  | .frame f :: sigs => f.data :: received sigs
  | .ping _ :: sigs => received sigs
  | .pong _ :: sigs => received sigs
  | .close :: _ => []
  | .abort :: _ => []
  | .fault _ :: _ => []

/-- Whether nothing more is read from a client. -/
def Signal.isEnd : Signal → Bool
  | .frame _ => false
  | .ping _ => false
  | .pong _ => false
  | .close => true
  | .abort => true
  | .fault _ => true

/-- Whether a client ends the connection. -/
def isEnded (sigs : List Signal) : Bool := sigs.any Signal.isEnd

/-- What is sent behind an end is not received. -/
lemma received_append (sigs sigs' : List Signal) :
    received (sigs ++ sigs') = received sigs ++ if isEnded sigs then [] else received sigs' := by
  induction sigs with
  | nil => rfl
  | cons sig sigs ih => cases sig <;> simp [received, isEnded, Signal.isEnd, ih]

@[simp] lemma isEnded_singleton (sig : Signal) : isEnded [sig] = sig.isEnd := Bool.or_false _

/-- An end is in one part or in the other. -/
lemma isEnded_append (sigs sigs' : List Signal) :
    isEnded (sigs ++ sigs') = (isEnded sigs || isEnded sigs') :=
  List.any_append

/-- The bytes that are heard. -/
def Hearing.data? : Hearing → Option Bytes
  | .heard (.data bytes) => some bytes
  | .heard .closed => none
  | .heard (.failed _) => none
  | .silent => none

namespace Socket

/-- What can come of reading on in what waits. -/
inductive Reads (sigs : List Signal) : Option (Reception × List Signal) → Prop where
  | data {bytes rest} :
    received sigs = bytes :: received rest →
    isEnded rest = isEnded sigs →
    rest.length < sigs.length →
    Reads sigs (some (.data bytes, rest))
  | ended {r} :
    Hearing.data? (.heard r) = none →
    received sigs = [] →
    isEnded sigs = true →
    Reads sigs (some (r, [.close]))
  | waits :
    received sigs = [] →
    isEnded sigs = false →
    Reads sigs none

/-- A signal that carries no frame and ends nothing is read over. -/
lemma Reads.probe {sigs : List Signal} {x : Option (Reception × List Signal)} {sig : Signal}
    (rd : Reads sigs x) (h : received (sig :: sigs) = received sigs)
    (open_ : isEnded (sig :: sigs) = isEnded sigs) : Reads (sig :: sigs) x := by
  cases rd with
  | data hd ended shorter =>
    exact .data (h.trans hd) (ended.trans open_.symm) (Nat.lt_succ_of_lt shorter)
  | ended hr none ended => exact .ended hr (h.trans none) (open_.trans ended)
  | waits none ended => exact .waits (h.trans none) (open_.trans ended)

/-- Inversion for `receiveFrom`. -/
lemma reads (sigs : List Signal) : Reads sigs (receiveFrom sigs) := by
  induction sigs with
  | nil => exact .waits rfl rfl
  | cons sig sigs ih =>
    cases sig with
    | frame f => exact .data rfl rfl (Nat.lt_succ_self _)
    | ping _ => exact ih.probe rfl rfl
    | pong _ => exact ih.probe rfl rfl
    | close => exact .ended rfl rfl rfl
    | abort => exact .ended rfl rfl rfl
    | fault _ => exact .ended rfl rfl rfl

/-- What can come of reading from a socket. -/
inductive Receives (k : Socket) : Option (Reception × Socket) → Prop where
  | data {bytes rest} :
    received k.unread = bytes :: received rest →
    isEnded rest = isEnded k.unread →
    rest.length < k.unread.length →
    Receives k (some (.data bytes, { k with unread := rest }))
  | ended {r isClosing} :
    Hearing.data? (.heard r) = none →
    received k.unread = [] →
    isEnded k.unread = true →
    (k.isClosing = true → isClosing = true) →
    Receives k (some (r, ⟨[.close], isClosing, k.isBroken⟩))
  | waits :
    received k.unread = [] →
    isEnded k.unread = false →
    Receives k none

/-- Inversion for `receive`. -/
lemma receives (k : Socket) : k.Receives k.receive := by
  have rd := reads k.unread
  unfold receive
  generalize receiveFrom k.unread = x at rd ⊢
  cases rd with
  | @data bytes rest first ended shorter =>
    have same : (k.isClosing || decide (Reception.data bytes = .closed)) = k.isClosing := by simp
    dsimp only
    rw [same]
    exact .data first ended shorter
  | ended last none ended =>
    exact .ended last none ended fun closing => by rw [closing, Bool.true_or]
  | waits none still => exact .waits none still

end Socket

namespace Link

/-- A handler waits and nothing has come when nothing is left to hear of the client. -/
lemma isSilent_iff {l : Link} : l.isSilent = true ↔ l.handler.progress = .reading ∧
    received l.socket.unread = [] ∧ isEnded l.socket.unread = false := by
  have rc := l.socket.receives
  unfold isSilent
  cases hears : l.socket.receive with
  | none =>
    rw [hears] at rc
    cases rc with
    | waits none still => simp [none, still]
  | some x =>
    rw [hears] at rc
    cases rc with
    | data first _ _ => simp [first]
    | ended _ _ ended _ => simp [ended]

/-- A handler that does not wait does not read. -/
lemma read_of_busy {l : Link} (busy : l.handler.progress ≠ .reading) : l.read = l := by
  unfold read
  cases progress : l.handler.progress with
  | reading => exact absurd progress busy
  | _ => rfl

end Link

/-- The replies that a room can give to what a handler tells it. -/
inductive Command.Admits : Command → Reply → Prop where
  | seated {c inbox role} :
    Admits (.connect c inbox) (.seated role)
  | turnedAway {c inbox e} :
    Admits (.connect c inbox) (.refused e)
  | taken {c data} :
    Admits (.frame c data) .done
  | tooLate {c data} :
    Admits (.frame c data) (.refused .unavailable)
  | reported {c reply} :
    Admits (.disconnect c) reply

namespace Room

/-- Whoever asks for a seat gets one or is refused. -/
lemma reply_connect (r : Room) (c : Conn) (inbox : Inbox) :
    (∃ role, (r.step (.connect c inbox)).2.1 = .seated role) ∨
      ∃ e, (r.step (.connect c inbox)).2.1 = .refused e := by
  cases closed : r.isClosed with
  | true => exact .inr ⟨.unavailable, by rw [step_of_closed closed]⟩
  | false =>
    simp only [step, closed, connect, Bool.false_eq_true, if_false]
    split
    · exact .inr ⟨_, rfl⟩
    · split
      · exact .inr ⟨_, rfl⟩
      · exact .inl ⟨_, rfl⟩

/-- A frame is taken as long as the room is open. -/
lemma reply_frame (r : Room) (c : Conn) (data : Bytes) :
    (r.step (.frame c data)).2.1 = if r.isClosed then .refused .unavailable else .done := by
  cases closed : r.isClosed with
  | true => rw [step_of_closed closed]; rfl
  | false => simp [step, closed]

/-- A room replies to a handler what can be replied. -/
lemma admits_step (r : Room) {h : Handler} {cmd : Command} (told : h.command? = some cmd) :
    cmd.Admits (r.step cmd).2.1 := by
  cases Handler.tells_of_command? told with
  | asks _ =>
    obtain ⟨role, reply⟩ | ⟨e, reply⟩ := r.reply_connect h.conn h.inbox
    · rw [reply]
      exact .seated
    · rw [reply]
      exact .turnedAway
  | passesOn _ =>
    rw [reply_frame]
    split
    · exact .tooLate
    · exact .taken
  | reports _ => exact .reported

end Room

namespace Handler

/-- Frames that are heard. -/
def heardAll (data : List Bytes) : List Hearing := data.map fun bytes => .heard (.data bytes)

/-- Frames that are passed on and taken. -/
def passedAll (c : Conn) (data : List Bytes) : List (Command × Reply) :=
  data.map fun bytes => (.frame c bytes, .done)

lemma filterMap_heardAll (data : List Bytes) :
    (heardAll data).filterMap Hearing.data? = data := by
  rw [heardAll, List.filterMap_map]
  exact List.filterMap_some

lemma map_passedAll (c : Conn) (data : List Bytes) :
    (passedAll c data).map Prod.fst = data.map (.frame c) := by
  rw [passedAll, List.map_map]
  rfl

/-- How far a handler can have come, with all that it has heard of its client, and all that it has
told the room and the room has replied. -/
inductive Told (c : Conn) (inbox : Inbox) :
    Progress → List Hearing → List (Command × Reply) → Prop where
  | seating :
    Told c inbox .seating [] []
  | refused {e} :
    Told c inbox .finished [] [(.connect c inbox, .refused e)]
  | reading {role data} :
    Told c inbox .reading (heardAll data)
      ((.connect c inbox, .seated role) :: passedAll c data)
  | forwarding {role data bytes} :
    Told c inbox (.forwarding bytes) (heardAll (data ++ [bytes]))
      ((.connect c inbox, .seated role) :: passedAll c data)
  | ended {role data h} :
    h.data? = none →
    Told c inbox .leaving (heardAll data ++ [h])
      ((.connect c inbox, .seated role) :: passedAll c data)
  | shutOut {role data bytes} :
    Told c inbox .leaving (heardAll (data ++ [bytes]))
      ((.connect c inbox, .seated role) :: passedAll c data ++
        [(.frame c bytes, .refused .unavailable)])
  | left {hs xs reply} :
    Told c inbox .leaving hs xs →
    Told c inbox .finished hs (xs ++ [(.disconnect c, reply)])

/-- What a handler has told when it has nothing more to do. A handler that was refused a seat has
asked for it. Any other has also passed on, in order, all that it has heard, and has then reported
that the connection is over. -/
lemma Told.of_finished {c : Conn} {inbox : Inbox} {hs : List Hearing}
    {xs : List (Command × Reply)} (td : Told c inbox .finished hs xs) :
    (hs = [] ∧ ∃ e, xs = [(.connect c inbox, .refused e)]) ∨
    (∃ role, xs.head? = some (.connect c inbox, .seated role)) ∧
      xs.map Prod.fst =
        .connect c inbox :: (hs.filterMap Hearing.data?).map (.frame c) ++ [.disconnect c] := by
  cases td with
  | refused => exact .inl ⟨rfl, _, rfl⟩
  | left td =>
    refine .inr ?_
    cases td with
    | @ended role data h last =>
      refine ⟨⟨role, rfl⟩, ?_⟩
      simp [filterMap_heardAll, map_passedAll, last]
    | @shutOut role data bytes =>
      refine ⟨⟨role, rfl⟩, ?_⟩
      simp [filterMap_heardAll, map_passedAll]

/-- Whether a handler may still hear of its client. -/
def stillReads (h : Handler) : Bool :=
  match h.progress with
  | .seating => true
  | .reading => true
  | .forwarding _ => true
  | .leaving => false
  | .finished => false

/-- A handler that hears of an end stops reading. -/
lemma hear_of_end {h : Handler} {r : Reception} (last : Hearing.data? (.heard r) = none) :
    h.hear r = h.leave := by
  cases r with
  | data bytes => cases last
  | closed => rfl
  | failed e => rfl

/-- A handler that drops its guard reads no more. -/
lemma stillReads_drop (h : Handler) : h.drop.stillReads = false := by
  unfold drop stillReads
  by_cases armed : h.guard = some .armed <;> simp [armed]

/-- A reply leaves a handler its connection and its inbox. -/
lemma resume_same (h : Handler) (r : Reply) :
    (h.resume r).conn = h.conn ∧ (h.resume r).inbox = h.inbox := by
  unfold resume
  split
  · split <;> exact ⟨rfl, rfl⟩
  · split <;> exact ⟨rfl, rfl⟩
  · exact ⟨rfl, rfl⟩
  · exact ⟨rfl, rfl⟩
  · exact ⟨rfl, rfl⟩

/-- A handler that reads after a reply has not stopped before. -/
lemma stillReads_of_resume {h : Handler} {r : Reply} (reads : (h.resume r).stillReads = true) :
    h.stillReads = true := by
  unfold stillReads
  cases progress : h.progress with
  | leaving =>
    rw [resume, progress, stillReads_drop] at reads
    cases reads
  | finished =>
    rw [resume, progress, stillReads, progress] at reads
    cases reads
  | _ => rfl

section Guards

/-- The guard of a handler is armed from its seating until it stops reading, and is dropped with the
report. -/
def IsGuarded (h : Handler) : Prop :=
  h.guard = match h.progress with
    | .seating => none
    | .reading => some .armed
    | .forwarding _ => some .armed
    | .leaving => some .disarmed
    | .finished => none

variable {h : Handler}

/-- A handler that stops reading disarms its guard. -/
lemma isGuarded_leave (armed : h.guard = some .armed) : h.leave.IsGuarded := by
  rw [IsGuarded, leave, armed]
  rfl

/-- A handler keeps its guard as it should, whatever the room replies. -/
lemma IsGuarded.resume (gd : h.IsGuarded) (r : Reply) : (h.resume r).IsGuarded := by
  have guard := gd
  unfold IsGuarded at guard
  unfold Handler.resume
  cases progress : h.progress with
  | seating =>
    rw [progress] at guard
    cases taken : isTaken r with
    | true => rfl
    | false => exact guard
  | forwarding data =>
    rw [progress] at guard
    cases taken : isTaken r with
    | true => exact guard
    | false => exact isGuarded_leave guard
  | leaving =>
    rw [progress] at guard
    simp only [Handler.drop, guard]
    rfl
  | reading => exact gd
  | finished => exact gd

/-- A handler keeps its guard as it should, whatever it hears. -/
lemma IsGuarded.hear (gd : h.IsGuarded) (reading : h.progress = .reading) (r : Reception) :
    (h.hear r).IsGuarded := by
  have guard := gd
  rw [IsGuarded, reading] at guard
  cases r with
  | data bytes => exact guard
  | closed => exact isGuarded_leave guard
  | failed e => exact isGuarded_leave guard

/-- A handler that is broken off is reported by its guard if the guard is armed. -/
lemma command?_drop (h : Handler) :
    h.drop.command? = if h.guard = some .armed then some (.disconnect h.conn) else none := by
  unfold drop command?
  by_cases armed : h.guard = some .armed <;> simp [armed]

/-- A handler that has been broken off has nothing more to do after the report of its guard. -/
lemma resume_drop (h : Handler) (r : Reply) : (h.drop.resume r).progress = .finished := by
  unfold drop resume
  by_cases armed : h.guard = some .armed <;> simp [armed, drop]

/-- However a handler ends, it and its guard report the end of the connection once at most. -/
lemma Told.count_reports_le {hs : List Hearing} {xs : List (Command × Reply)}
    (td : Told h.conn h.inbox h.progress hs xs) (gd : h.IsGuarded) :
    (xs.map Prod.fst ++ h.drop.command?.toList).count (.disconnect h.conn) ≤ 1 := by
  -- frames are no reports
  have frames : ∀ data : List Bytes,
      (data.map (Command.frame h.conn)).count (.disconnect h.conn) = 0 := by
    intro data
    apply List.count_eq_zero.2
    simp
  rw [IsGuarded] at gd
  rw [command?_drop, gd]
  generalize h.progress = progress at td
  cases td with
  | seating => simp
  | refused => simp
  | reading => simp [map_passedAll, frames]
  | forwarding => simp [map_passedAll, frames]
  | ended _ => simp [map_passedAll, frames]
  | shutOut => simp [map_passedAll, frames]
  | left td =>
    cases td with
    | ended _ => simp [map_passedAll, frames]
    | shutOut => simp [map_passedAll, frames]

end Guards

/-- What a handler tells next, and what comes of the reply. -/
lemma Told.resume {h : Handler} {hs : List Hearing} {xs : List (Command × Reply)} {cmd : Command}
    {reply : Reply} (td : Told h.conn h.inbox h.progress hs xs) (gd : h.IsGuarded)
    (next : h.command? = some cmd) (admitted : cmd.Admits reply) :
    Told h.conn h.inbox (h.resume reply).progress hs (xs ++ [(cmd, reply)]) := by
  unfold Handler.resume
  unfold command? at next
  cases progress : h.progress with
  | seating =>
    rw [progress] at td next
    obtain rfl := Option.some.inj next
    cases td
    cases admitted with
    | @seated _ _ role => exact @Told.reading _ _ role []
    | turnedAway => exact .refused
  | forwarding bytes =>
    rw [progress] at td next
    obtain rfl := Option.some.inj next
    cases td with
    | @forwarding role data _ =>
      cases admitted with
      | taken =>
        have passed : passedAll h.conn data ++ [(.frame h.conn bytes, .done)] =
            passedAll h.conn (data ++ [bytes]) := by
          rw [passedAll, passedAll, List.map_append]
          rfl
        rw [List.cons_append, passed]
        exact .reading
      | tooLate => exact .shutOut
  | leaving =>
    rw [progress] at td next
    obtain rfl := Option.some.inj next
    have disarmed : h.guard = some .disarmed := by
      rw [gd, progress]
    simp only [drop, disarmed]
    exact .left td
  | reading =>
    rw [progress] at next
    cases next
  | finished =>
    rw [progress] at next
    cases next

/-- What a handler that reads hears, and what comes of it. -/
lemma Told.hear {h : Handler} {c : Conn} {i : Inbox} {hs : List Hearing}
    {xs : List (Command × Reply)} (td : Told c i .reading hs xs) (r : Reception) :
    Told c i (h.hear r).progress (hs ++ [.heard r]) xs := by
  cases td with
  | @reading role data =>
    cases r with
    | data bytes =>
      have all : heardAll data ++ [.heard (.data bytes)] = heardAll (data ++ [bytes]) := by
        rw [heardAll, heardAll, List.map_append]
        rfl
      rw [all]
      exact .forwarding
    | closed => exact .ended rfl
    | failed e => exact .ended rfl

end Handler

namespace Link

/-- What can happen to a link, whoever takes the commands of its handler and whenever: the link
afterwards, what its client has done, what has come of waiting for the client, and what its handler
has told and has been replied. -/
inductive Moves (l : Link) :
    Link → Option Signal → Option Hearing → Option (Command × Reply) → Prop where
  | writes (is) :
    Moves l (l.putAll is) none none none
  | signalled (sig) :
    Moves l { l with socket := l.socket.signal sig } (some sig) none none
  | gaveUp :
    l.isSilent = true →
    Moves l { l with handler := l.handler.giveUp } none (some .silent) none
  | spoke {cmd reply} (is) :
    l.handler.command? = some cmd →
    cmd.Admits reply →
    Moves l { l.putAll is with handler := l.handler.resume reply } none none (some (cmd, reply))
  | heard {r socket} :
    l.handler.progress = .reading →
    l.socket.receive = some (r, socket) →
    Moves l { l with handler := l.handler.hear r, socket } none (some (.heard r)) none

variable {l l' : Link} {sig : Option Signal} {hearing : Option Hearing}
  {exchange : Option (Command × Reply)}

/-- A link stays that of its connection and of its inbox. -/
lemma Moves.same (mv : l.Moves l' sig hearing exchange) :
    l'.handler.conn = l.handler.conn ∧ l'.handler.inbox = l.handler.inbox := by
  cases mv with
  | writes is => simp
  | spoke is _ _ => exact l.handler.resume_same _
  | @heard r _ _ _ => cases r <;> exact ⟨rfl, rfl⟩
  | signalled sig => exact ⟨rfl, rfl⟩
  | gaveUp _ => exact ⟨rfl, rfl⟩

end Link

/-- Everything that has come of a link: what its client has done, what its handler has heard of it,
and what the handler has told the room. -/
structure Server.History (i : Inbox) (l : Link) (sigs : List Signal) (hs : List Hearing)
    (xs : List (Command × Reply)) : Prop where
  inbox : l.handler.inbox = i
  /-- The handler keeps its guard as it should. -/
  guarded : l.handler.IsGuarded
  /-- The handler has told what it has heard. -/
  told : Handler.Told l.handler.conn i l.handler.progress hs xs
  /-- What is heard has been sent, and in this order. -/
  sent : hs.filterMap Hearing.data? <+: received sigs
  /-- What has been sent and is not heard yet still waits. -/
  waits : l.handler.stillReads = true →
    hs.filterMap Hearing.data? ++ received l.socket.unread = received sigs ∧
      isEnded l.socket.unread = isEnded sigs

namespace Server

variable {s : Server} {i : Inbox} {e : ServerEvent} {l l' : Link} {sig : Option Signal}
  {hearing : Option Hearing} {exchange : Option (Command × Reply)} {sigs : List Signal}
  {hs : List Hearing} {xs : List (Command × Reply)}

/-- Nothing has come of a link that has just come. -/
lemma history_fresh (c : Conn) (i : Inbox) : History i (.fresh c i) [] [] [] where
  inbox := rfl
  guarded := rfl
  told := .seating
  sent := List.prefix_refl _
  waits _ := ⟨rfl, rfl⟩

/-- However a handler ends, the end of its connection is reported once at most. -/
lemma History.count_reports_le (hist : History i l sigs hs xs) :
    (xs.map Prod.fst ++ l.handler.drop.command?.toList).count
      (.disconnect l.handler.conn) ≤ 1 := by
  obtain ⟨rfl, guarded, told, _, _⟩ := hist
  exact told.count_reports_le guarded

/-- What comes of waiting for the client is added to the history of its link. -/
lemma History.heard {r : Reception} {socket : Socket} (hist : History i l sigs hs xs)
    (reading : l.handler.progress = .reading) (hears : l.socket.receive = some (r, socket)) :
    History i { l with handler := l.handler.hear r, socket } sigs (hs ++ [.heard r]) xs := by
  obtain ⟨conn, same⟩ := (Link.Moves.heard reading hears).same
  obtain ⟨inbox, guarded, told, sent, waits⟩ := hist
  have inbox' := same.trans inbox
  have guarded' := guarded.hear reading r
  rw [reading] at told
  have told' := told.hear (h := l.handler) r
  rw [← conn] at told'
  obtain ⟨data, ended⟩ := waits (by rw [Handler.stillReads, reading])
  have rc := l.socket.receives
  rw [hears] at rc
  cases rc with
  | @data bytes rest first ended' _ =>
    have all : (hs ++ [Hearing.heard (.data bytes)]).filterMap Hearing.data? ++ received rest =
        received sigs := by
      rw [← data, first, List.filterMap_append, List.append_assoc]
      rfl
    exact ⟨inbox', guarded', told', all ▸ List.prefix_append _ _,
      fun _ => ⟨all, ended'.trans ended⟩⟩
  | ended last _ _ _ =>
    refine ⟨inbox', guarded', told', ?_, ?_⟩
    · rw [List.filterMap_append, List.filterMap_cons_none last, List.filterMap_nil,
        List.append_nil]
      exact sent
    · rw [Handler.hear_of_end last]
      nofun

/-- What happens to a link is added to its history. -/
lemma History.move (hist : History i l sigs hs xs) (mv : l.Moves l' sig hearing exchange) :
    History i l' (sigs ++ sig.toList) (hs ++ hearing.toList) (xs ++ exchange.toList) := by
  have ⟨inbox, guarded, told, sent, waits⟩ := hist
  obtain ⟨conn, same⟩ := mv.same
  have inbox' := same.trans inbox
  cases mv with
  | writes is =>
    simp only [Option.toList_none, List.append_nil]
    refine ⟨inbox', ?_, ?_, sent, ?_⟩
    · rw [Link.putAll_handler]
      exact guarded
    · rw [Link.putAll_handler]
      exact told
    · rw [Link.putAll_handler, Link.putAll_unread]
      exact waits
  | signalled sig =>
    simp only [Option.toList_none, Option.toList_some, List.append_nil]
    refine ⟨inbox', guarded, told, ?_, fun reads => ?_⟩
    · rw [received_append]
      exact sent.trans (List.prefix_append _ _)
    · obtain ⟨data, ended⟩ := waits reads
      show _ ++ received (l.socket.unread ++ [sig]) = _ ∧ isEnded (l.socket.unread ++ [sig]) = _
      rw [received_append, received_append, isEnded_append, isEnded_append, ended, ← data,
        List.append_assoc]
      exact ⟨rfl, rfl⟩
  | gaveUp silent =>
    simp only [Option.toList_none, Option.toList_some, List.append_nil]
    have reading := (Link.isSilent_iff.1 silent).1
    refine ⟨inbox', ?_, ?_, ?_, nofun⟩
    · exact Handler.isGuarded_leave (by rw [guarded, reading])
    · rw [reading] at told
      cases told with
      | reading => exact .ended rfl
    · rw [List.filterMap_append]
      exact (List.append_nil _).symm ▸ sent
  | @spoke cmd reply is next admitted =>
    simp only [Option.toList_none, Option.toList_some, List.append_nil]
    refine ⟨inbox', guarded.resume reply, ?_, sent, fun reads => ?_⟩
    · rw [conn]
      rw [← inbox] at told ⊢
      exact told.resume guarded next admitted
    · show _ ++ received (l.putAll is).socket.unread = _ ∧ isEnded (l.putAll is).socket.unread = _
      rw [Link.putAll_unread]
      exact waits (Handler.stillReads_of_resume reads)
  | heard reading hears =>
    simp only [Option.toList_none, Option.toList_some, List.append_nil]
    exact hist.heard reading hears

/-- What an event does to a link is something that can happen to it. -/
lemma LinkStep.moves (st : s.LinkStep i l e l' sig hearing exchange) :
    l.Moves l' sig hearing exchange := by
  cases st with
  | aside _ => exact .writes _
  | signalled sig => exact .signalled sig
  | gaveUp silent => exact .gaveUp silent
  | stillHeard _ => exact .writes []
  | spoke told => exact .spoke _ told (s.room.admits_step told)
  | heard reading hears => exact .heard reading hears
  | waited _ _ => exact .writes []
  | rested _ => exact .writes []

/-- A link stays that of its connection and of its inbox, whatever happens. -/
lemma LinkStep.same (st : s.LinkStep i l e l' sig hearing exchange) :
    l'.handler.conn = l.handler.conn ∧ l'.handler.inbox = l.handler.inbox :=
  st.moves.same

section Runs

/-! What is known of links is kept from one event to the next. The servers in between may have an
invariant of their own, and not all events need be allowed. -/

variable (Inv : Server → Prop) (Allowed : ServerEvent → Prop)
  (Known : Link → List Signal → List Hearing → List (Command × Reply) → Prop)
  (inv : ∀ s e, Inv s → Allowed e → Inv (s.step e))
  (step : ∀ s l e l' sig hearing exchange sigs hs xs, Inv s → Allowed e → s.links[i]? = some l →
    s.LinkStep i l e l' sig hearing exchange → Known l sigs hs xs →
      Known l' (sigs ++ sig.toList) (hs ++ hearing.toList) (xs ++ exchange.toList))

include inv step

/-- What is kept by all that can happen to a link is known of the link after a run. -/
lemma known_run {es : List ServerEvent} (start : Inv s) (allowed : ∀ e ∈ es, Allowed e)
    (h : s.links[i]? = some l) (known : Known l sigs hs xs) :
    ∃ l', (s.run es).links[i]? = some l' ∧
      Known l' (sigs ++ s.signals i es) (hs ++ s.hearings i es) (xs ++ s.exchanges i es) := by
  induction es generalizing s l sigs hs xs with
  | nil =>
    refine ⟨l, h, ?_⟩
    show Known l (sigs ++ []) (hs ++ []) (xs ++ [])
    rw [List.append_nil, List.append_nil, List.append_nil]
    exact known
  | cons e es ih =>
    obtain ⟨first, rest⟩ := List.forall_mem_cons.1 allowed
    obtain ⟨l', _, _, _, after, rfl, rfl, rfl, st⟩ := step_goes h e
    obtain ⟨l'', last, known'⟩ :=
      ih (inv s e start first) rest after (step _ _ _ _ _ _ _ _ _ _ start first h st known)
    rw [List.append_assoc, List.append_assoc, List.append_assoc] at known'
    exact ⟨l'', last, known'⟩

/-- What is known of a link that has just come, and is kept, is known of the link after a run in
which it comes. -/
lemma known_run_of_none {es : List ServerEvent} (start : Inv s) (allowed : ∀ e ∈ es, Allowed e)
    (fresh : ∀ c, Known (.fresh c i) [] [] []) (none : s.links[i]? = Option.none)
    (h : (s.run es).links[i]? = some l) :
    Known l (s.signals i es) (s.hearings i es) (s.exchanges i es) := by
  induction es generalizing s with
  | nil =>
    rw [run_nil, none] at h
    cases h
  | cons e es ih =>
    obtain ⟨first, rest⟩ := List.forall_mem_cons.1 allowed
    have start' := inv s e start first
    -- until the link comes, events say nothing of it
    obtain ⟨signal, hearing, exchange⟩ := silent_of_none none e
    have signals : s.signals i (e :: es) = (s.step e).signals i es := by
      show (s.signal? i e).toList ++ _ = _
      rw [signal]
      rfl
    have hearings : s.hearings i (e :: es) = (s.step e).hearings i es := by
      show (s.hearing? i e).toList ++ _ = _
      rw [hearing]
      rfl
    have exchanges : s.exchanges i (e :: es) = (s.step e).exchanges i es := by
      show (s.exchange? i e).toList ++ _ = _
      rw [exchange]
      rfl
    rw [signals, hearings, exchanges]
    obtain gone | ⟨_, _, _, after⟩ := getElem?_step_of_none (e := e) none
    · exact ih start' rest gone h
    · obtain ⟨l', last, known⟩ := known_run Inv Allowed Known inv step start' rest after
        (fresh ⟨s.next⟩)
      obtain rfl := Option.some.inj (last.symm.trans h)
      exact known

end Runs

/-- The history of a link is what has happened since it has come. -/
lemma history_run (none : s.links[i]? = Option.none) {es : List ServerEvent}
    (h : (s.run es).links[i]? = some l) :
    History i l (s.signals i es) (s.hearings i es) (s.exchanges i es) :=
  known_run_of_none (fun _ => True) (fun _ => True) (History i) (fun _ _ _ _ => trivial)
    (fun _ _ _ _ _ _ _ _ _ _ _ _ _ st hist => hist.move st.moves) trivial (fun _ _ => trivial)
    (fun c => history_fresh c i) none h

/-- Whether all handlers keep their guards as they should. -/
def AreGuarded (s : Server) : Prop :=
  ∀ (i : Inbox) (l : Link), s.links[i]? = some l → l.handler.IsGuarded

/-- All handlers of a server keep their guards as they should. -/
lemma areGuarded_run (idle : Option Span) (es : List ServerEvent) :
    ((initial idle).run es).AreGuarded :=
  fun _ _ h => (history_run (s := initial idle) rfl h).guarded

end Server

section Rest

/-- Whether a link has come to rest: its handler has nothing more to do, or it waits and nothing has
come. -/
def Link.IsAtRest (l : Link) : Prop := l.handler.progress = .finished ∨ l.isSilent = true

instance (l : Link) : Decidable l.IsAtRest := inferInstanceAs (Decidable (_ ∨ _))

/-- How many turns a handler can take at most before it comes to rest, once nothing is left to read.
An armed guard would take a turn for its report. -/
def Handler.toDo (h : Handler) : Nat :=
  match h.progress with
  | .seating => 3
  | .forwarding _ => 3
  | .reading => 2
  | .leaving => if h.guard = some .armed then 2 else 1
  | .finished => 0

/-- How many turns a handler can take at most before it comes to rest. -/
def Link.toDo (l : Link) : Nat := 2 * l.socket.unread.length + l.handler.toDo

namespace Handler

/-- A handler that stops reading has its report left to do. -/
lemma toDo_leave (h : Handler) : h.leave.toDo = 1 := by
  have disarmed : h.leave.guard ≠ some .armed := by
    unfold leave
    cases h.guard <;> nofun
  rw [toDo, leave]
  exact if_neg disarmed

/-- Every reply brings a handler closer to its rest. -/
lemma toDo_resume {h : Handler} {cmd : Command} (told : h.command? = some cmd) (r : Reply) :
    (h.resume r).toDo < h.toDo := by
  unfold resume
  unfold command? at told
  cases progress : h.progress with
  | seating => cases taken : isTaken r <;> simp [toDo, progress]
  | forwarding data =>
    cases taken : isTaken r with
    | true => simp [toDo, progress]
    | false =>
      show h.leave.toDo < _
      rw [toDo_leave, toDo, progress]
      exact Nat.lt_succ_of_le (Nat.le_succ 1)
  | leaving =>
    show h.drop.toDo < _
    by_cases armed : h.guard = some .armed <;> simp [drop, toDo, progress, armed]
  | reading =>
    rw [progress] at told
    cases told
  | finished =>
    rw [progress] at told
    cases told

end Handler

namespace Server

variable {s : Server} {i : Inbox} {l l' : Link} {sig : Option Signal}
  {hearing : Option Hearing} {exchange : Option (Command × Reply)}

/-- A turn brings a handler closer to its rest, unless it has come to it. -/
lemma LinkStep.toDo_lt (st : s.LinkStep i l (.turn i) l' sig hearing exchange) :
    ¬ l.IsAtRest ∧ l'.toDo < l.toDo ∨ l.IsAtRest ∧ l' = l := by
  cases st with
  | aside other => exact absurd rfl other
  | @spoke cmd told =>
    have less := Handler.toDo_resume told (s.room.step cmd).2.1
    have unread := l.putAll_unread (Room.itemsFor i (s.room.step cmd).2.2)
    refine .inl ⟨?_, ?_⟩
    · rintro (finished | silent)
      · simp [Handler.command?, finished] at told
      · simp [Handler.command?, (Link.isSilent_iff.1 silent).1] at told
    · simp only [Link.toDo, unread]
      omega
  | @heard r socket reading hears =>
    refine .inl ⟨by simp [Link.IsAtRest, Link.isSilent, reading, hears], ?_⟩
    have rc := l.socket.receives
    rw [hears] at rc
    cases rc with
    | data _ _ shorter =>
      simp only [Link.toDo, Handler.toDo, reading, Handler.hear]
      omega
    | ended last _ ended _ =>
      have some : 0 < l.socket.unread.length := by
        apply List.length_pos_of_ne_nil
        intro none
        rw [none] at ended
        cases ended
      simp only [Link.toDo, Handler.hear_of_end last, Handler.toDo_leave, List.length_singleton]
      simp only [Handler.toDo, reading]
      omega
  | waited reading none => exact .inr ⟨.inr (by simp [Link.isSilent, reading, none]), rfl⟩
  | rested finished => exact .inr ⟨.inl finished, rfl⟩

/-- A handler that takes turns enough comes to rest. -/
lemma turns_rest (n : Nat) (h : s.links[i]? = some l) (enough : ¬ l.IsAtRest → l.toDo ≤ n) :
    ∃ l', (s.turns i n).links[i]? = some l' ∧ l'.IsAtRest := by
  -- induction on the turns; those that come after the rest change nothing
  induction n generalizing s l with
  | zero =>
    refine ⟨l, h, Decidable.byContradiction fun busy => busy (.inl ?_)⟩
    have none := enough busy
    unfold Link.toDo Handler.toDo at none
    cases progress : l.handler.progress with
    | finished => rfl
    | leaving =>
      rw [progress] at none
      dsimp only at none
      split at none <;> omega
    | _ => simp [progress] at none
  | succ n ih =>
    obtain ⟨l', _, _, _, after, -, -, -, st⟩ := step_goes h (.turn i)
    have more : s.turns i (n + 1) = (s.step (.turn i)).turns i n := by
      rw [turns, List.replicate_succ, run_cons]
      rfl
    rw [more]
    obtain ⟨busy, less⟩ | ⟨rest, rfl⟩ := st.toDo_lt
    · exact ih after fun _ => Nat.le_of_lt_succ (Nat.lt_of_lt_of_le less (enough busy))
    · exact ih after fun busy => absurd rest busy

/-- A handler that is let settle comes to rest. -/
lemma settle_rest (h : s.links[i]? = some l) :
    ∃ l', (s.settle i).links[i]? = some l' ∧ l'.IsAtRest := by
  have turns : s.settle i = s.turns i (2 * l.socket.unread.length + 4) := by
    rw [settle, h]
  rw [turns]
  refine turns_rest _ h fun _ => ?_
  unfold Link.toDo Handler.toDo
  split
  case h_4 => split <;> omega
  all_goals omega

end Server

end Rest

end ParityDuel
