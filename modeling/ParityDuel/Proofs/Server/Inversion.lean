import ParityDuel.Proofs.Room.Delivery
import ParityDuel.Server

/-!
# Server inversion

What one event does to one link of a server. `Server.LinkStep` lists the eight things that can
happen to a link that is there, with the link afterwards, and says for each what the client has
done, what has come of waiting for the client and what the handler has told the room.
`links_step_inv` says that there is nothing else but the arrival of a new link. The room changes
by commands only (`room_run`): a server is its room, told some commands.
-/

namespace ParityDuel

namespace Link

/-- The writer takes items from the inbox. -/
def putAll (l : Link) (is : List Item) : Link := is.foldl put l

/-- Writing leaves the handler alone, and what waits to be read. -/
lemma put_inv (l : Link) (i : Item) :
    (l.put i).handler = l.handler ∧ (l.put i).socket.unread = l.socket.unread := by
  unfold put
  split
  · exact ⟨rfl, rfl⟩
  · cases i with
    | notice n =>
      dsimp only
      cases l.socket.send (Utf8.ofString n.encode) <;> exact ⟨rfl, rfl⟩
    | close => exact ⟨rfl, rfl⟩
    | ended => exact ⟨rfl, rfl⟩

/-- Writing touches neither the handler nor what the client has sent. -/
lemma putAll_inv (l : Link) (is : List Item) :
    (l.putAll is).handler = l.handler ∧ (l.putAll is).socket.unread = l.socket.unread := by
  induction is generalizing l with
  | nil => exact ⟨rfl, rfl⟩
  | cons i is ih =>
    obtain ⟨handler, unread⟩ := l.put_inv i
    obtain ⟨handlers, unreads⟩ := ih (l.put i)
    exact ⟨handlers.trans handler, unreads.trans unread⟩

@[simp] lemma putAll_nil (l : Link) : l.putAll [] = l := rfl

@[simp] lemma putAll_handler (l : Link) (is : List Item) : (l.putAll is).handler = l.handler :=
  (l.putAll_inv is).1

@[simp] lemma putAll_unread (l : Link) (is : List Item) :
    (l.putAll is).socket.unread = l.socket.unread :=
  (l.putAll_inv is).2

end Link

namespace Handler

/-- What a handler tells the room. -/
inductive Tells (h : Handler) : Command → Prop where
  | asks :
    h.progress = .seating →
    Tells h (.connect h.conn h.inbox)
  | passesOn {data} :
    h.progress = .forwarding data →
    Tells h (.frame h.conn data)
  | reports :
    h.progress = .leaving →
    Tells h (.disconnect h.conn)

/-- Inversion for `command?`. -/
lemma tells_of_command? {h : Handler} {cmd : Command} (told : h.command? = some cmd) :
    h.Tells cmd := by
  unfold command? at told
  split at told
  · next progress =>
    obtain rfl := Option.some.inj told
    exact .asks progress
  · next progress =>
    obtain rfl := Option.some.inj told
    exact .passesOn progress
  · next progress =>
    obtain rfl := Option.some.inj told
    exact .reports progress
  · cases told
  · cases told

end Handler

section Collecting

variable {σ ε α : Type} {step : σ → ε → σ} {f : σ → ε → Option α} {s : σ} {es : List ε}

/-- What events say one after the other, of a system that goes on by them. -/
def collect (step : σ → ε → σ) (f : σ → ε → Option α) (s : σ) : List ε → List α
  | [] => []
  | e :: es => (f s e).toList ++ collect step f (step s e) es

/-- What is said in two runs one behind the other is said in the first one, then in the second. -/
lemma collect_append (step : σ → ε → σ) (f : σ → ε → Option α) (s : σ) (es es' : List ε) :
    collect step f s (es ++ es') = collect step f s es ++ collect step f (es.foldl step s) es' := by
  induction es generalizing s with
  | nil => rfl
  | cons e es ih =>
    rw [List.cons_append, collect, collect, ih, List.foldl_cons, List.append_assoc]

/-- What is said by the last event is said last. -/
lemma collect_concat (step : σ → ε → σ) (f : σ → ε → Option α) (s : σ) (es : List ε) (e : ε) :
    collect step f s (es ++ [e]) = collect step f s es ++ (f (es.foldl step s) e).toList := by
  rw [collect_append]
  exact congrArg _ (List.append_nil _)

/-- What is said in a run is said by one of its events. -/
lemma exists_of_mem_collect {x : α} (hm : x ∈ collect step f s es) :
    ∃ before e after, es = before ++ e :: after ∧ f (before.foldl step s) e = some x := by
  induction es generalizing s with
  | nil => cases hm
  | cons e es ih =>
    obtain now | later := List.mem_append.1 hm
    · exact ⟨[], e, es, rfl, Option.mem_toList.1 now⟩
    · obtain ⟨before, e', after, rfl, said⟩ := ih later
      exact ⟨e :: before, e', after, rfl, said⟩

/-- What an event says is said in every run with it. -/
lemma mem_collect {x : α} {e : ε} {before : List ε} (said : f (before.foldl step s) e = some x)
    (after : List ε) : x ∈ collect step f s (before ++ e :: after) := by
  rw [collect_append, collect, said]
  exact List.mem_append_right _ List.mem_cons_self

end Collecting

/-- What comes of waiting for a client. -/
inductive Hearing where
  | heard (r : Reception)
  /-- The client has been silent for as long as it may. -/
  | silent
deriving DecidableEq, Repr

/-- The link that an event is about, if it is about one. -/
def ServerEvent.inbox? : ServerEvent → Option Inbox
  | .signal inbox _ => some inbox
  | .expire inbox => some inbox
  | .turn inbox => some inbox
  | .arrive | .stray | .shutDown | .stop => none

namespace Server

/-- What the room is told by an event. -/
def command? (s : Server) : ServerEvent → Option Command
  | .turn inbox => s.links[inbox]?.bind (·.handler.command?)
  | .shutDown => some .shutdown
  | .stop => some .shutdown
  | .arrive | .stray | .signal _ _ | .expire _ => none

/-- What a client does by an event. -/
def signal? (s : Server) (i : Inbox) : ServerEvent → Option Signal
  | .signal inbox sig => if inbox = i then s.links[i]?.map fun _ => sig else none
  | _ => none

/-- What comes of waiting for a client by an event. -/
def hearing? (s : Server) (i : Inbox) : ServerEvent → Option Hearing
  | .turn inbox =>
    if inbox = i then
      s.links[i]?.bind fun l =>
        if l.handler.progress = .reading then l.socket.receive.map fun (r, _) => .heard r else none
    else none
  | .expire inbox =>
    if inbox = i then
      s.links[i]?.bind fun l => if s.idle.isSome && l.isSilent then some .silent else none
    else none
  | _ => none

/-- What a handler tells the room by an event, and the reply of the room. -/
def exchange? (s : Server) (i : Inbox) : ServerEvent → Option (Command × Reply)
  | .turn inbox =>
    if inbox = i then
      s.links[i]?.bind fun l => l.handler.command?.map fun cmd => (cmd, (s.room.step cmd).2.1)
    else none
  | _ => none

/-- What the room puts into inboxes by an event. -/
def deliveries (s : Server) (e : ServerEvent) : List Delivery :=
  match s.command? e with
  | none => []
  | some cmd => (s.room.step cmd).2.2

/-- What an event does to a link: the link afterwards, what its client has done, what has come of
waiting for the client, and what its handler has told the room. -/
inductive LinkStep (s : Server) (i : Inbox) (l : Link) : ServerEvent → Link → Option Signal →
    Option Hearing → Option (Command × Reply) → Prop where
  | aside {e} :
    e.inbox? ≠ some i →
    LinkStep s i l e (l.putAll (Room.itemsFor i (s.deliveries e))) none none none
  | signalled (sig) :
    LinkStep s i l (.signal i sig) { l with socket := l.socket.signal sig } (some sig) none none
  | gaveUp :
    l.isSilent = true →
    LinkStep s i l (.expire i) { l with handler := l.handler.giveUp } none (some .silent) none
  | stillHeard :
    (s.idle.isSome && l.isSilent) = false →
    LinkStep s i l (.expire i) l none none none
  | spoke {cmd} :
    l.handler.command? = some cmd →
    LinkStep s i l (.turn i)
      { l.putAll (Room.itemsFor i (s.room.step cmd).2.2) with
        handler := l.handler.resume (s.room.step cmd).2.1 }
      none none (some (cmd, (s.room.step cmd).2.1))
  | heard {r socket} :
    l.handler.progress = .reading →
    l.socket.receive = some (r, socket) →
    LinkStep s i l (.turn i) { l with handler := l.handler.hear r, socket } none
      (some (.heard r)) none
  | waited :
    l.handler.progress = .reading →
    l.socket.receive = none →
    LinkStep s i l (.turn i) l none none none
  | rested :
    l.handler.progress = .finished →
    LinkStep s i l (.turn i) l none none none

variable {s : Server} {i : Inbox} {e : ServerEvent} {l : Link}

/-- Every link gets what is put into its inbox. -/
lemma getElem?_post (s : Server) (ds : List Delivery) (i : Inbox) :
    (s.post ds).links[i]? = s.links[i]?.map (·.putAll (Room.itemsFor i ds)) := by
  unfold post
  dsimp only
  generalize s.links = links
  -- every delivery is put into one link, if it is there
  induction ds generalizing links with
  | nil => simp
  | cons d ds ih =>
    rw [List.foldl_cons, ih, List.getElem?_modify]
    by_cases own : d.inbox = i
    · subst own
      rw [Room.itemsFor_cons_self]
      cases links[d.inbox]? <;> simp [Link.putAll]
    · rw [Room.itemsFor_cons_of_ne own]
      cases links[i]? <;> simp [own]

lemma length_post (s : Server) (ds : List Delivery) :
    (s.post ds).links.length = s.links.length := by
  unfold post
  dsimp only
  generalize s.links = links
  induction ds generalizing links with
  | nil => rfl
  | cons d ds ih => rw [List.foldl_cons, ih, List.length_modify]

/-- Only the link of the inbox is modified. -/
lemma getElem?_modifyLink (s : Server) (inbox i : Inbox) (f : Link → Link) :
    (s.modifyLink inbox f).links[i]? = s.links[i]?.map fun l => if inbox = i then f l else l :=
  List.getElem?_modify ..

/-- What is told to the room reaches every link as what is delivered into its inbox. -/
lemma getElem?_tell (s : Server) (cmd : Command) (i : Inbox) :
    (s.tell cmd).1.links[i]? =
      s.links[i]?.map (·.putAll (Room.itemsFor i (s.room.step cmd).2.2)) :=
  getElem?_post _ _ i

/-- Inversion for `arrive`. -/
lemma links_arrive (s : Server) : (s.step .arrive).links =
    s.links ++ if s.isListening then [.fresh ⟨s.next⟩ s.links.length] else [] := by
  show s.arrive.links = _
  unfold arrive
  split
  · rfl
  · exact (List.append_nil _).symm

/-- A turn of a handler that has something to tell: it alone goes on with the reply, and every link
writes what is delivered to it. -/
lemma getElem?_turn_of_some {cmd : Command} (h : s.links[i]? = some l)
    (told : l.handler.command? = some cmd) (j : Inbox) :
    (s.turn i).links[j]? = s.links[j]?.map fun k =>
      if i = j then
        { k.putAll (Room.itemsFor j (s.room.step cmd).2.2) with
          handler := k.handler.resume (s.room.step cmd).2.1 }
      else k.putAll (Room.itemsFor j (s.room.step cmd).2.2) := by
  unfold turn
  simp only [h, told, getElem?_modifyLink, getElem?_tell, Option.map_map]
  congr 1
  funext k
  dsimp only [Function.comp]
  split
  · rw [Link.putAll_handler]
    rfl
  · rfl

/-- A turn of a handler that has nothing to tell: it alone reads. -/
lemma getElem?_turn_of_none (h : s.links[i]? = some l) (told : l.handler.command? = none)
    (j : Inbox) :
    (s.turn i).links[j]? = s.links[j]?.map fun k => if i = j then k.read else k := by
  unfold turn
  simp only [h, told]
  exact getElem?_modifyLink s i j Link.read

/-- An event that is no arrival goes over the links one by one. A link that it is not about gets
what is put into its inbox. -/
lemma exists_getElem?_step (s : Server) (i : Inbox) (noArrival : e ≠ .arrive) :
    ∃ f : Link → Link, (s.step e).links[i]? = s.links[i]?.map f ∧
      (e.inbox? ≠ some i → ∀ l, f l = l.putAll (Room.itemsFor i (s.deliveries e))) := by
  have unchanged : s.links[i]? = s.links[i]?.map id := by rw [Option.map_id]; rfl
  cases e with
  | arrive => exact absurd rfl noArrival
  | stray => exact ⟨id, unchanged, fun _ _ => rfl⟩
  | signal inbox sig =>
    exact ⟨_, getElem?_modifyLink .., fun aside l => if_neg fun own => aside (congrArg some own)⟩
  | expire inbox =>
    show ∃ f, (s.expire inbox).links[i]? = _ ∧ _
    unfold expire
    split
    · exact ⟨_, getElem?_modifyLink .., fun aside l => if_neg fun own => aside (congrArg some own)⟩
    · exact ⟨id, unchanged, fun _ _ => rfl⟩
  | turn inbox =>
    show ∃ f, (s.turn inbox).links[i]? = _ ∧ _
    cases hk : s.links[inbox]? with
    | none =>
      simp only [turn, hk, deliveries, command?]
      exact ⟨id, unchanged, fun _ _ => rfl⟩
    | some k =>
      cases told : k.handler.command? with
      | some cmd =>
        rw [getElem?_turn_of_some hk told]
        refine ⟨_, rfl, fun aside l => ?_⟩
        have other : inbox ≠ i := fun own => aside (congrArg some own)
        simp [deliveries, command?, hk, told, other]
      | none =>
        rw [getElem?_turn_of_none hk told]
        refine ⟨_, rfl, fun aside l => ?_⟩
        have other : inbox ≠ i := fun own => aside (congrArg some own)
        simp [deliveries, command?, hk, told, other]
  | shutDown => exact ⟨_, getElem?_tell s .shutdown i, fun _ _ => rfl⟩
  | stop => exact ⟨_, getElem?_tell s .shutdown i, fun _ _ => rfl⟩

/-- A link that an event is not about gets what the room puts into its inbox, and nothing else. -/
lemma getElem?_step_of_aside (h : s.links[i]? = some l) (aside : e.inbox? ≠ some i) :
    (s.step e).links[i]? = some (l.putAll (Room.itemsFor i (s.deliveries e))) := by
  by_cases arrival : e = .arrive
  · subst arrival
    have inside := (List.getElem?_eq_some_iff.1 h).1
    rw [links_arrive, List.getElem?_append_left inside]
    exact h
  · obtain ⟨f, links, others⟩ := s.exists_getElem?_step i arrival
    rw [links, h, Option.map_some, others aside]

/-- An event about another link says nothing of this one. -/
lemma silent_of_aside (aside : e.inbox? ≠ some i) :
    s.signal? i e = none ∧ s.hearing? i e = none ∧ s.exchange? i e = none := by
  cases e with
  | signal inbox sig =>
    have other : inbox ≠ i := fun own => aside (congrArg some own)
    exact ⟨if_neg other, rfl, rfl⟩
  | expire inbox =>
    have other : inbox ≠ i := fun own => aside (congrArg some own)
    exact ⟨rfl, if_neg other, rfl⟩
  | turn inbox =>
    have other : inbox ≠ i := fun own => aside (congrArg some own)
    exact ⟨rfl, if_neg other, if_neg other⟩
  | _ => exact ⟨rfl, rfl, rfl⟩

/-- What a link goes through by an event, with what the event says of it. -/
def Goes (s : Server) (i : Inbox) (l : Link) (e : ServerEvent) : Prop :=
  ∃ l' sig hearing exchange, (s.step e).links[i]? = some l' ∧ s.signal? i e = sig ∧
    s.hearing? i e = hearing ∧ s.exchange? i e = exchange ∧
    s.LinkStep i l e l' sig hearing exchange

/-- A signal of its own client. -/
lemma goes_signal (h : s.links[i]? = some l) (sig : Signal) : s.Goes i l (.signal i sig) := by
  refine ⟨_, _, _, _, ?_, ?_, rfl, rfl, .signalled sig⟩
  · show (s.modifyLink i _).links[i]? = _
    rw [getElem?_modifyLink, h, Option.map_some, if_pos rfl]
  · simp [signal?, h]

/-- The end of the patience with its own client. -/
lemma goes_expire (h : s.links[i]? = some l) : s.Goes i l (.expire i) := by
  cases silent : s.idle.isSome && l.isSilent with
  | true =>
    obtain ⟨limited, quiet⟩ := Bool.and_eq_true_iff.1 silent
    refine ⟨_, _, _, _, ?_, rfl, ?_, rfl, .gaveUp quiet⟩
    · show (s.expire i).links[i]? = _
      rw [expire, if_pos limited, getElem?_modifyLink, h]
      simp [quiet]
    · simp [hearing?, h, limited, quiet]
  | false =>
    refine ⟨_, _, _, _, ?_, rfl, ?_, rfl, .stillHeard silent⟩
    · show (s.expire i).links[i]? = _
      unfold expire
      split
      · next limited =>
        have loud : l.isSilent = false := by simpa [limited] using silent
        rw [getElem?_modifyLink, h]
        simp [loud]
      · exact h
    · simpa [hearing?, h] using silent

/-- Its own turn, when its handler has something to tell. -/
lemma goes_turn_of_some {cmd : Command} (h : s.links[i]? = some l)
    (told : l.handler.command? = some cmd) : s.Goes i l (.turn i) := by
  have busy : l.handler.progress ≠ .reading := by
    intro reading
    simp [Handler.command?, reading] at told
  refine ⟨_, _, _, _, ?_, rfl, ?_, ?_, .spoke told⟩
  · show (s.turn i).links[i]? = _
    rw [getElem?_turn_of_some h told, h, Option.map_some, if_pos rfl]
  · simp [hearing?, h, busy]
  · simp [exchange?, h, told]

/-- Its own turn, when its handler has nothing to tell. -/
lemma goes_turn_of_none (h : s.links[i]? = some l) (told : l.handler.command? = none) :
    s.Goes i l (.turn i) := by
  have after : (s.step (.turn i)).links[i]? = some l.read := by
    show (s.turn i).links[i]? = _
    rw [getElem?_turn_of_none h told, h, Option.map_some, if_pos rfl]
  cases progress : l.handler.progress with
  | reading =>
    cases received : l.socket.receive with
    | some x =>
      obtain ⟨r, socket⟩ := x
      refine ⟨_, _, _, _, ?_, rfl, ?_, ?_, .heard progress received⟩
      · rw [after, Link.read, progress, received]
      · simp [hearing?, h, progress, received]
      · simp [exchange?, h, told]
    | none =>
      refine ⟨_, _, _, _, ?_, rfl, ?_, ?_, .waited progress received⟩
      · rw [after, Link.read, progress, received]
      · simp [hearing?, h, progress, received]
      · simp [exchange?, h, told]
  | finished =>
    refine ⟨_, _, _, _, ?_, rfl, ?_, ?_, .rested progress⟩
    · rw [after, Link.read, progress]
    · simp [hearing?, h, progress]
    · simp [exchange?, h, told]
  | seating => simp [Handler.command?, progress] at told
  | forwarding data => simp [Handler.command?, progress] at told
  | leaving => simp [Handler.command?, progress] at told

/-- Inversion for `step`, on a link that is there. -/
lemma step_goes (h : s.links[i]? = some l) (e : ServerEvent) : s.Goes i l e := by
  by_cases own : e.inbox? = some i
  · cases e with
    | signal inbox sig =>
      obtain rfl := Option.some.inj own
      exact goes_signal h sig
    | expire inbox =>
      obtain rfl := Option.some.inj own
      exact goes_expire h
    | turn inbox =>
      obtain rfl := Option.some.inj own
      cases told : l.handler.command? with
      | some cmd => exact goes_turn_of_some h told
      | none => exact goes_turn_of_none h told
    | arrive => cases own
    | stray => cases own
    | shutDown => cases own
    | stop => cases own
  · obtain ⟨signal, hearing, exchange⟩ := silent_of_aside (s := s) own
    exact ⟨_, _, _, _, getElem?_step_of_aside h own, signal, hearing, exchange, .aside own⟩

/-- Nothing but an arrival brings a link. -/
lemma getElem?_step_of_none (none : s.links[i]? = none) :
    (s.step e).links[i]? = Option.none ∨ e = .arrive ∧ s.isListening = true ∧
      i = s.links.length ∧ (s.step e).links[i]? = some (.fresh ⟨s.next⟩ i) := by
  by_cases arrival : e = .arrive
  · subst arrival
    rw [links_arrive]
    have outside := List.getElem?_eq_none_iff.1 none
    cases listening : s.isListening with
    | true =>
      obtain rfl | more := Nat.eq_or_lt_of_le outside
      · exact .inr ⟨rfl, rfl, rfl, by simp⟩
      · refine .inl (List.getElem?_eq_none_iff.2 ?_)
        rw [List.length_append]
        exact more
    | false => exact .inl (by simpa using none)
  · obtain ⟨f, links, _⟩ := s.exists_getElem?_step i arrival
    rw [links, none]
    exact .inl rfl

/-- Every link after an event was there before or has just come. -/
lemma links_step_inv {l' : Link} (h : (s.step e).links[i]? = some l') :
    (∃ l, s.links[i]? = some l ∧
      s.LinkStep i l e l' (s.signal? i e) (s.hearing? i e) (s.exchange? i e)) ∨
    s.links[i]? = none ∧ e = .arrive ∧ s.isListening = true ∧ i = s.links.length ∧
      l' = .fresh ⟨s.next⟩ i := by
  cases before : s.links[i]? with
  | some l =>
    obtain ⟨_, _, _, _, after, rfl, rfl, rfl, st⟩ := step_goes before e
    obtain rfl := Option.some.inj (after.symm.trans h)
    exact .inl ⟨l, rfl, st⟩
  | none =>
    obtain gone | ⟨rfl, listening, last, after⟩ := getElem?_step_of_none (e := e) before
    · rw [gone] at h
      cases h
    · exact .inr ⟨rfl, rfl, listening, last, Option.some.inj (h.symm.trans after)⟩

/-- Nothing is heard of a link that is not there. -/
lemma silent_of_none (none : s.links[i]? = none) (e : ServerEvent) :
    s.signal? i e = Option.none ∧ s.hearing? i e = Option.none ∧
      s.exchange? i e = Option.none := by
  cases e <;> simp [signal?, hearing?, exchange?, none]

/-- The room changes by the command of an event only. -/
lemma room_step (s : Server) (e : ServerEvent) :
    (s.step e).room = (s.room.run (s.command? e).toList).1 := by
  cases e with
  | arrive =>
    show s.arrive.room = _
    unfold arrive
    split <;> rfl
  | expire inbox =>
    show (s.expire inbox).room = _
    unfold expire
    split <;> rfl
  | turn inbox =>
    show (s.turn inbox).room = _
    cases hk : s.links[inbox]? with
    | none => simp [turn, hk, command?]
    | some k =>
      cases told : k.handler.command? with
      | some cmd => simp only [turn, hk, told, command?, Option.bind_some]; rfl
      | none => simp only [turn, hk, told, command?, Option.bind_some]; rfl
  | _ => rfl

/-- What the room is told by events. -/
def commands (s : Server) (es : List ServerEvent) : List Command := collect step command? s es

/-- What a client does by events. -/
def signals (s : Server) (i : Inbox) (es : List ServerEvent) : List Signal :=
  collect step (signal? · i) s es

/-- What comes of waiting for a client by events. -/
def hearings (s : Server) (i : Inbox) (es : List ServerEvent) : List Hearing :=
  collect step (hearing? · i) s es

/-- What a handler tells the room by events, and the replies of the room. -/
def exchanges (s : Server) (i : Inbox) (es : List ServerEvent) : List (Command × Reply) :=
  collect step (exchange? · i) s es

@[simp] lemma run_nil (s : Server) : s.run [] = s := rfl

@[simp] lemma run_cons (s : Server) (e : ServerEvent) (es : List ServerEvent) :
    s.run (e :: es) = (s.step e).run es := rfl

lemma run_append (s : Server) (es es' : List ServerEvent) :
    s.run (es ++ es') = (s.run es).run es' := List.foldl_append

/-- A server after events has the room that it had, told what the events tell it. -/
lemma room_run (s : Server) (es : List ServerEvent) :
    (s.run es).room = (s.room.run (s.commands es)).1 := by
  induction es generalizing s with
  | nil => rfl
  | cons e es ih =>
    show ((s.step e).run es).room =
      (s.room.run ((s.command? e).toList ++ (s.step e).commands es)).1
    rw [ih, room_step, Room.run_append]

end Server

end ParityDuel
