import Mathlib.Algebra.Group.Nat.Defs
import Mathlib.Data.List.Induction
import ParityDuel.Proofs.Room.Outsiders
import ParityDuel.Proofs.Server.Connections

/-!
# Who tells the room what

Everything that the room is told in a run, but for a shutdown, is told by the handler of a link when
its turn comes (`told_of_command?`). A handler asks for a seat once, and through the inbox of its
own link (`asker_of_mem`), so no inbox is brought twice (`nodup_inboxes`). As long as the numbers of
connections last, no two links have the same one (`Numbered.link_unique`), and what the room is told
about a connection is what the handler of its link has told (`filter_dialogue`).
-/

namespace ParityDuel

/-- A handler that has told the room something does not ask for a seat any more. -/
lemma Handler.ne_seating_of_resume {h : Handler} {cmd : Command} (told : h.command? = some cmd)
    (r : Reply) : (h.resume r).progress ≠ .seating := by
  obtain ⟨conn, inbox, progress, guard⟩ := h
  cases progress with
  | seating => cases taken : isTaken r <;> simp [resume, taken]
  | forwarding data => cases taken : isTaken r <;> simp [resume, leave, taken]
  | leaving => by_cases armed : guard = some .armed <;> simp [resume, drop, armed]
  | reading => cases told
  | finished => cases told

/-- A handler tells the room about its own connection. -/
lemma Handler.sender?_of_command? {h : Handler} {cmd : Command} (told : h.command? = some cmd) :
    cmd.sender? = some h.conn := by
  cases tells_of_command? told with
  | asks _ => rfl
  | passesOn _ => rfl
  | reports _ => rfl

namespace Room

/-- What a room is told, with what it replies. -/
def dialogue (r : Room) : List Command → List (Command × Reply)
  | [] => []
  | cmd :: cs => (cmd, (r.step cmd).2.1) :: (r.step cmd).1.dialogue cs

/-- What a room is told last, it replies to last. -/
lemma dialogue_concat (r : Room) (cs : List Command) (cmd : Command) :
    r.dialogue (cs ++ [cmd]) = r.dialogue cs ++ [(cmd, ((r.run cs).1.step cmd).2.1)] := by
  induction cs generalizing r with
  | nil => rfl
  | cons first cs ih =>
    rw [List.cons_append, dialogue, ih, dialogue, run_cons]
    rfl

end Room

namespace Server

variable {s : Server} {i j : Inbox} {e : ServerEvent} {es : List ServerEvent} {l l' k : Link}
  {sig : Option Signal} {hearing : Option Hearing} {exchange : Option (Command × Reply)}
  {cmd : Command} {idle : Option Span}

/-- What is said in a run of a server is said by one of its events. -/
lemma exists_of_mem_collect {α : Type} {f : Server → ServerEvent → Option α} {x : α}
    (hm : x ∈ collect step f s es) :
    ∃ before e after, es = before ++ e :: after ∧ f (s.run before) e = some x :=
  ParityDuel.exists_of_mem_collect hm

/-- What the room is told in two runs one behind the other it is told in both. -/
lemma commands_append (s : Server) (es es' : List ServerEvent) :
    s.commands (es ++ es') = s.commands es ++ (s.run es).commands es' :=
  collect_append step command? s es es'

lemma run_concat (s : Server) (es : List ServerEvent) (e : ServerEvent) :
    s.run (es ++ [e]) = (s.run es).step e :=
  run_append s es [e]

lemma commands_concat (s : Server) (es : List ServerEvent) (e : ServerEvent) :
    s.commands (es ++ [e]) = s.commands es ++ ((s.run es).command? e).toList :=
  collect_concat step command? s es e

/-- What a handler tells by the last event, it tells last. -/
lemma exchanges_concat (s : Server) (i : Inbox) (es : List ServerEvent) (e : ServerEvent) :
    s.exchanges i (es ++ [e]) = s.exchanges i es ++ ((s.run es).exchange? i e).toList :=
  collect_concat step (exchange? · i) s es e

/-- The room of a server is an empty one that has been told what the events tell it. -/
lemma room_eq (idle : Option Span) (es : List ServerEvent) :
    ((initial idle).run es).room = (Room.initial.run ((initial idle).commands es)).1 :=
  room_run (initial idle) es

/-- Inversion for `command?`. -/
lemma told_of_command? (told : s.command? e = some cmd) :
    cmd = .shutdown ∨
      ∃ i l, e = .turn i ∧ s.links[i]? = some l ∧ l.handler.command? = some cmd := by
  cases e with
  | turn i =>
    obtain ⟨l, h, tells⟩ := Option.bind_eq_some_iff.1 told
    exact .inr ⟨i, l, rfl, h, tells⟩
  | shutDown => exact .inl (Option.some.inj told).symm
  | stop => exact .inl (Option.some.inj told).symm
  | arrive => cases told
  | stray => cases told
  | signal inbox sig => cases told
  | expire inbox => cases told

/-- Inversion for `exchange?`. -/
lemma exchange_inv {reply : Reply} (said : s.exchange? i e = some (cmd, reply)) :
    ∃ l, e = .turn i ∧ s.links[i]? = some l ∧ l.handler.command? = some cmd ∧
      (s.room.step cmd).2.1 = reply := by
  cases e with
  | turn j =>
    rw [exchange?] at said
    split at said
    · next own =>
      subst own
      obtain ⟨l, h, told⟩ := Option.bind_eq_some_iff.1 said
      obtain ⟨_, tells, same⟩ := Option.map_eq_some_iff.1 told
      obtain ⟨rfl, answer⟩ := Prod.mk.inj same
      exact ⟨l, rfl, h, tells, answer⟩
    · cases said
  | _ => cases said

/-- A handler that has asked for a seat, or whose turn has come, does not ask any more. -/
lemma LinkStep.ne_seating (st : s.LinkStep i l e l' sig hearing exchange)
    (asked : l.handler.progress ≠ .seating ∨ e = .turn i) : l'.handler.progress ≠ .seating := by
  cases st with
  | aside other =>
    rw [Link.putAll_handler]
    obtain asked | rfl := asked
    · exact asked
    · exact absurd rfl other
  | signalled sig => exact asked.resolve_right nofun
  | gaveUp _ => exact nofun
  | stillHeard _ => exact asked.resolve_right nofun
  | spoke told => exact Handler.ne_seating_of_resume told _
  | @heard r _ _ _ => cases r <;> exact nofun
  | waited reading _ =>
    rw [reading]
    exact nofun
  | rested finished =>
    rw [finished]
    exact nofun

/-- Every link has brought its handler the inbox that is its place. -/
lemma inbox_eq (h : ((initial idle).run es).links[i]? = some l) : l.handler.inbox = i :=
  (history_run rfl h).inbox

/-- Whoever brings an inbox to the room is the handler of its link, asking for a seat. -/
lemma asker_of_tells {c : Conn} (h : ((initial idle).run es).links[j]? = some l)
    (tells : l.handler.command? = some (.connect c i)) :
    j = i ∧ l.handler.conn = c ∧ l.handler.progress = .seating := by
  have own := inbox_eq h
  cases progress : l.handler.progress with
  | seating =>
    rw [Handler.command?, progress] at tells
    obtain ⟨conn, inbox⟩ := Command.connect.inj (Option.some.inj tells)
    exact ⟨own.symm.trans inbox, conn, rfl⟩
  | reading => simp [Handler.command?, progress] at tells
  | forwarding data => simp [Handler.command?, progress] at tells
  | leaving => simp [Handler.command?, progress] at tells
  | finished => simp [Handler.command?, progress] at tells

/-- A seat has been asked for by the handler of the link whose inbox has been brought, and this
handler does not ask any more. -/
lemma asker_of_mem {c : Conn} (hm : .connect c i ∈ (initial idle).commands es) :
    ∃ l, ((initial idle).run es).links[i]? = some l ∧ l.handler.conn = c ∧
      l.handler.progress ≠ .seating := by
  obtain ⟨before, e, after, rfl, told⟩ := exists_of_mem_collect hm
  obtain down | ⟨j, l, rfl, h, tells⟩ := told_of_command? told
  · cases down
  · obtain ⟨rfl, conn, _⟩ := asker_of_tells h tells
    obtain ⟨l', _, _, _, turned, -, -, -, st⟩ := step_goes h (.turn j)
    rw [run_append, run_cons]
    -- the handler goes on with its connection, and never back
    obtain ⟨l'', last, conn'', asked⟩ := @known_run _ j l' [] [] [] (fun _ => True) (fun _ => True)
      (fun l _ _ _ => l.handler.conn = c ∧ l.handler.progress ≠ .seating)
      (fun _ _ _ _ => trivial)
      (fun _ _ _ _ _ _ _ _ _ _ _ _ _ st known =>
        ⟨st.same.1.trans known.1, st.ne_seating (.inl known.2)⟩)
      after trivial (fun _ _ => trivial) turned
      ⟨st.same.1.trans conn, st.ne_seating (.inr rfl)⟩
    exact ⟨l'', last, conn'', asked⟩

/-- No inbox is brought to the room twice. -/
lemma nodup_inboxes (idle : Option Span) (es : List ServerEvent) :
    (inboxesOf ((initial idle).commands es)).Nodup := by
  induction es using List.reverseRecOn with
  | nil => exact .nil
  | append_singleton es e ih =>
    rw [commands_concat, inboxesOf, List.filterMap_append]
    apply List.nodup_append.2
    refine ⟨ih, ?_, ?_⟩
    · cases ((initial idle).run es).command? e with
      | none => exact .nil
      | some cmd => cases brings : cmd.inbox? <;> simp [brings]
    · rintro inbox old _ new rfl
      obtain ⟨cmd, told, brings⟩ := List.mem_filterMap.1 new
      obtain ⟨cmd', old', brings'⟩ := List.mem_filterMap.1 old
      obtain ⟨c, rfl⟩ := Command.eq_connect_of_inbox? brings
      obtain ⟨d, rfl⟩ := Command.eq_connect_of_inbox? brings'
      obtain ⟨l, h, _, asked⟩ := asker_of_mem old'
      obtain down | ⟨j, k, rfl, hk, tells⟩ := told_of_command? (Option.mem_toList.1 told)
      · cases down
      · obtain ⟨rfl, _, seating⟩ := asker_of_tells hk tells
        obtain rfl := Option.some.inj (h.symm.trans hk)
        exact asked seating

/-- An event by which the room is told nothing has no handler tell it anything. -/
lemma exchange?_of_none (none : s.command? e = Option.none) :
    s.exchange? i e = Option.none := by
  cases said : s.exchange? i e with
  | none => rfl
  | some x =>
    obtain ⟨l, rfl, h, told, _⟩ := exchange_inv said
    rw [command?, h, Option.bind_some, told] at none
    cases none

/-- A shutdown is told by no handler. -/
lemma exchange?_of_shutdown (told : s.command? e = some .shutdown) : s.exchange? i e = none := by
  cases said : s.exchange? i e with
  | none => rfl
  | some x =>
    obtain ⟨l, rfl, h, tells, _⟩ := exchange_inv said
    rw [command?, h, Option.bind_some] at told
    exact absurd rfl (ne_shutdown told)

/-- What a handler tells, it tells the room, and what it is replied, the room replies. -/
lemma exchanges_sublist (idle : Option Span) (i : Inbox) (es : List ServerEvent) :
    ((initial idle).exchanges i es).Sublist
      (Room.initial.dialogue ((initial idle).commands es)) := by
  induction es using List.reverseRecOn with
  | nil => exact .slnil
  | append_singleton es e ih =>
    rw [commands_concat, exchanges_concat]
    cases told : ((initial idle).run es).command? e with
    | none =>
      simp only [exchange?_of_none told, Option.toList_none, List.append_nil]
      exact ih
    | some cmd =>
      rw [Option.toList_some, Room.dialogue_concat, ← room_eq]
      apply ih.append
      cases said : ((initial idle).run es).exchange? i e with
      | none => exact List.nil_sublist _
      | some x =>
        obtain ⟨l, rfl, h, tells, reply⟩ := exchange_inv said
        rw [command?, h, Option.bind_some, tells] at told
        obtain rfl := Option.some.inj told
        rw [reply]
        exact .refl _

section Numbers

/-- Places that a word has room for have numbers of their own. -/
lemma number_inj {a b : Nat} (ha : a < 2 ^ 64) (hb : b < 2 ^ 64)
    (same : (⟨1 + UInt64.ofNat a⟩ : Conn) = ⟨1 + UInt64.ofNat b⟩) : a = b := by
  have words : UInt64.ofNat a = UInt64.ofNat b := by
    rw [Conn.mk.injEq] at same
    exact (UInt64.add_right_inj _).1 same
  have nats := congrArg UInt64.toNat words
  rwa [UInt64.toNat_ofNat_of_lt' ha, UInt64.toNat_ofNat_of_lt' hb] at nats

/-- As long as numbers last, a connection is that of one link. -/
lemma Numbered.link_unique (nb : s.Numbered) (few : s.links.length < 2 ^ 64)
    (h : s.links[i]? = some l) (hk : s.links[j]? = some k)
    (same : k.handler.conn = l.handler.conn) : j = i := by
  rw [nb.conns i l h, nb.conns j k hk] at same
  have inside := (List.getElem?_eq_some_iff.1 h).1
  have inside' := (List.getElem?_eq_some_iff.1 hk).1
  exact number_inj (Nat.lt_trans inside' few) (Nat.lt_trans inside few) same

/-- Connections differ as long as their numbers do not wrap. -/
lemma Numbered.nodup_conns (nb : s.Numbered) (few : s.links.length < 2 ^ 64) :
    (s.links.map (·.handler.conn)).Nodup := by
  apply List.nodup_iff_getElem?_ne_getElem?.2
  intro i j less inside same
  rw [List.length_map] at inside
  have earlier := Nat.lt_trans less inside
  rw [List.getElem?_map, List.getElem?_map, List.getElem?_eq_getElem inside,
    List.getElem?_eq_getElem earlier, Option.map_some, Option.map_some, Option.some.injEq] at same
  have one := nb.link_unique few (List.getElem?_eq_getElem inside)
    (List.getElem?_eq_getElem earlier) same
  exact absurd one (Nat.ne_of_lt less)

/-- No link goes away. -/
lemma length_le_step (s : Server) (e : ServerEvent) :
    s.links.length ≤ (s.step e).links.length := by
  obtain ⟨_, same⟩ | ⟨_, more⟩ := s.next_step e
  · exact Nat.le_of_eq same.symm
  · rw [more]
    exact Nat.le_succ _

lemma length_le_run (s : Server) (es : List ServerEvent) :
    s.links.length ≤ (s.run es).links.length := by
  induction es generalizing s with
  | nil => exact Nat.le_refl _
  | cons e es ih => exact Nat.le_trans (length_le_step s e) (ih (s.step e))

/-- As long as numbers last, what the room is told about a connection, and what it replies, is what
the handler of its link has told and has been replied. -/
lemma filter_dialogue (few : ((initial idle).run es).links.length < 2 ^ 64) (inside : i < 2 ^ 64) :
    (Room.initial.dialogue ((initial idle).commands es)).filter
        (·.1.sender? = some ⟨1 + UInt64.ofNat i⟩) =
      (initial idle).exchanges i es := by
  induction es using List.reverseRecOn with
  | nil => rfl
  | append_singleton es e ih =>
    rw [run_concat] at few
    have fewer := Nat.lt_of_le_of_lt (length_le_step _ e) few
    rw [commands_concat, exchanges_concat, ← ih fewer]
    cases told : ((initial idle).run es).command? e with
    | none =>
      simp only [exchange?_of_none told, Option.toList_none, List.append_nil]
    | some cmd =>
      rw [Option.toList_some, Room.dialogue_concat, List.filter_append, ← room_eq]
      congr 1
      obtain rfl | ⟨j, l, rfl, h, tells⟩ := told_of_command? told
      · rw [exchange?_of_shutdown told]
        rfl
      · have number := ((numbered_initial idle).run es).conns j l h
        have sender := Handler.sender?_of_command? tells
        by_cases own : j = i
        · subst own
          simp [exchange?, h, tells, sender, number]
        · -- the handler of another link has another number
          have other : (⟨1 + UInt64.ofNat j⟩ : Conn) ≠ ⟨1 + UInt64.ofNat i⟩ := by
            intro same
            have there := Nat.lt_trans (List.getElem?_eq_some_iff.1 h).1 fewer
            exact own (number_inj there inside same)
          simp [exchange?, own, sender, number, other]

end Numbers

end Server

end ParityDuel
