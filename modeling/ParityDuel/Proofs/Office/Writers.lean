import ParityDuel.Proofs.Office.Histories
import ParityDuel.Proofs.Server.Writers

/-!
# Writers that take their time

What the room puts into an inbox is what the writer has taken, and then what still waits
(`items_eq`). A writer stands to what it has taken as a writer of a server stands to its inbox
(`wrote_run`), so however far it lags behind, its client gets the same and in the same order, and
all of it when the writer has caught up (`writes_run`).
-/

namespace ParityDuel

namespace Office

variable {o : Office} {i : Inbox} {e : OfficeEvent} {es : List OfficeEvent} {p : Post}
  {idle : Option Span}

/-- What the room puts into an inbox by events. -/
def items (o : Office) (i : Inbox) (es : List OfficeEvent) : List Item :=
  Room.itemsFor i (o.delivered es)

/-- Whether the socket of a client takes everything that its writer has to send, in a run. -/
def acceptsWrites (o : Office) (i : Inbox) : List OfficeEvent → Bool
  | [] => true
  | e :: es =>
    (match o.posts[i]? with
    | none => true
    | some p =>
      p.link.isShut || (noticesOf (o.written? i e).toList).isEmpty || p.link.socket.accepts) &&
      (o.step e).acceptsWrites i es

lemma items_concat (o : Office) (i : Inbox) (es : List OfficeEvent) (e : OfficeEvent) :
    o.items i (es ++ [e]) = o.items i es ++ Room.itemsFor i ((o.run es).deliveries e) := by
  rw [items, delivered_concat, Room.itemsFor_append]
  rfl

/-- Nothing is put into the inbox of a client that has not come. -/
lemma items_of_none (none : ((initial idle).run es).posts[i]? = none) :
    (initial idle).items i es = [] := by
  obtain ⟨_, cs, calls, rooms, _⟩ := room_run idle es
  have old : i ∉ inboxesOf cs := by
    intro brought
    obtain ⟨cmd, told, brings⟩ := List.mem_filterMap.1 brought
    obtain ⟨c, rfl⟩ := Command.eq_connect_of_inbox? brings
    obtain ⟨p, h, _⟩ := asker_of_mem (calls ▸ List.mem_append_left _ told)
    rw [none] at h
    cases h
  have silent := (Room.run_of_absent (r := .initial) List.not_mem_nil old).2
  rw [rooms] at silent
  exact silent

/-- What has been put into an inbox is what the writer has taken, and then what waits. -/
lemma items_eq (h : ((initial idle).run es).posts[i]? = some p) :
    (initial idle).items i es = (initial idle).written i es ++ p.unsent := by
  induction es using List.reverseRecOn generalizing p with
  | nil => cases h
  | append_singleton es e ih =>
    rw [run_concat] at h
    rw [items_concat, written_concat]
    obtain ⟨k, hk, st⟩ | ⟨none, rfl, _, rfl⟩ := posts_step_inv h
    · rw [ih hk, List.append_assoc, st.unsent hk, List.append_assoc]
    · rw [items_of_none none, (collect_of_none none).2.2.2, (says_of_none none _).1]
      rfl

/-- The client accepts what is written in the last event, and all before. -/
lemma acceptsWrites_concat (accepts : o.acceptsWrites i (es ++ [e]) = true) :
    o.acceptsWrites i es = true ∧ ∀ p, (o.run es).posts[i]? = some p → p.link.isShut = false →
      noticesOf ((o.run es).written? i e).toList ≠ [] → p.link.socket.accepts = true := by
  induction es generalizing o with
  | nil =>
    refine ⟨rfl, fun p h going full => ?_⟩
    change o.posts[i]? = some p at h
    change noticesOf (o.written? i e).toList ≠ [] at full
    rw [List.nil_append, acceptsWrites, h] at accepts
    simpa [acceptsWrites, going, full] using accepts
  | cons e' es ih =>
    rw [List.cons_append, acceptsWrites, Bool.and_eq_true_iff] at accepts
    obtain ⟨now, later⟩ := accepts
    obtain ⟨rest, last⟩ := ih later
    refine ⟨?_, last⟩
    rw [acceptsWrites, Bool.and_eq_true_iff]
    exact ⟨now, rest⟩

/-- How far a writer has come, as far as it has taken what waits. -/
lemma wrote_run (h : ((initial idle).run es).posts[i]? = some p) :
    p.link.Wrote ((initial idle).acceptsWrites i es = true) ((initial idle).written i es) := by
  induction es using List.reverseRecOn generalizing p with
  | nil => cases h
  | append_singleton es e ih =>
    rw [run_concat] at h
    rw [written_concat]
    obtain ⟨k, hk, st⟩ | ⟨none, rfl, _, rfl⟩ := posts_step_inv h
    · obtain ⟨frames, isShut, closing⟩ := st.writer
      have before : k.link.Wrote ((initial idle).acceptsWrites i (es ++ [e]) = true) _ :=
        (ih hk).mono fun accepts => (acceptsWrites_concat accepts).1
      refine (before.putAll ?_).of_same frames isShut closing
      intro accepts
      exact (acceptsWrites_concat accepts).2 k hk
    · rw [(collect_of_none none).2.2.2, (says_of_none none _).1]
      exact Link.wrote_fresh _ _ _

/-- A writer that takes so much of what waits. -/
lemma writes_run (h : o.posts[i]? = some p) (n : Nat) :
    (o.run (List.replicate n (.write i))).posts[i]? =
      some ⟨p.link.putAll (p.unsent.take n), p.unsent.drop n⟩ := by
  induction n generalizing o p with
  | zero => exact h
  | succ n ih =>
    have after : (o.step (.write i)).posts[i]? = some p.write := by
      rw [getElem?_write, h, Option.map_some, if_pos rfl]
    rw [List.replicate_succ]
    show ((o.step (.write i)).run _).posts[i]? = _
    rw [ih after]
    unfold Post.write
    cases unsent : p.unsent with
    | nil => simp [unsent]
    | cons item rest => rfl

/-- What becomes of the inbox of a client whose handler has been answered. -/
lemma course_of_exchange {c : Conn} {reply : Reply}
    (hm : (.connect c i, reply) ∈ (initial idle).exchanges i es) :
    ∃ before later,
      (Room.initial.run before).1.Course c later reply ((initial idle).items i es) := by
  obtain ⟨_, cs, calls, rooms, answers⟩ := room_run idle es
  obtain given | ⟨free, _⟩ := exchanges_inv hm
  · rw [answers] at given
    obtain ⟨before, later, rfl, told⟩ :=
      Room.split_of_mem_dialogue (Room.mem_answers_inv given).1
    have fresh := nodup_inboxes idle es
    rw [calls, inboxesOf, List.filterMap_append] at fresh
    have course := (Room.course_of_mem (List.nodup_append.1 fresh).1).1
    rw [rooms, told] at course
    exact ⟨before, later, course⟩
  · cases free

/-- In every run of an office, however long items wait in an inbox: what the room has put there is
what the writer has taken, and then what still waits, and once its handler has been answered, the
inbox takes one of the courses of `Room.Course`. The client has got what has been taken, from
the first notice on and in order, and nothing else, until something written to it is not taken. If
it takes everything, it has got all notices that have been taken before the inbox closes or ends,
they are read back, and its connection is closed once the writer has come so far, and not before. A
writer that takes all that waits leaves its client with what it would have got at once. -/
theorem lagging_writers_lose_nothing (h : ((initial idle).run es).posts[i]? = some p) :
    (initial idle).items i es = (initial idle).written i es ++ p.unsent ∧
    (∀ (c : Conn) (reply : Reply), (.connect c i, reply) ∈ (initial idle).exchanges i es →
      ∃ before later,
        (Room.initial.run before).1.Course c later reply ((initial idle).items i es)) ∧
    p.link.frames <+: framesOf (noticesOf ((initial idle).written i es)) ∧
    ((initial idle).acceptsWrites i es = true →
      p.link.frames.map (fun f => Notice.decode f.data) =
        (noticesOf ((initial idle).written i es)).map .ok ∧
      (p.link.isShut = true ↔
        .close ∈ (initial idle).written i es ∨ .ended ∈ (initial idle).written i es) ∧
      (p.link.isShut = true → p.link.socket.isClosing = true)) ∧
    ∃ p', (((initial idle).run es).run (List.replicate p.unsent.length (.write i))).posts[i]? =
        some p' ∧
      p'.unsent = [] ∧
      ((initial idle).acceptsWrites i es = true → p.link.socket.accepts = true →
        p'.link.frames = framesOf (noticesOf ((initial idle).items i es)) ∧
        (p'.link.isShut = true ↔
          .close ∈ (initial idle).items i es ∨ .ended ∈ (initial idle).items i es)) := by
  have wr := wrote_run h
  have all := items_eq h
  refine ⟨all, fun c reply hm => course_of_exchange hm, wr.prefix_framesOf, fun accepts => ?_, _,
    writes_run h _, ?_, ?_⟩
  · obtain ⟨isShut, frames⟩ := wr.whole accepts
    refine ⟨?_, ?_, wr.isClosing⟩
    · rw [frames]
      exact decode_framesOf _
    · rw [isShut]
      exact isOver_iff
  · exact List.drop_length
  · intro accepts still
    rw [List.take_length, all]
    obtain ⟨isShut, frames⟩ := (wr.putAll fun _ _ _ => still).whole accepts
    refine ⟨frames, ?_⟩
    rw [isShut]
    exact isOver_iff

/-- Two clients are seated, and the writer of the first one has sent one notice when the room is
shut down. -/
def slowWriter : List OfficeEvent :=
  [.happens .arrive, .happens .arrive, .happens (.turn 0), .take, .write 0, .happens (.turn 1),
    .take, .happens .shutDown, .take]

/-- The client has got its seat. That it waits for an opponent, its seat once more and the closing
wait in the inbox. -/
example : (((initial none).run slowWriter).posts[0]?).map (fun p => (p.link.frames, p.unsent)) =
    some (framesOf [.assigned .odd .empty], [.notice (.waiting "Waiting for opponent..."),
      .notice (.assigned .odd .empty), .close, .ended]) := by
  decide +kernel

end Office

end ParityDuel
