import Mathlib.Tactic.Lemma
import ParityDuel.Proofs.Session.Inversion
import ParityDuel.Room

/-!
# Room inversion

What one command does to an open room. `Room.Step` lists the ten things that can happen, with the
room afterwards and everything that is delivered; `step_inv` says that every command but a shutdown
does one of them. The lemmas on whole runs go from one command to the next by `run_cons`.
-/

namespace ParityDuel

/-- The bytes of a request. -/
def Request.frame (request : Request) : Bytes := Utf8.ofString request.encode

/-- A vote is read back from its bytes. -/
lemma ofFrame_rematch : Request.ofFrame (Request.frame .rematch) = .ok .rematch := by
  decide +kernel

/-- A move on the square in the middle is read back from its bytes. -/
lemma ofFrame_middle : Request.ofFrame (Request.frame (.increment 12)) = .ok (.increment 12) := by
  decide +kernel

namespace Room

/-- A connection is registered when the room keeps an inbox for it. -/
lemma isRegistered_iff {r : Room} {c : Conn} :
    r.isRegistered c = true ↔ ∃ inbox, (⟨c, inbox⟩ : Member) ∈ r.members := by
  unfold isRegistered
  rw [List.any_eq_true]
  constructor
  · rintro ⟨⟨d, inbox⟩, hm, hd⟩
    obtain rfl := of_decide_eq_true hd
    exact ⟨inbox, hm⟩
  · rintro ⟨inbox, hm⟩
    exact ⟨_, hm, decide_eq_true rfl⟩

/-- A connection without an inbox is not registered. -/
lemma inboxOf?_eq_none_iff {r : Room} {c : Conn} :
    r.inboxOf? c = none ↔ r.isRegistered c = false := by
  simp [inboxOf?, isRegistered]

/-- The inbox of a connection is one that the room keeps for it. -/
lemma mem_of_inboxOf? {r : Room} {c : Conn} {inbox : Inbox} (h : r.inboxOf? c = some inbox) :
    (⟨c, inbox⟩ : Member) ∈ r.members := by
  unfold inboxOf? at h
  obtain ⟨⟨d, i⟩, hf, rfl⟩ := Option.map_eq_some_iff.1 h
  have e : d = c := by simpa using List.find?_some hf
  exact e ▸ List.mem_of_find?_eq_some hf

/-- What one command does to an open room: the room afterwards, the letters to its members, and
everything that is delivered. -/
inductive Step (r : Room) : Command → Room → List Letter → List Delivery → Prop where
  | known {c inbox} :
    r.isRegistered c = true →
    Step r (.connect c inbox) r [] [⟨inbox, .ended⟩]
  | turnedAway {c inbox e} :
    r.isRegistered c = false →
    r.session.connect c = .error e →
    Step r (.connect c inbox) r []
      [⟨inbox, .notice (.refused e.message)⟩, ⟨inbox, .close⟩, ⟨inbox, .ended⟩]
  | joined {c inbox role s ls} :
    r.isRegistered c = false →
    r.session.connect c = .ok (role, s, ls) →
    Step r (.connect c inbox) ⟨s, r.members ++ [⟨c, inbox⟩], r.isClosed⟩ ls
      (dispatch ⟨s, r.members ++ [⟨c, inbox⟩], r.isClosed⟩ ls)
  | passedOver {c data} :
    r.isRegistered c = false →
    Step r (.frame c data) r [] []
  | unread {c data e} :
    r.isRegistered c = true →
    Request.ofFrame data = .error e →
    Step r (.frame c data) r [⟨.one c, .refused e.message⟩] (r.refuse c e.message)
  | refused {c data request e} :
    r.isRegistered c = true →
    Request.ofFrame data = .ok request →
    r.session.serve c request = .error e →
    Step r (.frame c data) r [⟨.one c, .refused e.message⟩] (r.refuse c e.message)
  | granted {c data request s ls} :
    r.isRegistered c = true →
    Request.ofFrame data = .ok request →
    r.session.serve c request = .ok (s, ls) →
    Step r (.frame c data) ⟨s, r.members, r.isClosed⟩ ls (dispatch ⟨s, r.members, r.isClosed⟩ ls)
  | absent {c} :
    r.isRegistered c = false →
    Step r (.disconnect c) r [] []
  | left {c inbox s ls} :
    r.inboxOf? c = some inbox →
    r.session.leave c = (s, ls) →
    Step r (.disconnect c) ⟨s, r.members.filter (·.conn ≠ c), r.isClosed⟩ ls
      (⟨inbox, .ended⟩ :: dispatch ⟨s, r.members.filter (·.conn ≠ c), r.isClosed⟩ ls)
  | looked :
    Step r .snapshot r [] []

/-- Inversion for `connect`. -/
lemma connect_inv (r : Room) (c : Conn) (inbox : Inbox) :
    ∃ ls, r.Step (.connect c inbox) (r.connect c inbox).1 ls (r.connect c inbox).2.2 := by
  unfold connect
  cases hr : r.isRegistered c with
  | true => exact ⟨_, .known hr⟩
  | false =>
    cases hc : r.session.connect c with
    | error e => exact ⟨_, .turnedAway hr hc⟩
    | ok t =>
      obtain ⟨role, s, ls⟩ := t
      exact ⟨ls, .joined hr hc⟩

/-- Inversion for `frame`. -/
lemma frame_inv (r : Room) (c : Conn) (data : Bytes) :
    ∃ ls, r.Step (.frame c data) (r.frame c data).1 ls (r.frame c data).2 := by
  unfold frame
  cases hr : r.isRegistered c with
  | false => exact ⟨_, .passedOver hr⟩
  | true =>
    cases hf : Request.ofFrame data with
    | error e => exact ⟨_, .unread hr hf⟩
    | ok request =>
      simp only [if_true]
      cases hs : r.session.serve c request with
      | error e => exact ⟨_, .refused hr hf hs⟩
      | ok t =>
        obtain ⟨s, ls⟩ := t
        exact ⟨ls, .granted hr hf hs⟩

/-- Inversion for `disconnect`. -/
lemma disconnect_inv (r : Room) (c : Conn) :
    ∃ ls, r.Step (.disconnect c) (r.disconnect c).1 ls (r.disconnect c).2 := by
  unfold disconnect
  cases hi : r.inboxOf? c with
  | none => exact ⟨_, .absent (inboxOf?_eq_none_iff.1 hi)⟩
  | some inbox => exact ⟨_, .left hi rfl⟩

/-- Inversion for `step`. -/
lemma step_inv {r : Room} {cmd : Command} (isOpen : r.isClosed = false) (h : cmd ≠ .shutdown) :
    ∃ ls, r.Step cmd (r.step cmd).1 ls (r.step cmd).2.2 := by
  unfold step
  rw [isOpen]
  cases cmd with
  | connect c inbox => exact r.connect_inv c inbox
  | frame c data => exact r.frame_inv c data
  | disconnect c => exact r.disconnect_inv c
  | snapshot => exact ⟨_, .looked⟩
  | shutdown => exact absurd rfl h

/-- What an open room makes of a request of a connection. -/
def asked (r : Room) (c : Conn) (request : Request) : Room × Reply × List Delivery :=
  if r.isClosed then (r, .refused .unavailable, [])
  else if r.isRegistered c then
    match r.session.serve c request with
    | .error e => (r, .done, r.refuse c e.message)
    | .ok (s, ls) => (⟨s, r.members, r.isClosed⟩, .done, dispatch ⟨s, r.members, r.isClosed⟩ ls)
  else (r, .done, [])

/-- A frame that reads as a request does what the request asks for. -/
lemma step_frame {r : Room} {c : Conn} {data : Bytes} {request : Request}
    (h : Request.ofFrame data = .ok request) : r.step (.frame c data) = r.asked c request := by
  simp only [step, frame, asked, h]
  split
  · rfl
  · split
    · cases r.session.serve c request <;> rfl
    · rfl

/-- Members come from attempts to connect. -/
lemma Step.mem_or_eq {r r' : Room} {cmd : Command} {ls : List Letter} {ds : List Delivery}
    {c : Conn} {inbox : Inbox} (st : r.Step cmd r' ls ds)
    (hm : (⟨c, inbox⟩ : Member) ∈ r'.members) :
    (⟨c, inbox⟩ : Member) ∈ r.members ∨ cmd = .connect c inbox := by
  cases st with
  | joined _ _ =>
    obtain old | new := List.mem_append.1 hm
    · exact .inl old
    · rw [List.mem_singleton, Member.mk.injEq] at new
      obtain ⟨rfl, rfl⟩ := new
      exact .inr rfl
  | left _ _ => exact .inl (List.mem_filter.1 hm).1
  | _ => exact .inl hm

@[simp] lemma run_nil (r : Room) : r.run [] = (r, []) := rfl

@[simp] lemma run_cons (r : Room) (cmd : Command) (cs : List Command) :
    r.run (cmd :: cs) =
      (((r.step cmd).1.run cs).1, (r.step cmd).2.2 ++ ((r.step cmd).1.run cs).2) :=
  rfl

/-- A run goes on where the one before it has ended. -/
lemma run_append (r : Room) (cs cs' : List Command) :
    r.run (cs ++ cs') = (((r.run cs).1.run cs').1, (r.run cs).2 ++ ((r.run cs).1.run cs').2) := by
  induction cs generalizing r with
  | nil => rfl
  | cons cmd cs ih => rw [List.cons_append, run_cons, run_cons, ih, List.append_assoc]

end Room

end ParityDuel
