import OpenPlay.Receiver.LateEvents
import OpenPlay.Session.Agreement
import OpenPlay.Session.Quiet
import OpenPlay.Session.Trickle

/-!
# The accounts of a connection

The receiver builds the media of a session when it takes the offer of its sender,
and applies a candidate only if the media is there.  So the signaling channel is a
gate (`candidateGate`) that an offer opens, and what becomes of the candidates is
settled by the order in which the sender passes them on.

`Accounts` instantiates the accounts of the gate for one connection: what its sender
has passed on, what of it was in order, and what was applied to the peer of its
session.  An account begins with the approval of the session, when nothing has been
said (`Unmet`), and a connection is approved once (`Met`).

## Main results

* `Accounts.of_plain`, `Accounts.of_take` — what happens on the connection keeps
  the accounts
* `Accounts.heard`, `Accounts.elsewhere` — so does a turn of the session loop
-/

namespace OpenPlay

open Transition

/-- The signaling channel, as the receiver reads it for candidates. -/
def candidateGate : Gate SignalingMessage Candidate where
  opens := SignalingMessage.isOffer
  item := SignalingMessage.brings
  fits := SignalingMessage.valid

/-! ## Before the approval -/

/-- The sender has read the acceptance. -/
def Phase.hasMet : Phase → Bool
  | .building | .starting | .driving _ | .concluding _ => true
  | _ => false

/-- A sender says nothing but its request until it reads the acceptance. -/
theorem Cast.Goes.meets {config : CastConfig} {stopFlag writer : Bool}
    {phase phase' : Phase} {input : CastInput} {messages : List SignalingMessage}
    (goes : Goes config stopFlag writer phase input phase' messages)
    (unmet : phase.hasMet = false) :
    (phase'.hasMet = false ∧ ∀ m ∈ messages, m.isSessionRequest = true) ∨
      ∃ m applied, input = .incoming (some m) applied ∧ m.isSessionAccept = true := by
  cases goes with
  | accepted => exact Or.inr ⟨_, _, rfl, rfl⟩
  | requested sent =>
      refine Or.inl ⟨rfl, ?_⟩
      intro m mem
      rw [List.mem_singleton.mp mem]
      rfl
  | unsent gone => exact Or.inl ⟨rfl, by simp⟩
  | stopped pressed => exact Or.inl ⟨rfl, by simp⟩
  | polled quiet => exact Or.inl ⟨rfl, by simp⟩
  | rejected => exact Or.inl ⟨rfl, by simp⟩
  | hungUp => exact Or.inl ⟨rfl, by simp⟩
  | waits => exact Or.inl ⟨rfl, by simp⟩
  | _ => cases unmet

/-- The sender has not been let in: it has said nothing but its request, and no
acceptance is on its way. -/
structure Unmet (l : Link) (s : SessionLoop) (c : ConnectionId) : Prop where
  phase : l.cast.phase.hasMet = false
  down : ∀ m ∈ l.down, m.isSessionAccept = false
  stream : ∀ m ∈ l.stream, m.isSessionRequest = true
  stranger : s.ownsSession c = false

/-- The receiver has dealt with the one request of the sender. -/
structure Met (l : Link) (s : SessionLoop) (c : ConnectionId) : Prop where
  answered : c ∉ s.pending
  silent : l.requests = 0

namespace Unmet

variable {l l' : Link} {s : SessionLoop} {c : ConnectionId}

theorem of_afterCast (h : Unmet l s c) {input : CastInput} {phase' : Phase}
    {messages down : List SignalingMessage}
    (goes : Cast.Goes l.cast.config l.cast.stopFlag l.writer l.cast.phase input phase'
      messages)
    (news : ∀ m applied, input = .incoming (some m) applied → m ∈ l.down)
    (fewer : ∀ m ∈ down, m ∈ l.down) :
    Unmet ({ l with down := down }.afterCast ({ l.cast with phase := phase' }, messages))
      s c := by
  rcases goes.meets h.phase with ⟨unmet, requests⟩ | ⟨m, applied, is, accept⟩
  · refine ⟨unmet, fun m mem => h.down m (fewer m mem), ?_, h.stranger⟩
    rw [Link.afterCast_stream]
    intro m mem
    split at mem
    · exact h.stream m mem
    · rcases List.mem_append.mp mem with mem | mem
      · exact h.stream m mem
      · exact requests m mem
  · have refused := h.down m (news m applied is)
    rw [accept] at refused
    cases refused

/-- Nothing that happens on the connection lets the sender in. -/
theorem of_moves (h : Unmet l s c) {now : Nat} {action : LinkAction}
    (moves : Link.Moves now l action l') : Unmet l' s c := by
  have less : ∀ {l'' : Link}, l''.cast.phase = l.cast.phase →
      (∀ m ∈ l''.down, m ∈ l.down) → (∀ m ∈ l''.stream, m ∈ l.stream) → Unmet l'' s c := by
    intro l'' phase down stream
    exact ⟨by rw [phase, h.phase], fun m mem => h.down m (down m mem),
      fun m mem => h.stream m (stream m mem), h.stranger⟩
  cases moves with
  | connected offline =>
      refine ⟨rfl, ?_, ?_, h.stranger⟩
      · intro m mem
        cases mem
      · intro m mem
        cases mem
  | stopPressed => exact less rfl (fun m mem => mem) fun m mem => mem
  | went own goes =>
      refine h.of_afterCast goes ?_ fun m mem => mem
      rintro m applied rfl
      cases own
  | heard queue valid goes =>
      refine h.of_afterCast goes ?_ ?_
      · intro m applied is
        cases is
        rw [queue]
        exact List.mem_cons_self
      · intro m mem
        rw [queue]
        exact List.mem_cons_of_mem _ mem
  | heardEnd queue gone goes =>
      refine h.of_afterCast goes ?_ fun m mem => mem
      intro m applied is
      cases is
  | @discarded message rest queue invalid =>
      refine less rfl ?_ fun m mem => mem
      intro m mem
      rw [queue]
      exact List.mem_cons_of_mem _ mem
  | @read message rest queue serving =>
      refine less rfl (fun m mem => mem) ?_
      intro m mem
      rw [Link.stream, queue]
      rcases List.mem_append.mp mem with mem | mem
      · dsimp only at mem
        split at mem
        · rcases List.mem_append.mp mem with mem | mem
          · exact List.mem_append_left _ mem
          · rw [List.mem_singleton.mp mem]
            exact List.mem_append_right _ List.mem_cons_self
        · exact List.mem_append_left _ mem
      · exact List.mem_append_right _ (List.mem_cons_of_mem _ mem)
  | idled serving late =>
      exact less rfl (fun m mem => List.mem_of_mem_take mem) fun m mem => mem
  | hungUp serving gone =>
      exact less rfl (fun m mem => List.mem_of_mem_take mem) fun m mem => mem
  | broke =>
      refine less rfl (fun m mem => List.mem_of_mem_take mem) ?_
      intro m mem
      rcases List.mem_append.mp mem with mem | mem
      · exact List.mem_append_left _ mem
      · exact List.mem_append_right _ (List.mem_of_mem_take mem)
  | readerEnded done => exact less rfl (fun m mem => mem) fun m mem => mem
  | writerEnded done => exact less rfl (fun m mem => mem) fun m mem => mem

/-- A turn of the session loop that does not make the sender the owner does not let
it in. -/
theorem replied (h : Unmet l s c) {s' : SessionLoop} {input : Input} {effects : List Effect}
    (made : sessionLoop.Makes ⟨s, input, effects, s'⟩) (hx : Exclusive s)
    (cast : l'.cast = l.cast) (down : l'.down = l.down)
    (stream : ∀ m ∈ l'.stream, m ∈ l.stream) (stranger : s'.ownsSession c = false) :
    Unmet (l'.replied (sentTo c effects)) s' c where
  phase := by rw [Link.replied_cast, cast, h.phase]
  down m mem := by
    rcases Link.mem_replied_down l' _ mem with mem | mem
    · exact h.down m (down ▸ mem)
    · by_contra accept
      rw [Bool.not_eq_false] at accept
      have owned := grants_of_makes made hx m mem accept
      rw [stranger] at owned
      cases owned
  stream m mem := by
    rw [Link.replied_stream] at mem
    exact h.stream m (stream m mem)
  stranger := stranger

/-- The stream carries nothing that matters to media. -/
theorem plain (h : Unmet l s c) :
    candidateGate.items l.stream = [] ∧ candidateGate.after false l.stream = false := by
  have request : ∀ m ∈ l.stream, m.isOffer = false ∧ m.brings = none := by
    intro m mem
    have asks := h.stream m mem
    cases m with
    | sessionRequest senderId displayName version capabilities => exact ⟨rfl, rfl⟩
    | _ => cases asks
  refine ⟨List.filterMap_eq_nil_iff.mpr fun m mem => (request m mem).2, ?_⟩
  rw [Gate.after, Bool.false_or, List.any_eq_false]
  intro m mem
  rw [Gate.lets, show candidateGate.opens m = false from (request m mem).1, Bool.and_false]
  exact Bool.false_ne_true

end Unmet

namespace Met

variable {l l' : Link} {s : SessionLoop} {c : ConnectionId}

theorem of_moves (h : Met l s c) {now : Nat} {action : LinkAction}
    (moves : Link.Moves now l action l') : Met l' s c where
  answered := h.answered
  silent := Nat.eq_zero_of_le_zero (h.silent ▸ moves.requests_le)

theorem replied (h : Met l s c) {s' : SessionLoop} {input : Input} {effects : List Effect}
    (made : sessionLoop.Makes ⟨s, input, effects, s'⟩) (fewer : l'.requests ≤ l.requests)
    (asked : input.IsRequestOf c → l'.requests < l.requests) :
    Met (l'.replied (sentTo c effects)) s' c := by
  have none_left := h.silent
  refine ⟨?_, by rw [Link.replied_requests]; omega⟩
  intro waiting
  rcases (reacts_of_makes made).mem_pending_source waiting with waiting | asks
  · exact h.answered waiting
  · have := asked asks
    omega

/-- An owner has been met. -/
theorem of_owner (orderly : Orderly l s c) (owned : s.ownsSession c = true) : Met l s c where
  answered waiting := by
    rw [orderly.apart waiting] at owned
    cases owned
  silent := by
    refine orderly.requests_eq_zero fun gone => ?_
    rw [gone.2] at owned
    cases owned

end Met

/-! ## The accounts of one connection -/

/-- What the session loop has applied, by session: it applies nothing to a peer whose
session has not begun. -/
structure Issued (used : Nat → List Candidate) (s : SessionLoop) : Prop where
  own : s.OwnMedia
  newest : ∀ a, s.active = some a → a.session + 1 = s.activations
  unused : ∀ k, s.activations ≤ k → used k = []

theorem Issued.of_makes {used : Nat → List Candidate} {s s' : SessionLoop} {input : Input}
    {effects : List Effect} (h : Issued used s)
    (made : sessionLoop.Makes ⟨s, input, effects, s'⟩) :
    Issued (fun k => used k ++ appliedTo ⟨k⟩ effects) s' := by
  have rule := reacts_of_makes made
  obtain ⟨newest, grows, -⟩ := rule.numbered h.newest
  refine ⟨h.own.of_reacts rule, newest, ?_⟩
  intro k fresh
  have unused := h.unused k (Nat.le_trans grows fresh)
  have reacts : (s.react input).2 = effects := by rw [sessionLoop_makes_iff.mp made]
  have none_applied : appliedTo ⟨k⟩ effects = [] := by
    rw [List.eq_nil_iff_forall_not_mem]
    intro candidate mem
    rw [← reacts] at mem
    obtain ⟨a, incoming, around, was, its, -⟩ := SessionLoop.mem_appliedTo h.own mem
    cases its
    have := h.newest a was
    dsimp only at grows fresh
    omega
  show used k ++ appliedTo ⟨k⟩ effects = []
  rw [unused, none_applied, List.append_nil]

/-- A cast that is not over was not over before. -/
theorem Cast.Goes.notOver {config : CastConfig} {stopFlag writer : Bool}
    {phase phase' : Phase} {input : CastInput} {messages : List SignalingMessage}
    (goes : Goes config stopFlag writer phase input phase' messages)
    (h : phase'.isOver = false) : phase.isOver = false := by
  cases goes with
  | concluded => cases h
  | _ => rfl

/-- A message that cannot be sent ends the cast. -/
theorem Cast.driveEvent_goesOn {writer : Bool} {event : WebRtcEvent}
    (h : (driveEvent writer (some event)).1.isOver = false) :
    (driveEvent writer (some event)).2 = event.message.toList := by
  rw [driveEvent_messages]
  cases writer with
  | true => exact if_pos rfl
  | false =>
      cases event with
      | localDescription kind sdp =>
          cases kind with
          | offer => cases h
          | answer => rfl
      | iceCandidate sdpMlineIndex candidate => cases h
      | iceGatheringComplete => cases h
      | _ => rfl

namespace WebRtcEvent

variable {event : WebRtcEvent}

theorem message_of_candidate {candidate : Candidate} (h : event.candidate = some candidate) :
    event.message = some candidate.message := by
  cases event with
  | iceCandidate sdpMlineIndex candidate =>
      cases h
      rfl
  | _ => cases h

theorem plain_of_no_candidate (h : event.candidate = none) :
    ∀ m ∈ event.message.toList, candidateGate.item m = none := by
  cases event with
  | iceCandidate sdpMlineIndex candidate => cases h
  | localDescription kind sdp => cases kind <;> simp [message, candidateGate,
      SignalingMessage.brings]
  | iceGatheringComplete => simp [message, candidateGate, SignalingMessage.brings]
  | _ => simp [message]

/-- A usable offer is what opens the gate. -/
theorem isUsableOffer_eq (event : WebRtcEvent) :
    event.isUsableOffer = event.message.toList.any candidateGate.lets := by
  cases event with
  | localDescription kind sdp =>
      cases kind with
      | offer =>
          show (SignalingMessage.sdpOffer sdp).valid =
            ((SignalingMessage.sdpOffer sdp).valid && true || false)
          rw [Bool.and_true, Bool.or_false]
      | answer => rfl
  | iceCandidate sdpMlineIndex candidate =>
      show false = ((_ && false) || false)
      rw [Bool.and_false, Bool.or_false]
  | iceGatheringComplete => rfl
  | _ => rfl

end WebRtcEvent

namespace Link

variable {now : Nat} {l l' : Link} {action : LinkAction}

theorem Moves.notOver (moves : Moves now l action l')
    (h : l'.cast.phase.isOver = false) : l.cast.phase.isOver = false := by
  cases moves with
  | connected offline =>
      rw [offline]
      rfl
  | went own goes => exact goes.notOver h
  | heard queue valid goes => exact goes.notOver h
  | heardEnd queue gone goes => exact goes.notOver h
  | _ => exact h

/-- The server only hands on what passes its gate. -/
theorem Moves.mem_inbox (moves : Moves now l action l') {m : SignalingMessage}
    (mem : m ∈ l'.inbox) : m ∈ l.inbox ∨ m.valid = true := by
  cases moves with
  | connected offline => cases mem
  | @read message rest queue serving =>
      dsimp only at mem
      split at mem
      · rename_i valid
        rcases List.mem_append.mp mem with mem | mem
        · exact Or.inl mem
        · rw [List.mem_singleton.mp mem]
          exact Or.inr valid
      · exact Or.inl mem
  | _ => exact Or.inl mem

end Link

/-- The accounts of the connection `c`: what its sender has passed on, what of it in
order, and what has been used in each session. -/
structure Accounts (said kept : List Candidate) (used : Nat → List Candidate)
    (p : PeerChannel) (l : Link) (s : SessionLoop) (c : ConnectionId) : Prop where
  fitting : ∀ m ∈ l.inbox, m.valid = true
  standing : Unmet l s c ∧ said = [] ∧ kept = [] ∧ p.received = [] ∨ Met l s c
  /-- An offer that was passed on is on its way, or the session has its media. -/
  described : ∀ a, s.active = some a → a.connection = c → l.cut = false →
    l.cast.phase.isOver = false →
      p.described = candidateGate.after a.media.isSome l.stream
  account : ∀ a, s.active = some a → a.connection = c → l.cut = false →
    candidateGate.Account kept said (used a.session) a.media.isSome l.stream

namespace Accounts

variable {said kept : List Candidate} {used : Nat → List Candidate} {p p' : PeerChannel}
variable {l l' : Link} {s s' : SessionLoop} {c : ConnectionId}

/-- An owner has been met. -/
theorem met_of_owner (h : Accounts said kept used p l s c) {a : Active}
    (was : s.active = some a) (owner : a.connection = c) : Met l s c := by
  rcases h.standing with ⟨unmet, -⟩ | met
  · have owned := SessionLoop.ownsSession_iff.mpr ⟨a, was, owner⟩
    rw [unmet.stranger] at owned
    cases owned
  · exact met

/-- The accounts are about what was taken off the event channel. -/
theorem of_received (h : Accounts said kept used p l s c) (received : p'.received = p.received) :
    Accounts said kept used p' l s c where
  fitting := h.fitting
  standing := by
    rw [received]
    exact h.standing
  described := by
    rw [PeerChannel.described_congr received]
    exact h.described
  account := h.account

/-- A network that has not failed had not failed before, unless the sender has only
just connected. -/
theorem uncut_of_moves {now : Nat} {action : LinkAction} (moves : Link.Moves now l action l')
    (uncut : l'.cut = false) : l.cut = false ∨ l.cast.phase = .offline := by
  cases moves with
  | connected offline => exact Or.inr offline
  | broke => cases uncut
  | _ => exact Or.inl uncut

/-- Whatever happens on the connection without a media event keeps the accounts. -/
theorem of_plain (h : Accounts said kept used p l s c) {now : Nat} {action : LinkAction}
    (stepped : l.step now action = some l')
    (plain : ∀ event, action ≠ .own (.webrtc event)) (received : p'.received = p.received) :
    Accounts said kept used p' l' s c := by
  have moves := Link.step_moves stepped
  have described := PeerChannel.described_congr received
  -- The owner of a session is connected.
  have online : ∀ a, s.active = some a → a.connection = c → l.cast.phase ≠ .offline := by
    intro a was owner offline
    have silent := (h.met_of_owner was owner).silent
    have fresh : l.cast.phase.isFresh = true := by rw [offline]; rfl
    rw [Link.requests, fresh, if_pos rfl] at silent
    omega
  refine ⟨?_, ?_, ?_, ?_⟩
  · intro m mem
    exact (moves.mem_inbox mem).elim (h.fitting m) id
  · rcases h.standing with ⟨unmet, hsaid, hkept, none_received⟩ | met
    · exact Or.inl ⟨unmet.of_moves moves, hsaid, hkept, received.trans none_received⟩
    · exact Or.inr (met.of_moves moves)
  · intro a was owner uncut on
    have before := (uncut_of_moves moves uncut).resolve_right (online a was owner)
    rw [described, h.described a was owner before (moves.notOver on)]
    cases Link.step_plain stepped plain uncut with
    | opened offline => exact absurd offline (online a was owner)
    | said quiet stream =>
        rw [stream]
        exact (Gate.after_plain fun m mem => (quiet m mem).1).symm
    | dropped invalid split_up stream =>
        rw [split_up, stream]
        exact Gate.after_erase invalid
  · intro a was owner uncut
    have before := (uncut_of_moves moves uncut).resolve_right (online a was owner)
    have account := h.account a was owner before
    cases Link.step_plain stepped plain uncut with
    | opened offline => exact absurd offline (online a was owner)
    | said quiet stream =>
        rw [stream]
        exact account.push_plain fun m mem => (quiet m mem).2
    | dropped invalid split_up stream =>
        rw [split_up] at account
        rw [stream]
        exact account.drop invalid

/-- `drive_session` takes an event, and passes a candidate on. -/
theorem of_take (h : Accounts said kept used p l s c) {now : Nat} {event : WebRtcEvent}
    (stepped : l.step now (.own (.webrtc (some event))) = some l')
    (received : p'.received = p.received ++ [event]) {passed : List Candidate}
    (passes : passed = if l.writer then event.candidate.toList else []) :
    Accounts (said ++ passed)
      (kept ++ passed.filter fun candidate => p.described && candidate.message.valid)
      used p' l' s c := by
  have moves := Link.step_moves stepped
  obtain ⟨driving, rfl⟩ := Link.take_event stepped
  have on : l.cast.phase.isOver = false := by rw [driving]; rfl
  have met : Met l s c := by
    rcases h.standing with ⟨unmet, -⟩ | met
    · have phase := unmet.phase
      rw [driving] at phase
      cases phase
    · exact met
  refine ⟨h.fitting, Or.inr (met.of_moves moves), ?_, ?_⟩
  · intro a was owner uncut goesOn
    have uncut' : l.cut = false := uncut
    have before : p.described = candidateGate.after a.media.isSome l.stream :=
      h.described a was owner uncut on
    have said := Cast.driveEvent_goesOn goesOn
    rw [Link.afterCast_stream, if_neg (by simp [uncut']), said, PeerChannel.described, received,
      List.any_append, ← PeerChannel.described, before, Gate.after_append, List.any_cons,
      List.any_nil, Bool.or_false, WebRtcEvent.isUsableOffer_eq]
    rfl
  · intro a was owner uncut
    have uncut' : l.cut = false := uncut
    have account : candidateGate.Account kept said (used a.session) a.media.isSome l.stream :=
      h.account a was owner uncut
    have described : p.described = candidateGate.after a.media.isSome l.stream :=
      h.described a was owner uncut on
    rw [Link.afterCast_stream, if_neg (by simp [uncut']), Cast.driveEvent_messages]
    cases hcandidate : event.candidate with
    | none =>
        rw [hcandidate, Option.toList_none, ite_self] at passes
        rw [passes, List.filter_nil, List.append_nil, List.append_nil]
        refine account.push_plain fun m mem => ?_
        split at mem
        · exact WebRtcEvent.plain_of_no_candidate hcandidate m mem
        · cases mem
    | some candidate =>
        rw [hcandidate, Option.toList_some] at passes
        cases hwriter : l.writer with
        | false =>
            rw [hwriter, if_neg Bool.false_ne_true] at passes
            rw [passes, List.filter_nil, List.append_nil, List.append_nil,
              if_neg Bool.false_ne_true, List.append_nil]
            exact account
        | true =>
            rw [hwriter, if_pos rfl] at passes
            rw [if_pos rfl, WebRtcEvent.message_of_candidate hcandidate, Option.toList_some]
            have pushed := account.push candidate.message
            have kept_of : [candidate].filter
                  (fun candidate => p.described && candidate.message.valid) =
                candidateGate.pass (candidateGate.after a.media.isSome l.stream)
                  candidate.message := by
              rw [← described, List.filter_singleton]
              exact Bool.cond_eq_ite _ _ _
            rw [passes, kept_of]
            exact pushed

/-! ### A turn of the session loop -/

/-- What a turn makes of a sender's standing. -/
theorem standing_of_turn (h : Accounts said kept used p l s c) {input : Input}
    {effects : List Effect} (made : sessionLoop.Makes ⟨s, input, effects, s'⟩)
    (hx : Exclusive s) {l₁ : Link} (orderly : Orderly (l₁.replied (sentTo c effects)) s' c)
    (received : p'.received = p.received) (cast : l₁.cast = l.cast) (down : l₁.down = l.down)
    (stream : ∀ m ∈ l₁.stream, m ∈ l.stream) (fewer : l₁.requests ≤ l.requests)
    (asked : input.IsRequestOf c → l₁.requests < l.requests) :
    Unmet (l₁.replied (sentTo c effects)) s' c ∧ said = [] ∧ kept = [] ∧ p'.received = [] ∨
      Met (l₁.replied (sentTo c effects)) s' c := by
  cases owned : s'.ownsSession c with
  | true => exact Or.inr (.of_owner orderly owned)
  | false =>
      rcases h.standing with ⟨unmet, hsaid, hkept, none_received⟩ | met
      · exact Or.inl ⟨unmet.replied made hx cast down stream owned, hsaid, hkept,
          received.trans none_received⟩
      · exact Or.inr (met.replied made fewer asked)

/-- The loop takes the next message of the sender. -/
theorem heard (h : Accounts said kept used p l s c) (issued : Issued used s)
    (hx : Exclusive s) {message : SignalingMessage} {rest : List SignalingMessage}
    {around : Surroundings} {effects : List Effect} (inbox : l.inbox = message :: rest)
    (made : sessionLoop.Makes ⟨s, .message (.from c message) around, effects, s'⟩)
    (orderly : Orderly (l.popped.replied (sentTo c effects)) s' c)
    (received : p'.received = p.received) :
    Accounts said kept (fun k => used k ++ appliedTo ⟨k⟩ effects) p'
      (l.popped.replied (sentTo c effects)) s' c := by
  have rule := reacts_of_makes made
  have reacts := sessionLoop_makes_iff.mp made
  have fits : message.valid = true := h.fitting message (by rw [inbox]; exact List.mem_cons_self)
  have stream := Link.popped_stream inbox
  have counted := Link.requests_popped inbox
  have described := PeerChannel.described_congr received
  -- The session is the one of before, and has its media if the message is its offer.
  have source : ∀ a, s'.active = some a → a.connection = c → ∃ b, s.active = some b ∧
      a.session = b.session ∧ b.connection = c ∧
      a.media.isSome = (b.media.isSome || candidateGate.lets message) := by
    intro a was owner
    have lets : candidateGate.lets message = message.isOffer := by
      show (message.valid && message.isOffer) = _
      rw [fits, Bool.true_and]
    rw [lets]
    cases rule.active_media was with
    | @same b was' session connection media =>
        refine ⟨b, was', session, connection ▸ owner, ?_⟩
        cases offer : message.isOffer with
        | false => rw [media, Bool.or_false]
        | true =>
            have active : (s.react (.message (.from c message) around)).1.active = some a := by
              rw [reacts]
              exact was
            rw [Bool.or_true]
            exact SessionLoop.media_of_offer offer was' (connection ▸ owner) active
    | @offered b incoming around' is offer was' session connection owner' media =>
        cases is
        have offer' : message.isOffer = true := offer
        refine ⟨b, was', session, connection ▸ owner, ?_⟩
        rw [media, offer', Bool.or_true]
        rfl
    | approved is waiting session media => cases is
  refine ⟨?_, ?_, ?_, ?_⟩
  · intro m mem
    rw [Link.replied_inbox] at mem
    exact h.fitting m (List.mem_of_mem_tail mem)
  · refine h.standing_of_turn made hx orderly received rfl rfl ?_ (by omega)
      (Link.requests_popped_lt inbox)
    intro m mem
    rw [stream]
    exact List.mem_cons_of_mem _ mem
  · intro a was owner uncut on
    obtain ⟨b, was', -, owner', opened⟩ := source a was owner
    rw [Link.replied_cut] at uncut
    rw [Link.replied_cast] at on
    rw [described, h.described b was' owner' uncut on, Link.replied_stream, stream, opened,
      Gate.after_cons]
  · intro a was owner uncut
    obtain ⟨b, was', session, owner', opened⟩ := source a was owner
    rw [Link.replied_cut] at uncut
    have account := h.account b was' owner' uncut
    rw [stream] at account
    have passed : appliedTo ⟨a.session⟩ effects =
        candidateGate.pass b.media.isSome message := by
      have effects_eq : (s.react (.message (.from c message) around)).2 = effects := by
        rw [reacts]
      rw [session, ← effects_eq, SessionLoop.appliedTo_message issued.own around was' owner']
      show _ = if b.media.isSome && message.valid then _ else _
      rw [fits, Bool.and_true]
      rfl
    show candidateGate.Account kept said (used a.session ++ appliedTo ⟨a.session⟩ effects) _ _
    rw [Link.replied_stream, passed, opened, session]
    exact account.take

/-- The loop does something else. -/
theorem elsewhere (h : Accounts said kept used p l s c) (issued : Issued used s)
    (hx : Exclusive s) {input : Input} {effects : List Effect}
    (other : ∀ incoming around, input = .message incoming around → incoming.connection ≠ c)
    (made : sessionLoop.Makes ⟨s, input, effects, s'⟩)
    (orderly : Orderly (l.replied (sentTo c effects)) s' c)
    (received : p'.received = p.received) :
    Accounts said kept (fun k => used k ++ appliedTo ⟨k⟩ effects) p'
      (l.replied (sentTo c effects)) s' c := by
  have rule := reacts_of_makes made
  have reacts : (s.react input).2 = effects := by rw [sessionLoop_makes_iff.mp made]
  have described := PeerChannel.described_congr received
  -- An approval opens an account, with nothing said.
  have opening : ∀ a, s'.active = some a → a.connection = c →
      (∃ b, s.active = some b ∧ a.session = b.session ∧ b.connection = c ∧
        a.media = b.media) ∨
      (a.session = s.activations ∧ a.media = none ∧ Unmet l s c ∧ said = [] ∧ kept = [] ∧
        p.received = []) := by
    intro a was owner
    cases rule.active_media was with
    | @same b was' session connection media =>
        exact Or.inl ⟨b, was', session, connection ▸ owner, media⟩
    | offered is offer was' session connection owner' media =>
        exact absurd (owner'.symm.trans owner) (other _ _ is)
    | approved is waiting session media =>
        rcases h.standing with unmet | met
        · exact Or.inr ⟨session, media, unmet⟩
        · rw [owner] at waiting
          exact absurd waiting met.answered
  have quiet : ∀ a, s'.active = some a → a.connection = c →
      appliedTo ⟨a.session⟩ effects = [] := by
    intro a was owner
    rw [List.eq_nil_iff_forall_not_mem]
    intro candidate mem
    rw [← reacts] at mem
    obtain ⟨b, incoming, around, was', its, is, sender⟩ :=
      SessionLoop.mem_appliedTo issued.own mem
    rcases opening a was owner with ⟨b', was'', -, owner', -⟩ | ⟨session, -⟩
    · rw [was'] at was''
      cases was''
      exact other incoming around is (sender.trans owner')
    · have newest := issued.newest b was'
      have same : a.session = b.session := congrArg WebRtcPeer.session its
      omega
  refine ⟨?_, ?_, ?_, ?_⟩
  · intro m mem
    rw [Link.replied_inbox] at mem
    exact h.fitting m mem
  · refine h.standing_of_turn made hx orderly received rfl rfl (fun m mem => mem)
      (Nat.le_refl _) ?_
    rintro ⟨incoming, around, is, sender, -⟩
    exact absurd sender (other incoming around is)
  · intro a was owner uncut on
    rw [Link.replied_cut] at uncut
    rw [Link.replied_cast] at on
    rw [described, Link.replied_stream]
    rcases opening a was owner with ⟨b, was', -, owner', media⟩ |
      ⟨-, media, unmet, -, -, none_received⟩
    · rw [media, h.described b was' owner' uncut on]
    · rw [media, PeerChannel.described, none_received]
      exact unmet.plain.2.symm
  · intro a was owner uncut
    rw [Link.replied_cut] at uncut
    show candidateGate.Account kept said (used a.session ++ appliedTo ⟨a.session⟩ effects) _ _
    rw [quiet a was owner, List.append_nil, Link.replied_stream]
    rcases opening a was owner with ⟨b, was', session, owner', media⟩ |
      ⟨session, media, unmet, hsaid, hkept, -⟩
    · rw [session, media]
      exact h.account b was' owner' uncut
    · rw [session, issued.unused _ (Nat.le_refl _), hsaid, hkept]
      exact .start unmet.plain.1

end Accounts

end OpenPlay
