import OpenPlay.Receiver.Senders
import OpenPlay.Session.Network

/-!
# A cast that is over releases the receiver

The receiver forgets a sender when it hears a `SessionEnd` from it, or when a
liveness tick finds its connection closed.  A cast that ends normally says
goodbye.  A cast that is stopped while it waits, or that cannot build or start its
media pipeline, returns without a word, and leaves the connection standing: the
client's read task keeps its half of the socket open.

`Releases` is what the end of a cast should do, `Abandons` the three ways in which
it does not.  `Settled` is what release means for the receiver afterwards: the
goodbye is on its way, the connection is closed, or the receiver has forgotten the
sender for good.

For the last of these a sender is counted by the requests that the receiver has
yet to hear (`Link.requests`).  A cast asks once, so the count never grows, and a
sender that was turned away cannot come back (`Orderly`).
-/

namespace OpenPlay

open Transition

/-! ## The one request of a cast -/

/-- The requests of a cast that the session loop has yet to hear: the one it is
about to make, and those on their way. -/
def Link.requests (l : Link) : Nat :=
  (if l.cast.phase.isFresh then 1 else 0) +
    l.stream.countP SignalingMessage.isSessionRequest

/-- A cast goes on from its first two places, and asks at most once. -/
theorem Cast.Goes.requests {config : CastConfig} {stopFlag writer : Bool}
    {phase phase' : Phase} {input : CastInput} {messages : List SignalingMessage}
    (goes : Goes config stopFlag writer phase input phase' messages) :
    (if phase'.isFresh then 1 else 0) +
        messages.countP SignalingMessage.isSessionRequest ≤
      if phase.isFresh then 1 else 0 := by
  cases goes with
  | requested sent => exact Nat.le_refl 1
  | drives heard media =>
      have none_asks : messages.countP SignalingMessage.isSessionRequest = 0 := by
        rw [List.countP_eq_zero]
        intro m hm
        rw [(media m hm).1]
        exact Bool.false_ne_true
      rw [none_asks]
      exact Nat.le_refl 0
  | concluded => cases writer <;> exact Nat.le_refl 0
  | _ => exact Nat.zero_le _

namespace Link

variable {now : Nat} {l l' : Link} {action : LinkAction}

theorem afterCast_stream (l : Link) (next : Cast × List SignalingMessage) :
    (l.afterCast next).stream = if l.cut then l.stream else l.stream ++ next.2 := by
  unfold afterCast stream
  cases l.cut with
  | true => rfl
  | false => exact (List.append_assoc _ _ _).symm

/-- A cast that goes on takes its request from where it stands to the channel. -/
theorem requests_afterCast {input : CastInput} {phase' : Phase}
    {messages : List SignalingMessage}
    (goes : Cast.Goes l.cast.config l.cast.stopFlag l.writer l.cast.phase input phase'
      messages) :
    (l.afterCast ({ l.cast with phase := phase' }, messages)).requests ≤ l.requests := by
  have asked := goes.requests
  have said : (l.afterCast ({ l.cast with phase := phase' }, messages)).stream.countP
        SignalingMessage.isSessionRequest ≤
      l.stream.countP SignalingMessage.isSessionRequest +
        messages.countP SignalingMessage.isSessionRequest := by
    rw [afterCast_stream, ← List.countP_append]
    split
    · exact (List.sublist_append_left _ _).countP_le
    · exact Nat.le_refl _
  have place : (l.afterCast ({ l.cast with phase := phase' }, messages)).cast.phase =
      phase' := rfl
  unfold requests
  rw [place]
  omega

theorem requests_le_of_sublist (cast : l'.cast.phase = l.cast.phase)
    (stream : l'.stream.Sublist l.stream) : l'.requests ≤ l.requests := by
  unfold requests
  rw [cast]
  exact Nat.add_le_add_left stream.countP_le _

/-- **A cast asks once.**  Nothing that happens on a connection makes the receiver
hear more of it. -/
theorem Moves.requests_le (moves : Moves now l action l') : l'.requests ≤ l.requests := by
  cases moves with
  | connected offline =>
      have fresh : l.cast.phase.isFresh = true := by
        rw [offline]
        rfl
      unfold requests
      rw [fresh]
      exact Nat.le_add_right 1 _
  | stopPressed => exact Nat.le_refl _
  | went own goes => exact requests_afterCast goes
  | heard queue valid goes =>
      exact requests_afterCast (l := { l with down := _ }) goes
  | heardEnd queue gone goes => exact requests_afterCast goes
  | discarded queue invalid => exact Nat.le_refl _
  | read queue serving =>
      refine requests_le_of_sublist rfl ?_
      unfold stream
      rw [queue]
      rename_i message rest
      split
      · rw [List.append_assoc]
        exact List.Sublist.refl _
      · exact (List.sublist_cons_self _ _).append_left _
  | idled serving late => exact Nat.le_refl _
  | hungUp serving gone => exact Nat.le_refl _
  | broke => exact requests_le_of_sublist rfl ((List.take_sublist _ _).append_left _)
  | readerEnded done => exact Nat.le_refl _
  | writerEnded done => exact Nat.le_refl _

/-- Nothing that happens on a connection adds a reply. -/
theorem Moves.mem_down (moves : Moves now l action l') {m : SignalingMessage}
    (mem : m ∈ l'.down) : m ∈ l.down := by
  cases moves with
  | connected offline => cases mem
  | heard queue valid goes =>
      rw [queue]
      exact List.mem_cons_of_mem _ mem
  | discarded queue invalid =>
      rw [queue]
      exact List.mem_cons_of_mem _ mem
  | idled serving late => exact List.mem_of_mem_take mem
  | hungUp serving gone => exact List.mem_of_mem_take mem
  | broke => exact List.mem_of_mem_take mem
  | _ => exact mem

@[simp] theorem replied_stream (l : Link) (messages : List SignalingMessage) :
    (l.replied messages).stream = l.stream := by
  simp [stream]

@[simp] theorem replied_requests (l : Link) (messages : List SignalingMessage) :
    (l.replied messages).requests = l.requests := by
  simp [requests]

/-- Taking a message off the inbox takes it off the stream. -/
theorem popped_stream {message : SignalingMessage} {rest : List SignalingMessage}
    (inbox : l.inbox = message :: rest) : l.stream = message :: l.popped.stream := by
  unfold stream popped
  rw [inbox]
  rfl

theorem requests_popped {message : SignalingMessage} {rest : List SignalingMessage}
    (inbox : l.inbox = message :: rest) :
    l.requests = l.popped.requests + if message.isSessionRequest then 1 else 0 := by
  unfold requests
  rw [popped_stream inbox, List.countP_cons, ← Nat.add_assoc]
  rfl

/-- A request that is heard is one less to hear. -/
theorem requests_popped_lt {message : SignalingMessage} {rest : List SignalingMessage}
    {c : ConnectionId} {around : Surroundings} (inbox : l.inbox = message :: rest)
    (asked : Input.IsRequestOf (.message (.from c message) around) c) :
    l.popped.requests < l.requests := by
  obtain ⟨incoming, around', is, -, request⟩ := asked
  cases is
  have request' : message.isSessionRequest = true := request
  rw [requests_popped inbox, request', if_pos rfl]
  exact Nat.lt_succ_self _

end Link

/-! ## What the receiver knows of a sender -/

/-- The receiver itself has turned the sender away: a `SessionReject` or a
`SessionEnd` is on its way to it. -/
def Link.dismissed (l : Link) : Prop :=
  ∃ m ∈ l.down, m.isSessionReject = true ∨ m.isSessionEnd = true

/-- `Orderly l s c`: the receiver in state `s` treats the sender on `l`, its
connection `c`, as one that asks once. -/
structure Orderly (l : Link) (s : SessionLoop) (c : ConnectionId) : Prop where
  once : l.requests ≤ 1
  /-- The receiver knows nothing of a sender whose request it has not heard. -/
  unheard : 0 < l.requests → s.Gone c
  /-- It waits for an answer or it has the session, not both. -/
  apart : c ∈ s.pending → s.ownsSession c = false
  /-- A sender about to read a refusal, or the end of its session, is forgotten for
  good. -/
  dismissed : l.dismissed → l.requests = 0 ∧ s.Gone c

namespace Orderly

variable {l l' : Link} {s : SessionLoop} {c : ConnectionId}

/-- What is on its way only gets less, as far as requests and replies go. -/
theorem of_moves {now : Nat} {action : LinkAction} (h : Orderly l s c)
    (moves : Link.Moves now l action l') : Orderly l' s c where
  once := Nat.le_trans moves.requests_le h.once
  unheard left := h.unheard (lt_of_lt_of_le left moves.requests_le)
  apart := h.apart
  dismissed := by
    rintro ⟨m, mem, hm⟩
    obtain ⟨none_left, gone⟩ := h.dismissed ⟨m, moves.mem_down mem, hm⟩
    exact ⟨Nat.eq_zero_of_le_zero (none_left ▸ moves.requests_le), gone⟩

/-- Whatever the session loop does with a sender that it has not forgotten, its
request has been heard. -/
theorem requests_eq_zero (h : Orderly l s c) (known : ¬ s.Gone c) : l.requests = 0 := by
  by_contra some_left
  exact known (h.unheard (Nat.pos_of_ne_zero some_left))

/-- A turn of the session loop keeps the order.  `l'` is the connection after the
turn took its message; if that message was the request, there is none left. -/
theorem replied {move : LoopMove} (made : sessionLoop.Makes move)
    (hx : Exclusive move.source) (h : Orderly l move.source c) (down : l'.down = l.down)
    (fewer : l'.requests ≤ l.requests)
    (asked : move.action.IsRequestOf c → l'.requests < l.requests) :
    Orderly (l'.replied (sentTo c move.output)) move.target c := by
  have rule := reacts_of_makes made
  have once := h.once
  -- A request of `c` is the first that the loop hears of it.
  have first : move.action.IsRequestOf c → l'.requests = 0 ∧ move.source.Gone c := by
    intro request
    have := asked request
    exact ⟨by omega, h.unheard (by omega)⟩
  have apart : c ∈ move.source.pending ∨ move.action.IsRequestOf c →
      move.source.ownsSession c = false := by
    rintro (hc | request)
    · exact h.apart hc
    · exact (first request).2.2
  refine ⟨?_, ?_, ?_, ?_⟩
  · rw [Link.replied_requests]
    exact Nat.le_trans fewer once
  · rw [Link.replied_requests]
    intro left
    have silent : ¬ move.action.IsRequestOf c := by
      intro request
      have := (first request).1
      omega
    exact (h.unheard (by omega)).of_reacts rule silent
  · intro hc
    by_contra owns
    rw [Bool.not_eq_false] at owns
    rcases rule.owner_source owns with owned | ⟨waiting, haction⟩
    · rw [apart (rule.mem_pending_source hc)] at owned
      cases owned
    · -- The approval has just taken `c` off the map.
      obtain ⟨p, hp⟩ := AList.exists_lookup waiting
      rw [← react_of_makes made, haction, SessionLoop.react_allow hp] at hc
      exact (AList.mem_erase.mp hc).1 rfl
  · rintro ⟨m, mem, hm⟩
    rw [Link.replied_requests]
    rcases Link.mem_replied_down l' _ mem with mem | mem
    · rw [down] at mem
      obtain ⟨none_left, gone⟩ := h.dismissed ⟨m, mem, hm⟩
      have silent : ¬ move.action.IsRequestOf c := by
        intro request
        have := asked request
        omega
      exact ⟨by omega, gone.of_reacts rule silent⟩
    · obtain ⟨reply, hsend, hid⟩ := mem_sentTo.mp mem
      cases rule.sends hsend with
      | @refused incoming around reason is request dest same =>
          have its : move.action.IsRequestOf c := by
            refine ⟨incoming, around, is, ?_, request⟩
            rw [← incoming.reply_id, ← dest, hid]
          rw [same]
          exact first its
      | ponged => rcases hm with hm | hm <;> cases hm
      | @denied decision p is waiting dest pending active =>
          have its : decision.connection = c := by
            rw [← hx.reply_pending _ p waiting, ← dest, hid]
          have hc : c ∈ move.source.pending := by
            rw [← its]
            exact AList.mem_of_lookup waiting
          have none_left := h.requests_eq_zero fun gone => gone.1 hc
          refine ⟨by omega, ?_, ?_⟩
          · rw [pending, its]
            exact fun left => (AList.mem_erase.mp left).1 rfl
          · rw [SessionLoop.ownsSession, active]
            exact h.apart hc
      | approved => rcases hm with hm | hm <;> cases hm
      | forwarded was dest forwards =>
          cases forwards <;> rcases hm with hm | hm <;> cases hm
      | @ended a reason was dest none_active why =>
          have owned : move.source.ownsSession c = true := by
            refine SessionLoop.ownsSession_iff.mpr ⟨a, was, ?_⟩
            rw [← hx.reply_active a was, ← dest, hid]
          have none_left := h.requests_eq_zero fun gone => by
            rw [gone.2] at owned
            cases owned
          refine ⟨by omega, ?_, ?_⟩
          · intro hc
            rw [apart (rule.mem_pending_source hc)] at owned
            cases owned
          · rw [SessionLoop.ownsSession, none_active]
            rfl

end Orderly

variable {past : List NetworkMove} {n : Network}

theorem orderly_of_makes {move : NetworkMove} (made : network.Makes move)
    (hx : Exclusive move.source.receiver.loop) (c : ConnectionId)
    (h : Orderly (move.source.link c) move.source.receiver.loop c) :
    Orderly (move.target.link c) move.target.receiver.loop c := by
  cases Network.step_sees made c with
  | own is moves receiver now =>
      rw [receiver]
      exact h.of_moves moves
  | still link loop now =>
      rw [link, loop]
      exact h
  | @heard message rest around is inbox loopMade link now =>
      have counted := Link.requests_popped inbox
      rw [link]
      exact h.replied loopMade hx rfl (by omega) (Link.requests_popped_lt inbox)
  | elsewhere isInput other loopMade link now =>
      rw [link]
      refine h.replied loopMade hx rfl (Nat.le_refl _) ?_
      rintro ⟨incoming, around, his, hconnection, -⟩
      exact absurd hconnection (other incoming around his)

theorem orderly_of_run (run : network.Run past n) (c : ConnectionId) :
    Orderly (n.link c) n.receiver.loop c := by
  induction run with
  | @start n initial =>
      obtain ⟨⟨⟨config, status, undiscoverable, -, hloop⟩, -⟩, hlink⟩ := initial
      have gone : n.receiver.loop.Gone c := by
        rw [hloop]
        exact ⟨AList.notMem_empty c, rfl⟩
      rw [hlink]
      refine ⟨Nat.le_refl 1, fun _ => gone, fun _ => gone.2, ?_⟩
      rintro ⟨m, mem, -⟩
      cases mem
  | move before made ih =>
      exact orderly_of_makes made (network_exclusive_of_run before) c ih

/-! ## How a cast ends -/

theorem Phase.isFresh_of_isFinished {phase : Phase} (h : phase.isFinished = true) :
    phase.isFresh = false := by
  cases phase with
  | finished outcome => rfl
  | _ => cases h

namespace Cast

/-- A cast that is over does nothing any more. -/
theorem Goes.unfinished {config : CastConfig} {stopFlag writer : Bool}
    {phase phase' : Phase} {input : CastInput} {messages : List SignalingMessage}
    (goes : Goes config stopFlag writer phase input phase' messages) :
    phase.isFinished = false := by
  cases goes <;> rfl

/-- The three ways out of `run_openplay_pipeline` that leave nothing behind on the
connection. -/
inductive Quits (stopFlag : Bool) : Phase → CastInput → Prop
  /-- Stop, before an answer came. -/
  | stopped (pressed : stopFlag = true) : Quits stopFlag (.waiting false) .poll
  | buildFailed {e : String} : Quits stopFlag .building (.newPipeline (.error e))
  | startFailed {e : String} : Quits stopFlag .starting (.startPipeline (.error e))

variable {config : CastConfig} {stopFlag writer : Bool} {phase phase' : Phase}
variable {input : CastInput} {messages : List SignalingMessage}

/-- How a cast ends. -/
theorem Goes.finishes (goes : Goes config stopFlag writer phase input phase' messages)
    (finished : phase'.isFinished = true) :
    (phase.isFresh = true ∧ writer = false) ∨ Quits stopFlag phase input ∨
      (∃ reason applied, input = .incoming (some (.sessionReject reason)) applied) ∨
      (∃ applied, input = .incoming none applied) ∨
      messages = if writer then [.sessionEnd .userStopped] else [] := by
  cases goes with
  | unsent gone => exact Or.inl ⟨rfl, gone⟩
  | stopped pressed => exact Or.inr (Or.inl (.stopped pressed))
  | buildFailed => exact Or.inr (Or.inl .buildFailed)
  | startFailed => exact Or.inr (Or.inl .startFailed)
  | rejected => exact Or.inr (Or.inr (Or.inl ⟨_, _, rfl⟩))
  | hungUp => exact Or.inr (Or.inr (Or.inr (Or.inl ⟨_, rfl⟩)))
  | concluded => exact Or.inr (Or.inr (Or.inr (Or.inr rfl)))
  | _ => cases finished

theorem Quits.isOwn (quits : Quits stopFlag phase input) :
    input.isOwn = true ∧ input ≠ .stop := by
  cases quits <;> exact ⟨rfl, nofun⟩

/-- Quitting ends a cast after its request, without a word. -/
theorem Quits.silent (quits : Quits stopFlag phase input)
    (goes : Goes config stopFlag writer phase input phase' messages) :
    phase.isFresh = false ∧ phase'.isFinished = true ∧ messages = [] := by
  cases quits with
  | stopped pressed =>
      cases goes with
      | stopped => exact ⟨rfl, rfl, rfl⟩
      | polled quiet =>
          rw [pressed] at quiet
          cases quiet
  | buildFailed =>
      cases goes
      exact ⟨rfl, rfl, rfl⟩
  | startFailed =>
      cases goes
      exact ⟨rfl, rfl, rfl⟩

end Cast

/-! ## The two tasks of the client -/

/-- A task of the client ends only with the connection or after the cast. -/
def Link.Tasks (l : Link) : Prop :=
  l.writer = false ∨ l.reader = false →
    l.closing = true ∨ l.cast.phase.isFinished = true

theorem Link.Moves.tasks {now : Nat} {l l' : Link} {action : LinkAction}
    (moves : Moves now l action l') (h : l.Tasks) : l'.Tasks := by
  have went : ∀ {input : CastInput} {phase' : Phase} {messages : List SignalingMessage},
      Cast.Goes l.cast.config l.cast.stopFlag l.writer l.cast.phase input phase' messages →
      l.writer = false ∨ l.reader = false → l.closing = true := by
    intro input phase' messages goes ended
    rcases h ended with closing | finished
    · exact closing
    · rw [goes.unfinished] at finished
      cases finished
  cases moves with
  | connected offline => rintro (ended | ended) <;> cases ended
  | stopPressed => exact h
  | went own goes => exact fun ended => Or.inl (went goes ended)
  | heard queue valid goes => exact fun ended => Or.inl (went goes ended)
  | heardEnd queue gone goes => exact fun ended => Or.inl (went goes ended)
  | discarded queue invalid => exact h
  | read queue serving => exact h
  | idled serving late => exact fun _ => Or.inl rfl
  | hungUp serving gone => exact fun _ => Or.inl rfl
  | broke => exact fun _ => Or.inl (Bool.or_true _)
  | readerEnded done => exact fun _ => done
  | writerEnded done => exact fun _ => done

theorem tasks_of_run (run : network.Run past n) (c : ConnectionId) :
    (n.link c).Tasks := by
  induction run with
  | start initial =>
      rw [initial.2]
      exact fun _ => Or.inl rfl
  | @move past move before made ih =>
      cases Network.step_sees made c with
      | own is moves receiver now => exact moves.tasks ih
      | still link loop now =>
          rw [link]
          exact ih
      | heard is inbox loopMade link now =>
          have popped : (move.source.link c).popped.Tasks := ih
          rw [link]
          simpa [Link.Tasks] using popped
      | elsewhere isInput other loopMade link now =>
          rw [link]
          simpa [Link.Tasks] using ih

/-! ## Releasing and abandoning -/

/-- If the move ends the cast of `c` after its request was queued, then the
connection is closing, or a `SessionEnd` is queued on it, or the receiver itself
has turned the sender away. -/
def Releases (c : ConnectionId) (move : NetworkMove) : Prop :=
  (move.source.link c).cast.phase.isFresh = false →
  (move.source.link c).cast.phase.isFinished = false →
  (move.target.link c).cast.phase.isFinished = true →
    (move.target.link c).closing = true ∨
      (∃ reason, (move.target.link c).up =
        (move.source.link c).up ++ [.sessionEnd reason]) ∨
      (move.source.link c).dismissed

/-- The cast of `c` quits on a connection that stands, with a receiver that has not
turned it away. -/
structure Abandons (c : ConnectionId) (move : NetworkMove) : Prop where
  quits : ∃ input, move.action = .link c (.own input) ∧
    Cast.Quits (move.source.link c).cast.stopFlag (move.source.link c).cast.phase input
  stands : (move.source.link c).closing = false
  wanted : ¬ (move.source.link c).dismissed

/-- The receiver will not come back to a sender that it has forgotten, or is about
to forget. -/
def Settled (l : Link) (s : SessionLoop) (c : ConnectionId) : Prop :=
  l.closing = true ∨ (∃ reason, l.stream.getLast? = some (.sessionEnd reason)) ∨
    (l.requests = 0 ∧ s.Gone c)

namespace Settled

variable {l l' : Link} {s : SessionLoop} {c : ConnectionId}

/-- Nothing that happens on the connection of a finished cast unsettles it. -/
theorem of_moves {now : Nat} {action : LinkAction} (h : Settled l s c)
    (finished : l.cast.phase.isFinished = true) (moves : Link.Moves now l action l') :
    Settled l' s c := by
  have ended : ∀ {input : CastInput} {phase' : Phase} {messages : List SignalingMessage},
      ¬ Cast.Goes l.cast.config l.cast.stopFlag l.writer l.cast.phase input phase'
        messages := by
    intro input phase' messages goes
    rw [goes.unfinished] at finished
    cases finished
  have fewer := moves.requests_le
  cases moves with
  | connected offline =>
      rw [offline] at finished
      cases finished
  | stopPressed => exact h
  | went own goes => exact absurd goes ended
  | heard queue valid goes => exact absurd goes ended
  | heardEnd queue gone goes => exact absurd goes ended
  | discarded queue invalid => exact h
  | @read message rest queue serving =>
      rcases h with closing | ⟨reason, last⟩ | ⟨none_left, gone⟩
      · exact Or.inl closing
      · refine Or.inr (Or.inl ⟨reason, ?_⟩)
        unfold Link.stream at last ⊢
        rw [queue] at last
        show ((if message.valid then l.inbox ++ [message] else l.inbox) ++
          rest).getLast? = _
        cases valid : message.valid with
        | true =>
            rw [if_pos rfl, List.append_assoc]
            exact last
        | false =>
            -- A goodbye is in bounds, so it is not the message that is dropped.
            rw [if_neg Bool.false_ne_true]
            cases rest with
            | nil =>
                rw [List.getLast?_append, List.getLast?_singleton, Option.some_or] at last
                cases last
                cases valid
            | cons m rest =>
                rw [List.getLast?_append, List.getLast?_cons_cons] at last
                rw [List.getLast?_append]
                exact last
      · rw [none_left] at fewer
        exact Or.inr (Or.inr ⟨Nat.eq_zero_of_le_zero fewer, gone⟩)
  | idled serving late => exact Or.inl rfl
  | hungUp serving gone => exact Or.inl rfl
  | broke => exact Or.inl (Bool.or_true _)
  | readerEnded done => exact h
  | writerEnded done => exact h

/-- A turn of the session loop that is no message of `c` does not unsettle it. -/
theorem replied {move : LoopMove} (made : sessionLoop.Makes move)
    (h : Settled l move.source c) (silent : l.requests = 0 → ¬ move.action.IsRequestOf c) :
    Settled (l.replied (sentTo c move.output)) move.target c := by
  unfold Settled
  rw [Link.replied_closing, Link.replied_stream, Link.replied_requests]
  refine h.imp_right (Or.imp_right ?_)
  rintro ⟨none_left, gone⟩
  exact ⟨none_left, gone.of_reacts (reacts_of_makes made) (silent none_left)⟩

end Settled

/-! ## One move -/

/-- The moves of a connection that end its cast. -/
theorem Link.Moves.finishes {now : Nat} {l l' : Link} {action : LinkAction}
    (moves : Moves now l action l') (tasks : l.Tasks)
    (unfinished : l.cast.phase.isFinished = false)
    (finished : l'.cast.phase.isFinished = true) :
    (∃ input, action = .own input ∧ Cast.Quits l.cast.stopFlag l.cast.phase input) ∨
      l'.closing = true ∨ (∃ reason, l'.up = l.up ++ [.sessionEnd reason]) ∨
      l.dismissed := by
  have closing_of : l.writer = false ∨ l.reader = false → l.closing = true := by
    intro ended
    rcases tasks ended with closing | finished'
    · exact closing
    · rw [unfinished] at finished'
      cases finished'
  -- Whatever does not move the cast does not end it.
  have rests : l'.cast.phase = l.cast.phase → False := by
    intro same
    rw [same, unfinished] at finished
    cases finished
  cases moves with
  | connected offline => cases finished
  | @went input phase' messages own goes =>
      rcases goes.finishes finished with ⟨-, gone⟩ | quits | ⟨reason, applied, rfl⟩ |
        ⟨applied, rfl⟩ | said
      · exact Or.inr (Or.inl (closing_of (Or.inl gone)))
      · exact Or.inl ⟨input, rfl, quits⟩
      · cases own
      · cases own
      · cases alive : l.writer with
        | false => exact Or.inr (Or.inl (closing_of (Or.inl alive)))
        | true =>
            -- The goodbye is queued; a network that is cut has lost it.
            cases broken : l.cut with
            | true =>
                refine Or.inr (Or.inl ?_)
                show (! l.serving || l.cut) = true
                rw [broken, Bool.or_true]
            | false =>
                refine Or.inr (Or.inr (Or.inl ⟨.userStopped, ?_⟩))
                rw [alive, if_pos rfl] at said
                show (if l.cut then l.up else l.up ++ messages) = _
                rw [broken, if_neg Bool.false_ne_true, said]
  | @heard message rest messages applied phase' queue valid goes =>
      rcases goes.finishes finished with ⟨fresh, gone⟩ | quits | ⟨reason, applied', hinput⟩ |
        ⟨applied', hinput⟩ | said
      · exact Or.inr (Or.inl (closing_of (Or.inl gone)))
      · cases quits.isOwn.1
      · cases hinput
        refine Or.inr (Or.inr (Or.inr ⟨.sessionReject reason, ?_, Or.inl rfl⟩))
        rw [queue]
        exact List.mem_cons_self
      · cases hinput
      · cases alive : l.writer with
        | false => exact Or.inr (Or.inl (closing_of (Or.inl alive)))
        | true =>
            -- Only the goodbye itself says one, and it takes no message.
            rw [alive, if_pos rfl] at said
            rw [said] at goes
            generalize l.cast.phase = phase at goes
            cases goes with
            | drives heard media => cases (media _ List.mem_cons_self).2
  | heardEnd queue gone goes => exact Or.inr (Or.inl (closing_of (Or.inr gone)))
  | stopPressed => exact (rests rfl).elim
  | discarded queue invalid => exact (rests rfl).elim
  | read queue serving => exact (rests rfl).elim
  | idled serving late => exact (rests rfl).elim
  | hungUp serving gone => exact (rests rfl).elim
  | broke => exact (rests rfl).elim
  | readerEnded done => exact (rests rfl).elim
  | writerEnded done => exact (rests rfl).elim

theorem Link.Moves.closing_own {now : Nat} {l l' : Link} {input : CastInput}
    (moves : Moves now l (.own input) l') : l'.closing = l.closing := by
  cases moves <;> rfl

/-- A cast that quits is over, and has said nothing. -/
theorem Link.Moves.quits {now : Nat} {l l' : Link} {input : CastInput}
    (moves : Moves now l (.own input) l')
    (quits : Cast.Quits l.cast.stopFlag l.cast.phase input) :
    l.cast.phase.isFresh = false ∧ l.cast.phase.isFinished = false ∧
      l'.cast.phase.isFinished = true ∧ l'.up = l.up := by
  cases moves with
  | stopPressed => exact absurd rfl quits.isOwn.2
  | went own goes =>
      obtain ⟨fresh, finished, rfl⟩ := quits.silent goes
      refine ⟨fresh, goes.unfinished, finished, ?_⟩
      show (if l.cut then l.up else l.up ++ []) = l.up
      rw [List.append_nil, ite_self]

/-- A cast that does not quit on a receiver that waits for it releases it. -/
theorem released_of_kept {move : NetworkMove} {c : ConnectionId} {linkAction : LinkAction}
    (moves : (move.source.link c).Moves move.source.now linkAction (move.target.link c))
    (is : move.action = .link c linkAction) (tasks : (move.source.link c).Tasks)
    (kept : ¬ Abandons c move)
    (unfinished : (move.source.link c).cast.phase.isFinished = false)
    (finished : (move.target.link c).cast.phase.isFinished = true) :
    (move.target.link c).closing = true ∨
      (∃ reason, (move.target.link c).up =
        (move.source.link c).up ++ [.sessionEnd reason]) ∨
      (move.source.link c).dismissed := by
  rcases moves.finishes tasks unfinished finished with ⟨input, rfl, quits⟩ | released
  · by_contra silent
    rw [not_or, not_or, moves.closing_own, Bool.not_eq_true] at silent
    exact kept ⟨⟨input, is, quits⟩, silent.1, silent.2.2⟩
  · exact released

/-- **A cast releases the receiver unless it quits.** -/
theorem releases_iff {move : NetworkMove} (made : network.Makes move) {c : ConnectionId}
    (tasks : (move.source.link c).Tasks) : Releases c move ↔ ¬ Abandons c move := by
  constructor
  · rintro releases ⟨⟨input, haction, quits⟩, stands, wanted⟩
    have stepped : move.source.step (.link c (.own input)) =
        some (move.target, move.output) := haction ▸ made
    have moves := Network.moves_of_link stepped
    obtain ⟨fresh, unfinished, finished, same⟩ := moves.quits quits
    rcases releases fresh unfinished finished with closing | ⟨reason, said⟩ | dismissed
    · rw [moves.closing_own, stands] at closing
      cases closing
    · rw [same] at said
      exact absurd said (by simp)
    · exact wanted dismissed
  · intro kept fresh unfinished finished
    cases Network.step_sees made c with
    | own is moves receiver now =>
        exact released_of_kept moves is tasks kept unfinished finished
    | still link loop now =>
        rw [link, unfinished] at finished
        cases finished
    | heard is inbox loopMade link now =>
        rw [link, Link.replied_cast] at finished
        have finished' : (move.source.link c).cast.phase.isFinished = true := finished
        rw [unfinished] at finished'
        cases finished'
    | elsewhere isInput other loopMade link now =>
        rw [link, Link.replied_cast, unfinished] at finished
        cases finished

theorem settled_of_makes {move : NetworkMove} (made : network.Makes move)
    {c : ConnectionId} (tasks : (move.source.link c).Tasks)
    (orderly : Orderly (move.source.link c) move.source.receiver.loop c)
    (kept : ¬ Abandons c move)
    (h : (move.source.link c).cast.phase.isFinished = true →
      Settled (move.source.link c) move.source.receiver.loop c)
    (finished : (move.target.link c).cast.phase.isFinished = true) :
    Settled (move.target.link c) move.target.receiver.loop c := by
  cases Network.step_sees made c with
  | own is moves receiver now =>
      rw [receiver]
      cases before : (move.source.link c).cast.phase.isFinished with
      | true => exact (h before).of_moves before moves
      | false =>
          have fewer := moves.requests_le
          rcases released_of_kept moves is tasks kept before finished with
            closing | ⟨reason, said⟩ | dismissed
          · exact Or.inl closing
          · refine Or.inr (Or.inl ⟨reason, ?_⟩)
            rw [Link.stream, said, ← List.append_assoc, List.getLast?_concat]
          · obtain ⟨none_left, gone⟩ := orderly.dismissed dismissed
            rw [none_left] at fewer
            exact Or.inr (Or.inr ⟨Nat.eq_zero_of_le_zero fewer, gone⟩)
  | still link loop now =>
      rw [link] at finished ⊢
      rw [loop]
      exact h finished
  | @heard message rest around is inbox loopMade link now =>
      rw [link, Link.replied_cast] at finished
      have before : (move.source.link c).cast.phase.isFinished = true := finished
      have asked : (move.source.link c).cast.phase.isFresh = false :=
        Phase.isFresh_of_isFinished before
      rw [link]
      unfold Settled
      rw [Link.replied_closing, Link.replied_stream, Link.replied_requests]
      rcases h before with closing | ⟨reason, last⟩ | ⟨none_left, gone⟩
      · exact Or.inl closing
      · rw [Link.popped_stream inbox] at last
        cases left : (move.source.link c).popped.stream with
        | nil =>
            -- This message is the goodbye.
            rw [left, List.getLast?_singleton] at last
            cases last
            refine Or.inr (Or.inr ⟨?_, ?_⟩)
            · show (if (move.source.link c).cast.phase.isFresh then 1 else 0) + _ = 0
              rw [asked, left]
              rfl
            · exact SessionLoop.gone_of_goodbye_made loopMade
        | cons m rest =>
            rw [left, List.getLast?_cons_cons] at last
            exact Or.inr (Or.inl ⟨reason, last⟩)
      · have counted := Link.requests_popped inbox
        refine Or.inr (Or.inr ⟨by omega, gone.of_reacts (reacts_of_makes loopMade) ?_⟩)
        intro asked
        have := Link.requests_popped_lt inbox asked
        omega
  | elsewhere isInput other loopMade link now =>
      rw [link, Link.replied_cast] at finished
      rw [link]
      refine (h finished).replied loopMade fun _ => ?_
      rintro ⟨incoming, around, his, hconnection, -⟩
      exact other incoming around his hconnection

/-- The session loop hears the goodbye of `c`, or a tick sees its connection
closed. -/
def Discharges (c : ConnectionId) (move : NetworkMove) : Prop :=
  (∃ around reason rest, move.action = .handle c around ∧
      (move.source.link c).inbox = .sessionEnd reason :: rest) ∨
    ∃ unseen unseenLater, move.action = .tick unseen unseenLater ∧
      (move.source.link c).serving = false ∧ c ∉ unseen

theorem gone_of_discharges {move : NetworkMove} (made : network.Makes move)
    (hx : Exclusive move.source.receiver.loop) {c : ConnectionId}
    (discharges : Discharges c move) : move.target.receiver.loop.Gone c := by
  rcases discharges with ⟨around, reason, rest, is, inbox⟩ |
    ⟨unseen, unseenLater, is, closed, seen⟩
  · have input : move.source.inputOf move.action =
        some (.message (.from c (.sessionEnd reason)) around) := by
      rw [is, Network.inputOf, Network.actionOf, inbox]
      rfl
    exact SessionLoop.gone_of_goodbye_made (Network.loop_of_inputOf_some made input)
  · have input : move.source.inputOf move.action =
        some (.tick (move.source.liveness unseen unseenLater)) := by
      rw [is]
      rfl
    have turned : (move.source.receiver.loop.react
        (.tick (move.source.liveness unseen unseenLater))).1 =
        move.target.receiver.loop :=
      react_of_makes (Network.loop_of_inputOf_some made input)
    rw [← turned]
    refine SessionLoop.gone_of_lost hx ?_
    show ((move.source.link c).serving || decide (c ∈ unseen)) = false
    rw [closed, decide_eq_false seen]
    rfl

/-! ## Every run -/

/-- **When a cast releases the receiver.**  A run releases the receiver at the end
of every cast exactly when no cast quits.  In such a run every finished cast is
settled, in every state after its end, and the receiver forgets it with the goodbye
or with the tick that sees the connection closed. -/
theorem casts_release_receiver (run : network.Run past n) :
    ((∀ move ∈ past, ∀ c, Releases c move) ↔ ∀ move ∈ past, ∀ c, ¬ Abandons c move) ∧
    ((∀ move ∈ past, ∀ c, ¬ Abandons c move) →
      ∀ x ∈ System.states past n, ∀ c, (x.link c).cast.phase.isFinished = true →
        Settled (x.link c) x.receiver.loop c) ∧
    ∀ move ∈ past, ∀ c, Discharges c move → move.target.receiver.loop.Gone c := by
  refine ⟨?_, ?_, ?_⟩
  · have same : ∀ move ∈ past, ∀ c, Releases c move ↔ ¬ Abandons c move := by
      intro move mem c
      obtain ⟨⟨earlier, before, -⟩, made⟩ := run.of_mem mem
      exact releases_iff made (tasks_of_run before c)
    constructor
    · exact fun released move mem c => (same move mem c).mp (released move mem c)
    · exact fun kept move mem c => (same move mem c).mpr (kept move mem c)
  · intro kept x mem c
    obtain ⟨recent, earlier, rfl, cut⟩ := run.of_mem_states mem
    have kept' : ∀ move ∈ earlier, ¬ Abandons c move :=
      fun move hmove => kept move (List.mem_append_right _ hmove) c
    clear run mem kept
    induction cut with
    | start initial =>
        intro finished
        rw [initial.2] at finished
        cases finished
    | @move earlier move before made ih =>
        exact settled_of_makes made (tasks_of_run before c) (orderly_of_run before c)
          (kept' move List.mem_cons_self)
          (ih fun m hm => kept' m (List.mem_cons_of_mem _ hm))
  · intro move mem c discharges
    obtain ⟨⟨earlier, before, -⟩, made⟩ := run.of_mem mem
    exact gone_of_discharges made (network_exclusive_of_run before) discharges

/-- A cast that is stopped while it streams says goodbye, and is settled. -/
theorem casts_release_receiver_on_stop :
    let actions := NetworkAction.asks ⟨1⟩ ++ NetworkAction.allows ⟨1⟩ ++
      NetworkAction.builds ⟨1⟩ ++
      [.link ⟨1⟩ (.own .stop), .link ⟨1⟩ (.own .poll), .link ⟨1⟩ (.own (.conclude (.ok ())))]
    let past := network.history actions .livingRoom
    let n := network.final actions .livingRoom
    (n.link ⟨1⟩).stream = [.sessionEnd .userStopped] ∧
    ((∀ move ∈ past, ∀ c, Releases c move) ↔ ∀ move ∈ past, ∀ c, ¬ Abandons c move) ∧
    ((∀ move ∈ past, ∀ c, ¬ Abandons c move) →
      ∀ x ∈ System.states past n, ∀ c, (x.link c).cast.phase.isFinished = true →
        Settled (x.link c) x.receiver.loop c) ∧
    ∀ move ∈ past, ∀ c, Discharges c move → move.target.receiver.loop.Gone c :=
  ⟨rfl, casts_release_receiver (System.Run.of_actions _ livingRoom_init rfl)⟩

/-- A cast that is stopped while the prompt is open leaves its connection standing,
and nothing on it. -/
theorem prompt_left_by_stopped_cast :
    ¬ ∀ past n, network.Run past n → ∀ move ∈ past, ∀ c, Releases c move := by
  intro releases
  have run := System.Run.of_actions
    (NetworkAction.asks ⟨1⟩ ++
      [.link ⟨1⟩ (.own .stop), .link ⟨1⟩ (.own .sleep), .link ⟨1⟩ (.own .poll)])
    livingRoom_init rfl
  rcases releases _ _ run _ List.mem_cons_self ⟨1⟩ rfl rfl rfl with
    closing | ⟨reason, said⟩ | ⟨m, mem, -⟩
  · cases closing
  · cases said
  · cases mem

end OpenPlay
