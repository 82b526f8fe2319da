import OpenPlay.Foundation.Gate
import OpenPlay.Pipeline.PeerChannel
import OpenPlay.Receiver.Candidates
import OpenPlay.Session.Release

/-!
# Trickling candidates

Every sender that is let in creates a peer, whose callbacks put its description and
its candidates on an event channel while `drive_session` takes them off and passes
them on.  `trickle` is the network with these peers: where the network lets a sender
meet any media event at all, here it is the next one on the channel of its peer.

Forgetting the peers projects `trickle` onto `network` (`trickleToNetwork`).

## Main definitions

* `Trickle`, `trickle` — the composition
* `TrickleMove.forwards`, `TrickleMove.InOrder` — a candidate is passed on, and
  behind an offer
* `NoneLost` — every candidate passed on is applied or on its way
* `Trickle.Sees`, `Trickle.step_sees` — what a step is to one connection
-/

namespace OpenPlay

open Transition

/-- The peer of the sender exists: `run_openplay_pipeline` creates it next to the
pipeline, and drops it when it returns. -/
def Phase.hasPeer : Phase → Bool
  | .starting | .driving _ | .concluding _ => true
  | _ => false

/-- The sender takes a media event. -/
def NetworkAction.takesEvent : NetworkAction → Bool
  | .link _ (.own (.webrtc _)) => true
  | _ => false

/-- The network, and the peer of each sender. -/
structure Trickle where
  network : Network
  peer : ConnectionId → PeerChannel

inductive TrickleAction
  /-- Anything but a media event at a sender. -/
  | network (action : NetworkAction)
  /-- A callback of the peer of `c`. -/
  | callback (c : ConnectionId) (action : PeerAction)
  /-- `drive_session` of `c` takes the next event of its peer.  The channel stays
  open, since `drive_session` borrows the peer. -/
  | take (c : ConnectionId)

def Trickle.step (x : Trickle) : TrickleAction → Option (Trickle × List Effect)
  | .network action =>
      if action.takesEvent then none
      else (x.network.step action).map fun next => ({ x with network := next.1 }, next.2)
  | .callback c action =>
      if (x.network.link c).cast.phase.hasPeer then
        ((x.peer c).step action).map fun p =>
          ({ x with peer := Function.update x.peer c p }, [])
      else none
  | .take c =>
      (x.peer c).recv.bind fun taken =>
        (x.network.step (.link c (.own (.webrtc (some taken.1))))).map fun next =>
          (⟨next.1, Function.update x.peer c taken.2⟩, next.2)

/-- The network with the peers of its senders, each the one that offers. -/
def trickle : System Trickle TrickleAction (List Effect) where
  init x := network.init x.network ∧ x.peer = fun _ => .new .offerer
  step := Trickle.step

abbrev TrickleMove := Move Trickle TrickleAction (List Effect)

/-- A network that has just been started. -/
def Trickle.livingRoom : Trickle := ⟨.livingRoom, fun _ => .new .offerer⟩

theorem trickle_init : trickle.init .livingRoom := ⟨livingRoom_init, rfl⟩

namespace TrickleAction

/-- `c` is let in, and its peer sets a description. -/
def describes (c : ConnectionId) : List TrickleAction :=
  (NetworkAction.asks c ++ NetworkAction.allows c ++ NetworkAction.builds c).map .network ++
    [.callback c .negotiationNeeded, .callback c (.reply 0 (.description (.ok "v=0")))]

/-- `drive_session` passes an event on, and the receiver takes it. -/
def passesOn (c : ConnectionId) : List TrickleAction :=
  [.network (.link c (.own .poll)), .take c, .network (.link c .read),
    .network (.handle c .calm)]

/-- The offer is published before a candidate is found. -/
def offerFirst (c : ConnectionId) : List TrickleAction :=
  describes c ++ [.callback c (.publish 0), .callback c (.iceCandidate 0 "candidate:1")] ++
    passesOn c ++ passesOn c

/-- A candidate is found before the offer is published. -/
def candidateFirst (c : ConnectionId) : List TrickleAction :=
  describes c ++ [.callback c (.iceCandidate 0 "candidate:1"), .callback c (.publish 0)] ++
    passesOn c ++ passesOn c

end TrickleAction

/-! ## Candidates passed on, and candidates applied -/

/-- The candidate of an event. -/
def WebRtcEvent.candidate : WebRtcEvent → Option Candidate
  | .iceCandidate sdpMlineIndex candidate => some ⟨sdpMlineIndex, candidate⟩
  | _ => none

/-- The message that brings a candidate to the receiver. -/
def Candidate.message (candidate : Candidate) : SignalingMessage :=
  .iceCandidate candidate.candidate none (some candidate.sdpMlineIndex)

/-- The event is an offer that is not too long for the receiver. -/
def WebRtcEvent.isUsableOffer : WebRtcEvent → Bool
  | .localDescription .offer sdp => (SignalingMessage.sdpOffer sdp).valid
  | _ => false

/-- An offer that the receiver can use has been taken off the channel. -/
def PeerChannel.described (p : PeerChannel) : Bool := p.received.any WebRtcEvent.isUsableOffer

theorem PeerChannel.described_congr {p p' : PeerChannel} (received : p'.received = p.received) :
    p'.described = p.described := by
  rw [described, received, described]

namespace TrickleMove

/-- The candidate that `drive_session` of `c` passes on in this move. -/
def forwards (c : ConnectionId) (move : TrickleMove) : List Candidate :=
  match move.action with
  | .take d =>
      if d = c ∧ (move.source.network.link c).writer = true then
        ((move.source.peer c).events.head?.bind WebRtcEvent.candidate).toList
      else []
  | _ => []

/-- The candidate comes behind an offer, and the receiver's gate lets it in. -/
def keeps (c : ConnectionId) (move : TrickleMove) : List Candidate :=
  (move.forwards c).filter fun candidate =>
    (move.source.peer c).described && candidate.message.valid

/-- If `drive_session` of `c` passes a candidate on, it has passed on an offer
before, and neither of the two is too long for the receiver. -/
def InOrder (c : ConnectionId) (move : TrickleMove) : Prop :=
  ∀ candidate ∈ move.forwards c,
    (move.source.peer c).described = true ∧ candidate.message.valid = true

instance (c : ConnectionId) (move : TrickleMove) : Decidable (move.InOrder c) :=
  inferInstanceAs (Decidable (∀ candidate ∈ move.forwards c, _ ∧ _))

/-- What the receiver applies to the peer of a session in this move. -/
def applies (session : Nat) (move : TrickleMove) : List Candidate :=
  appliedTo ⟨session⟩ move.output

end TrickleMove

/-- What the sender on `c` has passed on. -/
def forwarded (c : ConnectionId) (past : List TrickleMove) : List Candidate :=
  collect (TrickleMove.forwards c) past

/-- What the receiver has applied to the peer of a session. -/
def applied (session : Nat) (past : List TrickleMove) : List Candidate :=
  collect (TrickleMove.applies session) past

/-- The candidates that are on their way. -/
def Link.candidates (l : Link) : List Candidate := l.stream.filterMap SignalingMessage.brings

/-- **No candidate of `c` is lost.**  While its session is active, and the network
has not failed, what its sender has passed on is what was applied to the peer of the
session, in the same order and once each, and what is on its way. -/
def NoneLost (c : ConnectionId) (past : List TrickleMove) (x : Trickle) : Prop :=
  ∀ a, x.network.receiver.loop.active = some a → a.connection = c →
    (x.network.link c).cut = false →
      forwarded c past = applied a.session past ++ (x.network.link c).candidates

/-! ## What drives a session -/

/-- The message that `drive_session` makes of an event. -/
def WebRtcEvent.message : WebRtcEvent → Option SignalingMessage
  | .localDescription .offer sdp => some (.sdpOffer sdp)
  | .iceCandidate sdpMlineIndex candidate =>
      some (.iceCandidate candidate none (some sdpMlineIndex))
  | .iceGatheringComplete => some .iceComplete
  | _ => none

theorem Cast.driveEvent_messages (writer : Bool) (event : WebRtcEvent) :
    (driveEvent writer (some event)).2 = if writer then event.message.toList else [] := by
  cases event with
  | localDescription kind sdp => cases kind <;> cases writer <;> rfl
  | _ => cases writer <;> rfl

/-- A media event is taken by a cast that drives its session. -/
theorem Cast.advance_webrtc {config : CastConfig} {stopFlag writer : Bool} {phase : Phase}
    {event : Option WebRtcEvent} {next : Phase × List SignalingMessage}
    (h : advance config stopFlag writer phase (.webrtc event) = some next) :
    phase = .driving true ∧ next = driveEvent writer event := by
  cases phase with
  | driving polled =>
      cases polled with
      | true => exact ⟨rfl, (Option.some.inj h).symm⟩
      | false => cases h
  | waiting polled => cases polled <;> cases h
  | _ => cases h

/-- Nothing but a media event makes a cast say anything about media. -/
theorem Cast.step_plain {cast cast' : Cast} {writer : Bool} {input : CastInput}
    {messages : List SignalingMessage} (h : cast.step writer input = some (cast', messages))
    (plain : ∀ event, input ≠ .webrtc event) :
    ∀ m ∈ messages, m.isOffer = false ∧ m.brings = none := by
  unfold step at h
  split at h
  · cases h
    simp
  · obtain ⟨next, hnext, hpair⟩ := Option.map_eq_some_iff.mp h
    cases hpair
    unfold advance at hnext
    split at hnext
    · cases writer <;> cases hnext <;> simp [CastConfig.sessionRequest, SignalingMessage.isOffer,
        SignalingMessage.brings]
    · split at hnext <;> cases hnext <;> simp
    · cases hnext
      simp
    · cases hnext
      simp
    · cases hnext
      simp
    · cases hnext
      simp
    · cases hnext
      simp
    · cases hnext
      simp
    · split at hnext <;> cases hnext <;> simp
    · cases hnext
      simp
    · rename_i event _ _
      exact absurd rfl (plain event)
    · cases hnext
      simp
    · cases hnext
      cases writer <;> simp [SignalingMessage.isOffer, SignalingMessage.brings]
    · cases hnext

namespace Link

variable {now : Nat} {l l' : Link} {action : LinkAction}

theorem take_event {event : WebRtcEvent}
    (h : l.step now (.own (.webrtc (some event))) = some l') :
    l.cast.phase = .driving true ∧
      l' = l.afterCast ({ l.cast with phase := (Cast.driveEvent l.writer (some event)).1 },
        (Cast.driveEvent l.writer (some event)).2) := by
  obtain ⟨next, hcast, rfl⟩ := Option.map_eq_some_iff.mp h
  obtain ⟨gone, hadvance, rfl⟩ := Option.map_eq_some_iff.mp hcast
  obtain ⟨driving, rfl⟩ := Cast.advance_webrtc hadvance
  exact ⟨driving, rfl⟩

/-- What an action that takes no media event does to the stream, on a network that
does not fail. -/
inductive Plain (l l' : Link) : Prop
  /-- The sender has only just connected. -/
  | opened (offline : l.cast.phase = .offline) (stream : l'.stream = [])
  /-- The sender says something, but not about media. -/
  | said {messages : List SignalingMessage}
      (plain : ∀ m ∈ messages, m.isOffer = false ∧ m.brings = none)
      (stream : l'.stream = l.stream ++ messages)
  /-- The server drops a message. -/
  | dropped {front back : List SignalingMessage} {m : SignalingMessage}
      (invalid : m.valid = false) (before : l.stream = front ++ m :: back)
      (stream : l'.stream = front ++ back)

theorem Plain.of_same (stream : l'.stream = l.stream) : Plain l l' :=
  @Plain.said l l' [] (by simp) (by rw [stream, List.append_nil])

theorem plain_afterCast {cast' : Cast} {input : CastInput} {messages : List SignalingMessage}
    (h : l.cast.step l.writer input = some (cast', messages))
    (plain : ∀ event, input ≠ .webrtc event) (uncut : l.cut = false)
    (down : List SignalingMessage) :
    Plain l ({ l with down := down }.afterCast (cast', messages)) := by
  refine .said (Cast.step_plain h plain) ?_
  rw [afterCast_stream, if_neg (by simp [uncut])]
  rfl

theorem step_plain (h : l.step now action = some l')
    (plain : ∀ event, action ≠ .own (.webrtc event)) (uncut : l'.cut = false) :
    Plain l l' := by
  have moves := step_moves h
  cases action with
  | own input =>
      rw [step] at h
      split at h
      · obtain ⟨⟨cast', messages⟩, hcast, rfl⟩ := Option.map_eq_some_iff.mp h
        refine plain_afterCast hcast ?_ uncut l.down
        rintro event rfl
        exact plain event rfl
      · cases h
  | hear applied =>
      have quiet : ∀ (m : Option SignalingMessage) (event : Option WebRtcEvent),
          CastInput.incoming m applied ≠ .webrtc event := by
        intro m event is
        cases is
      rw [step] at h
      split at h
      · rename_i message rest queue
        split at h
        · obtain ⟨⟨cast', messages⟩, hcast, rfl⟩ := Option.map_eq_some_iff.mp h
          exact plain_afterCast hcast (quiet _) uncut rest
        · cases h
      · split at h
        · cases h
        · obtain ⟨⟨cast', messages⟩, hcast, rfl⟩ := Option.map_eq_some_iff.mp h
          exact plain_afterCast hcast (quiet _) uncut l.down
  | connect config =>
      cases moves with
      | connected offline => exact .opened offline rfl
  | discard =>
      cases moves with
      | discarded queue invalid => exact .of_same rfl
  | read =>
      cases moves with
      | @read message rest queue serving =>
          have before : l.stream = l.inbox ++ message :: rest := by rw [stream, queue]
          cases valid : message.valid with
          | true =>
              refine .of_same ?_
              rw [before]
              exact List.append_assoc l.inbox [message] rest
          | false =>
              exact .dropped valid before rfl
  | idle kept =>
      cases moves with
      | idled serving late => exact .of_same rfl
  | hangup kept =>
      cases moves with
      | hungUp serving gone => exact .of_same rfl
  | cut keptUp keptDown =>
      cases moves with
      | broke => cases uncut
  | readerEnds =>
      cases moves with
      | readerEnded done => exact .of_same rfl
  | writerEnds =>
      cases moves with
      | writerEnded done => exact .of_same rfl

end Link

/-! ## A step as one sender sees it -/

/-- A step of one connection leaves the receiver alone. -/
theorem Network.link_of_step {n n' : Network} {c : ConnectionId} {action : LinkAction}
    {effects : List Effect} (h : n.step (.link c action) = some (n', effects)) :
    (n.link c).step n.now action = some (n'.link c) ∧ n'.receiver = n.receiver ∧
      effects = [] := by
  obtain ⟨l', hl', hpair⟩ := Option.map_eq_some_iff.mp h
  cases hpair
  refine ⟨?_, rfl, rfl⟩
  rw [hl']
  exact congrArg some (Function.update_self c l' n.link).symm

namespace Trickle

variable {x x' : Trickle} {action : TrickleAction} {effects : List Effect}

/-- What a step is to the sender on `c`. -/
inductive Sees (c : ConnectionId) (x : Trickle) (action : TrickleAction) (x' : Trickle)
    (effects : List Effect) : Prop
  /-- A callback runs. -/
  | aside (other : action ≠ .take c) (network : x'.network = x.network)
      (received : (x'.peer c).received = (x.peer c).received) (silent : effects = [])
  /-- Its `drive_session` takes an event. -/
  | takes {event : WebRtcEvent} (is : action = .take c)
      (head : (x.peer c).events.head? = some event)
      (received : (x'.peer c).received = (x.peer c).received ++ [event])
      (stepped : (x.network.link c).step x.network.now (.own (.webrtc (some event))) =
        some (x'.network.link c))
      (receiver : x'.network.receiver = x.network.receiver) (silent : effects = [])
  /-- The network takes a step. -/
  | does {networkAction : NetworkAction} (other : action ≠ .take c)
      (stepped : x.network.step networkAction = some (x'.network, effects))
      (plain : ∀ event, networkAction ≠ .link c (.own (.webrtc event)))
      (received : (x'.peer c).received = (x.peer c).received)

theorem step_cases (stepped : x.step action = some (x', effects)) :
    (∃ networkAction, action = .network networkAction ∧ networkAction.takesEvent = false ∧
        x.network.step networkAction = some (x'.network, effects) ∧ x'.peer = x.peer) ∨
      (∃ c peerAction p, action = .callback c peerAction ∧
        (x.peer c).step peerAction = some p ∧ effects = [] ∧
        x' = { x with peer := Function.update x.peer c p }) ∨
      ∃ c event p, action = .take c ∧ (x.peer c).recv = some (event, p) ∧
        x.network.step (.link c (.own (.webrtc (some event)))) = some (x'.network, effects) ∧
        x'.peer = Function.update x.peer c p := by
  cases action with
  | network networkAction =>
      rw [step] at stepped
      split at stepped
      · cases stepped
      · rename_i plain
        obtain ⟨next, hnext, hpair⟩ := Option.map_eq_some_iff.mp stepped
        cases hpair
        exact Or.inl ⟨networkAction, rfl, by simpa using plain, hnext, rfl⟩
  | callback c peerAction =>
      rw [step] at stepped
      split at stepped
      · obtain ⟨p, hp, hpair⟩ := Option.map_eq_some_iff.mp stepped
        cases hpair
        exact Or.inr (Or.inl ⟨c, peerAction, p, rfl, hp, rfl, rfl⟩)
      · cases stepped
  | take c =>
      obtain ⟨⟨event, p⟩, htaken, h⟩ := Option.bind_eq_some_iff.mp stepped
      obtain ⟨next, hnext, hpair⟩ := Option.map_eq_some_iff.mp h
      cases hpair
      exact Or.inr (Or.inr ⟨c, event, p, rfl, htaken, hnext, rfl⟩)

theorem step_sees (stepped : x.step action = some (x', effects)) (c : ConnectionId) :
    Sees c x action x' effects := by
  rcases step_cases stepped with ⟨networkAction, rfl, plain, hnetwork, hpeer⟩ |
    ⟨d, peerAction, p, rfl, hp, rfl, rfl⟩ | ⟨d, event, p, rfl, hrecv, hnetwork, hpeer⟩
  · refine .does (by simp) hnetwork ?_ (by rw [hpeer])
    rintro event rfl
    cases plain
  · refine .aside (by simp) rfl ?_ rfl
    by_cases hcd : c = d
    · subst hcd
      show (Function.update x.peer c p c).received = _
      rw [Function.update_self, PeerChannel.received_of_step hp]
    · show (Function.update x.peer d p c).received = _
      rw [Function.update_of_ne hcd]
  · by_cases hcd : c = d
    · subst hcd
      obtain ⟨hlink, hreceiver, heffects⟩ := Network.link_of_step hnetwork
      refine .takes rfl (PeerChannel.head_of_recv hrecv) ?_ hlink hreceiver heffects
      rw [hpeer, Function.update_self, PeerChannel.received_of_recv hrecv]
    · refine .does ?_ hnetwork ?_ ?_
      · intro is
        cases is
        exact hcd rfl
      · intro event is
        cases is
        exact hcd rfl
      · rw [hpeer, Function.update_of_ne hcd]

end Trickle

/-! ## Forgetting the peers -/

/-- The step of the network that a move is. -/
def TrickleMove.networkMove (move : TrickleMove) : Option NetworkMove :=
  match move.action with
  | .network action => some ⟨move.source.network, action, move.output, move.target.network⟩
  | .callback _ _ => none
  | .take c =>
      (move.source.peer c).recv.map fun taken =>
        ⟨move.source.network, .link c (.own (.webrtc (some taken.1))), move.output,
          move.target.network⟩

/-- Without its peers, `trickle` is the network. -/
def trickleToNetwork : Projection trickle network where
  view x := x.network
  seen := TrickleMove.networkMove
  init_view x h := h.1
  seen_some move move' made h := by
    rcases Trickle.step_cases made with ⟨networkAction, is, -, hnetwork, -⟩ |
      ⟨c, peerAction, p, is, -⟩ | ⟨c, event, p, is, hrecv, hnetwork, -⟩
    · rw [TrickleMove.networkMove, is] at h
      cases h
      exact ⟨rfl, rfl, hnetwork⟩
    · rw [TrickleMove.networkMove, is] at h
      cases h
    · simp only [TrickleMove.networkMove, is, hrecv, Option.map_some] at h
      cases h
      exact ⟨rfl, rfl, hnetwork⟩
  seen_none move made h := by
    rcases Trickle.step_cases made with ⟨networkAction, is, -⟩ |
      ⟨c, peerAction, p, -, -, -, htarget⟩ | ⟨c, event, p, is, hrecv, -⟩
    · rw [TrickleMove.networkMove, is] at h
      cases h
    · rw [htarget]
    · simp only [TrickleMove.networkMove, is, hrecv, Option.map_some] at h
      cases h

end OpenPlay
