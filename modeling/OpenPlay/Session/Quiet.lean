import OpenPlay.Receiver.Senders
import OpenPlay.Session.Release

/-!
# A session that is quiet

The server closes a connection on which it has read no frame for `IDLE_TIMEOUT`,
and a liveness tick then takes the prompt or the session down with it.  A sender
that waits for its answer says nothing at all, and a sender whose media flows says
nothing either, so time alone ends a healthy session.

`Alive` is what holds of a connection for as long as the server hears from the
sender in time and the calls into GStreamer succeed: it stands, and neither side
has said goodbye or is about to.
-/

namespace OpenPlay

open Transition

/-! ## Healthy runs -/

/-- The event is the loss of a media session. -/
def WebRtcEvent.isLoss : WebRtcEvent → Bool
  | .disconnected | .failed _ => true
  | _ => false

/-- Both processes and the network stay up, nobody presses Stop, and no peer reports
the loss of its media session.  The channel of the sender's own peer stays open,
since `drive_session` borrows that peer. -/
def NetworkAction.isHealthy (c : ConnectionId) : NetworkAction → Bool
  | .link d (.cut _ _) => d != c
  | .link d (.own .stop) => d != c
  | .link d (.own (.webrtc event)) => d != c || event.any fun e => ! e.isLoss
  | .inside (.emit _ event) => ! event.isLoss
  | _ => true

/-- A step of a healthy session of `c`; the receiver does not reject it. -/
def NetworkMove.isHealthy (c : ConnectionId) (move : NetworkMove) : Bool :=
  move.action.isHealthy c && (sentTo c move.output).all fun m => ! m.isSessionReject

theorem NetworkMove.isHealthy_iff {c : ConnectionId} {move : NetworkMove} :
    move.isHealthy c = true ↔ move.action.isHealthy c = true ∧
      ∀ m ∈ sentTo c move.output, m.isSessionReject = false := by
  rw [NetworkMove.isHealthy, Bool.and_eq_true, List.all_eq_true]
  simp only [Bool.not_eq_true']

/-! ## The condition -/

/-- Time does not reach the idle timeout of `c`. -/
def NetworkMove.isInTime (c : ConnectionId) (move : NetworkMove) : Bool :=
  match move.action with
  | .advance millis =>
      ! (move.source.link c).serving ||
        decide (move.source.now + millis < (move.source.link c).armed + idleTimeout)
  | _ => true

/-- The sender's next call into GStreamer succeeds. -/
def Link.mediaWorks (l : Link) : LinkAction → Bool
  | .own (.newPipeline result) => result.isOk
  | .own (.startPipeline result) => result.isOk
  | .hear applied =>
      match l.down with
      | .sdpAnswer _ :: _ => applied.isOk
      | _ => true
  | _ => true

/-- If the session loop takes an offer for the session of `c` next, the calls into
GStreamer succeed. -/
def Network.acceptsOffer (n : Network) (c : ConnectionId) (around : Surroundings) : Bool :=
  match (n.link c).inbox, n.receiver.loop.active with
  | .sdpOffer sdp :: _, some a =>
      a.connection != c || a.media.isSome || around.accepts sdp
  | _, _ => true

/-- The media pipelines of `c` are built, started and given what the other side
sent. -/
def NetworkMove.mediaWorks (c : ConnectionId) (move : NetworkMove) : Bool :=
  match move.action with
  | .link d action => d != c || (move.source.link c).mediaWorks action
  | .handle d around => d != c || move.source.acceptsOffer c around
  | _ => true

/-! ## A cast that goes on -/

/-- The cast has left `drive_session`, or given up before. -/
def Phase.isOver : Phase → Bool
  | .concluding _ | .finished _ => true
  | _ => false

/-- Nothing that would end a cast. -/
def CastInput.isCalm : CastInput → Bool
  | .incoming none _ => false
  | .incoming (some (.sdpAnswer _)) applied => applied.isOk
  | .incoming (some m) _ => ! m.isSessionReject && ! m.isSessionEnd
  | .webrtc event => event.any fun e => ! e.isLoss
  | .newPipeline result => result.isOk
  | .startPipeline result => result.isOk
  | _ => true

/-- Without a reason to end, a cast goes on, and does not say goodbye. -/
theorem Cast.Goes.goesOn {config : CastConfig} {phase phase' : Phase} {input : CastInput}
    {messages : List SignalingMessage}
    (goes : Goes config false true phase input phase' messages)
    (before : phase.isOver = false) (calm : input.isCalm = true) :
    phase'.isOver = false ∧ ∀ m ∈ messages, m.isSessionEnd = false := by
  have nothing : ∀ m ∈ ([] : List SignalingMessage), m.isSessionEnd = false := by simp
  cases goes with
  | requested sent =>
      refine ⟨rfl, ?_⟩
      intro m mem
      rw [List.mem_singleton.mp mem]
      rfl
  | drives heard media => exact ⟨rfl, fun m mem => (media m mem).2⟩
  | unsent gone => cases gone
  | stopped pressed => cases pressed
  | leaves why =>
      cases why with
      | stop pressed => cases pressed
      | media gone =>
          rcases gone with rfl | rfl | ⟨reason, rfl⟩ <;> cases calm
      | unsent gone => cases gone
      | closed => cases calm
      | ended => cases calm
      | unusable => cases calm
  | polled quiet => exact ⟨rfl, nothing⟩
  | accepted => exact ⟨rfl, nothing⟩
  | waits => exact ⟨rfl, nothing⟩
  | built => exact ⟨rfl, nothing⟩
  | started => exact ⟨rfl, nothing⟩
  | drivePolled quiet => exact ⟨rfl, nothing⟩
  | rejected => cases calm
  | hungUp => cases calm
  | buildFailed => cases calm
  | startFailed => cases calm
  | concluded => cases before

/-! ## A connection that stays up -/

/-- Both ends of the connection are up, the server has heard from the sender in time,
and neither side has said goodbye or is about to. -/
structure Alive (l : Link) (now : Nat) : Prop where
  serving : l.serving = true
  cut : l.cut = false
  writer : l.writer = true
  reader : l.reader = true
  inTime : now < l.armed + idleTimeout
  stopFlag : l.cast.stopFlag = false
  phase : l.cast.phase.isOver = false
  said : ∀ m ∈ l.stream, m.isSessionEnd = false
  told : ∀ m ∈ l.down, m.isSessionReject = false ∧ m.isSessionEnd = false

/-- The sender has not connected yet. -/
structure Absent (l : Link) : Prop where
  offline : l.cast.phase = .offline
  stopFlag : l.cast.stopFlag = false
  closed : l.serving = false

namespace Alive

variable {now : Nat} {l l' : Link} {action : LinkAction}

/-- A new connection is up. -/
theorem opened (config : CastConfig) : Alive (Link.opened now config false) now where
  serving := rfl
  cut := rfl
  writer := rfl
  reader := rfl
  inTime := Nat.lt_add_of_pos_right (by decide)
  stopFlag := rfl
  phase := rfl
  said m mem := by cases mem
  told m mem := by cases mem

/-- A cast that goes on keeps its connection up. -/
theorem afterCast (h : Alive l now) {input : CastInput} {phase' : Phase}
    {messages : List SignalingMessage}
    (goes : Cast.Goes l.cast.config l.cast.stopFlag l.writer l.cast.phase input phase'
      messages) (calm : input.isCalm = true) :
    Alive (l.afterCast ({ l.cast with phase := phase' }, messages)) now := by
  rw [h.stopFlag, h.writer] at goes
  obtain ⟨goesOn, silent⟩ := goes.goesOn h.phase calm
  refine ⟨h.serving, h.cut, h.writer, h.reader, h.inTime, h.stopFlag, goesOn, ?_, h.told⟩
  intro m mem
  rw [Link.afterCast_stream, h.cut, if_neg Bool.false_ne_true] at mem
  rcases List.mem_append.mp mem with mem | mem
  · exact h.said m mem
  · exact silent m mem

/-- In a healthy run a connection comes down only when it is idle, or when the media
fail. -/
theorem of_moves (h : Alive l now) (moves : Link.Moves now l action l') {c : ConnectionId}
    (healthy : (NetworkAction.link c action).isHealthy c = true)
    (works : l.mediaWorks action = true) : Alive l' now := by
  -- The client's tasks have no reason to end.
  have stands : ¬ (l.closing = true ∨ l.cast.phase.isFinished = true) := by
    rintro (closing | finished)
    · rw [Link.closing, h.serving, h.cut] at closing
      cases closing
    · have going := h.phase
      cases hphase : l.cast.phase with
      | finished outcome =>
          rw [hphase] at going
          cases going
      | _ =>
          rw [hphase] at finished
          cases finished
  cases moves with
  | connected offline =>
      rw [h.stopFlag]
      exact opened _
  | stopPressed =>
      rw [NetworkAction.isHealthy, bne_self_eq_false] at healthy
      cases healthy
  | @went input phase' messages own goes =>
      refine h.afterCast goes ?_
      cases input with
      | webrtc event =>
          rw [NetworkAction.isHealthy, bne_self_eq_false, Bool.false_or] at healthy
          exact healthy
      | newPipeline result => exact works
      | startPipeline result => exact works
      | incoming message applied => cases own
      | _ => rfl
  | @heard message rest messages applied phase' queue valid goes =>
      have kept : Alive { l with down := rest } now :=
        { h with told := fun m mem => h.told m (by rw [queue]; exact List.mem_cons_of_mem _ mem) }
      refine kept.afterCast goes ?_
      obtain ⟨not_reject, not_end⟩ := h.told message (by rw [queue]; exact List.mem_cons_self)
      rw [Link.mediaWorks, queue] at works
      cases message with
      | sdpAnswer sdp => exact works
      | sessionReject reason => cases not_reject
      | sessionEnd reason => cases not_end
      | _ => rfl
  | heardEnd queue gone goes =>
      rw [h.reader] at gone
      cases gone
  | discarded queue invalid =>
      refine { h with told := fun m mem => h.told m ?_ }
      rw [queue]
      exact List.mem_cons_of_mem _ mem
  | @read message rest queue serving =>
      refine { h with
        inTime := Nat.lt_add_of_pos_right (by decide)
        said := fun m mem => h.said m ?_ }
      unfold Link.stream at mem ⊢
      rw [queue]
      rcases List.mem_append.mp mem with mem | mem
      · have mem' : m ∈ if message.valid then l.inbox ++ [message] else l.inbox := mem
        split at mem'
        · rcases List.mem_append.mp mem' with mem' | mem'
          · exact List.mem_append_left _ mem'
          · rw [List.mem_singleton.mp mem']
            exact List.mem_append_right _ List.mem_cons_self
        · exact List.mem_append_left _ mem'
      · exact List.mem_append_right _ (List.mem_cons_of_mem _ mem)
  | idled serving late => exact absurd h.inTime (Nat.not_lt.mpr late)
  | hungUp serving gone =>
      rw [h.cut, h.writer] at gone
      rcases gone with gone | ⟨gone, -⟩ <;> cases gone
  | broke =>
      rw [NetworkAction.isHealthy, bne_self_eq_false] at healthy
      cases healthy
  | readerEnded done => exact absurd done stands
  | writerEnded done => exact absurd done stands

/-- Replies that are no goodbye change nothing. -/
theorem replied (h : Alive l now) {messages : List SignalingMessage}
    (kind : ∀ m ∈ messages, m.isSessionReject = false ∧ m.isSessionEnd = false) :
    Alive (l.replied messages) now where
  serving := by rw [Link.replied_serving, h.serving]
  cut := by rw [Link.replied_cut, h.cut]
  writer := by rw [Link.replied_writer, h.writer]
  reader := by rw [Link.replied_reader, h.reader]
  inTime := by rw [Link.replied_armed]; exact h.inTime
  stopFlag := by rw [Link.replied_cast, h.stopFlag]
  phase := by rw [Link.replied_cast, h.phase]
  said := by rw [Link.replied_stream]; exact h.said
  told m mem := by
    rcases l.mem_replied_down messages mem with mem | mem
    · exact h.told m mem
    · exact kind m mem

theorem popped (h : Alive l now) : Alive l.popped now := by
  refine { h with said := fun m mem => h.said m ?_ }
  unfold Link.stream Link.popped at mem
  rcases List.mem_append.mp mem with mem | mem
  · exact List.mem_append_left _ (List.mem_of_mem_tail mem)
  · exact List.mem_append_right _ mem

end Alive

/-- Before it connects, nothing happens to a sender. -/
theorem Absent.of_moves {now : Nat} {l l' : Link} {action : LinkAction} (h : Absent l)
    (moves : Link.Moves now l action l') {c : ConnectionId}
    (healthy : (NetworkAction.link c action).isHealthy c = true) :
    Absent l' ∨ Alive l' now := by
  have idle : ∀ {input : CastInput} {phase' : Phase} {messages : List SignalingMessage},
      ¬ Cast.Goes l.cast.config l.cast.stopFlag l.writer l.cast.phase input phase'
        messages := by
    intro input phase' messages goes
    rw [h.offline] at goes
    cases goes
  cases moves with
  | connected offline =>
      rw [h.stopFlag]
      exact Or.inr (.opened _)
  | stopPressed =>
      rw [NetworkAction.isHealthy, bne_self_eq_false] at healthy
      cases healthy
  | went own goes => exact absurd goes idle
  | heard queue valid goes => exact absurd goes idle
  | heardEnd queue gone goes => exact absurd goes idle
  | idled serving late => exact Or.inl ⟨h.offline, h.stopFlag, rfl⟩
  | hungUp serving gone => exact Or.inl ⟨h.offline, h.stopFlag, rfl⟩
  | _ => exact Or.inl ⟨h.offline, h.stopFlag, h.closed⟩

theorem Absent.replied {l : Link} (h : Absent l) (messages : List SignalingMessage) :
    Absent (l.replied messages) where
  offline := by rw [Link.replied_cast, h.offline]
  stopFlag := by rw [Link.replied_cast, h.stopFlag]
  closed := by rw [Link.replied_serving, h.closed]

/-! ## A turn of the session loop -/

section Turn

variable {move : NetworkMove} {c : ConnectionId} {input : Input}

/-- No media session has been lost, as far as the session loop is yet to hear. -/
def NoLoss (r : Receiver) : Prop := ∀ report ∈ r.reports, report.event.isLoss = false

/-- Nothing of `c` is a goodbye. -/
theorem Alive.no_goodbye {n : Network} (alive : Alive (n.link c) n.now)
    {action : NetworkAction} {incoming : IncomingMessage} {around : Surroundings}
    (isInput : n.inputOf action = some (.message incoming around))
    (its : incoming.connection = c) : incoming.message.isSessionEnd = false := by
  obtain ⟨message, rest, -, inbox, hincoming⟩ := Network.inputOf_message isInput
  rw [its] at inbox
  have mem : message ∈ (n.link c).stream := by
    rw [Link.stream, inbox]
    exact List.mem_cons_self
  rw [hincoming]
  exact alive.said message mem

/-- A tick sees a connection that is up as open. -/
theorem Alive.open_at_tick {n : Network} (alive : Alive (n.link c) n.now)
    {action : NetworkAction} {seen : Liveness}
    (isInput : n.inputOf action = some (.tick seen)) :
    seen.atRetain c = true ∧ seen.atActive c = true := by
  obtain ⟨unseen, unseenLater, rfl⟩ := Network.inputOf_tick isInput
  constructor
  · show ((n.link c).serving || _) = true
    rw [alive.serving, Bool.true_or]
  · show ((n.link c).serving || _) = true
    rw [alive.serving, Bool.true_or]

/-- There is no reason to end the session of `c`. -/
theorem Alive.not_endsSession (alive : Alive (move.source.link c) move.source.now)
    (noLoss : NoLoss move.source.receiver) (hx : Exclusive move.source.receiver.loop)
    (works : move.mediaWorks c = true)
    (isInput : move.source.inputOf move.action = some input) {a : Active}
    (was : move.source.receiver.loop.active = some a) (owner : a.connection = c) :
    ¬ SessionLoop.EndsSession a input := by
  have lossless : ∀ event, input = .webrtc event → event.isLoss = false := by
    rintro event rfl
    obtain ⟨report, mem, rfl⟩ := Network.inputOf_webrtc isInput
    exact noLoss report mem
  intro ends
  cases ends with
  | goodbye its message =>
      rw [alive.no_goodbye isInput (its.symm.trans owner)] at message
      cases message
  | @offer incoming around sdp its message none_yet fails =>
      obtain ⟨message', rest, is, inbox, hincoming⟩ := Network.inputOf_message isInput
      have hconnection : incoming.connection = c := its.symm.trans owner
      have hmessage : message' = .sdpOffer sdp := by
        rw [hincoming] at message
        exact message
      rw [hconnection] at is inbox
      rw [hmessage] at inbox
      have accepts : move.source.acceptsOffer c around = true := by
        simpa [NetworkMove.mediaWorks, is] using works
      rw [Network.acceptsOffer, inbox, was] at accepts
      simp [owner, none_yet, fails] at accepts
  | disconnected => cases lossless _ rfl
  | failed => cases lossless _ rfl
  | lost dead =>
      rw [hx.reply_active a was, owner, (alive.open_at_tick isInput).2] at dead
      cases dead

/-- There is no reason to give the request of `c` up. -/
theorem Alive.not_givesUp (alive : Alive (move.source.link c) move.source.now)
    (hx : Exclusive move.source.receiver.loop) (healthy : move.isHealthy c = true)
    (isInput : move.source.inputOf move.action = some input) :
    ¬ SessionLoop.GivesUp move.source.receiver.loop c input move.output := by
  intro givesUp
  cases givesUp with
  | goodbye its message =>
      rw [alive.no_goodbye isInput its] at message
      cases message
  | @denied decision p effects waiting told =>
      have mem : SignalingMessage.sessionReject .denied ∈ sentTo c move.output :=
        mem_sentTo.mpr ⟨p.reply, told, hx.reply_pending c p waiting⟩
      cases (NetworkMove.isHealthy_iff.mp healthy).2 _ mem
  | lost waiting dead =>
      rw [hx.reply_pending c _ waiting, (alive.open_at_tick isInput).1] at dead
      cases dead

/-- The session loop keeps what it has of `c`. -/
theorem Alive.not_gone (alive : Alive (move.source.link c) move.source.now)
    (noLoss : NoLoss move.source.receiver) (hx : Exclusive move.source.receiver.loop)
    (healthy : move.isHealthy c = true) (works : move.mediaWorks c = true)
    (made : network.Makes move) (known : ¬ move.source.receiver.loop.Gone c) :
    ¬ move.target.receiver.loop.Gone c := by
  cases isInput : move.source.inputOf move.action with
  | none =>
      rw [(Network.loop_of_inputOf_none made isInput).1]
      exact known
  | some input =>
      have rule := reacts_of_makes (Network.loop_of_inputOf_some made isInput)
      rintro ⟨not_waiting, not_owner⟩
      refine known ⟨fun waiting => ?_, ?_⟩
      · rcases rule.pending_kept waiting with kept | owns | givesUp
        · exact not_waiting kept
        · rw [not_owner] at owns
          cases owns
        · exact alive.not_givesUp hx healthy isInput givesUp
      · by_contra owns
        rw [Bool.not_eq_false] at owns
        obtain ⟨a, was, owner⟩ := SessionLoop.ownsSession_iff.mp owns
        rcases rule.owner_kept hx was with kept | ends
        · rw [owner, not_owner] at kept
          cases kept
        · exact alive.not_endsSession noLoss hx works isInput was owner ends

/-- What the session loop tells `c` is no goodbye. -/
theorem Alive.told_of_makes (alive : Alive (move.source.link c) move.source.now)
    (noLoss : NoLoss move.source.receiver) (hx : Exclusive move.source.receiver.loop)
    (healthy : move.isHealthy c = true) (works : move.mediaWorks c = true)
    (made : network.Makes move) :
    ∀ m ∈ sentTo c move.output, m.isSessionReject = false ∧ m.isSessionEnd = false := by
  intro m mem
  refine ⟨?_, ?_⟩
  · exact (NetworkMove.isHealthy_iff.mp healthy).2 m mem
  · cases isInput : move.source.inputOf move.action with
    | none =>
        rw [(Network.loop_of_inputOf_none made isInput).2] at mem
        cases mem
    | some input =>
        have rule := reacts_of_makes (Network.loop_of_inputOf_some made isInput)
        obtain ⟨reply, hsend, hid⟩ := mem_sentTo.mp mem
        cases rule.sends hsend with
        | refused => rfl
        | ponged => rfl
        | denied => rfl
        | approved => rfl
        | forwarded was dest forwards => cases forwards <;> rfl
        | @ended a reason was dest none_active why =>
            have owner : a.connection = c := by
              rw [← hx.reply_active a was, ← dest, hid]
            exact absurd why (alive.not_endsSession noLoss hx works isInput was owner)

end Turn

/-! ## Every run -/

/-- The server goes on serving the connection of `c`, and the session loop keeps what
it has of it. -/
def Undisturbed (c : ConnectionId) (move : NetworkMove) : Prop :=
  ((move.source.link c).serving = true → (move.target.link c).serving = true) ∧
    (¬ move.source.receiver.loop.Gone c → ¬ move.target.receiver.loop.Gone c)

/-- What holds of `c` all along a healthy run: it has not connected, or it is up. -/
structure Sound (n : Network) (c : ConnectionId) : Prop where
  link : Absent (n.link c) ∨ Alive (n.link c) n.now
  noLoss : NoLoss n.receiver

variable {past : List NetworkMove} {n : Network} {c : ConnectionId}

/-- No loss is reported in a healthy run. -/
theorem NoLoss.of_makes {move : NetworkMove} (made : network.Makes move)
    (healthy : move.isHealthy c = true) (h : NoLoss move.source.receiver) :
    NoLoss move.target.receiver := by
  intro report mem
  rcases Network.report_source made mem with mem | emitted
  · exact h report mem
  · have calm := (NetworkMove.isHealthy_iff.mp healthy).1
    rw [emitted, NetworkAction.isHealthy, Bool.not_eq_true'] at calm
    exact calm

/-- A step of a healthy run that keeps to the condition keeps a connection up. -/
theorem Alive.of_makes {move : NetworkMove} (made : network.Makes move)
    (hx : Exclusive move.source.receiver.loop) (noLoss : NoLoss move.source.receiver)
    (healthy : move.isHealthy c = true) (inTime : move.isInTime c = true)
    (works : move.mediaWorks c = true)
    (alive : Alive (move.source.link c) move.source.now) :
    Alive (move.target.link c) move.target.now := by
  have told := alive.told_of_makes noLoss hx healthy works made
  cases Network.step_sees made c with
  | own is moves receiver now =>
      have calm := (NetworkMove.isHealthy_iff.mp healthy).1
      rw [is] at calm
      rw [now]
      refine alive.of_moves moves calm ?_
      simpa [NetworkMove.mediaWorks, is] using works
  | still link loop now =>
      rw [link]
      rcases now with now | ⟨millis, is, now⟩
      · rw [now]
        exact alive
      · have early : move.source.now + millis <
            (move.source.link c).armed + idleTimeout := by
          simpa [NetworkMove.isInTime, is, alive.serving] using inTime
        rw [now]
        exact { alive with inTime := early }
  | heard is inbox loopMade link now =>
      rw [link, now]
      exact alive.popped.replied told
  | elsewhere isInput other loopMade link now =>
      rw [link, now]
      exact alive.replied told

/-- A sender that has not connected may connect. -/
theorem Absent.of_makes {move : NetworkMove} (made : network.Makes move)
    (healthy : move.isHealthy c = true) (absent : Absent (move.source.link c)) :
    Absent (move.target.link c) ∨ Alive (move.target.link c) move.target.now := by
  cases Network.step_sees made c with
  | own is moves receiver now =>
      have calm := (NetworkMove.isHealthy_iff.mp healthy).1
      rw [is] at calm
      rw [now]
      exact absent.of_moves moves calm
  | still link loop now =>
      rw [link]
      exact Or.inl absent
  | heard is inbox loopMade link now =>
      have popped : Absent (move.source.link c).popped :=
        ⟨absent.offline, absent.stopFlag, absent.closed⟩
      rw [link]
      exact Or.inl (popped.replied _)
  | elsewhere isInput other loopMade link now =>
      rw [link]
      exact Or.inl (absent.replied _)

theorem sound_of_run (run : network.Run past n)
    (healthy : ∀ move ∈ past, move.isHealthy c = true)
    (inTime : ∀ move ∈ past, move.isInTime c = true)
    (works : ∀ move ∈ past, move.mediaWorks c = true) : Sound n c := by
  induction run with
  | start initial =>
      obtain ⟨⟨-, -, no_reports, -⟩, hlink⟩ := initial
      refine ⟨Or.inl ?_, ?_⟩
      · rw [hlink]
        exact ⟨rfl, rfl, rfl⟩
      · intro report mem
        rw [no_reports] at mem
        cases mem
  | @move past move before made ih =>
      have sound := ih (fun m hm => healthy m (List.mem_cons_of_mem _ hm))
        (fun m hm => inTime m (List.mem_cons_of_mem _ hm))
        (fun m hm => works m (List.mem_cons_of_mem _ hm))
      have hhealthy := healthy move List.mem_cons_self
      refine ⟨?_, sound.noLoss.of_makes made hhealthy⟩
      rcases sound.link with absent | alive
      · exact absent.of_makes made hhealthy
      · exact Or.inr (alive.of_makes made (network_exclusive_of_run before) sound.noLoss
          hhealthy (inTime move List.mem_cons_self) (works move List.mem_cons_self))

/-- A prompt that stays open for 100 seconds, and a stream that is quiet for 100. -/
def longCast : List NetworkAction :=
  NetworkAction.asks ⟨1⟩ ++ [.advance (100 * 1000)] ++ NetworkAction.allows ⟨1⟩ ++
    NetworkAction.builds ⟨1⟩ ++
    [.link ⟨1⟩ (.own .poll),
      .link ⟨1⟩ (.own (.webrtc (some (.localDescription .offer "v=0")))),
      .link ⟨1⟩ .read, .handle ⟨1⟩ .calm, .advance (100 * 1000), .tick [] []]

end OpenPlay
